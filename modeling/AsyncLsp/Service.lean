import AsyncLsp.Message

/-!
# Services, runs and the recording observer

`LspService` is the trait every layer implements, with `&mut self` threaded
explicitly. A run feeds a service one invocation after another and keeps the
transcript of replies (`run_append` splits it). `Recorded` wraps an inner
service and logs what it was sent: wrapping a layer's inner service in it
turns "the inner service was called with `x`" into a value of the model
(`Recorded.run_eq`: the wrapper changes no reply).
-/

namespace AsyncLsp

/-- `trait LspService: Service<AnyRequest, Response = JsonValue, Error = ResponseError>`.
Each entry point returns the service's next value; `F` is the `Future` of `call`. -/
class LspService (S : Type) (F : outParam Type) where
  pollReady : S → S × Poll (Except ResponseError Unit)
  call : S → AnyRequest → S × F
  notify : S → AnyNotification → S × ControlFlow (Except Error Unit)
  emit : S → AnyEvent → S × ControlFlow (Except Error Unit)

/-- One invocation of a service by the frontend. -/
inductive Op
  | pollReady
  | call (req : AnyRequest)
  | notify (notif : AnyNotification)
  | emit (event : AnyEvent)
  deriving DecidableEq, Repr

/-- What an invocation gave back. -/
inductive Reply (F : Type)
  | pollReady (p : Poll (Except ResponseError Unit))
  | call (fut : F)
  | notify (flow : ControlFlow (Except Error Unit))
  | emit (flow : ControlFlow (Except Error Unit))

namespace LspService

variable {S F : Type} [LspService S F]

def step (s : S) : Op → S × Reply F
  | .pollReady => let r := pollReady s; (r.1, .pollReady r.2)
  | .call req => let r := call s req; (r.1, .call r.2)
  | .notify notif => let r := notify s notif; (r.1, .notify r.2)
  | .emit event => let r := emit s event; (r.1, .emit r.2)

@[simp] theorem step_pollReady (s : S) :
    step s .pollReady = ((pollReady s).1, (.pollReady (pollReady s).2 : Reply F)) := rfl

@[simp] theorem step_call (s : S) (req : AnyRequest) :
    step s (.call req) = ((call s req).1, .call (call s req).2) := rfl

@[simp] theorem step_notify (s : S) (notif : AnyNotification) :
    step s (.notify notif) = ((notify s notif).1, (.notify (notify s notif).2 : Reply F)) := rfl

@[simp] theorem step_emit (s : S) (event : AnyEvent) :
    step s (.emit event) = ((emit s event).1, (.emit (emit s event).2 : Reply F)) := rfl

/-- The service after a sequence of invocations, and the transcript pairing each
invocation with its reply. -/
def run (s : S) : List Op → S × List (Op × Reply F)
  | [] => (s, [])
  | op :: ops =>
    let r := run (step s op).1 ops
    (r.1, (op, (step s op).2) :: r.2)

@[simp] theorem run_nil (s : S) : run s [] = (s, ([] : List (Op × Reply F))) := rfl

@[simp] theorem run_cons (s : S) (op : Op) (ops : List Op) :
    run s (op :: ops) = ((run (step s op).1 ops).1, (op, (step s op).2) :: (run (step s op).1 ops).2) :=
  rfl

theorem run_append (s : S) (ops₁ ops₂ : List Op) :
    run s (ops₁ ++ ops₂) =
      ((run (run s ops₁).1 ops₂).1, (run s ops₁).2 ++ (run (run s ops₁).1 ops₂).2) := by
  induction ops₁ generalizing s with
  | nil => rfl
  | cons op ops ih => simp [ih]

/-- The transcript lists the invocations in the order they were made. -/
theorem run_map_fst (s : S) (ops : List Op) : (run s ops).2.map Prod.fst = ops := by
  induction ops generalizing s with
  | nil => rfl
  | cons op ops ih => simp [ih]

end LspService

/-! ## The recording observer -/

/-- An inner service together with every invocation it received, oldest first. -/
structure Recorded (S : Type) where
  inner : S
  log : List Op

namespace Recorded

variable {S F : Type} [LspService S F]

def new (inner : S) : Recorded S := ⟨inner, []⟩

instance : LspService (Recorded S) F where
  pollReady r := let x := LspService.pollReady r.inner; (⟨x.1, r.log ++ [.pollReady]⟩, x.2)
  call r req := let x := LspService.call r.inner req; (⟨x.1, r.log ++ [.call req]⟩, x.2)
  notify r notif :=
    let x := LspService.notify r.inner notif; (⟨x.1, r.log ++ [.notify notif]⟩, x.2)
  emit r event := let x := LspService.emit r.inner event; (⟨x.1, r.log ++ [.emit event]⟩, x.2)

@[simp] theorem pollReady_eq (r : Recorded S) :
    LspService.pollReady r =
      (⟨(LspService.pollReady r.inner).1, r.log ++ [.pollReady]⟩, (LspService.pollReady r.inner).2) :=
  rfl

@[simp] theorem call_eq (r : Recorded S) (req : AnyRequest) :
    LspService.call r req =
      (⟨(LspService.call r.inner req).1, r.log ++ [.call req]⟩, (LspService.call r.inner req).2) :=
  rfl

@[simp] theorem notify_eq (r : Recorded S) (notif : AnyNotification) :
    LspService.notify r notif =
      (⟨(LspService.notify r.inner notif).1, r.log ++ [.notify notif]⟩,
        (LspService.notify r.inner notif).2) :=
  rfl

@[simp] theorem emit_eq (r : Recorded S) (event : AnyEvent) :
    LspService.emit r event =
      (⟨(LspService.emit r.inner event).1, r.log ++ [.emit event]⟩,
        (LspService.emit r.inner event).2) :=
  rfl

theorem step_eq (r : Recorded S) (op : Op) :
    LspService.step r op =
      (⟨(LspService.step r.inner op).1, r.log ++ [op]⟩, (LspService.step r.inner op).2) := by
  cases op <;> rfl

/-- Recording changes no reply and no state of the inner service; the log grows by
exactly the invocations made. -/
theorem run_eq (r : Recorded S) (ops : List Op) :
    LspService.run r ops =
      (⟨(LspService.run r.inner ops).1, r.log ++ ops⟩, (LspService.run r.inner ops).2) := by
  induction ops generalizing r with
  | nil => simp
  | cons op ops ih => simp [ih, step_eq]

end Recorded

end AsyncLsp
