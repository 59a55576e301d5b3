import AsyncLsp.Server

/-!
# The lifecycle machine

A run of `Lifecycle` shows two kinds of protocol events: a request handed to
the inner service (`Obs.forwarded`) and an `initialized` notification
answered `Continue` (`Obs.accepted`); `history` lists them in order.

The lifecycle machine is the lifecycle's own part of a run, with the inner
service left out: `State.next` is the state after one invocation,
`State.event` the event it shows, `State.run` both over a sequence.
`Lifecycle.step_refines` and `Lifecycle.run_refines` show that every run of
`Lifecycle` over any inner service projects onto the machine, so the state
and history of a session never depend on the inner service
(`session_refines`, `session_independent`).
-/

namespace AsyncLsp

/-- A protocol event seen in a run of the lifecycle. -/
inductive Obs
  | forwarded (method : String)
  | accepted
  deriving DecidableEq, Repr

section History

variable {F R : Type}

/-- The protocol event of one transcript entry: `Either::Left` is the inner service's
future, so the request was handed on. -/
def observe : Op × Reply (Either F R) → Option Obs
  | (.call req, .call (.left _)) => some (.forwarded req.method)
  | (.notify notif, .notify .continue) =>
    if notif.method = notification.Initialized.METHOD then some .accepted else none
  | _ => none

def history (tr : List (Op × Reply (Either F R))) : List Obs := tr.filterMap observe

end History

/-! ## The machine -/

/-- The lifecycle state after one invocation. -/
def State.next (s : State) : Op → State
  | .call req =>
    match s.onCall req.method with
    | .ok next => next
    | .error _ => s
  | .notify notif =>
    if notif.method = notification.Initialized.METHOD ∧ s = .initializing then .ready else s
  | _ => s

/-- The protocol event of one invocation. -/
def State.event (s : State) : Op → Option Obs
  | .call req =>
    match s.onCall req.method with
    | .ok _ => some (.forwarded req.method)
    | .error _ => none
  | .notify notif =>
    if notif.method = notification.Initialized.METHOD ∧ s = .initializing then some .accepted
    else none
  | _ => none

/-- The final state and the events of a sequence of invocations. -/
def State.run (s : State) : List Op → State × List Obs
  | [] => (s, [])
  | op :: ops => (((s.next op).run ops).1, (s.event op).toList ++ ((s.next op).run ops).2)

@[simp] theorem State.run_nil (s : State) : s.run [] = (s, []) := rfl

@[simp] theorem State.run_cons (s : State) (op : Op) (ops : List Op) :
    s.run (op :: ops) = (((s.next op).run ops).1, (s.event op).toList ++ ((s.next op).run ops).2) :=
  rfl

theorem State.run_append (s : State) (ops₁ ops₂ : List Op) :
    s.run (ops₁ ++ ops₂) =
      (((s.run ops₁).1.run ops₂).1, (s.run ops₁).2 ++ ((s.run ops₁).1.run ops₂).2) := by
  induction ops₁ generalizing s with
  | nil => rfl
  | cons op ops ih => simp [ih]

/-! ## Every run of `Lifecycle` projects onto the machine -/

namespace Lifecycle

variable {S F : Type} [LspService S F]

theorem step_refines (l : Lifecycle S) (op : Op) :
    (LspService.step l op).1.state = l.state.next op ∧
      observe (op, (LspService.step l op).2) = l.state.event op := by
  cases op with
  | call req =>
    cases ho : l.state.onCall req.method with
    | ok next => simp [call_forward ho, observe, State.next, State.event, ho]
    | error e => simp [call_reject ho, observe, State.next, State.event, ho]
  | notify notif =>
    by_cases he : notif.method = notification.Exit.METHOD
    · simp [notify_exit l he, observe, State.next, State.event, he]
    by_cases hi : notif.method = notification.Initialized.METHOD
    · by_cases hs : l.state = .initializing
      · simp [notify_initialized hi hs, observe, State.next, State.event, hi, hs]
      · simp [notify_initialized_misplaced hi hs, observe, State.next, State.event, hi, hs]
    · simp only [LspService.step_notify, notify_eq, notify_forward l he hi]
      cases (LspService.notify l.service notif).2 <;> simp [observe, State.next, State.event, hi]
  | pollReady => simp [pollReady, observe, State.next, State.event]
  | emit event => simp [emit, observe, State.next, State.event]

theorem run_refines (l : Lifecycle S) (ops : List Op) :
    ((LspService.run l ops).1.state, history (LspService.run l ops).2) = l.state.run ops := by
  induction ops generalizing l with
  | nil => rfl
  | cons op ops ih =>
    obtain ⟨hs, ho⟩ := step_refines l op
    rw [State.run_cons, ← hs, ← ih, ← ho]
    simp only [LspService.run_cons, history, List.filterMap_cons]
    cases observe (op, (LspService.step l op).2) <;> rfl

end Lifecycle

/-! ## Sessions -/

section Session

variable {S F : Type} [LspService S F]

/-- A run of `Lifecycle::new(inner)`. -/
def session (inner : S) (ops : List Op) :
    Lifecycle S × List (Op × Reply (Either F (Ready (Except ResponseError JsonValue)))) :=
  LspService.run (Lifecycle.new inner) ops

/-- **Sessions refine the lifecycle machine.** The state and the history of every run of
`Lifecycle::new(inner)` are those of the lifecycle machine from `Uninitialized`. -/
theorem session_refines (inner : S) (ops : List Op) :
    ((session inner ops).1.state, history (session inner ops).2) = State.uninitialized.run ops :=
  Lifecycle.run_refines (Lifecycle.new inner) ops

/-- **The lifecycle does not depend on the inner service.** Two sessions fed the same
invocations reach the same lifecycle state and show the same history, whatever their inner
services answer. -/
theorem session_independent {S₁ F₁ S₂ F₂ : Type} [LspService S₁ F₁] [LspService S₂ F₂]
    (inner₁ : S₁) (inner₂ : S₂) (ops : List Op) :
    (session inner₁ ops).1.state = (session inner₂ ops).1.state ∧
      history (session inner₁ ops).2 = history (session inner₂ ops).2 :=
  Prod.mk.inj ((session_refines inner₁ ops).trans (session_refines inner₂ ops).symm)

end Session

end AsyncLsp
