import AsyncLsp.Service

/-!
# The `Lifecycle` middleware (`server.rs`)

`Lifecycle` wraps an inner `LspService` with the LSP lifecycle state. The
match of `Lifecycle::call` is `State.onCall`: the state a forwarded request
leaves behind, or the ready error a rejected one gets; `Lifecycle.call` then
either calls the inner service or answers by itself (`call_forward`,
`call_reject`). `onCall_ok_iff` and `onCall_error_iff` list every arm;
`notify_forward`, `notify_exit` and the `initialized` lemmas do the same for
`Lifecycle::notify`. Every later result is derived from these lemmas.
-/

namespace AsyncLsp

inductive State
  | uninitialized
  | initializing
  | ready
  | shuttingDown
  deriving DecidableEq, Repr

/-- `{:?}` of a state. -/
def State.debug : State → String
  | .uninitialized => "Uninitialized"
  | .initializing => "Initializing"
  | .ready => "Ready"
  | .shuttingDown => "ShuttingDown"

structure Lifecycle (S : Type) where
  service : S
  state : State

def Lifecycle.new {S : Type} (service : S) : Lifecycle S := ⟨service, .uninitialized⟩

/-- `LifecycleLayer`, whose `layer` wraps a service in a fresh `Lifecycle`. -/
structure LifecycleLayer where

def LifecycleLayer.layer {S : Type} (_ : LifecycleLayer) (inner : S) : Lifecycle S :=
  Lifecycle.new inner

/-! ## `Lifecycle::call` -/

def ResponseError.notInitializedYet : ResponseError :=
  ⟨.SERVER_NOT_INITIALIZED, "Server is not initialized yet", none⟩

def ResponseError.alreadyInitialized : ResponseError :=
  ⟨.INVALID_REQUEST, "Server is already initialized", none⟩

def ResponseError.shuttingDown : ResponseError :=
  ⟨.INVALID_REQUEST, "Server is shutting down", none⟩

@[simp] theorem ResponseError.notInitializedYet_code :
    ResponseError.notInitializedYet.code = .SERVER_NOT_INITIALIZED := rfl

@[simp] theorem ResponseError.alreadyInitialized_code :
    ResponseError.alreadyInitialized.code = .INVALID_REQUEST := rfl

@[simp] theorem ResponseError.shuttingDown_code :
    ResponseError.shuttingDown.code = .INVALID_REQUEST := rfl

/-- The arms of `match (self.state, &*req.method)`: `.ok` is the state assigned before
the request goes to the inner service, `.error` the error of `Either::Right(ready(Err(..)))`. -/
def State.onCall (state : State) (method : String) : Except ResponseError State :=
  match state, method == request.Initialize.METHOD with
  | .uninitialized, true => .ok .initializing
  | .uninitialized, _ | .initializing, _ => .error .notInitializedYet
  | _, true => .error .alreadyInitialized
  | .ready, _ => .ok (if method = request.Shutdown.METHOD then .shuttingDown else .ready)
  | .shuttingDown, _ => .error .shuttingDown

/-- The arms of `State.onCall` that forward. -/
theorem State.onCall_ok_iff {state next : State} {method : String} :
    state.onCall method = .ok next ↔
      state = .uninitialized ∧ method = request.Initialize.METHOD ∧ next = .initializing ∨
      state = .ready ∧ method ≠ request.Initialize.METHOD ∧
        next = if method = request.Shutdown.METHOD then .shuttingDown else .ready := by
  cases state <;> by_cases h : method = request.Initialize.METHOD <;>
    simp [State.onCall, h, @eq_comm _ _ next]

/-- The arms of `State.onCall` that answer with an error. -/
theorem State.onCall_error_iff {state : State} {method : String} {e : ResponseError} :
    state.onCall method = .error e ↔
      (state = .uninitialized ∧ method ≠ request.Initialize.METHOD ∨ state = .initializing) ∧
        e = .notInitializedYet ∨
      (state = .ready ∨ state = .shuttingDown) ∧ method = request.Initialize.METHOD ∧
        e = .alreadyInitialized ∨
      state = .shuttingDown ∧ method ≠ request.Initialize.METHOD ∧ e = .shuttingDown := by
  cases state <;> by_cases h : method = request.Initialize.METHOD <;>
    simp [State.onCall, h, @eq_comm _ _ e]

theorem State.onCall_ready {method : String} (h : method ≠ request.Initialize.METHOD) :
    State.ready.onCall method =
      .ok (if method = request.Shutdown.METHOD then .shuttingDown else .ready) := by
  simp [State.onCall, h]

namespace Lifecycle

variable {S F : Type} [LspService S F]

def call (self : Lifecycle S) (req : AnyRequest) :
    Lifecycle S × Either F (Ready (Except ResponseError JsonValue)) :=
  match self.state.onCall req.method with
  | .ok state =>
    let r := LspService.call self.service req
    ({ service := r.1, state }, .left r.2)
  | .error e => (self, .right (ready (.error e)))

theorem call_forward {l : Lifecycle S} {req : AnyRequest} {next : State}
    (h : l.state.onCall req.method = .ok next) :
    l.call req = ({ service := (LspService.call l.service req).1, state := next },
      .left (LspService.call l.service req).2) := by
  simp [call, h]

theorem call_reject {l : Lifecycle S} {req : AnyRequest} {e : ResponseError}
    (h : l.state.onCall req.method = .error e) : l.call req = (l, .right (ready (.error e))) := by
  simp [call, h]

/-- A request is either handed to the inner service, or answered by a ready error with the
lifecycle, inner service included, left as it was. -/
theorem call_forward_or_reject (l : Lifecycle S) (req : AnyRequest) :
    (∃ next, l.call req = ({ service := (LspService.call l.service req).1, state := next },
      .left (LspService.call l.service req).2)) ∨
    ∃ e, l.call req = (l, .right (ready (.error e))) := by
  cases ho : l.state.onCall req.method with
  | ok next => exact .inl ⟨next, call_forward ho⟩
  | error e => exact .inr ⟨e, call_reject ho⟩

theorem call_right {l : Lifecycle S} {req : AnyRequest} {r : Ready (Except ResponseError JsonValue)}
    (h : (l.call req).2 = .right r) : (l.call req).1 = l := by
  rcases call_forward_or_reject l req with ⟨_, he⟩ | ⟨_, he⟩ <;> simp [he] at h ⊢

/-! ## `Lifecycle::notify`, `emit` and `poll_ready` -/

def notify (self : Lifecycle S) (notif : AnyNotification) :
    Lifecycle S × ControlFlow (Except Error Unit) :=
  if notif.method = notification.Exit.METHOD then (self, .break (.ok ()))
  else if notif.method = notification.Initialized.METHOD then
    if self.state ≠ .initializing then
      (self, .break (.error (.protocol
        ("Unexpected initialized notification on state " ++ self.state.debug))))
    else ({ self with state := .ready }, .continue)
  else
    let r := LspService.notify self.service notif
    ({ self with service := r.1 }, r.2)

theorem notify_exit (l : Lifecycle S) {notif : AnyNotification}
    (h : notif.method = notification.Exit.METHOD) : l.notify notif = (l, .break (.ok ())) := by
  simp [notify, h]

theorem notify_initialized {l : Lifecycle S} {notif : AnyNotification}
    (h : notif.method = notification.Initialized.METHOD) (hs : l.state = .initializing) :
    l.notify notif = ({ l with state := .ready }, .continue) := by
  simp [notify, h, hs, notification.Initialized.METHOD, notification.Exit.METHOD]

theorem notify_initialized_misplaced {l : Lifecycle S} {notif : AnyNotification}
    (h : notif.method = notification.Initialized.METHOD) (hs : l.state ≠ .initializing) :
    l.notify notif = (l, .break (.error (.protocol
      ("Unexpected initialized notification on state " ++ l.state.debug)))) := by
  simp [notify, h, hs, notification.Initialized.METHOD, notification.Exit.METHOD]

theorem notify_forward (l : Lifecycle S) {notif : AnyNotification}
    (h₁ : notif.method ≠ notification.Exit.METHOD)
    (h₂ : notif.method ≠ notification.Initialized.METHOD) :
    l.notify notif = ({ l with service := (LspService.notify l.service notif).1 },
      (LspService.notify l.service notif).2) := by
  simp [notify, h₁, h₂]

/-- An `initialized` notification either moves `Initializing` to `Ready` with `Continue`, or
ends the session with an error and changes nothing. -/
theorem notify_initialized_break {l : Lifecycle S} {notif : AnyNotification} {e : Error}
    (h : notif.method = notification.Initialized.METHOD)
    (hb : (l.notify notif).2 = .break (.error e)) : (l.notify notif).1 = l := by
  by_cases hs : l.state = .initializing
  · simp [notify_initialized h hs] at hb
  · simp [notify_initialized_misplaced h hs]

def emit (self : Lifecycle S) (event : AnyEvent) : Lifecycle S × ControlFlow (Except Error Unit) :=
  let r := LspService.emit self.service event
  ({ self with service := r.1 }, r.2)

def pollReady (self : Lifecycle S) : Lifecycle S × Poll (Except ResponseError Unit) :=
  let r := LspService.pollReady self.service
  ({ self with service := r.1 }, r.2)

instance : LspService (Lifecycle S) (Either F (Ready (Except ResponseError JsonValue))) where
  pollReady := pollReady
  call := call
  notify := notify
  emit := emit

@[simp] theorem pollReady_eq (l : Lifecycle S) : LspService.pollReady l = l.pollReady := rfl

@[simp] theorem call_eq (l : Lifecycle S) (req : AnyRequest) : LspService.call l req = l.call req :=
  rfl

@[simp] theorem notify_eq (l : Lifecycle S) (notif : AnyNotification) :
    LspService.notify l notif = l.notify notif := rfl

@[simp] theorem emit_eq (l : Lifecycle S) (event : AnyEvent) :
    LspService.emit l event = l.emit event := rfl

end Lifecycle

end AsyncLsp
