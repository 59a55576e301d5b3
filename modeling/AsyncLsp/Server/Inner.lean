import AsyncLsp.Server.History
import AsyncLsp.OmniTrait

/-!
# What the inner service sees

`passedOn` is the invocation one step of the lifecycle hands to its inner
service: forwarded requests, every notification but `exit` and `initialized`,
every event and every `poll_ready`. `run_service` shows the inner service of
any run ends where the inner service alone ends on exactly those invocations,
and `run_passed_replies` that their replies are the inner service's own; with
a `Recorded` inner service this is its log (`session_inner_log`), whose
requests follow the LSP lifecycle (`session_inner_requests`). In
particular notifications reach the inner service in every state
(`session_notifications_reach_inner`), and once `Ready` the lifecycle is
transparent to all other traffic (`run_ready_transparent`).
-/

namespace AsyncLsp

section Passed

variable {F R : Type}

/-- The invocation the inner service receives in one step of the lifecycle, if any. -/
def passedOn : Op × Reply (Either F R) → Option Op
  | (.call req, .call (.left _)) => some (.call req)
  | (.call _, _) => none
  | (.notify notif, _) =>
    if notif.method = notification.Exit.METHOD ∨ notif.method = notification.Initialized.METHOD
    then none else some (.notify notif)
  | (op, _) => some op

end Passed

/-- An invocation the lifecycle takes no part in once `Ready`. -/
def Ordinary : Op → Prop
  | .call req => Other req.method
  | .notify notif =>
    notif.method ≠ notification.Exit.METHOD ∧ notif.method ≠ notification.Initialized.METHOD
  | _ => True

/-- A reply of the inner service as the lifecycle hands it up. -/
def Reply.left {F R : Type} : Reply F → Reply (Either F R)
  | .pollReady p => .pollReady p
  | .call fut => .call (.left fut)
  | .notify flow => .notify flow
  | .emit flow => .emit flow

namespace Lifecycle

variable {S F : Type} [LspService S F]

theorem step_service (l : Lifecycle S) (op : Op) :
    (LspService.step l op).1.service =
      (LspService.run l.service (passedOn (op, (LspService.step l op).2)).toList).1 := by
  cases op with
  | pollReady => simp [pollReady, passedOn]
  | call req =>
    rcases call_forward_or_reject l req with ⟨next, h⟩ | ⟨e, h⟩ <;>
      simp [h, passedOn]
  | notify notif =>
    by_cases he : notif.method = notification.Exit.METHOD
    · simp [notify_exit l he, passedOn, he]
    by_cases hi : notif.method = notification.Initialized.METHOD
    · by_cases hs : l.state = .initializing
      · simp [notify_initialized hi hs, passedOn, hi]
      · simp [notify_initialized_misplaced hi hs, passedOn, hi]
    · simp [notify_forward l he hi, passedOn, he, hi]
  | emit event => simp [emit, passedOn]

/-- The inner service of a run ends in the state the inner service alone reaches on the
invocations the lifecycle passed on. -/
theorem run_service (l : Lifecycle S) (ops : List Op) :
    (LspService.run l ops).1.service =
      (LspService.run l.service ((LspService.run l ops).2.filterMap passedOn)).1 := by
  induction ops generalizing l with
  | nil => rfl
  | cons op ops ih =>
    simp only [LspService.run_cons, List.filterMap_cons, ih]
    rw [step_service l op]
    cases passedOn (op, (LspService.step l op).2) <;> simp [LspService.run_append]

theorem step_passed (l : Lifecycle S) (op : Op) {op' : Op}
    (h : passedOn (op, (LspService.step l op).2) = some op') :
    op' = op ∧ (LspService.step l op).2 = (LspService.step l.service op).2.left := by
  cases op with
  | pollReady => simpa [pollReady, passedOn, Reply.left, eq_comm] using h
  | call req =>
    rcases call_forward_or_reject l req with ⟨next, hc⟩ | ⟨e, hc⟩ <;>
      simp [hc, passedOn, Reply.left, eq_comm] at h ⊢
    exact h
  | notify notif =>
    by_cases hx : notif.method = notification.Exit.METHOD ∨
        notif.method = notification.Initialized.METHOD
    · simp [passedOn, hx] at h
    · rw [not_or] at hx
      simpa [notify_forward l hx.1 hx.2, passedOn, hx, Reply.left, eq_comm] using h
  | emit event => simpa [emit, passedOn, Reply.left, eq_comm] using h

/-- **The lifecycle hands up the inner service's replies.** Over every run, in every state,
the replies to the invocations the lifecycle passed on are, in order, the replies the inner
service alone gives to exactly those invocations. With `run_service` the lifecycle is a filter
in front of its inner service: what it does not answer itself, the inner service answers. -/
theorem run_passed_replies (l : Lifecycle S) (ops : List Op) :
    (LspService.run l ops).2.filter (fun e => (passedOn e).isSome) =
      (LspService.run l.service ((LspService.run l ops).2.filterMap passedOn)).2.map
        fun e => (e.1, e.2.left) := by
  induction ops generalizing l with
  | nil => rfl
  | cons op ops ih =>
    have hs := step_service l op
    simp only [LspService.run_cons, List.filter_cons, List.filterMap_cons, ih]
    cases hp : passedOn (op, (LspService.step l op).2) with
    | none =>
      have hl : (LspService.step l op).1.service = l.service := by simpa [hp] using hs
      simp [hp, hl]
    | some op' =>
      obtain ⟨hop, hr⟩ := step_passed l op hp
      subst op'
      have hl : (LspService.step l op).1.service = (LspService.step l.service op).1 := by
        simpa [hp] using hs
      simp [hp, hl, hr]

/-! ## Transparency once `Ready` -/

theorem step_ready {l : Lifecycle S} (hs : l.state = .ready) {op : Op} (ho : Ordinary op) :
    LspService.step l op =
      (⟨(LspService.step l.service op).1, .ready⟩, (LspService.step l.service op).2.left) := by
  obtain ⟨service, state⟩ := l
  subst hs
  cases op with
  | call req =>
    obtain ⟨hi, hsd⟩ := ho
    simp [call, State.onCall_ready hi, hsd, Reply.left]
  | notify notif => simp [notify_forward _ ho.1 ho.2, Reply.left]
  | pollReady => simp [pollReady, Reply.left]
  | emit event => simp [emit, Reply.left]

/-- **Once `Ready`, the lifecycle is transparent.** From a `Ready` lifecycle, a run of
invocations other than `initialize`, `shutdown`, `exit` and `initialized` leaves it `Ready`,
drives the inner service exactly as a run of the inner service alone, and hands up the inner
service's replies. -/
theorem run_ready_transparent {l : Lifecycle S} (hs : l.state = .ready) {ops : List Op}
    (ho : ∀ op ∈ ops, Ordinary op) :
    LspService.run l ops =
      (⟨(LspService.run l.service ops).1, .ready⟩,
        (LspService.run l.service ops).2.map fun e => (e.1, e.2.left)) := by
  induction ops generalizing l with
  | nil => cases l; subst hs; rfl
  | cons op ops ih =>
    have hstep := step_ready hs (ho op (List.mem_cons_self op ops))
    simp only [LspService.run_cons, hstep, List.map_cons]
    rw [ih rfl fun op h => ho op (List.mem_cons_of_mem _ h)]

/-- A hover request and a tick event reach a `Ready` lifecycle's default server untouched. -/
theorem run_ready_hover_tick :
    (⟨⟨.null⟩, .ready⟩ : Lifecycle DefaultServer).state = .ready ∧
    (∀ op ∈ [Op.call ⟨.number 1, "textDocument/hover", .null⟩, .emit ⟨"TickEvent"⟩],
      Ordinary op) ∧
    LspService.run (⟨⟨.null⟩, .ready⟩ : Lifecycle DefaultServer)
        [.call ⟨.number 1, "textDocument/hover", .null⟩, .emit ⟨"TickEvent"⟩] =
      (⟨(LspService.run (⟨.null⟩ : DefaultServer)
          [.call ⟨.number 1, "textDocument/hover", .null⟩, .emit ⟨"TickEvent"⟩]).1, .ready⟩,
        (LspService.run (⟨.null⟩ : DefaultServer)
          [.call ⟨.number 1, "textDocument/hover", .null⟩, .emit ⟨"TickEvent"⟩]).2.map
            fun e => (e.1, e.2.left)) := by
  have ho : ∀ op ∈ [Op.call ⟨.number 1, "textDocument/hover", .null⟩, .emit ⟨"TickEvent"⟩],
      Ordinary op := by
    simp [Ordinary, Other, request.Initialize.METHOD, request.Shutdown.METHOD]
  exact ⟨rfl, ho, run_ready_transparent rfl ho⟩

end Lifecycle

section Session

variable {S F : Type} [LspService S F]

/-- **The inner service receives exactly what was passed on.** Over every run of
`Lifecycle::new(inner)`, a recorded inner service has been sent, in order, the forwarded
requests, every notification other than `exit` and `initialized`, every event and every
`poll_ready`, and nothing else. -/
theorem session_inner_log (inner : S) (ops : List Op) :
    (session (Recorded.new inner) ops).1.service.log =
      (session (Recorded.new inner) ops).2.filterMap passedOn := by
  have h := Lifecycle.run_service (Lifecycle.new (Recorded.new inner)) ops
  rw [Recorded.run_eq] at h
  simpa [Recorded.new] using congrArg Recorded.log h

/-- The notification an invocation carries. -/
def Op.notif? : Op → Option AnyNotification
  | .notify notif => some notif
  | _ => none

/-- The request an invocation carries. -/
def Op.req? : Op → Option AnyRequest
  | .call req => some req
  | _ => none

/-- The requests passed on in a transcript are the requests its history lists as forwarded. -/
theorem passedOn_requests {R : Type} (tr : List (Op × Reply (Either F R))) :
    ((tr.filterMap passedOn).filterMap Op.req?).map AnyRequest.method =
      forwardedMethods (history tr) := by
  simp only [forwardedMethods, history, List.filterMap_filterMap, List.map_filterMap]
  congr 1
  funext e
  rcases e with ⟨_ | req | notif | _, _ | (_ | _) | (_ | _) | _⟩ <;>
    simp [passedOn, observe, Op.req?]
  -- a notification answered `Continue`: neither side is a request
  split <;> split <;> rfl

/-- The methods of the requests a recorded inner service was sent. -/
theorem session_inner_methods (inner : S) (ops : List Op) :
    ((session (Recorded.new inner) ops).1.service.log.filterMap Op.req?).map AnyRequest.method =
      forwardedMethods (history (session (Recorded.new inner) ops).2) := by
  rw [session_inner_log, passedOn_requests]

/-- **The inner service's requests follow the LSP lifecycle.** Over every run of
`Lifecycle::new(inner)`, the methods of the requests the inner service is sent are exactly the
methods the history lists as forwarded (the requests answered `Either::Left`): none, or
`initialize`, then only requests other than `initialize` and `shutdown`, then possibly one
`shutdown`. -/
theorem session_inner_requests (inner : S) (ops : List Op) :
    ((session (Recorded.new inner) ops).1.service.log.filterMap Op.req?).map AnyRequest.method =
        forwardedMethods (history (session (Recorded.new inner) ops).2) ∧
    (((session (Recorded.new inner) ops).1.service.log.filterMap Op.req?).map AnyRequest.method =
        [] ∨
      ∃ ms : List String, (∀ m ∈ ms, Other m) ∧
        (((session (Recorded.new inner) ops).1.service.log.filterMap Op.req?).map
            AnyRequest.method = request.Initialize.METHOD :: ms ∨
          ((session (Recorded.new inner) ops).1.service.log.filterMap Op.req?).map
            AnyRequest.method = request.Initialize.METHOD :: ms ++ [request.Shutdown.METHOD])) := by
  rw [session_inner_methods]
  exact ⟨rfl, (session_consistent (Recorded.new inner) ops).trace.forwardedMethods_eq⟩

/-- Notifications other than `exit` and `initialized`. -/
def isPassedNotification (notif : AnyNotification) : Bool :=
  notif.method ≠ notification.Exit.METHOD ∧ notif.method ≠ notification.Initialized.METHOD

private theorem passedOn_notif? {R : Type} (e : Op × Reply (Either F R)) :
    (passedOn e).bind Op.notif? = (Op.notif? e.1).filter isPassedNotification := by
  rcases e with ⟨op, reply⟩
  cases op with
  | notify notif =>
    by_cases he : notif.method = notification.Exit.METHOD <;>
      by_cases hi : notif.method = notification.Initialized.METHOD <;>
      simp [passedOn, Op.notif?, isPassedNotification, Option.filter, he, hi]
  | call req => rcases reply with _ | (_ | _) | _ | _ <;> rfl
  | pollReady => rfl
  | emit event => rfl

/-- **Notifications reach the inner service in every state.** Over every run of
`Lifecycle::new(inner)`, `inner.notify` receives, in order, exactly the run's notifications
other than `exit` and `initialized`, before `initialized` as after it; each such
notification is answered by the inner service's own signal, the lifecycle state unchanged. -/
theorem session_notifications_reach_inner (inner : S) (ops : List Op) :
    (session (Recorded.new inner) ops).1.service.log.filterMap Op.notif? =
      (ops.filterMap Op.notif?).filter isPassedNotification ∧
    ∀ (l : Lifecycle S) (notif : AnyNotification),
      notif.method ≠ notification.Exit.METHOD →
      notif.method ≠ notification.Initialized.METHOD →
        l.notify notif = ({ l with service := (LspService.notify l.service notif).1 },
          (LspService.notify l.service notif).2) := by
  refine ⟨?_, fun l _ => Lifecycle.notify_forward l⟩
  conv => rhs; rw [← LspService.run_map_fst (Lifecycle.new (Recorded.new inner)) ops]
  rw [session_inner_log, List.filterMap_filterMap, List.filter_filterMap, List.filterMap_map]
  simp only [session, passedOn_notif?]
  rfl

/-- Right after `Lifecycle::new`, a `textDocument/didOpen` notification reaches the inner
service, and the default server behind it ends the session instead of continuing. -/
theorem didOpen_before_initialize_reaches_inner :
    ((Lifecycle.new (Recorded.new (⟨.null⟩ : DefaultServer))).notify
        ⟨"textDocument/didOpen", .null⟩).1.service.log =
      [.notify ⟨"textDocument/didOpen", .null⟩] ∧
    ((Lifecycle.new (Recorded.new (⟨.null⟩ : DefaultServer))).notify
        ⟨"textDocument/didOpen", .null⟩).2 ≠ .continue :=
  ⟨rfl, fun h => ControlFlow.noConfusion h⟩

end Session

end AsyncLsp
