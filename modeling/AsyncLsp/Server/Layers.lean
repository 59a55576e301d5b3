import AsyncLsp.Server.Inner

/-!
# Stacking lifecycle layers

Layers compose: `LifecycleLayer` wraps any service, a `Lifecycle` included.
The inner lifecycle of a stack runs on exactly what the outer one passes on
(`Lifecycle.run_service`). The outer lifecycle answers `initialized` itself
and never passes it on (`passedOn_not_initialized`), and a lifecycle that is
never sent `initialized` never leaves `Initializing` (`State.run_early`,
`session_without_initialized`). So in a stack of two lifecycle layers the
inner one stays `Uninitialized` or `Initializing` over every run: it answers
every request but `initialize` with `SERVER_NOT_INITIALIZED`, and the service
behind both layers is sent no request but one `initialize`
(`stacked_session_never_ready`).
-/

namespace AsyncLsp

/-- An `initialized` notification. -/
def Op.IsInitialized : Op → Prop
  | .notify notif => notif.method = notification.Initialized.METHOD
  | _ => False

theorem passedOn_not_initialized {F R : Type} {e : Op × Reply (Either F R)} {op : Op}
    (h : passedOn e = some op) : ¬ op.IsInitialized := by
  rcases e with ⟨_ | req | notif | _, _ | (_ | _) | _ | _⟩ <;> simp [passedOn] at h <;>
    first
    | (subst h; simp [Op.IsInitialized])
    | (obtain ⟨⟨-, hi⟩, rfl⟩ := h; exact hi)

/-! ## Before `initialized`, the machine stays early -/

theorem State.onCall_early {s : State} (hs : s ≤ .initializing) {method : String}
    (hm : method ≠ request.Initialize.METHOD) : s.onCall method = .error .notInitializedYet := by
  cases s <;> simp_all [State.onCall, State.toNat]

theorem State.next_early {s : State} (hs : s ≤ .initializing) {op : Op}
    (ho : ¬ op.IsInitialized) : s.next op ≤ .initializing := by
  cases op with
  | call req =>
    cases h : s.onCall req.method with
    | error e => simpa [State.next, h] using hs
    | ok next =>
      rcases State.onCall_ok_iff.mp h with ⟨rfl, -, rfl⟩ | ⟨rfl, -, -⟩
      · simp [State.next, h, State.toNat]
      · simp [State.toNat] at hs
  | notify notif =>
    have hi : notif.method ≠ notification.Initialized.METHOD := ho
    simpa [State.next, hi] using hs
  | pollReady => simpa [State.next] using hs
  | emit event => simpa [State.next] using hs

theorem State.run_early {s : State} (hs : s ≤ .initializing) {ops : List Op}
    (ho : ∀ op ∈ ops, ¬ op.IsInitialized) : (s.run ops).1 ≤ .initializing := by
  induction ops generalizing s with
  | nil => exact hs
  | cons op ops ih =>
    exact ih (s.next_early hs (ho op (List.mem_cons_self op ops)))
      fun op h => ho op (List.mem_cons_of_mem _ h)

/-- Before `initialized` a history forwards at most `initialize`. -/
theorem Consistent.forwardedMethods_early {s : State} {h : List Obs} (hc : Consistent s h)
    (hs : s ≤ .initializing) :
    forwardedMethods h = [] ∨ forwardedMethods h = [request.Initialize.METHOD] := by
  cases s with
  | uninitialized => obtain rfl : h = [] := hc; exact .inl rfl
  | initializing => obtain rfl : h = _ := hc; exact .inr rfl
  | ready => simp [State.toNat] at hs
  | shuttingDown => simp [State.toNat] at hs

/-! ## Two lifecycle layers -/

section Stack

variable {S F : Type} [LspService S F]

/-- A lifecycle never sent `initialized` is never `Ready`: it rejects every request but
`initialize` with `SERVER_NOT_INITIALIZED`, and its inner service is sent at most
`initialize`. -/
theorem session_without_initialized (inner : S) {ops : List Op}
    (ho : ∀ op ∈ ops, ¬ op.IsInitialized) :
    (session (Recorded.new inner) ops).1.state ≤ .initializing ∧
    (∀ req : AnyRequest, req.method ≠ request.Initialize.METHOD →
      ((session (Recorded.new inner) ops).1.call req).2 =
        .right (ready (.error .notInitializedYet))) ∧
    (((session (Recorded.new inner) ops).1.service.log.filterMap Op.req?).map
        AnyRequest.method = [] ∨
      ((session (Recorded.new inner) ops).1.service.log.filterMap Op.req?).map
        AnyRequest.method = [request.Initialize.METHOD]) := by
  have hs : (session (Recorded.new inner) ops).1.state ≤ .initializing := by
    have h : (session (Recorded.new inner) ops).1.state = (State.uninitialized.run ops).1 :=
      congrArg Prod.fst (Lifecycle.run_refines (Lifecycle.new (Recorded.new inner)) ops)
    exact h ▸ State.run_early (by decide) ho
  refine ⟨hs, fun req hm => by rw [Lifecycle.call_reject (State.onCall_early hs hm)], ?_⟩
  rw [session_inner_methods]
  exact (session_consistent (Recorded.new inner) ops).forwardedMethods_early hs

/-- **A second lifecycle layer is never initialized.** Over every run of a service wrapped in
`LifecycleLayer` twice, the inner layer is a fresh lifecycle run on exactly the invocations the
outer layer passed on, and none of them is `initialized`. So the inner layer stays
`Uninitialized` or `Initializing`: every request the outer layer hands it other than
`initialize` is answered `SERVER_NOT_INITIALIZED`, and the service behind both layers is sent
no request but, at most, one `initialize`. -/
theorem stacked_session_never_ready (inner : S) (ops : List Op) :
    (session (LifecycleLayer.layer ⟨⟩ (Recorded.new inner)) ops).1.service =
      (session (Recorded.new inner)
        ((session (LifecycleLayer.layer ⟨⟩ (Recorded.new inner)) ops).2.filterMap passedOn)).1 ∧
    (∀ op ∈ (session (LifecycleLayer.layer ⟨⟩ (Recorded.new inner)) ops).2.filterMap passedOn,
      ¬ op.IsInitialized) ∧
    (session (LifecycleLayer.layer ⟨⟩ (Recorded.new inner)) ops).1.service.state ≤
        .initializing ∧
    (∀ req : AnyRequest, req.method ≠ request.Initialize.METHOD →
      ((session (LifecycleLayer.layer ⟨⟩ (Recorded.new inner)) ops).1.service.call req).2 =
        .right (ready (.error .notInitializedYet))) ∧
    (((session (LifecycleLayer.layer ⟨⟩ (Recorded.new inner)) ops).1.service.service.log.filterMap
        Op.req?).map AnyRequest.method = [] ∨
      ((session (LifecycleLayer.layer ⟨⟩ (Recorded.new inner)) ops).1.service.service.log.filterMap
        Op.req?).map AnyRequest.method = [request.Initialize.METHOD]) := by
  have hpass : ∀ op ∈ (session (LifecycleLayer.layer ⟨⟩ (Recorded.new inner)) ops).2.filterMap
      passedOn, ¬ op.IsInitialized := fun op h =>
    let ⟨_, _, he⟩ := List.mem_filterMap.mp h
    passedOn_not_initialized he
  refine ⟨Lifecycle.run_service _ ops, hpass, ?_⟩
  unfold session
  rw [Lifecycle.run_service]
  exact session_without_initialized inner hpass

/-- After `initialize` and `initialized` the outer layer is `Ready`, the inner still
`Initializing`. -/
example :
    (session (LifecycleLayer.layer ⟨⟩ (⟨.null⟩ : DefaultServer))
        [.call ⟨.number 1, "initialize", .null⟩, .notify ⟨"initialized", .null⟩]).1.state =
      .ready ∧
    (session (LifecycleLayer.layer ⟨⟩ (⟨.null⟩ : DefaultServer))
        [.call ⟨.number 1, "initialize", .null⟩, .notify ⟨"initialized", .null⟩]).1.service.state =
      .initializing :=
  ⟨rfl, rfl⟩

end Stack

end AsyncLsp
