import AsyncLsp.Server.Machine

/-!
# The lifecycle of a session

`Consistent` says which history each lifecycle state stands for.
`Consistent.next` shows one step of the lifecycle machine keeps it, so by
`session_refines` it holds after every run of `Lifecycle::new(inner)`:

* `session_forwarding`: the history is a prefix of
  `initialize · initialized · other* · shutdown` (`LifecycleTrace`);
* `session_state_history`: the state never decreases, is a function of the
  history, and stays put whenever the lifecycle answers by itself;
* `session_history_iff`: conversely every such prefix is the history of
  some run: the set of histories is exactly the set the protocol allows;
* `session_can_shut_down`: no run leaves the `Lifecycle` value where
  `ShuttingDown` can no longer be reached, counting runs that go on after a
  `Break`.
-/

namespace AsyncLsp

/-- A request method other than `initialize` and `shutdown`. -/
def Other (method : String) : Prop :=
  method ≠ request.Initialize.METHOD ∧ method ≠ request.Shutdown.METHOD

/-- The histories the LSP lifecycle allows: the prefixes of
`initialize · initialized · other* · shutdown`. -/
def LifecycleTrace (h : List Obs) : Prop :=
  h = [] ∨ h = [.forwarded request.Initialize.METHOD] ∨
    ∃ ms : List String, (∀ m ∈ ms, Other m) ∧
      (h = .forwarded request.Initialize.METHOD :: .accepted :: ms.map .forwarded ∨
       h = .forwarded request.Initialize.METHOD :: .accepted :: ms.map .forwarded ++
         [.forwarded request.Shutdown.METHOD])

/-- The history a lifecycle state stands for. -/
def Consistent : State → List Obs → Prop
  | .uninitialized, h => h = []
  | .initializing, h => h = [.forwarded request.Initialize.METHOD]
  | .ready, h => ∃ ms : List String, (∀ m ∈ ms, Other m) ∧
    h = .forwarded request.Initialize.METHOD :: .accepted :: ms.map .forwarded
  | .shuttingDown, h => ∃ ms : List String, (∀ m ∈ ms, Other m) ∧
    h = .forwarded request.Initialize.METHOD :: .accepted :: ms.map .forwarded ++
      [.forwarded request.Shutdown.METHOD]

theorem Consistent.state_iff {s : State} {h : List Obs} (hc : Consistent s h) :
    (s = .uninitialized ↔ .forwarded request.Initialize.METHOD ∉ h) ∧
    (s = .initializing ↔ .forwarded request.Initialize.METHOD ∈ h ∧ .accepted ∉ h) ∧
    (s = .ready ↔ .accepted ∈ h ∧ .forwarded request.Shutdown.METHOD ∉ h) ∧
    (s = .shuttingDown ↔ .forwarded request.Shutdown.METHOD ∈ h) := by
  cases s with
  | uninitialized => obtain rfl : h = [] := hc; simp
  | initializing => obtain rfl : h = _ := hc; simp
  | ready =>
    obtain ⟨ms, hms, rfl⟩ := hc
    have : request.Shutdown.METHOD ∉ ms := fun hm => (hms _ hm).2 rfl
    simp [this]
  | shuttingDown => obtain ⟨ms, hms, rfl⟩ := hc; simp

theorem Consistent.accepted_mem_iff {s : State} {h : List Obs} (hc : Consistent s h) :
    .accepted ∈ h ↔ s = .ready ∨ s = .shuttingDown := by
  cases s with
  | uninitialized => obtain rfl : h = [] := hc; simp
  | initializing => obtain rfl : h = _ := hc; simp
  | ready => obtain ⟨ms, -, rfl⟩ := hc; simp
  | shuttingDown => obtain ⟨ms, -, rfl⟩ := hc; simp

theorem Consistent.trace {s : State} {h : List Obs} (hc : Consistent s h) : LifecycleTrace h := by
  cases s with
  | uninitialized => exact .inl hc
  | initializing => exact .inr (.inl hc)
  | ready => obtain ⟨ms, hms, rfl⟩ := hc; exact .inr (.inr ⟨ms, hms, .inl rfl⟩)
  | shuttingDown => obtain ⟨ms, hms, rfl⟩ := hc; exact .inr (.inr ⟨ms, hms, .inr rfl⟩)

/-- The methods of the requests handed to the inner service. -/
def forwardedMethods (h : List Obs) : List String :=
  h.filterMap fun
    | .forwarded m => some m
    | .accepted => none

theorem LifecycleTrace.forwardedMethods_eq {h : List Obs} (ht : LifecycleTrace h) :
    forwardedMethods h = [] ∨ ∃ ms : List String, (∀ m ∈ ms, Other m) ∧
      (forwardedMethods h = request.Initialize.METHOD :: ms ∨
       forwardedMethods h = request.Initialize.METHOD :: ms ++ [request.Shutdown.METHOD]) := by
  have hmap (ms : List String) : forwardedMethods (ms.map .forwarded) = ms := by
    induction ms with
    | nil => rfl
    | cons m ms ih => simpa [forwardedMethods] using ih
  rcases ht with rfl | rfl | ⟨ms, hms, rfl | rfl⟩
  · exact .inl rfl
  · exact .inr ⟨[], by simp, .inl rfl⟩
  · exact .inr ⟨ms, hms, .inl (by simpa [forwardedMethods] using hmap ms)⟩
  · exact .inr ⟨ms, hms, .inr (by simpa [forwardedMethods] using hmap ms)⟩

/-! ## One step keeps the history consistent -/

theorem Consistent.next {s : State} {h : List Obs} (hc : Consistent s h) (op : Op) :
    Consistent (s.next op) (h ++ (s.event op).toList) := by
  cases op with
  | call req =>
    cases ho : s.onCall req.method with
    | error e => simpa [State.next, State.event, ho] using hc
    | ok next =>
      simp only [State.next, State.event, ho, Option.toList_some]
      rcases State.onCall_ok_iff.mp ho with ⟨rfl, hm, rfl⟩ | ⟨rfl, hm, rfl⟩
      · obtain rfl : h = [] := hc
        simp [Consistent, hm]
      · obtain ⟨ms, hms, rfl⟩ := hc
        by_cases hsd : req.method = request.Shutdown.METHOD
        · simp only [hsd, if_true]
          exact ⟨ms, hms, by simp⟩
        · simp only [hsd, if_false]
          refine ⟨ms ++ [req.method], ?_, by simp⟩
          simpa [or_imp, forall_and, Other, hm, hsd] using hms
  | notify notif =>
    by_cases hi : notif.method = notification.Initialized.METHOD ∧ s = .initializing
    · obtain ⟨hm, rfl⟩ := hi
      obtain rfl : h = _ := hc
      simp only [State.next, State.event, hm, and_self, if_true, Option.toList_some]
      exact ⟨[], by simp, rfl⟩
    · simpa [State.next, State.event, hi] using hc
  | pollReady => simpa [State.next, State.event] using hc
  | emit event => simpa [State.next, State.event] using hc

theorem Consistent.run {s : State} {h : List Obs} (hc : Consistent s h) (ops : List Op) :
    Consistent (s.run ops).1 (h ++ (s.run ops).2) := by
  induction ops generalizing s h with
  | nil => simpa using hc
  | cons op ops ih => simpa using ih (hc.next op)

/-! ## The state only grows -/

/-- Position in `Uninitialized < Initializing < Ready < ShuttingDown`. -/
def State.toNat : State → Nat
  | .uninitialized => 0
  | .initializing => 1
  | .ready => 2
  | .shuttingDown => 3

instance : LE State := ⟨fun a b => a.toNat ≤ b.toNat⟩

instance (a b : State) : Decidable (a ≤ b) := inferInstanceAs (Decidable (a.toNat ≤ b.toNat))

@[simp] theorem State.le_iff {a b : State} : a ≤ b ↔ a.toNat ≤ b.toNat := Iff.rfl

theorem State.le_next (s : State) (op : Op) : s ≤ s.next op := by
  cases op with
  | call req =>
    cases ho : s.onCall req.method with
    | error e => simp [State.next, ho]
    | ok next =>
      rcases State.onCall_ok_iff.mp ho with ⟨rfl, -, rfl⟩ | ⟨rfl, -, rfl⟩
      · simp [State.next, ho, State.toNat]
      · simp only [State.next, ho]
        by_cases hsd : req.method = request.Shutdown.METHOD <;> simp [hsd, State.toNat]
  | notify notif =>
    by_cases hi : notif.method = notification.Initialized.METHOD ∧ s = .initializing
    · obtain ⟨hm, rfl⟩ := hi
      simp [State.next, hm, State.toNat]
    · simp [State.next, hi]
  | pollReady => simp [State.next]
  | emit event => simp [State.next]

theorem State.le_run (s : State) (ops : List Op) : s ≤ (s.run ops).1 := by
  induction ops generalizing s with
  | nil => simp
  | cons op ops ih => exact Nat.le_trans (s.le_next op) (ih _)

/-! ## Sessions -/

section Session

variable {S F : Type} [LspService S F]

theorem session_consistent (inner : S) (ops : List Op) :
    Consistent (session inner ops).1.state (history (session inner ops).2) := by
  have h := session_refines inner ops
  simp only [Prod.ext_iff] at h
  rw [h.1, h.2]
  simpa using (show Consistent State.uninitialized [] from rfl).run ops

theorem session_state_le (inner : S) (ops ops' : List Op) :
    (session inner ops).1.state ≤ (session inner (ops ++ ops')).1.state := by
  have h := congrArg Prod.fst (Lifecycle.run_refines (session inner ops).1 ops')
  simp only at h
  unfold session at h ⊢
  rw [LspService.run_append]
  dsimp only
  rw [h]
  exact State.le_run _ ops'

/-- **Forwarding follows the LSP lifecycle.** Over every run of `Lifecycle::new(inner)`, the
requests handed to `inner.call` and the accepted `initialized` notifications form a prefix of
`initialize · initialized · other* · shutdown`, so the forwarded methods are either none or
`initialize · other* · shutdown?`. Every request that is not handed on is answered by a ready
error, with the inner service untouched. -/
theorem session_forwarding (inner : S) (ops : List Op) :
    LifecycleTrace (history (session inner ops).2) ∧
    (forwardedMethods (history (session inner ops).2) = [] ∨
      ∃ ms : List String, (∀ m ∈ ms, Other m) ∧
        (forwardedMethods (history (session inner ops).2) = request.Initialize.METHOD :: ms ∨
         forwardedMethods (history (session inner ops).2) =
           request.Initialize.METHOD :: ms ++ [request.Shutdown.METHOD])) ∧
    ∀ req : AnyRequest,
      (∃ next, (session inner ops).1.call req =
        ({ service := (LspService.call (session inner ops).1.service req).1, state := next },
          .left (LspService.call (session inner ops).1.service req).2)) ∨
      ∃ e, (session inner ops).1.call req = ((session inner ops).1, .right (ready (.error e))) :=
  ⟨(session_consistent inner ops).trace, (session_consistent inner ops).trace.forwardedMethods_eq,
    fun req => Lifecycle.call_forward_or_reject _ req⟩

/-- **The state is the history.** Along every run of `Lifecycle::new(inner)` the state never
decreases and is determined by the history; whatever the lifecycle answers by itself leaves its
state as it was. -/
theorem session_state_history (inner : S) (ops : List Op) :
    (∀ ops', (session inner ops).1.state ≤ (session inner (ops ++ ops')).1.state) ∧
    ((session inner ops).1.state = .uninitialized ↔
      .forwarded request.Initialize.METHOD ∉ history (session inner ops).2) ∧
    ((session inner ops).1.state = .initializing ↔
      .forwarded request.Initialize.METHOD ∈ history (session inner ops).2 ∧
        .accepted ∉ history (session inner ops).2) ∧
    ((session inner ops).1.state = .ready ↔
      .accepted ∈ history (session inner ops).2 ∧
        .forwarded request.Shutdown.METHOD ∉ history (session inner ops).2) ∧
    ((session inner ops).1.state = .shuttingDown ↔
      .forwarded request.Shutdown.METHOD ∈ history (session inner ops).2) ∧
    (∀ (l : Lifecycle S) (req : AnyRequest) (r : Ready (Except ResponseError JsonValue)),
      (l.call req).2 = .right r → (l.call req).1 = l) ∧
    (∀ (l : Lifecycle S) (notif : AnyNotification), notif.method = notification.Exit.METHOD →
      l.notify notif = (l, .break (.ok ()))) ∧
    (∀ (l : Lifecycle S) (notif : AnyNotification) (e : Error),
      notif.method = notification.Initialized.METHOD →
        (l.notify notif).2 = .break (.error e) → (l.notify notif).1 = l) ∧
    (∀ (l : Lifecycle S) (event : AnyEvent), (l.emit event).1.state = l.state) := by
  obtain ⟨hu, hi, hr, hs⟩ := (session_consistent inner ops).state_iff
  exact ⟨session_state_le inner ops, hu, hi, hr, hs, fun _ _ _ => Lifecycle.call_right,
    fun l _ => Lifecycle.notify_exit l, fun _ _ _ => Lifecycle.notify_initialized_break,
    fun _ _ => rfl⟩

/-! ## Every lifecycle history happens -/

/-- A request of the given method; its id and params play no part in the lifecycle. -/
def requestOf (method : String) : Op := .call ⟨.number 0, method, .null⟩

/-- `initialize` answered by the inner service, then `initialized`. -/
private def opening : List Op :=
  [requestOf request.Initialize.METHOD, .notify ⟨notification.Initialized.METHOD, .null⟩]

/-- **No dead end.** Whatever a run of `Lifecycle::new(inner)` went through, rejected requests
and misplaced `initialized` notifications included, at most three more invocations bring it to
`ShuttingDown`. This is a property of the `Lifecycle` value, which the code lets be driven on
after it answered `Break`: the run and its continuation may pass an `exit` or a misplaced
`initialized` that would end a real session. -/
theorem session_can_shut_down (inner : S) (ops : List Op) :
    ∃ ops', ops'.length ≤ 3 ∧ (session inner (ops ++ ops')).1.state = .shuttingDown := by
  have hrun (ops' : List Op) :
      (session inner (ops ++ ops')).1.state = ((State.uninitialized.run ops).1.run ops').1 := by
    have h₁ := congrArg Prod.fst (Lifecycle.run_refines (Lifecycle.new inner) (ops ++ ops'))
    have h₂ := congrArg Prod.fst (State.run_append State.uninitialized ops ops')
    exact h₁.trans h₂
  simp only [hrun]
  cases (State.uninitialized.run ops).1 with
  | uninitialized => exact ⟨opening ++ [requestOf request.Shutdown.METHOD], by decide, rfl⟩
  | initializing =>
    exact ⟨[.notify ⟨notification.Initialized.METHOD, .null⟩, requestOf request.Shutdown.METHOD],
      by decide, rfl⟩
  | ready => exact ⟨[requestOf request.Shutdown.METHOD], by decide, rfl⟩
  | shuttingDown => exact ⟨[], by decide, rfl⟩

end Session

end AsyncLsp
