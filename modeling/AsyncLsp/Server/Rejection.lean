import AsyncLsp.Server.History
import AsyncLsp.OmniTrait

/-!
# Error codes of rejected requests

`Lifecycle::call` checks the state before the method: until `initialized` is
accepted every rejected request, a repeated `initialize` included, is answered
`SERVER_NOT_INITIALIZED`; after it, a repeated `initialize` and every request
once `shutdown` was forwarded are answered `INVALID_REQUEST`
(`session_rejection_code`).
-/

namespace AsyncLsp

section Session

variable {S F : Type} [LspService S F]

theorem Lifecycle.onCall_of_right {l : Lifecycle S} {req : AnyRequest} {e : ResponseError}
    (h : (l.call req).2 = .right (ready (.error e))) : l.state.onCall req.method = .error e := by
  cases ho : l.state.onCall req.method with
  | ok next => simp [Lifecycle.call_forward ho] at h
  | error e' => simp [Lifecycle.call_reject ho, ready] at h; rw [h]

/-- **The code of a rejected request.** After every run of `Lifecycle::new(inner)`, a request
the lifecycle rejects is answered `INVALID_REQUEST` when it is an `initialize` after an
accepted `initialized`, or when a `shutdown` was forwarded; otherwise `SERVER_NOT_INITIALIZED`,
a second `initialize` before `initialized` included. -/
theorem session_rejection_code (inner : S) (ops : List Op) (req : AnyRequest) (e : ResponseError)
    (h : ((session inner ops).1.call req).2 = .right (ready (.error e))) :
    e.code =
      if (req.method = request.Initialize.METHOD ∧ .accepted ∈ history (session inner ops).2) ∨
          .forwarded request.Shutdown.METHOD ∈ history (session inner ops).2
      then .INVALID_REQUEST else .SERVER_NOT_INITIALIZED := by
  have hc := session_consistent inner ops
  have ho := Lifecycle.onCall_of_right h
  simp only [hc.accepted_mem_iff, hc.state_iff.2.2.2.symm]
  rcases State.onCall_error_iff.mp ho with ⟨hs, rfl⟩ | ⟨hs, hm, rfl⟩ | ⟨hs, hm, rfl⟩
  · rcases hs with ⟨hs, -⟩ | hs <;> simp [hs]
  · rcases hs with hs | hs <;> simp [hs, hm]
  · simp [hs]

/-- After `initialize`, `initialized` and `shutdown`, a hover request is answered
`INVALID_REQUEST`. -/
theorem hover_after_shutdown_code :
    ((session (⟨.null⟩ : DefaultServer)
        [.call ⟨.number 1, "initialize", .null⟩, .notify ⟨"initialized", .null⟩,
          .call ⟨.number 2, "shutdown", .null⟩]).1.call
        ⟨.number 3, "textDocument/hover", .null⟩).2 =
      .right (ready (.error .shuttingDown)) ∧
    ResponseError.shuttingDown.code =
      if ("textDocument/hover" = request.Initialize.METHOD ∧
          .accepted ∈ history (session (⟨.null⟩ : DefaultServer)
            [.call ⟨.number 1, "initialize", .null⟩, .notify ⟨"initialized", .null⟩,
              .call ⟨.number 2, "shutdown", .null⟩]).2) ∨
          .forwarded request.Shutdown.METHOD ∈ history (session (⟨.null⟩ : DefaultServer)
            [.call ⟨.number 1, "initialize", .null⟩, .notify ⟨"initialized", .null⟩,
              .call ⟨.number 2, "shutdown", .null⟩]).2
      then .INVALID_REQUEST else .SERVER_NOT_INITIALIZED :=
  ⟨rfl, session_rejection_code _ _ ⟨.number 3, "textDocument/hover", .null⟩ _ rfl⟩

/-- A second `initialize`, sent after the first was forwarded but before `initialized`, is
answered `SERVER_NOT_INITIALIZED`, not `INVALID_REQUEST`. -/
theorem initialize_twice_not_invalid_request :
    history (session (⟨.null⟩ : DefaultServer) [.call ⟨.number 1, "initialize", .null⟩]).2 =
      [.forwarded request.Initialize.METHOD] ∧
    ((session (⟨.null⟩ : DefaultServer) [.call ⟨.number 1, "initialize", .null⟩]).1.call
        ⟨.number 2, "initialize", .null⟩).2 = .right (ready (.error .notInitializedYet)) ∧
    ResponseError.notInitializedYet.code ≠ .INVALID_REQUEST :=
  ⟨rfl, rfl, by decide⟩

end Session

end AsyncLsp
