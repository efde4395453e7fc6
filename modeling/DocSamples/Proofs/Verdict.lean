import Mathlib
import DocSamples.Proofs.Attempt
import DocSamples.Verdict

namespace DocSamples

/-! # How verdicts come about -/

/-- What a compiler says about a workspace, or why it says nothing, decides the verdict. -/
theorem Compiler.verify_eq_ok {compiler : Compiler} {workspace : Workspace} {verdict : Verdict} :
    (compiler.verify workspace).outcome = .ok verdict ↔
      (∃ result, (compiler.compile workspace).outcome = .ok result ∧
        verdict = .ofResult workspace.project result) ∨
      (∃ fault, (compiler.compile workspace).outcome = .error (.compiler fault) ∧
        verdict = .ofFault workspace.project fault) := by
  unfold Compiler.verify
  simp only [Attempt.bind_eq_ok, Attempt.outcome_note, Attempt.outcome_settled,
    Except.ok.injEq, exists_eq_left']
  cases compiled : (compiler.compile workspace).outcome with
  | ok result => simp [eq_comm]
  | error fault =>
      cases fault with
      | compiler fault =>
          simp only [Attempt.bind_eq_ok, Attempt.outcome_note, Attempt.outcome_pure]
          simp [eq_comm]
      | breakdown cause => simp

namespace Verdict

/-- A verdict has nothing to complain about when it is good. -/
def Quiet (verdict : Verdict) : Prop :=
  verdict.kind = .ok → verdict.diagnostics = []

theorem quiet_ofResult (project : Option String) (result : CompileResult) :
    (ofResult project result).Quiet := by
  unfold ofResult Quiet
  split
  · split <;> simp
  · simp

theorem quiet_ofFault (project : Option String) (fault : CompilerFault) :
    (ofFault project fault).Quiet := by
  simp [ofFault, Quiet]

theorem quiet_of_verify {compiler : Compiler} {workspace : Workspace} {verdict : Verdict}
    (verified : (compiler.verify workspace).outcome = .ok verdict) : verdict.Quiet := by
  rcases Compiler.verify_eq_ok.mp verified with ⟨result, _, rfl⟩ | ⟨fault, _, rfl⟩
  · exact quiet_ofResult _ _
  · exact quiet_ofFault _ _

end Verdict

end DocSamples
