import Mathlib
import DocSamples.Proofs.Report
import DocSamples.Proofs.Run.Parallel

namespace DocSamples

/-! # The exit code of a run

A run succeeds when every document passes: it can be read, and each of its sessions is
sound and compiles.  Nothing else is behind the exit code, and nothing else behind the
errors that are shown.
-/

namespace RunPlan

variable {plan : RunPlan} {document : Path} {outcome : DocumentOutcome} {result : RunResult}

def Passes (plan : RunPlan) (document : Path) : Prop :=
  ∃ fragments includes,
    (Document.fragments plan.tree document plan.root).outcome = .ok fragments ∧
    Includes.collect plan.tree plan.includeDefaults fragments = .ok includes ∧
    (∀ fragment ∈ fragments, fragment.problems = []) ∧
    ∀ session ∈ Session.ofFragments fragments,
      session.NamesOneProject ∧
      ∃ verdict, (plan.compiler.verify (.ofSession session includes)).outcome = .ok verdict ∧
        verdict.kind = .ok

theorem unreadableDocumentText_ne_empty (document : Path) (fault : ReadFault) :
    unreadableDocumentText document fault ≠ "" := by
  unfold unreadableDocumentText
  rw [Ne, String.append_eq_empty_iff, String.append_eq_empty_iff, String.append_eq_empty_iff]
  simp

/-- A session that is settled is either sound, with the verdict of its compiler, or it
raises the alarm by itself. -/
theorem ofSession_failed_of_isSettledBy {settled : SessionOutcome} {includes : Includes}
    (verdict : settled.IsSettledBy plan.compiler includes) :
    (Report.ofSession settled).failed = false ↔
      (∀ fragment ∈ settled.session.fragments, fragment.problems = []) ∧
      settled.session.NamesOneProject ∧
      ∃ verdict, (plan.compiler.verify (.ofSession settled.session includes)).outcome =
        .ok verdict ∧ verdict.kind = .ok := by
  rw [Report.ofSession_failed_eq_false, ← Session.spansProjects_eq_false_iff]
  refine and_congr_right fun sound => and_congr_right fun single => ?_
  have compilable : settled.session.isCompilable = true :=
    Session.isCompilable_iff.mpr ⟨single, sound⟩
  rw [SessionOutcome.IsSettledBy, if_pos compilable] at verdict
  obtain ⟨verdict, given, verified⟩ := verdict
  simp [given, verified]

/-- The alarm is not raised for a document exactly when it passes. -/
theorem ofDocument_failed_iff_passes
    (verified : (plan.verifyDocument plan.oneByOne document).outcome = .ok outcome) :
    (Report.ofDocument outcome).failed = false ↔ plan.Passes document := by
  rw [Report.ofDocument_failed_eq_false]
  rcases verifyDocument_eq_ok verified with
    ⟨name, fault, unread, rfl⟩ | ⟨fragments, includes, read, collected, noError, sessions, settled⟩
  · have told : (some (unreadableDocumentText name fault)).filter (· ≠ "") ≠ none := by
      simp [unreadableDocumentText_ne_empty]
    constructor
    · rintro ⟨silent, _⟩
      exact absurd silent told
    · rintro ⟨fragments, _, read, _⟩
      rw [unread] at read
      cases read
  · have each : (∀ session ∈ outcome.sessions, (Report.ofSession session).failed = false) ↔
        ∀ session ∈ Session.ofFragments fragments,
          (∀ fragment ∈ session.fragments, fragment.problems = []) ∧
          session.NamesOneProject ∧
          ∃ verdict, (plan.compiler.verify (.ofSession session includes)).outcome =
            .ok verdict ∧ verdict.kind = .ok := by
      rw [← sessions, List.forall_mem_map]
      exact forall₂_congr fun session member =>
        ofSession_failed_of_isSettledBy (settled session member)
    rw [each, noError]
    simp only [Option.filter_none, true_and, forall_and, Session.forall_fragments_iff]
    constructor
    · rintro ⟨sound, single, verdicts⟩
      exact ⟨fragments, includes, read, collected, sound, fun session member =>
        ⟨single session member, verdicts session member⟩⟩
    · rintro ⟨others, otherIncludes, otherRead, otherCollected, sound, sessionsPass⟩
      cases read.symm.trans otherRead
      cases collected.symm.trans otherCollected
      exact ⟨sound, fun session member => (sessionsPass session member).1,
        fun session member => (sessionsPass session member).2⟩

theorem truthful_ofDocument_of_verified
    (verified : (plan.verifyDocument plan.oneByOne document).outcome = .ok outcome) :
    (Report.ofDocument outcome).Truthful := by
  apply Report.truthful_ofDocument
  intro session member verdict given
  rcases verifyDocument_eq_ok verified with
    ⟨_, _, _, rfl⟩ | ⟨_, includes, _, _, _, _, settled⟩
  · cases member
  · have settlement := settled session member
    unfold SessionOutcome.IsSettledBy at settlement
    split at settlement
    · obtain ⟨found, told, verified⟩ := settlement
      cases given.symm.trans told
      exact Verdict.quiet_of_verify verified
    · cases given.symm.trans settlement

/-- A session without a verdict is not sound, so its document raises the alarm. -/
theorem verdict_ok_of_not_failed
    (verified : (plan.verifyDocument plan.oneByOne document).outcome = .ok outcome)
    (silent : (Report.ofDocument outcome).failed = false) :
    outcome.error = none ∧
      ∀ session ∈ outcome.sessions, ∃ verdict, session.verdict = some verdict ∧
        verdict.kind = .ok := by
  have passing := Report.ofDocument_failed_eq_false.mp silent
  rcases verifyDocument_eq_ok verified with
    ⟨name, fault, _, rfl⟩ | ⟨_, includes, _, _, noError, _, settled⟩
  · simp [unreadableDocumentText_ne_empty] at passing
  · refine ⟨noError, fun session member => ?_⟩
    obtain ⟨sound, single, good⟩ := Report.ofSession_failed_eq_false.mp (passing.2 session member)
    have settlement := settled session member
    rw [SessionOutcome.IsSettledBy,
      if_pos (Session.isCompilable_iff.mpr ⟨single, sound⟩)] at settlement
    obtain ⟨verdict, told, _⟩ := settlement
    exact ⟨verdict, told, good verdict told⟩

/-! ## The run -/

theorem run_eq_ok (room : 1 ≤ plan.settings.maxConcurrency)
    (completed : plan.run.outcome = .ok result) :
    ∃ documents, (Discovery.documents plan.tree plan.settings.documents).outcome = .ok documents ∧
      ((documents = [] ∧ result.exitCode = RunResult.noInputCode) ∨
      (documents ≠ [] ∧
        List.Forall₂ (fun document outcome =>
          (plan.verifyDocument plan.oneByOne document).outcome = .ok outcome)
          documents result.outcomes ∧
        result.lines = (Report.concat (result.outcomes.map Report.ofDocument)).lines ∧
        result.exitCode =
          if (Report.concat (result.outcomes.map Report.ofDocument)).failed
          then RunResult.failureCode else RunResult.successCode)) := by
  rw [run_eq_runBy_oneByOne room] at completed
  obtain ⟨documents, discovered, ends⟩ := runBy_cases completed
  exact ⟨documents, discovered,
    ends.imp (fun ⟨empty, _, _, exitCode⟩ => ⟨empty, exitCode⟩) id⟩

end RunPlan

end DocSamples
