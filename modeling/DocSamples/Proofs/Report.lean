import Mathlib
import DocSamples.Proofs.Verdict
import DocSamples.Report

namespace DocSamples

/-! # The alarm of a report

Each part of a report raises the alarm by itself and marks its own lines.  The two
agree: a report has failed exactly when it shows an error.
-/

namespace Report

/-- The alarm is raised when an error is shown, and not otherwise. -/
def Truthful (report : Report) : Prop :=
  report.failed = true ↔ ∃ line ∈ report.lines, line.severity = .error

@[simp] theorem lines_append (first second : Report) :
    (first ++ second).lines = first.lines ++ second.lines := rfl

@[simp] theorem failed_append (first second : Report) :
    (first ++ second).failed = (first.failed || second.failed) := rfl

theorem failed_concat (reports : List Report) :
    (concat reports).failed = reports.any (·.failed) := by
  induction reports with
  | nil => rfl
  | cons first rest ih =>
      have unfolded : concat (first :: rest) = first ++ concat rest := rfl
      simp [unfolded, ih]

theorem truthful_empty : empty.Truthful := by
  simp [Truthful, empty]

theorem Truthful.append {first second : Report} (firstTrue : first.Truthful)
    (secondTrue : second.Truthful) : (first ++ second).Truthful := by
  unfold Truthful at *
  simp only [failed_append, Bool.or_eq_true, lines_append, List.mem_append, firstTrue, secondTrue,
    or_and_right, exists_or]

theorem truthful_concat {reports : List Report} (each : ∀ report ∈ reports, report.Truthful) :
    (concat reports).Truthful := by
  induction reports with
  | nil => exact truthful_empty
  | cons first rest ih =>
      exact (each first (by simp)).append (ih fun report member => each report (by simp [member]))

theorem truthful_ofFailure {lines : List ReportLine}
    (shown : ∃ line ∈ lines, line.severity = .error) : (ofFailure lines).Truthful := by
  simpa [Truthful, ofFailure] using shown

theorem truthful_ofFragment (fragment : Fragment) : (ofFragment fragment).Truthful := by
  unfold Truthful ofFragment fragmentLine
  cases problems : fragment.problems with
  | nil => simp [Fragment.hasProblems, problems]
  | cons problem rest => simp [Fragment.hasProblems, problems]

theorem truthful_ofVerdict (session : Option String) {verdict : Verdict}
    (quiet : verdict.Quiet) : (ofVerdict session verdict).Truthful := by
  unfold Truthful ofVerdict verdictLine
  cases kind : verdict.kind with
  | ok => simp [Verdict.isOk, kind, quiet kind, blankLine]
  | projectFailed => simp [Verdict.isOk, kind]
  | samplesFailed => simp [Verdict.isOk, kind]

theorem truthful_ofSession {outcome : SessionOutcome}
    (quiet : ∀ verdict, outcome.verdict = some verdict → verdict.Quiet) :
    (ofSession outcome).Truthful := by
  unfold ofSession
  refine Truthful.append (truthful_concat ?_) ?_
  · intro report member
    obtain ⟨fragment, _, rfl⟩ := List.mem_map.mp member
    exact truthful_ofFragment fragment
  · cases outcome.session.fault? with
    | some fault => exact truthful_ofFailure ⟨_, List.mem_singleton_self _, rfl⟩
    | none =>
        cases given : outcome.verdict with
        | none => exact truthful_empty
        | some verdict =>
            by_cases problems : outcome.session.hasProblems
            · simpa [problems] using truthful_empty
            · simpa [problems] using truthful_ofVerdict _ (quiet verdict given)

theorem truthful_ofDocumentError (error : Option String) : (ofDocumentError error).Truthful := by
  unfold ofDocumentError
  cases error.filter (· ≠ "") with
  | none => exact truthful_empty
  | some error => exact truthful_ofFailure ⟨_, List.mem_singleton_self _, rfl⟩

theorem truthful_ofDocument {outcome : DocumentOutcome}
    (quiet : ∀ session ∈ outcome.sessions, ∀ verdict, session.verdict = some verdict →
      verdict.Quiet) :
    (ofDocument outcome).Truthful := by
  unfold ofDocument
  refine Truthful.append (Truthful.append ?_ (truthful_ofDocumentError _)) (truthful_concat ?_)
  · simp [Truthful, ofLines, heading, blankLine]
  · intro report member
    obtain ⟨session, inside, rfl⟩ := List.mem_map.mp member
    exact truthful_ofSession (quiet session inside)

/-! ## What raises the alarm -/

/-- A session raises no alarm when its fragments are sound, it spans no projects and
its verdict, if there is one, is good. -/
theorem ofSession_failed_eq_false {outcome : SessionOutcome} :
    (ofSession outcome).failed = false ↔
      (∀ fragment ∈ outcome.session.fragments, fragment.problems = []) ∧
      outcome.session.spansProjects = false ∧
      ∀ verdict, outcome.verdict = some verdict → verdict.kind = .ok := by
  have fragments : (concat (outcome.session.fragments.map ofFragment)).failed = false ↔
      outcome.session.hasProblems = false := by
    simp [failed_concat, Session.hasProblems, ofFragment]
  have problems : outcome.session.hasProblems = false ↔
      ∀ fragment ∈ outcome.session.fragments, fragment.problems = [] := by
    simp [Session.hasProblems, Fragment.hasProblems]
  rw [← problems]
  unfold ofSession
  simp only [failed_append, Bool.or_eq_false_iff, fragments]
  refine and_congr_right fun sound => ?_
  cases spans : outcome.session.spansProjects with
  | true => simp [Session.fault?, spans, ofFailure]
  | false =>
      cases given : outcome.verdict with
      | none => simp [Session.fault?, spans, empty]
      | some verdict => simp [Session.fault?, spans, sound, ofVerdict, Verdict.isOk]

theorem ofDocument_failed_eq_false {outcome : DocumentOutcome} :
    (ofDocument outcome).failed = false ↔
      outcome.error.filter (· ≠ "") = none ∧
      ∀ session ∈ outcome.sessions, (ofSession session).failed = false := by
  have error : (ofDocumentError outcome.error).failed = false ↔
      outcome.error.filter (· ≠ "") = none := by
    unfold ofDocumentError
    cases outcome.error.filter (· ≠ "") <;> simp [empty, ofFailure]
  unfold ofDocument
  simp only [failed_append, Bool.or_eq_false_iff, error, failed_concat]
  simp [ofLines]

end Report

end DocSamples
