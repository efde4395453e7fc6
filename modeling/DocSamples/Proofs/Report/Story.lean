import DocSamples.Proofs.Run.ExitCode
import DocSamples.Proofs.Run.Submission
import DocSamples.Report.Summary

namespace DocSamples

/-! # One story told twice

The lines of a report and its summary are made apart from each other.  Both are read here as
tidings, one after the other: the lines by their kinds, the summary by the names of its fields.
-/

/-- One thing that a report tells. -/
inductive Tiding where
  | document (path : String)
  | documentError (error : String)
  | checking
  | fragment (number : Int) (sound : Bool)
  | problem (text : String)
  | sessionError (error : String)
  | verdict (good : Bool)
deriving DecidableEq, Repr

/-! ## The tidings of a run -/

def Fragment.tidings (fragment : Fragment) : List Tiding :=
  .checking :: .fragment (fragment.line + 1) fragment.problems.isEmpty ::
    fragment.problems.map fun problem => .problem problem.text

def Verdict.tidings (verdict : Verdict) : List Tiding :=
  .verdict verdict.isOk :: verdict.diagnostics.map fun diagnostic => .problem diagnostic.text

def SessionOutcome.tidings (outcome : SessionOutcome) : List Tiding :=
  outcome.session.fragments.flatMap Fragment.tidings ++
    outcome.session.fault?.toList.map .sessionError ++
    outcome.verdict.toList.flatMap Verdict.tidings

def DocumentOutcome.tidings (outcome : DocumentOutcome) : List Tiding :=
  .document outcome.document.text :: outcome.error.toList.map .documentError ++
    outcome.sessions.flatMap SessionOutcome.tidings

/-! ## Reading a summary -/

namespace Json

def field? (name : String) : Json → Option Json
  | .object fields => fields.lookup name
  | _ => none

def text? : Json → Option String
  | .text value => some value
  | _ => none

def integer? : Json → Option Int
  | .integer value => some value
  | _ => none

/-- All items of a list, each read in the same way. -/
def items? {α : Type} (read : Json → Option α) : Json → Option (List α)
  | .list items => items.mapM read
  | _ => none

/-- A value that may be null. -/
def nullable? {α : Type} (read : Json → Option α) : Json → Option (Option α)
  | .null => some none
  | value => (read value).map some

variable {α β : Type} {read : Json → Option β}

theorem items?_map {write : α → Json} {value : α → β}
    (reads : ∀ item, read (write item) = some (value item)) (items : List α) :
    (list (items.map write)).items? read = some (items.map value) := by
  induction items with
  | nil => rfl
  | cons item rest ih =>
      rw [items?] at ih ⊢
      rw [List.map_cons, List.mapM_cons, reads, ih]
      rfl

@[simp] theorem nullable?_optionalText (value : Option String) :
    (optionalText value).nullable? text? = some value := by
  cases value <;> rfl

@[simp] theorem items?_texts (values : List String) :
    (texts values).items? text? = some values := by
  simpa [texts] using @items?_map String String text? text id (fun _ => rfl) values

end Json

namespace Tiding

def ofFragmentSummary (value : Json) : Option (List Tiding) := do
  let number ← (← value.field? "line").integer?
  let problems ← (← value.field? "diagnostics").items? Json.text?
  return .checking :: .fragment number problems.isEmpty :: problems.map .problem

/-- A location that is there and not empty stands in front of the message. -/
def ofDiagnosticSummary (value : Json) : Option Tiding := do
  let message ← (← value.field? "message").text?
  let location ← (← value.field? "location").nullable? Json.text?
  return .problem (((location.filter (· ≠ "")).map (· ++ ": ")).getD "" ++ message)

def ofVerdictSummary (value : Json) : Option (List Tiding) := do
  let kind ← (← value.field? "kind").text?
  let problems ← (← value.field? "diagnostics").items? ofDiagnosticSummary
  return .verdict (kind == "ok") :: problems

def ofSessionSummary (value : Json) : Option (List Tiding) := do
  let fragments ← (← value.field? "fragments").items? ofFragmentSummary
  let error ← (← value.field? "error").nullable? Json.text?
  let verdict ← (← value.field? "verdict").nullable? ofVerdictSummary
  return fragments.flatten ++ error.toList.map .sessionError ++ verdict.toList.flatten

def ofDocumentSummary (value : Json) : Option (List Tiding) := do
  let path ← (← value.field? "path").text?
  let error ← (← value.field? "error").nullable? Json.text?
  let sessions ← (← value.field? "sessions").items? ofSessionSummary
  return .document path :: error.toList.map .documentError ++ sessions.flatten

/-- What a summary tells from its beginning to its end, if it is one. -/
def ofSummary (value : Json) : Option (List Tiding) := do
  let documents ← (← value.field? "documents").items? ofDocumentSummary
  return documents.flatten

theorem ofFragmentSummary_summary (fragment : Fragment) :
    ofFragmentSummary (Report.fragmentSummary fragment) = some fragment.tidings := by
  simp [ofFragmentSummary, Report.fragmentSummary, Json.field?, List.lookup, Json.integer?,
    Fragment.tidings]

theorem ofDiagnosticSummary_summary (diagnostic : Diagnostic) :
    ofDiagnosticSummary (Report.diagnosticSummary diagnostic) =
      some (.problem diagnostic.text) := by
  obtain ⟨message, location, severity⟩ := diagnostic
  cases location with
  | none =>
      simp [ofDiagnosticSummary, Report.diagnosticSummary, Json.field?, List.lookup, Json.text?,
        Diagnostic.text]
  | some location =>
      by_cases empty : location = "" <;>
        simp [ofDiagnosticSummary, Report.diagnosticSummary, Json.field?, List.lookup, Json.text?,
          Diagnostic.text, Option.filter, empty]

theorem ofVerdictSummary_summary (verdict : Verdict) :
    ofVerdictSummary (Report.verdictSummary verdict) = some verdict.tidings := by
  have kind : (verdict.kind.name == "ok") = verdict.isOk := by
    cases same : verdict.kind <;> simp [VerdictKind.name, Verdict.isOk, same]
  simp [ofVerdictSummary, Report.verdictSummary, Json.field?, List.lookup, Json.text?, kind,
    Json.items?_map ofDiagnosticSummary_summary, Verdict.tidings]

theorem ofSessionSummary_summary (outcome : SessionOutcome) :
    ofSessionSummary (Report.sessionSummary outcome) = some outcome.tidings := by
  have verdict : ((outcome.verdict.map Report.verdictSummary).getD .null).nullable?
      ofVerdictSummary = some (outcome.verdict.map Verdict.tidings) := by
    cases outcome.verdict with
    | none => rfl
    | some verdict => exact congrArg (Option.map some) (ofVerdictSummary_summary verdict)
  have flat : (outcome.verdict.map Verdict.tidings).toList.flatten =
      outcome.verdict.toList.flatMap Verdict.tidings := by
    cases outcome.verdict <;> simp
  simp [ofSessionSummary, Report.sessionSummary, Json.field?, List.lookup, verdict, flat,
    Json.items?_map ofFragmentSummary_summary, SessionOutcome.tidings, List.flatMap_def]

theorem ofDocumentSummary_summary (outcome : DocumentOutcome) :
    ofDocumentSummary (Report.documentSummary outcome) = some outcome.tidings := by
  simp [ofDocumentSummary, Report.documentSummary, Json.field?, List.lookup, Json.text?,
    Json.items?_map ofSessionSummary_summary, DocumentOutcome.tidings, List.flatMap_def]

/-- A summary tells everything that is in the outcomes, in their order. -/
theorem ofSummary_summary (outcomes : List DocumentOutcome) (exitCode : Int) :
    ofSummary (Report.summary outcomes exitCode) =
      some (outcomes.flatMap DocumentOutcome.tidings) := by
  simp [ofSummary, Report.summary, Json.field?, List.lookup,
    Json.items?_map ofDocumentSummary_summary, List.flatMap_def]

/-! ## Reading lines -/

/-- Lines of the other kinds set off what is told. -/
def isLine : LineKind → Bool
  | .blank | .underline | .sessionHeader | .noInput => false
  | _ => true

/-- What a line is like that tells something. -/
def IsToldBy (tiding : Tiding) (line : ReportLine) : Prop :=
  match tiding with
  | .document path => line = ⟨.document, path, .plain⟩
  | .documentError error => line = ⟨.documentError, "  " ++ error, .error⟩
  | .checking => line = ⟨.checking, "  Checking Markdown...", .plain⟩
  | .fragment number sound =>
      line.kind = .fragment ∧ line.severity = (if sound then .success else .error) ∧
        ∃ origin, line.text = "    " ++ (if sound then "✓" else "X") ++ "  Line " ++
          toString number ++ ":\t" ++ origin
  | .problem text => line = ⟨.diagnostic, "\t\t" ++ text, .error⟩
  | .sessionError error => line = ⟨.sessionError, "  " ++ error, .error⟩
  | .verdict good => line.kind = .verdict ∧ line.severity = if good then .success else .error

end Tiding

namespace Report

/-- The lines of a report tell some tidings in order, each in one line, and nothing else. -/
def Tells (report : Report) (tidings : List Tiding) : Prop :=
  List.Forall₂ Tiding.IsToldBy tidings (report.lines.filter (Tiding.isLine ·.kind))

theorem Tells.append {first second : Report} {before after : List Tiding}
    (firstTells : first.Tells before) (secondTells : second.Tells after) :
    (first ++ second).Tells (before ++ after) := by
  rw [Tells, lines_append, List.filter_append]
  exact List.rel_append firstTells secondTells

theorem tells_empty : empty.Tells [] := .nil

theorem tells_concat {α : Type} {items : List α} {report : α → Report} {tidings : α → List Tiding}
    (each : ∀ item ∈ items, (report item).Tells (tidings item)) :
    (concat (items.map report)).Tells (items.flatMap tidings) := by
  induction items with
  | nil => exact tells_empty
  | cons first rest ih =>
      exact (each first (by simp)).append (ih fun item member => each item (by simp [member]))

theorem tells_diagnosticLines (diagnostics : List Diagnostic) :
    (ofLines (diagnostics.map diagnosticLine)).Tells
      (diagnostics.map fun diagnostic => .problem diagnostic.text) := by
  induction diagnostics with
  | nil => exact .nil
  | cons diagnostic rest ih => exact .cons rfl ih

theorem tells_ofFragment (fragment : Fragment) : (ofFragment fragment).Tells fragment.tidings := by
  refine .cons rfl (.cons ⟨rfl, ?_, ?_⟩ (tells_diagnosticLines fragment.problems))
  · cases problems : fragment.problems <;> simp [fragmentLine, Fragment.hasProblems, problems]
  · refine ⟨(fragment.sourceFile.map Path.text).getD unknown ++ " (in project " ++
      (fragment.project.filter (· ≠ "")).getD unknown ++ ")", ?_⟩
    cases problems : fragment.problems <;>
      simp [fragmentLine, Fragment.hasProblems, problems, success, failure, String.append_assoc]

theorem tells_ofVerdict (session : Option String) (verdict : Verdict) :
    (ofVerdict session verdict).Tells verdict.tidings := by
  have line : Tiding.IsToldBy (.verdict verdict.isOk) (verdictLine (session.getD "") verdict) := by
    cases kind : verdict.kind <;> simp [Tiding.IsToldBy, verdictLine, Verdict.isOk, kind]
  have told : Tiding.isLine (verdictLine (session.getD "") verdict).kind = true := by
    rw [line.1]
    rfl
  have lines : (ofVerdict session verdict).lines.filter (Tiding.isLine ·.kind) =
      (verdictLine (session.getD "") verdict :: verdict.diagnostics.map diagnosticLine).filter
        (Tiding.isLine ·.kind) := rfl
  simp only [Tells, lines, List.filter_cons, told, if_true]
  exact .cons line (tells_diagnosticLines verdict.diagnostics)

/-- A verdict that is given on a session is told, since the session can be compiled. -/
theorem tells_ofSession {outcome : SessionOutcome}
    (compiled : ∀ verdict, outcome.verdict = some verdict → outcome.session.isCompilable = true) :
    (ofSession outcome).Tells outcome.tidings := by
  rw [SessionOutcome.tidings, List.append_assoc]
  refine (tells_concat fun fragment _ => tells_ofFragment fragment).append ?_
  cases given : outcome.verdict with
  | none =>
      cases outcome.session.fault? with
      | none => exact tells_empty
      | some fault => exact .cons rfl .nil
  | some verdict =>
      obtain ⟨single, sound⟩ := Session.isCompilable_iff.mp (compiled verdict given)
      have whole : outcome.session.hasProblems = false := by
        simpa [Session.hasProblems, Fragment.hasProblems] using sound
      simpa [Session.fault?, single, whole] using tells_ofVerdict outcome.session.name verdict

theorem tells_ofDocument {outcome : DocumentOutcome} (worded : outcome.error ≠ some "")
    (compiled : ∀ session ∈ outcome.sessions, ∀ verdict, session.verdict = some verdict →
      session.session.isCompilable = true) :
    (ofDocument outcome).Tells outcome.tidings := by
  have heading : (ofLines (heading outcome.document)).Tells [.document outcome.document.text] :=
    .cons rfl .nil
  have error : (ofDocumentError outcome.error).Tells (outcome.error.toList.map .documentError) := by
    cases given : outcome.error with
    | none => exact tells_empty
    | some error =>
        have filled : error ≠ "" := fun empty => worded (by rw [given, empty])
        have told : ofDocumentError (some error) =
            ofFailure [⟨.documentError, "  " ++ error, .error⟩] := by
          simp [ofDocumentError, Option.filter, filled]
        rw [told]
        exact .cons rfl .nil
  exact (heading.append error).append
    (tells_concat fun session member => tells_ofSession (compiled session member))

end Report

/-! ## Outcomes of a run -/

namespace RunPlan

variable {plan : RunPlan} {compiling : Compiling} {document : Path} {outcome : DocumentOutcome}
  {result : RunResult}

/-- Answers are given to jobs that there are, and to no others. -/
def AnswersJobs (compiling : Compiling) : Prop :=
  ∀ document works, ∀ answer ∈ compiling document works, answer.1 ∈ works.map Prod.fst

theorem answersJobs_compiling (plan : RunPlan) : AnswersJobs plan.compiling := by
  intro document works answer member
  rw [compiling] at member
  split at member
  · obtain ⟨work, inside, found⟩ := List.mem_filterMap.mp member
    obtain ⟨_, _, rfl⟩ := Option.map_eq_some_iff.mp found
    exact List.mem_map.mpr ⟨work, inside, rfl⟩
  · obtain ⟨work, inside, rfl⟩ := List.mem_map.mp member
    exact List.mem_map.mpr ⟨work, inside, rfl⟩

theorem fst_mem_of_verdicts {works : List (Nat × Workspace)} {found : List (Nat × Verdict)}
    (answers : AnswersJobs compiling)
    (verified : (verdicts compiling document works).outcome = .ok found) :
    ∀ verdict ∈ found, verdict.1 ∈ works.map Prod.fst := by
  intro verdict member
  have each := Attempt.each_eq_ok.mp verified
  obtain ⟨⟨number, answer⟩, inside, related⟩ := exists_of_mem_forall₂ each.flip member
  obtain ⟨_, _, same⟩ := Attempt.bind_eq_ok.mp related
  obtain rfl := Except.ok.inj same
  exact answers document works _ inside

theorem compilable_of_verdict (answers : AnswersJobs compiling)
    (verified : (plan.verifyDocument compiling document).outcome = .ok outcome) :
    outcome.error ≠ some "" ∧
      ∀ session ∈ outcome.sessions, ∀ verdict, session.verdict = some verdict →
        session.session.isCompilable = true := by
  cases read : (Document.fragments plan.tree document plan.root).outcome with
  | error fault =>
      obtain ⟨name, cause, rfl, rfl⟩ := (verifyDocument_of_unread read).mp verified
      exact ⟨by simpa using unreadableDocumentText_ne_empty name cause, by simp⟩
  | ok fragments =>
      obtain ⟨includes, found, _, each, rfl⟩ := (verifyDocument_of_read read).mp verified
      refine ⟨by simp [outcomeOf], fun session member verdict given => ?_⟩
      obtain ⟨⟨session, number⟩, inside, rfl⟩ := List.mem_map.mp member
      have place := List.mk_mem_zipIdx_iff_getElem?.mp inside
      obtain ⟨before, after, split, _⟩ := List.lookup_eq_some_iff.mp given
      obtain ⟨⟨_, workspace⟩, job, rfl⟩ := List.mem_map.mp
        (fst_mem_of_verdicts answers each (number, verdict) (by simp [split]))
      obtain ⟨other, otherPlace, compilable, _⟩ := mem_jobs.mp job
      cases otherPlace.symm.trans place
      exact compilable

/-- A run that comes to an end reports on its documents one by one, or that there are none. -/
theorem runBy_eq_ok (completed : (plan.runBy compiling).outcome = .ok result) :
    ∃ documents, (Discovery.documents plan.tree plan.settings.documents).outcome = .ok documents ∧
      List.Forall₂ (fun document outcome =>
        (plan.verifyDocument compiling document).outcome = .ok outcome) documents result.outcomes ∧
      result.lines = if documents = [] then (Report.ofNoInput plan.root).lines
        else (Report.concat (result.outcomes.map Report.ofDocument)).lines := by
  obtain ⟨documents, discovered, ⟨rfl, none, lines, _⟩ | ⟨some, each, lines, _⟩⟩ :=
    runBy_cases completed
  · exact ⟨[], discovered, by simp [none], by rw [if_pos rfl, lines]⟩
  · exact ⟨documents, discovered, each, by rw [if_neg some, lines]⟩

/-- Lines and summary of a run tell the same in the same order, and that is all that has come of
it: each document, each fragment with its problems, and each verdict with what it says. -/
theorem run_told_twice (completed : plan.run.outcome = .ok result) :
    ∃ tidings, Tiding.ofSummary (Report.summary result.outcomes result.exitCode) = some tidings ∧
      List.Forall₂ Tiding.IsToldBy tidings (result.lines.filter (Tiding.isLine ·.kind)) ∧
      tidings = result.outcomes.flatMap DocumentOutcome.tidings := by
  refine ⟨_, Tiding.ofSummary_summary _ _, ?_, rfl⟩
  obtain ⟨documents, _, each, lines⟩ := runBy_eq_ok completed
  rw [lines]
  split
  · rename_i empty
    rw [empty, List.forall₂_nil_left_iff] at each
    rw [each]
    exact .nil
  · refine Report.tells_concat fun outcome member => ?_
    obtain ⟨document, _, verified⟩ := exists_of_mem_forall₂ each.flip member
    obtain ⟨worded, compiled⟩ := compilable_of_verdict (answersJobs_compiling plan) verified
    exact Report.tells_ofDocument worded compiled

def misspelt : Diagnostic where
  message := "invalid syntax"
  location := some "<sample 1>(1,1)"

/-- The plan with a compiler that turns every sample down. -/
def ofRejectedDocument : RunPlan :=
  { ofMixedDocument with
    compiler :=
      { name := "scripted"
        compile := fun _ => .done { succeeded := false, diagnostics := [misspelt] } } }

/-- A fragment with a problem, whose session is passed over, and a session that fails. -/
theorem run_told_twice_rejected :
    ∃ result, ofRejectedDocument.run.outcome = .ok result ∧
      Tiding.ofSummary (Report.summary result.outcomes result.exitCode) = some [
        .document "/a", .checking, .fragment 1 false, .problem "Unrecognized argument: stray",
        .checking, .fragment 3 true, .verdict false,
        .problem "<sample 1>(1,1): invalid syntax"] ∧
      (result.lines.filter (Tiding.isLine ·.kind)).length = 8 := by
  have judged : (verdicts ofRejectedDocument.compiling (.ofNames .root ["a"])
      (jobs (Session.ofFragments mixedFragments) (.ofInclusions []))).outcome =
        .ok [(1, { kind := .samplesFailed, diagnostics := [misspelt] })] := by
    rw [jobs_mixed]
    rfl
  have verified : (ofRejectedDocument.verifyDocument ofRejectedDocument.compiling
      (.ofNames .root ["a"])).outcome = .ok (outcomeOf (.ofNames .root ["a"])
        (Session.ofFragments mixedFragments)
        [(1, { kind := .samplesFailed, diagnostics := [misspelt] })]) :=
    (@verifyDocument_of_read ofRejectedDocument _ _ _ _ fragments_mixed).mpr
      ⟨_, _, collected_mixed, judged, rfl⟩
  obtain ⟨result, ended⟩ : ∃ result, ofRejectedDocument.run.outcome = .ok result :=
    (@exists_runBy_iff ofRejectedDocument _ _ (documents_single _) rfl).mpr
      (by simpa using ⟨_, verified⟩)
  obtain ⟨tidings, read, lines, told⟩ := run_told_twice ended
  obtain ⟨documents, discovered, each, _⟩ := runBy_eq_ok ended
  cases (documents_single _).symm.trans discovered
  obtain ⟨outcome, rest, first, none, outcomes⟩ := List.forall₂_cons_left_iff.mp each
  cases verified.symm.trans first
  rw [List.forall₂_nil_left_iff.mp none] at outcomes
  rw [outcomes] at told
  have same := told.trans (show _ = [
        .document "/a", .checking, .fragment 1 false, .problem "Unrecognized argument: stray",
        .checking, .fragment 3 true, .verdict false,
        .problem "<sample 1>(1,1): invalid syntax"] by decide +kernel)
  exact ⟨result, ended, same ▸ read, lines.length_eq ▸ by rw [same]; rfl⟩

end RunPlan

end DocSamples
