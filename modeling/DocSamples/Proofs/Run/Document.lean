import Mathlib
import DocSamples.Proofs.Lists
import DocSamples.Proofs.Pool
import DocSamples.Proofs.Session
import DocSamples.Proofs.Verdict
import DocSamples.Run

namespace DocSamples

/-! # Compiling the sessions of a document

The sessions that can be compiled are numbered by their places in the document, and
each gets the verdict on its own workspace.  A session that cannot be compiled gets
none.
-/

/-- What a verdict has to be after the session of an outcome has been dealt with. -/
def SessionOutcome.IsSettledBy (outcome : SessionOutcome) (compiler : Compiler)
    (includes : Includes) : Prop :=
  if outcome.session.isCompilable then
    ∃ verdict, outcome.verdict = some verdict ∧
      (compiler.verify (.ofSession outcome.session includes)).outcome = .ok verdict
  else outcome.verdict = none

namespace RunPlan

variable {plan : RunPlan} {sessions : List Session} {includes : Includes} {document : Path}
  {outcome : DocumentOutcome}

theorem mem_jobs {number : Nat} {workspace : Workspace} :
    (number, workspace) ∈ jobs sessions includes ↔
      ∃ session, sessions[number]? = some session ∧ session.isCompilable = true ∧
        workspace = .ofSession session includes := by
  simp only [jobs, List.mem_map, List.mem_filter, List.mk_mem_zipIdx_iff_getElem?, Prod.exists,
    Prod.mk.injEq]
  constructor
  · rintro ⟨session, _, ⟨found, compilable⟩, rfl, rfl⟩
    exact ⟨session, found, compilable, rfl⟩
  · rintro ⟨session, found, compilable, rfl⟩
    exact ⟨session, number, ⟨found, compilable⟩, rfl, rfl⟩

theorem jobs_nodup (sessions : List Session) (includes : Includes) :
    ((jobs sessions includes).map Prod.fst).Nodup := by
  have numbers : (jobs sessions includes).map Prod.fst =
      (sessions.zipIdx.filter (·.1.isCompilable)).map Prod.snd := by
    simp [jobs, Function.comp_def]
  rw [numbers]
  have all : (sessions.zipIdx.map Prod.snd).Nodup := by
    rw [List.zipIdx_map_snd]
    exact List.nodup_range'
  exact (List.filter_sublist.map Prod.snd).nodup all

/-! ## Verdicts one by one -/

theorem verdicts_oneByOne_eq_ok {works : List (Nat × Workspace)}
    {found : List (Nat × Verdict)} :
    (verdicts plan.oneByOne document works).outcome = .ok found ↔
      List.Forall₂ (fun work verdict => verdict.1 = work.1 ∧
        (plan.compiler.verify work.2).outcome = .ok verdict.2) works found := by
  simp only [verdicts, oneByOne, Attempt.each_eq_ok, List.forall₂_map_left_iff,
    Attempt.bind_eq_ok, Attempt.outcome_pure, Except.ok.injEq]
  refine iff_of_eq (congrFun (congrFun (congrArg _ ?_) _) _)
  funext work verdict
  exact propext ⟨by rintro ⟨_, verified, rfl⟩; exact ⟨rfl, verified⟩,
    fun ⟨number, verified⟩ => ⟨verdict.2, verified, by rw [← number]⟩⟩

/-- Each job has its own verdict, and no other number has one. -/
theorem lookup_verdicts {works : List (Nat × Workspace)} {found : List (Nat × Verdict)}
    (distinct : (works.map Prod.fst).Nodup)
    (verified : (verdicts plan.oneByOne document works).outcome = .ok found) :
    (∀ work ∈ works, ∃ verdict, found.lookup work.1 = some verdict ∧
      (plan.compiler.verify work.2).outcome = .ok verdict) ∧
    ∀ number, number ∉ works.map Prod.fst → found.lookup number = none := by
  have each := verdicts_oneByOne_eq_ok.mp verified
  have numbers : found.map Prod.fst = works.map Prod.fst := by
    clear verified distinct
    induction each with
    | nil => rfl
    | cons first _ ih => simp [first.1, ih]
  constructor
  · intro work member
    obtain ⟨index, inside, rfl⟩ := List.getElem_of_mem member
    have insideFound : index < found.length := each.length_eq ▸ inside
    obtain ⟨number, verdict⟩ := List.forall₂_iff_get.mp each |>.2 index inside insideFound
    refine ⟨_, lookup_of_mem (numbers ▸ distinct) ?_, verdict⟩
    rw [← show _ = works[index].1 from number]
    exact List.getElem_mem insideFound
  · intro number absent
    rw [List.lookup_eq_none_iff]
    intro other member
    have different : number ≠ other.1 := by
      rintro rfl
      exact absent (numbers ▸ List.mem_map.mpr ⟨other, member, rfl⟩)
    simpa using different

theorem outcomeOf_isSettledBy {found : List (Nat × Verdict)}
    (verified : (verdicts plan.oneByOne document (jobs sessions includes)).outcome = .ok found) :
    ∀ outcome ∈ (outcomeOf document sessions found).sessions,
      outcome.IsSettledBy plan.compiler includes := by
  obtain ⟨present, absent⟩ := lookup_verdicts (jobs_nodup sessions includes) verified
  intro outcome member
  obtain ⟨⟨session, number⟩, inside, rfl⟩ := List.mem_map.mp member
  have place : sessions[number]? = some session := List.mk_mem_zipIdx_iff_getElem?.mp inside
  by_cases compilable : session.isCompilable = true
  · simp only [SessionOutcome.IsSettledBy, compilable, if_true]
    exact present (number, .ofSession session includes)
      (mem_jobs.mpr ⟨session, place, compilable, rfl⟩)
  · simp only [SessionOutcome.IsSettledBy, compilable]
    apply absent
    intro listed
    obtain ⟨⟨_, workspace⟩, job, rfl⟩ := List.mem_map.mp listed
    obtain ⟨other, otherPlace, otherCompilable, _⟩ := mem_jobs.mp job
    cases otherPlace.symm.trans place
    exact compilable otherCompilable

theorem map_session_outcomeOf (found : List (Nat × Verdict)) :
    (outcomeOf document sessions found).sessions.map (·.session) = sessions := by
  simp [outcomeOf, Function.comp_def, List.zipIdx_map_fst]

/-! ## Whole documents -/

/-- A document with fragments comes to an outcome when its includes can be collected and all its
sessions get their verdicts. -/
theorem verifyDocument_of_read {compiling : Compiling} {fragments : List Fragment}
    (read : (Document.fragments plan.tree document plan.root).outcome = .ok fragments) :
    (plan.verifyDocument compiling document).outcome = .ok outcome ↔
      ∃ includes found,
        Includes.collect plan.tree plan.includeDefaults fragments = .ok includes ∧
        (verdicts compiling document (jobs (Session.ofFragments fragments) includes)).outcome =
          .ok found ∧
        outcomeOf document (Session.ofFragments fragments) found = outcome := by
  simp only [verifyDocument, Attempt.bind_eq_ok, Attempt.outcome_settled, read, Except.ok.injEq,
    exists_eq_left', Attempt.outcome_ofExcept, Except.mapError_eq_ok, Attempt.outcome_pure,
    exists_and_left]

theorem verifyDocument_of_unread {compiling : Compiling} {fault : DocumentFault}
    (unread : (Document.fragments plan.tree document plan.root).outcome = .error fault) :
    (plan.verifyDocument compiling document).outcome = .ok outcome ↔
      ∃ name cause, fault = .unreadable name cause ∧
        outcome = { document := name, error := some (unreadableDocumentText name cause) } := by
  simp only [verifyDocument, Attempt.bind_eq_ok, Attempt.outcome_settled, unread, Except.ok.injEq,
    exists_eq_left']
  cases fault with
  | path fault => simp
  | unreadable name cause =>
      simp only [Attempt.bind_eq_ok, Attempt.outcome_note, Attempt.outcome_pure, Except.ok.injEq]
      constructor
      · rintro ⟨_, _, rfl⟩
        exact ⟨name, cause, rfl, rfl⟩
      · rintro ⟨_, _, ⟨⟩, rfl⟩
        exact ⟨(), trivial, rfl⟩

/-- A document is unreadable, or each of its sessions is settled by the compiler. -/
theorem verifyDocument_eq_ok
    (verified : (plan.verifyDocument plan.oneByOne document).outcome = .ok outcome) :
    (∃ name fault,
      (Document.fragments plan.tree document plan.root).outcome = .error (.unreadable name fault) ∧
      outcome = { document := name, error := some (unreadableDocumentText name fault) }) ∨
    ∃ fragments includes,
      (Document.fragments plan.tree document plan.root).outcome = .ok fragments ∧
      Includes.collect plan.tree plan.includeDefaults fragments = .ok includes ∧
      outcome.error = none ∧
      outcome.sessions.map (·.session) = Session.ofFragments fragments ∧
      ∀ session ∈ outcome.sessions, session.IsSettledBy plan.compiler includes := by
  cases read : (Document.fragments plan.tree document plan.root).outcome with
  | error fault =>
      obtain ⟨name, cause, rfl, rfl⟩ := (verifyDocument_of_unread read).mp verified
      exact .inl ⟨name, cause, rfl, rfl⟩
  | ok fragments =>
      obtain ⟨includes, found, collected, each, rfl⟩ := (verifyDocument_of_read read).mp verified
      exact .inr ⟨fragments, includes, rfl, collected, rfl, map_session_outcomeOf found,
        outcomeOf_isSettledBy each⟩

/-- A run that comes to an end has found no documents, or it has verified each of them and
its report is the one on all of them. -/
theorem runBy_cases {compiling : Compiling} {result : RunResult}
    (completed : (plan.runBy compiling).outcome = .ok result) :
    ∃ documents, (Discovery.documents plan.tree plan.settings.documents).outcome = .ok documents ∧
      ((documents = [] ∧ result.outcomes = [] ∧
        result.lines = (Report.ofNoInput plan.root).lines ∧
        result.exitCode = RunResult.noInputCode) ∨
      (documents ≠ [] ∧
        List.Forall₂ (fun document outcome =>
          (plan.verifyDocument compiling document).outcome = .ok outcome)
          documents result.outcomes ∧
        result.lines = (Report.concat (result.outcomes.map Report.ofDocument)).lines ∧
        result.exitCode =
          if (Report.concat (result.outcomes.map Report.ofDocument)).failed
          then RunResult.failureCode else RunResult.successCode)) := by
  simp only [runBy, Attempt.bind_eq_ok, Attempt.mapFault_eq_ok] at completed
  obtain ⟨documents, discovered, rest⟩ := completed
  refine ⟨documents, discovered, ?_⟩
  by_cases empty : documents = []
  · rw [if_pos (by simp [empty])] at rest
    simp only [Attempt.bind_eq_ok, Attempt.outcome_pure, Except.ok.injEq] at rest
    obtain ⟨_, _, rfl⟩ := rest
    exact .inl ⟨empty, rfl, rfl, rfl⟩
  · rw [if_neg (by simpa using empty)] at rest
    simp only [Attempt.bind_eq_ok, Attempt.mapFault_eq_ok, Attempt.each_eq_ok,
      Attempt.outcome_pure, Except.ok.injEq] at rest
    obtain ⟨outcomes, each, _, _, rfl⟩ := rest
    exact .inr ⟨empty, each, rfl, rfl⟩

/-- A run that writes no summary comes to an end when each of its documents does. -/
theorem exists_runBy_iff {compiling : Compiling} {documents : List Path}
    (discovered : (Discovery.documents plan.tree plan.settings.documents).outcome = .ok documents)
    (unwritten : plan.settings.report.jsonPath = none) :
    (∃ result, (plan.runBy compiling).outcome = .ok result) ↔
      ∀ document ∈ documents, ∃ outcome,
        (plan.verifyDocument compiling document).outcome = .ok outcome := by
  simp only [runBy, Attempt.bind_eq_ok, Attempt.mapFault_eq_ok, discovered, Except.ok.injEq,
    exists_eq_left']
  by_cases empty : documents = []
  · simp [empty, Attempt.bind_eq_ok]
  · rw [if_neg (by simpa using empty)]
    simp only [writeSummary, unwritten, Attempt.bind_eq_ok, Attempt.mapFault_eq_ok,
      Attempt.each_eq_ok, ← exists_forall₂_iff]
    constructor
    · rintro ⟨_, outcomes, verified, _⟩
      exact ⟨outcomes, verified⟩
    · rintro ⟨outcomes, verified⟩
      exact ⟨_, outcomes, verified, _, rfl, rfl⟩

end RunPlan

end DocSamples
