import Mathlib
import DocSamples.Proofs.Reason

namespace DocSamples

open Text

/-! # What a verdict is about

Errors in the project decide first, then a failure of the samples.  The diagnostics are
those of the sources that a checker refuses, or those of the lines that a program writes
about a source, and of one kind only.
-/

namespace Finding

variable {findings : List Finding}

/-- The errors that are not about a sample. -/
def projectErrors (findings : List Finding) : List Diagnostic :=
  (findings.filter fun finding =>
    !finding.source.editable && finding.diagnostic.severity = .error).map (·.diagnostic)

theorem filter_aboutProject :
    (aboutProject findings).filter (·.severity = .error) = projectErrors findings := by
  rw [aboutProject, projectErrors, List.filter_map, List.filter_filter]
  congr 2
  funext finding
  exact Bool.and_comm _ _

theorem projectErrors_nil : projectErrors [] = [] := rfl

/-- Findings that are all errors lose none of those about the project. -/
theorem projectErrors_of_errors
    (errors : ∀ finding ∈ findings, finding.diagnostic.severity = .error) :
    projectErrors findings = aboutProject findings := by
  rw [projectErrors, aboutProject]
  congr 1
  refine List.filter_congr fun finding member => ?_
  simp [errors finding member]

end Finding

namespace Verdict

variable {project : Option String} {result : CompileResult}

theorem ofResult_of_errors (errors : result.projectDiagnostics.filter (·.severity = .error) ≠ []) :
    ofResult project result =
      ⟨.projectFailed, project, result.projectDiagnostics.filter (·.severity = .error)⟩ := by
  unfold ofResult
  split
  · contradiction
  · rfl

theorem project_ofResult : (ofResult project result).project = project := by
  unfold ofResult
  split
  · split <;> rfl
  · rfl

theorem ofResult_of_harmless
    (harmless : result.projectDiagnostics.filter (·.severity = .error) = []) :
    ofResult project result = if result.succeeded then ⟨.ok, project, []⟩
      else ⟨.samplesFailed, project, result.diagnostics⟩ := by
  unfold ofResult
  rw [harmless]

end Verdict

/-! ## Checkers -/

namespace Checker

variable {checker : Checker} {tree : Tree} {workspace : Workspace} {sources : List Source}

/-- A diagnostic that says why a source is refused. -/
def Refuses (checker : Checker) (source : Source) (diagnostic : Diagnostic) : Prop :=
  ∃ rejection, checker source.text = some rejection ∧
    diagnostic = rejection.diagnostic source.name

/-- The refused sources that have a sample in them, or those that have none. -/
def refused (checker : Checker) (editable : Bool) (sources : List Source) : List Source :=
  sources.filter fun source => source.editable = editable && (checker source.text).isSome

theorem refused_eq_nil {editable : Bool} : checker.refused editable sources = [] ↔
    ∀ source ∈ sources, source.editable = editable → checker source.text = none := by
  simp [refused, List.filter_eq_nil_iff]

/-- Each refused source has one diagnostic, at its own place among them. -/
theorem refuses_findings (checker : Checker) (editable : Bool) (sources : List Source) :
    List.Forall₂ checker.Refuses (checker.refused editable sources)
      (((sources.filterMap checker.finding?).filter (·.source.editable = editable)).map
        (·.diagnostic)) := by
  induction sources with
  | nil => exact .nil
  | cons source rest ih =>
      cases answer : checker source.text with
      | none => simpa [refused, finding?, answer] using ih
      | some rejection =>
          by_cases same : source.editable = editable
          · have refuses : checker.Refuses source (rejection.diagnostic source.name) :=
              ⟨rejection, answer, rfl⟩
            simpa [refused, finding?, answer, same] using And.intro refuses ih
          · simpa [refused, finding?, answer, same] using ih

theorem findings_eq_nil : sources.filterMap checker.finding? = [] ↔
    ∀ source ∈ sources, checker source.text = none := by
  simp [List.filterMap_eq_nil_iff, finding?]

theorem severity_of_mem_findings {finding : Finding}
    (member : finding ∈ sources.filterMap checker.finding?) :
    finding.diagnostic.severity = .error := by
  obtain ⟨source, _, found⟩ := List.mem_filterMap.mp member
  exact severity_of_finding found

theorem forall_accepted_iff : (∀ source ∈ sources, checker source.text = none) ↔
    checker.refused false sources = [] ∧ checker.refused true sources = [] := by
  rw [refused_eq_nil, refused_eq_nil]
  constructor
  · intro accepted
    exact ⟨fun source member _ => accepted source member, fun source member _ => accepted source member⟩
  · rintro ⟨project, samples⟩ source member
    cases editable : source.editable with
    | true => exact samples source member editable
    | false => exact project source member editable

/-- The three ways in which the answers of a checker are judged. -/
theorem ofResult_cases {project : Option String} :
    (checker.refused false sources ≠ [] →
      Verdict.ofResult project (resultOf (sources.filterMap checker.finding?)) =
        ⟨.projectFailed, project, Finding.aboutProject (sources.filterMap checker.finding?)⟩) ∧
    (checker.refused false sources = [] → checker.refused true sources ≠ [] →
      Verdict.ofResult project (resultOf (sources.filterMap checker.finding?)) =
        ⟨.samplesFailed, project, Finding.aboutSamples (sources.filterMap checker.finding?)⟩) ∧
    ((∀ source ∈ sources, checker source.text = none) →
      Verdict.ofResult project (resultOf (sources.filterMap checker.finding?)) =
        ⟨.ok, project, []⟩) := by
  have told : (resultOf (sources.filterMap checker.finding?)).projectDiagnostics.filter
      (·.severity = .error) = Finding.aboutProject (sources.filterMap checker.finding?) := by
    rw [resultOf, Finding.filter_aboutProject]
    exact Finding.projectErrors_of_errors fun finding => severity_of_mem_findings
  have project : Finding.aboutProject (sources.filterMap checker.finding?) = [] ↔
      checker.refused false sources = [] := by
    have each := (refuses_findings checker false sources).length_eq
    rw [← List.length_eq_zero_iff, ← List.length_eq_zero_iff, each]
    simp [Finding.aboutProject]
  refine ⟨fun refused => ?_, fun spared refused => ?_, fun accepted => ?_⟩
  · rw [Verdict.ofResult_of_errors (by rwa [told, Ne, project]), told]
  · rw [Verdict.ofResult_of_harmless (by rwa [told, project])]
    have some : sources.filterMap checker.finding? ≠ [] := by
      rw [Ne, findings_eq_nil, forall_accepted_iff]
      exact fun both => refused both.2
    simp [resultOf, some]
  · rw [findings_eq_nil.mpr accepted]
    rfl

/-- A checker gives a verdict on every workspace whose sources can be assembled. -/
theorem verify_of_sources (assembled : (workspace.sources tree).outcome = .ok sources) :
    ((checker.compiler tree).verify workspace).outcome =
      .ok (.ofResult workspace.project (resultOf (sources.filterMap checker.finding?))) := by
  refine Compiler.verify_eq_ok.mpr (.inl ⟨_, ?_, rfl⟩)
  simp only [compiler, Attempt.bind_eq_ok, Attempt.mapFault_eq_ok]
  exact ⟨sources, assembled, rfl⟩

end Checker

/-! ## Commands -/

namespace Command

variable {command : Command} {launcher : Launcher} {tree : Tree} {directory : Path}
  {workspace : Workspace} {files : List TempFile} {completion : Completion} {project : Option String}

/-- What is said about a file is said about the source in it. -/
theorem exists_file_of_mem_findings {finding : Finding}
    (member : finding ∈ findings directory files completion) :
    ∃ file ∈ files, file.source = finding.source := by
  obtain ⟨text, _, found⟩ := List.mem_filterMap.mp member
  obtain ⟨output, _, attributed⟩ := Option.bind_eq_some_iff.mp found
  obtain ⟨source, named, same⟩ := Option.bind_eq_some_iff.mp attributed
  cases same
  obtain ⟨file, chosen, rfl⟩ := Option.map_eq_some_iff.mp named
  refine ⟨file, ?_, rfl⟩
  rcases Option.or_eq_some_iff.mp chosen with whole | ⟨_, short⟩
  · exact List.mem_of_find?_eq_some whole
  · exact List.mem_of_find?_eq_some short

theorem source_of_mem_ofSources {suffix : String} {sources : List Source} {file : TempFile}
    (member : file ∈ TempFile.ofSources suffix sources) : file.source ∈ sources := by
  obtain ⟨⟨source, number⟩, inside, rfl⟩ := List.mem_map.mp member
  exact List.fst_mem_of_mem_zipIdx inside

theorem filter_projectDiagnostics :
    (resultOf directory files completion).projectDiagnostics.filter (·.severity = .error) =
      if completion.status ≠ 0 ∧ findings directory files completion = [] then
        [unexplained completion]
      else Finding.projectErrors (findings directory files completion) := by
  rw [projectDiagnostics_resultOf]
  split
  · simp [severity_unexplained]
  · exact Finding.filter_aboutProject

/-- The four ways in which the output of a program is judged. -/
theorem ofResult_cases :
    (Finding.projectErrors (findings directory files completion) ≠ [] →
      Verdict.ofResult project (resultOf directory files completion) =
        ⟨.projectFailed, project,
          Finding.projectErrors (findings directory files completion)⟩) ∧
    (completion.status ≠ 0 → findings directory files completion = [] →
      Verdict.ofResult project (resultOf directory files completion) =
        ⟨.projectFailed, project, [unexplained completion]⟩) ∧
    (Finding.projectErrors (findings directory files completion) = [] → completion.status ≠ 0 →
      findings directory files completion ≠ [] →
      Verdict.ofResult project (resultOf directory files completion) =
        ⟨.samplesFailed, project,
          Finding.aboutSamples (findings directory files completion)⟩) ∧
    (Finding.projectErrors (findings directory files completion) = [] → completion.status = 0 →
      Verdict.ofResult project (resultOf directory files completion) = ⟨.ok, project, []⟩) := by
  have told := @filter_projectDiagnostics directory files completion
  refine ⟨fun errors => ?_, fun failed silent => ?_, fun none failed some => ?_, fun none well => ?_⟩
  · have some : findings directory files completion ≠ [] := by
      intro silent
      rw [silent] at errors
      exact errors Finding.projectErrors_nil
    rw [if_neg fun both => some both.2] at told
    rw [Verdict.ofResult_of_errors (by rwa [told]), told]
  · rw [if_pos ⟨failed, silent⟩] at told
    rw [Verdict.ofResult_of_errors (by simp [told]), told]
  · rw [if_neg fun both => some both.2, none] at told
    rw [Verdict.ofResult_of_harmless told]
    simp [resultOf, failed, findings]
  · rw [if_neg fun both => both.1 well, none] at told
    rw [Verdict.ofResult_of_harmless told]
    simp [resultOf, well]

theorem verify_of_completion {prepared : Preparation}
    (prepares : (command.prepare tree directory workspace).outcome = .ok prepared)
    (completes : launcher prepared.tree directory prepared.arguments command.timeout =
      .ok completion) :
    ((command.compiler launcher tree directory).verify workspace).outcome =
      .ok (.ofResult workspace.project (resultOf directory prepared.files completion)) :=
  Compiler.verify_eq_ok.mpr (.inl ⟨_, compile_eq_ok.mpr ⟨prepared, completion, prepares, completes,
    rfl⟩, rfl⟩)

end Command

namespace Verdict

/-- A checker judges the sources of a workspace, a command the lines about them: errors in the
project come first, then those of samples, and each is told once and in order. -/
theorem verify_classified {tree : Tree} {workspace : Workspace} :
    (∀ (checker : Checker) sources, (workspace.sources tree).outcome = .ok sources →
      ∃ verdict, ((checker.compiler tree).verify workspace).outcome = .ok verdict ∧
        verdict.project = workspace.project ∧
        (verdict.kind = .ok ↔ ∀ source ∈ sources, checker source.text = none) ∧
        (verdict.kind = .projectFailed ↔
          ∃ source ∈ sources, source.editable = false ∧ checker source.text ≠ none) ∧
        (verdict.kind = .ok → verdict.diagnostics = []) ∧
        (verdict.kind = .projectFailed →
          List.Forall₂ checker.Refuses (checker.refused false sources) verdict.diagnostics) ∧
        (verdict.kind = .samplesFailed →
          List.Forall₂ checker.Refuses (checker.refused true sources) verdict.diagnostics)) ∧
    ∀ (command : Command) (launcher : Launcher) directory prepared completion,
      (command.prepare tree directory workspace).outcome = .ok prepared →
      launcher prepared.tree directory prepared.arguments command.timeout = .ok completion →
      ∃ sources verdict, (workspace.sources tree).outcome = .ok sources ∧
        (∀ finding ∈ Command.findings directory prepared.files completion,
          finding.source ∈ sources) ∧
        ((command.compiler launcher tree directory).verify workspace).outcome = .ok verdict ∧
        verdict.project = workspace.project ∧
        let findings := Command.findings directory prepared.files completion
        let errors := Finding.projectErrors findings
        (errors ≠ [] → verdict.kind = .projectFailed ∧ verdict.diagnostics = errors) ∧
        (completion.status ≠ 0 → findings = [] → verdict.kind = .projectFailed ∧
          verdict.diagnostics = [Command.unexplained completion]) ∧
        (errors = [] → completion.status ≠ 0 → findings ≠ [] → verdict.kind = .samplesFailed ∧
          verdict.diagnostics = Finding.aboutSamples findings) ∧
        (errors = [] → completion.status = 0 → verdict.kind = .ok ∧ verdict.diagnostics = []) := by
  constructor
  · intro checker sources assembled
    refine ⟨_, Checker.verify_of_sources assembled, ?_⟩
    have samples : List.Forall₂ checker.Refuses (checker.refused true sources)
        (Finding.aboutSamples (sources.filterMap checker.finding?)) := by
      simpa [Finding.aboutSamples] using Checker.refuses_findings checker true sources
    have project : List.Forall₂ checker.Refuses (checker.refused false sources)
        (Finding.aboutProject (sources.filterMap checker.finding?)) := by
      simpa [Finding.aboutProject] using Checker.refuses_findings checker false sources
    have accepted := @Checker.forall_accepted_iff checker sources
    have broken : (∃ source ∈ sources, source.editable = false ∧ checker source.text ≠ none) ↔
        checker.refused false sources ≠ [] := by
      rw [Ne, Checker.refused_eq_nil]
      push Not
      rfl
    obtain ⟨ofProject, ofSamples, ofNone⟩ :=
      @Checker.ofResult_cases checker sources workspace.project
    rw [accepted, broken]
    by_cases spared : checker.refused false sources = []
    · by_cases good : checker.refused true sources = []
      · rw [ofNone (accepted.mpr ⟨spared, good⟩)]
        simp [spared, good]
      · rw [ofSamples spared good]
        simpa [spared, good] using samples
    · rw [ofProject spared]
      simpa [spared] using project
  · intro command launcher directory prepared completion prepares completes
    obtain ⟨sources, _, _, assembled, _, _, rfl⟩ := Command.prepare_eq_ok.mp prepares
    refine ⟨sources, _, assembled, fun finding member => ?_,
      Command.verify_of_completion prepares completes, ?_⟩
    · obtain ⟨file, inside, same⟩ := Command.exists_file_of_mem_findings member
      exact same ▸ Command.source_of_mem_ofSources inside
    · obtain ⟨ofErrors, ofSilence, ofSamples, ofNone⟩ := @Command.ofResult_cases directory
        (TempFile.ofSources command.suffix sources) completion workspace.project
      refine ⟨?_, fun errors => ?_, fun failed silent => ?_, fun none failed told => ?_,
        fun none well => ?_⟩
      · exact project_ofResult
      · rw [ofErrors errors]
        exact ⟨rfl, rfl⟩
      · rw [ofSilence failed silent]
        exact ⟨rfl, rfl⟩
      · rw [ofSamples none failed told]
        exact ⟨rfl, rfl⟩
      · rw [ofNone none well]
        exact ⟨rfl, rfl⟩

/-- A shared file that is refused counts for the project, and a line about the sample for the
samples, also beside a warning about the shared file. -/
theorem verify_classified_shared :
    (∃ verdict,
      ((Checker.compiler (fun text => if text = "g = 1\n" then some (.unsuitable "no") else none)
        ⟨[], []⟩).verify sharedWorkspace).outcome = .ok verdict ∧
      verdict.kind = .projectFailed ∧ verdict.diagnostics.length = 1) ∧
    ∃ verdict,
      ((compilerOf ⟨1, "000_shared.py:1: warning: w\n001_sample.py:1: note: n"⟩).verify
        sharedWorkspace).outcome = .ok verdict ∧
      verdict.kind = .samplesFailed ∧ verdict.diagnostics.length = 1 := by
  constructor
  · obtain ⟨verdict, verified, _, _, project, _, told, _⟩ :=
      verify_classified.1 (fun text => if text = "g = 1\n" then some (.unsuitable "no") else none)
        _ sources_shared
    have failed : verdict.kind = .projectFailed := project.mpr
      ⟨sharedSources[0], by simp [sharedSources], by decide, by decide⟩
    refine ⟨verdict, verified, failed, ?_⟩
    rw [← (told failed).length_eq]
    decide +kernel
  · obtain ⟨prepared, prepares, files⟩ := exists_prepare_shared
    obtain ⟨_, verdict, _, _, verified, _, _, _, samples, _⟩ :=
      verify_classified.2 compilerCommand
        (fun _ _ _ _ => .ok ⟨1, "000_shared.py:1: warning: w\n001_sample.py:1: note: n"⟩)
        workDirectory prepared _ prepares rfl
    rw [files, files_shared] at samples
    obtain ⟨failed, told⟩ := samples (by decide +kernel) (by decide) (by decide +kernel)
    refine ⟨verdict, verified, failed, ?_⟩
    rw [told]
    decide +kernel

end Verdict

end DocSamples
