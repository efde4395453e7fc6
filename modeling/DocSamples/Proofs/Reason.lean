import Mathlib
import DocSamples.Compiler.Checker
import DocSamples.Compiler.Command
import DocSamples.Proofs.Attempt
import DocSamples.Proofs.TempFile
import DocSamples.Proofs.Verdict

namespace DocSamples

open Text

/-! # Reasons for bad verdicts

A verdict that is not good has a diagnostic that says why.  There is one exception: a
program that fails and does no more than warn about included files.
-/

namespace Verdict

variable {project : Option String} {result : CompileResult}

def HasReason (verdict : Verdict) : Prop :=
  verdict.kind ≠ .ok → verdict.diagnostics ≠ []

theorem hasReason_ofResult_iff : (ofResult project result).HasReason ↔
    result.succeeded = true ∨ result.diagnostics ≠ [] ∨
      ∃ diagnostic ∈ result.projectDiagnostics, diagnostic.severity = .error := by
  unfold ofResult HasReason
  split
  · rename_i none
    have harmless : ¬ ∃ diagnostic ∈ result.projectDiagnostics, diagnostic.severity = .error := by
      simpa [List.filter_eq_nil_iff] using none
    by_cases succeeded : result.succeeded = true <;> simp [succeeded, harmless]
  · rename_i some
    have harmful : ∃ diagnostic ∈ result.projectDiagnostics, diagnostic.severity = .error := by
      simpa [List.filter_eq_nil_iff] using some
    simp [harmful]

theorem hasReason_ofFault (project : Option String) (fault : CompilerFault) :
    (ofFault project fault).HasReason := by
  simp [ofFault, HasReason]

end Verdict

namespace Finding

variable {findings : List Finding}

theorem aboutSamples_ne_nil :
    aboutSamples findings ≠ [] ↔ ∃ finding ∈ findings, finding.source.editable = true := by
  simp [aboutSamples, List.filter_eq_nil_iff]

theorem mem_aboutProject {diagnostic : Diagnostic} : diagnostic ∈ aboutProject findings ↔
    ∃ finding ∈ findings, finding.source.editable = false ∧ finding.diagnostic = diagnostic := by
  simp [aboutProject, and_assoc]

end Finding

/-! ## Checkers -/

namespace Checker

variable {checker : Checker} {source : Source} {finding : Finding}

theorem severity_of_finding (found : checker.finding? source = some finding) :
    finding.diagnostic.severity = .error := by
  obtain ⟨rejection, _, rfl⟩ := Option.map_eq_some_iff.mp found
  cases rejection with
  | malformed message line column => cases line <;> rfl
  | unsuitable message => rfl

/-- Each source that a checker refuses is a reason. -/
theorem hasReason_ofResult {project : Option String} {findings : List Finding}
    (errors : ∀ finding ∈ findings, finding.diagnostic.severity = .error) :
    (Verdict.ofResult project (resultOf findings)).HasReason := by
  rw [Verdict.hasReason_ofResult_iff]
  cases findings with
  | nil => simp [resultOf]
  | cons finding rest =>
      right
      cases editable : finding.source.editable with
      | true => exact .inl (Finding.aboutSamples_ne_nil.mpr ⟨finding, by simp, editable⟩)
      | false =>
          exact .inr ⟨finding.diagnostic, Finding.mem_aboutProject.mpr
            ⟨finding, by simp, editable, rfl⟩, errors finding (by simp)⟩

theorem hasReason_of_verify {tree : Tree} {workspace : Workspace} {verdict : Verdict}
    (verified : ((checker.compiler tree).verify workspace).outcome = .ok verdict) :
    verdict.HasReason := by
  rcases Compiler.verify_eq_ok.mp verified with ⟨result, compiled, rfl⟩ | ⟨fault, _, rfl⟩
  · simp only [compiler, Attempt.bind_eq_ok, Attempt.outcome_pure, Except.ok.injEq] at compiled
    obtain ⟨sources, _, rfl⟩ := compiled
    refine hasReason_ofResult fun finding member => ?_
    obtain ⟨source, _, found⟩ := List.mem_filterMap.mp member
    exact severity_of_finding found
  · exact Verdict.hasReason_ofFault _ _

end Checker

/-! ## Commands -/

namespace Command

variable {command : Command} {launcher : Launcher} {tree : Tree} {directory : Path}
  {workspace : Workspace} {files : List TempFile} {completion : Completion} {verdict : Verdict}

/-- What a program says about the sources that it was given. -/
def findings (directory : Path) (files : List TempFile) (completion : Completion) : List Finding :=
  (lines completion.output).filterMap (OutputLine.finding? directory files)

/-- A program fails and has something to say about included files, but no error. -/
structure OnlyWarns (directory : Path) (files : List TempFile) (completion : Completion) :
    Prop where
  failed : completion.status ≠ 0
  told : findings directory files completion ≠ []
  harmless : ∀ finding ∈ findings directory files completion,
    finding.source.editable = false ∧ finding.diagnostic.severity ≠ .error

theorem severity_unexplained : (unexplained completion).severity = .error := by
  unfold unexplained
  split <;> rfl

theorem projectDiagnostics_resultOf :
    (resultOf directory files completion).projectDiagnostics =
      if completion.status ≠ 0 ∧ findings directory files completion = [] then
        [unexplained completion]
      else Finding.aboutProject (findings directory files completion) := by
  simp [resultOf, findings]

theorem hasReason_ofResult_iff {project : Option String} :
    (Verdict.ofResult project (resultOf directory files completion)).HasReason ↔
      ¬ OnlyWarns directory files completion := by
  have succeeded : (resultOf directory files completion).succeeded = true ↔
      completion.status = 0 := by simp [resultOf]
  have samples : (resultOf directory files completion).diagnostics ≠ [] ↔
      ∃ finding ∈ findings directory files completion, finding.source.editable = true :=
    Finding.aboutSamples_ne_nil
  rw [Verdict.hasReason_ofResult_iff, succeeded, samples, projectDiagnostics_resultOf]
  constructor
  · rintro reasons ⟨failed, told, harmless⟩
    rw [if_neg fun silent => told silent.2] at reasons
    rcases reasons with well | ⟨finding, member, editable⟩ | ⟨diagnostic, member, severe⟩
    · exact failed well
    · simp [(harmless finding member).1] at editable
    · obtain ⟨finding, inside, _, rfl⟩ := Finding.mem_aboutProject.mp member
      exact (harmless finding inside).2 severe
  · intro speaks
    by_cases well : completion.status = 0
    · exact .inl well
    · by_cases silent : findings directory files completion = []
      · exact .inr (.inr ⟨unexplained completion, by simp [well, silent], severity_unexplained⟩)
      · obtain ⟨finding, member, editable | severe⟩ :
            ∃ finding ∈ findings directory files completion,
              finding.source.editable = true ∨ finding.diagnostic.severity = .error := by
          by_contra none
          push Not at none
          exact speaks ⟨well, silent, fun finding member =>
            ⟨by simpa using (none finding member).1, (none finding member).2⟩⟩
        · exact .inr (.inl ⟨finding, member, editable⟩)
        · cases editable : finding.source.editable with
          | true => exact .inr (.inl ⟨finding, member, editable⟩)
          | false =>
              rw [if_neg fun both => silent both.2]
              exact .inr (.inr ⟨_, Finding.mem_aboutProject.mpr ⟨finding, member, editable, rfl⟩,
                severe⟩)

theorem prepare_eq_ok {prepared : Preparation} :
    (command.prepare tree directory workspace).outcome = .ok prepared ↔
      ∃ sources made written, (workspace.sources tree).outcome = .ok sources ∧
        tree.makeDirectories directory = .ok made ∧
        TempFile.writeAll directory (TempFile.ofSources command.suffix sources) made = .ok written ∧
        ⟨written, TempFile.ofSources command.suffix sources, command.arguments directory
          ((TempFile.ofSources command.suffix sources).map (·.path directory))⟩ = prepared := by
  simp only [prepare, Attempt.bind_eq_ok, Attempt.outcome_ofExcept, Attempt.outcome_pure,
    Except.ok.injEq, exists_and_left]

theorem compile_eq_ok {result : CompileResult} :
    (command.compile launcher tree directory workspace).outcome = .ok result ↔
      ∃ prepared completion, (command.prepare tree directory workspace).outcome = .ok prepared ∧
        launcher prepared.tree directory prepared.arguments command.timeout = .ok completion ∧
        resultOf directory prepared.files completion = result := by
  simp only [compile, Attempt.bind_eq_ok, Attempt.mapFault_eq_ok, Attempt.outcome_ofExcept,
    Attempt.outcome_pure, Except.ok.injEq, exists_and_left]

/-- A program that was run has done no more than warn. -/
def Evades (command : Command) (launcher : Launcher) (tree : Tree) (directory : Path)
    (workspace : Workspace) : Prop :=
  ∃ prepared completion, (command.prepare tree directory workspace).outcome = .ok prepared ∧
    launcher prepared.tree directory prepared.arguments command.timeout = .ok completion ∧
    OnlyWarns directory prepared.files completion

theorem hasReason_of_verify_iff
    (verified : ((command.compiler launcher tree directory).verify workspace).outcome =
      .ok verdict) :
    verdict.HasReason ↔ ¬ command.Evades launcher tree directory workspace := by
  rcases Compiler.verify_eq_ok.mp verified with ⟨result, compiled, rfl⟩ | ⟨fault, failed, rfl⟩
  · obtain ⟨prepared, completion, prepares, completes, rfl⟩ := compile_eq_ok.mp compiled
    have only : command.Evades launcher tree directory workspace ↔
        OnlyWarns directory prepared.files completion := by
      constructor
      · rintro ⟨same, other, reprepares, recompletes, warns⟩
        obtain rfl := Except.ok.inj (prepares.symm.trans reprepares)
        obtain rfl := Except.ok.inj (completes.symm.trans recompletes)
        exact warns
      · exact fun warns => ⟨prepared, completion, prepares, completes, warns⟩
    rw [only, hasReason_ofResult_iff]
  · refine iff_of_true (Verdict.hasReason_ofFault _ _) ?_
    rintro ⟨prepared, completion, prepares, completes, _⟩
    have compiled := compile_eq_ok.mpr ⟨prepared, completion, prepares, completes, rfl⟩
    exact absurd (compiled.symm.trans failed) (by simp)

end Command

namespace Verdict

/-- A verdict that is not good has a reason, unless a program does no more than warn. -/
theorem hasReason_iff_not_evades {tree : Tree} {workspace : Workspace} {verdict : Verdict} :
    (∀ checker : Checker, ((checker.compiler tree).verify workspace).outcome = .ok verdict →
      verdict.HasReason) ∧
    ∀ (command : Command) launcher directory,
      ((command.compiler launcher tree directory).verify workspace).outcome = .ok verdict →
      (verdict.HasReason ↔ ¬ command.Evades launcher tree directory workspace) :=
  ⟨fun _ => Checker.hasReason_of_verify, fun _ _ _ => Command.hasReason_of_verify_iff⟩

/-! ## One shared file and one sample -/

def sharedWorkspace : Workspace where
  buffers := [⟨{}, "x = 1", true⟩]
  files := [⟨.ofNames .root ["shared.py"], "g = 1\n"⟩]

def sharedSources : List Source := [
  ⟨"/shared.py", "g = 1\n", some (.ofNames .root ["shared.py"]), false⟩,
  ⟨"<sample 1>", "x = 1", none, true⟩]

theorem sources_shared :
    (sharedWorkspace.sources ⟨[], []⟩).outcome = .ok sharedSources := by
  have merged : Buffer.mergeRegions sharedWorkspace.buffers = sharedWorkspace.buffers := by cbv
  rw [Workspace.sources, merged]
  exact Except.eq_ok_of_toOption (by decide +kernel)

def compilerCommand : Command where
  words := ["cc"]
  words_ne := by simp

def workDirectory : Path := .ofNames .root ["work"]

/-- The command runs a program that ends in this way whatever it is given. -/
def compilerOf (completion : Completion) : Compiler :=
  compilerCommand.compiler (fun _ _ _ _ => .ok completion) ⟨[], []⟩ workDirectory

theorem safeName_of_all {name : String} (safe : name.toList.all TempFile.isSafe = true) :
    TempFile.safeName name = name := by
  rw [← String.toList_inj, TempFile.safeName, String.toList_map]
  exact (List.map_congr_left fun c member => if_pos (List.all_eq_true.mp safe c member)).trans
    (List.map_id _)

theorem files_shared : TempFile.ofSources ".py" sharedSources =
    [⟨"000_shared.py", sharedSources[0]⟩, ⟨"001_sample.py", sharedSources[1]⟩] := by
  have first : TempFile.safeName "shared.py" = "shared.py" := safeName_of_all (by decide +kernel)
  have second : TempFile.safeName "sample.py" = "sample.py" := safeName_of_all (by decide +kernel)
  have numbers : TempFile.numberText 0 = "000" ∧ TempFile.numberText 1 = "001" := by decide +kernel
  have bases : TempFile.baseName ".py" sharedSources[0] = "shared.py" ∧
      TempFile.baseName ".py" sharedSources[1] = "sample.py" := by decide +kernel
  have split : TempFile.ofSources ".py" sharedSources =
      [TempFile.ofSource ".py" 0 sharedSources[0], TempFile.ofSource ".py" 1 sharedSources[1]] := rfl
  simp [split, TempFile.ofSource, bases, first, second, numbers]

theorem makeDirectories_work : Tree.makeDirectories ⟨[], []⟩ workDirectory =
    .ok (Tree.set ⟨[], []⟩ ["work"] .directory) :=
  Tree.makeDirectories_rootChild (by decide) (by decide) (by simp [Tree.lookup])

theorem holdsFiles_work : (Tree.set ⟨[], []⟩ ["work"] .directory).HoldsFiles workDirectory := by
  have work : Tree.IsPlain "work" := by decide
  have names : workDirectory.names = ["work"] := Tree.names_rootChild work.1
  refine ⟨rfl, by simpa [names] using ⟨work, by decide⟩, ?_, ?_⟩
  · rw [names]
    rintro (_ | ⟨name, above⟩) below split
    · simp [Tree.lookup]
    · obtain ⟨rfl, nothing⟩ := List.cons.inj split
      obtain ⟨rfl, _⟩ := List.append_eq_nil_iff.mp nothing.symm
      simp [Tree.lookup, Tree.set]
  · simp [names, Tree.lookup, Tree.set]

theorem exists_prepare_shared : ∃ prepared,
    (compilerCommand.prepare ⟨[], []⟩ workDirectory sharedWorkspace).outcome = .ok prepared ∧
      prepared.files = TempFile.ofSources ".py" sharedSources := by
  have fits : ∀ file ∈ TempFile.ofSources ".py" sharedSources, file.Fits workDirectory := by
    rw [files_shared, List.forall_mem_cons, List.forall_mem_singleton]
    exact ⟨⟨by decide, by decide +kernel⟩, by decide, by decide +kernel⟩
  have written := (TempFile.writeAll_eq_ok (holdsFiles_work.ready _) fun _ =>
    TempFile.isPlain_name).mpr ⟨fits, rfl⟩
  exact ⟨_, Command.prepare_eq_ok.mpr ⟨_, _, _, sources_shared, makeDirectories_work, written,
    rfl⟩, rfl⟩

theorem compile_shared (completion : Completion) :
    ((compilerOf completion).compile sharedWorkspace).outcome = .ok
      (Command.resultOf workDirectory (TempFile.ofSources ".py" sharedSources) completion) := by
  obtain ⟨prepared, prepares, files⟩ := exists_prepare_shared
  exact Command.compile_eq_ok.mpr ⟨prepared, completion, prepares, rfl, by rw [files]⟩

theorem hasReason_of_refusals :
    (∃ verdict,
      ((Checker.compiler (fun _ => some (.unsuitable "no")) ⟨[], []⟩).verify
        sharedWorkspace).outcome = .ok verdict ∧
      verdict.kind ≠ .ok ∧ verdict.diagnostics ≠ []) ∧
    ∃ verdict, ((compilerOf ⟨4, "nope"⟩).verify sharedWorkspace).outcome = .ok verdict ∧
      verdict.kind ≠ .ok ∧ verdict.diagnostics ≠ [] := by
  constructor
  · have checked : ((Checker.compiler (fun _ => some (.unsuitable "no")) ⟨[], []⟩).compile
        sharedWorkspace).outcome = .ok (Checker.resultOf (sharedSources.filterMap
          (Checker.finding? fun _ => some (.unsuitable "no")))) := by
      simp only [Checker.compiler, Attempt.bind_eq_ok, Attempt.mapFault_eq_ok]
      exact ⟨sharedSources, sources_shared, rfl⟩
    have verified := Compiler.verify_eq_ok.mpr (.inl ⟨_, checked, rfl⟩)
    have bad : (Verdict.ofResult sharedWorkspace.project (Checker.resultOf (sharedSources.filterMap
        (Checker.finding? fun _ => some (.unsuitable "no"))))).kind ≠ .ok := by decide +kernel
    exact ⟨_, verified, bad, hasReason_iff_not_evades.1 _ verified bad⟩
  · have verified := Compiler.verify_eq_ok.mpr (.inl ⟨_, compile_shared ⟨4, "nope"⟩, rfl⟩)
    have bad : (Verdict.ofResult sharedWorkspace.project (Command.resultOf workDirectory
        (TempFile.ofSources ".py" sharedSources) ⟨4, "nope"⟩)).kind ≠ .ok := by
      rw [files_shared]
      decide +kernel
    have unheard : OutputLine.parse? "nope" = none := by decide +kernel
    have silent : ¬ compilerCommand.Evades (fun _ _ _ _ => .ok ⟨4, "nope"⟩) ⟨[], []⟩
        workDirectory sharedWorkspace := by
      rintro ⟨prepared, _, _, ⟨⟩, warns⟩
      have told := warns.told
      rw [Command.findings, show lines "nope" = ["nope"] by decide +kernel] at told
      simp [OutputLine.finding?, unheard] at told
    exact ⟨_, verified, bad, (hasReason_iff_not_evades.2 _ _ _ verified).mpr silent bad⟩

/-- A program fails and warns about the shared file; then no sample is said to be wrong. -/
theorem reason_lost_to_warning :
    ∃ completion verdict,
      ((compilerOf completion).verify sharedWorkspace).outcome = .ok verdict ∧
        verdict.kind ≠ .ok ∧ verdict.diagnostics = [] := by
  have verified := Compiler.verify_eq_ok.mpr
    (.inl ⟨_, compile_shared ⟨1, "/work/000_shared.py:1: warning: unused"⟩, rfl⟩)
  refine ⟨_, _, verified, ?_⟩
  rw [files_shared]
  decide +kernel

end Verdict

end DocSamples
