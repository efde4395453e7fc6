import DocSamples.Compiler.Program
import DocSamples.Proofs.Reason
import DocSamples.Proofs.Run.Submission
import DocSamples.Proofs.Source.Hosts
import DocSamples.Proofs.TempFile

namespace DocSamples

/-! # Verdicts and breakdowns

What goes wrong while a workspace is compiled becomes a verdict on it, with a few exceptions
that end the run.  They are told apart here by where they come from.
-/

open Text

theorem Compiler.verify_eq_error {compiler : Compiler} {workspace : Workspace}
    {cause : Breakdown} : (compiler.verify workspace).outcome = .error cause ↔
      (compiler.compile workspace).outcome = .error (.breakdown cause) := by
  unfold Compiler.verify
  simp only [Attempt.bind_eq_error, Attempt.outcome_note, Attempt.outcome_settled,
    reduceCtorEq, false_or, Except.ok.injEq, exists_eq_left']
  cases compiled : (compiler.compile workspace).outcome with
  | ok result => simp
  | error fault =>
      cases fault with
      | compiler fault => simp [Attempt.bind_eq_error]
      | breakdown cause => simp

theorem Compiler.exists_verdict_iff {compiler : Compiler} {workspace : Workspace} :
    (∃ verdict, (compiler.verify workspace).outcome = .ok verdict) ↔
      ∀ cause, (compiler.verify workspace).outcome ≠ .error cause := by
  cases (compiler.verify workspace).outcome <;> simp

/-! ## Starting programs -/

namespace Program

variable {tree : Tree} {directory : Path} {words : List String} {timeout : Int}
  {cause : Breakdown}

/-- Why a program is not started, or not waited for, in a way that is no fault of a compiler. -/
inductive BreaksDown (words : List String) (timeout : Int) : Breakdown → Prop
  | nullByte {word : String} (given : word ∈ words) (null : '\x00' ∈ word.toList) :
      BreaksDown words timeout (.path .nullByte)
  | noWords (none : words = []) : BreaksDown words timeout .noWords
  | farLimit {word : String} {arguments : List String}
      (whole : ∀ word ∈ words, '\x00' ∉ word.toList) (given : words = word :: arguments)
      (named : isNamed "sh" word = true ∨ isNamed "sleep" word = true)
      (far : Program.farLimit ≤ timeout) : BreaksDown words timeout .farLimit

theorem waitFor_eq_breakdown {machine : Script.Machine} :
    waitFor timeout machine = .error (.breakdown cause) ↔
      farLimit ≤ timeout ∧ cause = .farLimit := by
  rw [waitFor]
  split
  · rename_i far
    simp [far, eq_comm]
  · rename_i near
    simp only [near, false_and, iff_false, completionOf]
    split <;> simp

theorem breaksDown_of_null {word : String} (given : word ∈ words) (null : '\x00' ∈ word.toList) :
    BreaksDown words timeout cause ↔ cause = .path .nullByte := by
  constructor
  · rintro (_ | none | ⟨whole, _, _, _⟩)
    · rfl
    · simp [none] at given
    · exact absurd null (whole word given)
  · rintro rfl
    exact .nullByte given null

theorem breaksDown_nil : BreaksDown [] timeout cause ↔ cause = .noWords := by
  constructor
  · rintro (⟨given, _⟩ | _ | ⟨_, given, _, _⟩)
    · cases given
    · rfl
    · cases given
  · rintro rfl
    exact .noWords rfl

theorem breaksDown_cons {word : String} {arguments : List String}
    (whole : ∀ other ∈ word :: arguments, '\x00' ∉ other.toList) :
    BreaksDown (word :: arguments) timeout cause ↔
      (isNamed "sh" word = true ∨ isNamed "sleep" word = true) ∧
        farLimit ≤ timeout ∧ cause = .farLimit := by
  constructor
  · rintro (⟨given, null⟩ | none | ⟨_, given, named, far⟩)
    · exact absurd null (whole _ given)
    · cases none
    · obtain ⟨rfl, rfl⟩ := List.cons.inj given
      exact ⟨named, far, rfl⟩
  · rintro ⟨named, far, rfl⟩
    exact .farLimit whole rfl named far

theorem launch_eq_breakdown :
    launch tree directory words timeout = .error (.breakdown cause) ↔
      BreaksDown words timeout cause := by
  have broken : (words.any fun word => word.contains '\x00') = true ↔
      ∃ word ∈ words, '\x00' ∈ word.toList := by
    simp [String.contains_char_eq]
  unfold launch
  -- All words are looked through for a null byte before anything else is found out.
  split
  · rename_i null
    obtain ⟨word, given, null⟩ := broken.mp null
    simp [breaksDown_of_null given null, CompileFault.ofPath, eq_comm]
  · rename_i sound
    have whole : ∀ word ∈ words, '\x00' ∉ word.toList := fun word given null =>
      sound (broken.mpr ⟨word, given, null⟩)
    split
    · simp [breaksDown_nil, eq_comm]
    · rw [breaksDown_cons whole]
      dsimp only
      split
      · rename_i named
        simp [waitFor_eq_breakdown, named]
      · rename_i unnamed
        split
        · rename_i named
          simp [waitFor_eq_breakdown, named]
        · rename_i unknown
          simp [unnamed, unknown]

end Program

/-! ## Compiling -/

section Compiling

variable {tree : Tree} {directory : Path} {workspace : Workspace} {cause : Breakdown}

/-- The only thing that keeps a checker from a verdict is a host that cannot be looked at. -/
theorem Checker.verify_eq_error {checker : Checker} :
    ((checker.compiler tree).verify workspace).outcome = .error cause ↔
      ∃ path, workspace.Stalls tree path ∧ cause = .path (.system .nameTooLong path.text) := by
  simp only [Compiler.verify_eq_error, compiler, Attempt.bind_eq_error, Attempt.outcome_mapFault,
    Except.mapError_eq_error, Workspace.sources_eq_error, Attempt.outcome_pure, reduceCtorEq,
    and_false, exists_false, or_false, CompileFault.ofPath, CompileFault.breakdown.injEq]
  constructor
  · rintro ⟨_, ⟨path, stalls, rfl⟩, rfl⟩
    exact ⟨path, stalls, rfl⟩
  · rintro ⟨path, stalls, rfl⟩
    exact ⟨_, ⟨path, stalls, rfl⟩, rfl⟩

/-- A directory that, once it is made, belongs to the one who made it. -/
def Tree.IsFresh (tree : Tree) (directory : Path) : Prop :=
  ∀ made, tree.makeDirectories directory = .ok made → made.HoldsFiles directory

/-- What keeps a command from a verdict, in the order in which it is met. -/
inductive Command.BreaksDown (command : Command) (launcher : Launcher) (tree : Tree)
    (directory : Path) (workspace : Workspace) : Breakdown → Prop
  | host {path : Path} (stalls : workspace.Stalls tree path) :
      BreaksDown command launcher tree directory workspace
        (.path (.system .nameTooLong path.text))
  | directory {sources : List Source} {fault : PathFault}
      (assembled : (workspace.sources tree).outcome = .ok sources)
      (unmade : tree.makeDirectories directory = .error fault) :
      BreaksDown command launcher tree directory workspace (.path fault)
  | file {sources : List Source} {made : Tree} {before after : List TempFile} {file : TempFile}
      (assembled : (workspace.sources tree).outcome = .ok sources)
      (makes : tree.makeDirectories directory = .ok made)
      (split : TempFile.ofSources command.suffix sources = before ++ file :: after)
      (earlier : ∀ file ∈ before, file.Fits directory) (long : ¬ file.Fits directory) :
      BreaksDown command launcher tree directory workspace
        (.path (.system .nameTooLong (file.path directory).text))
  | start {prepared : Command.Preparation} {cause : Breakdown}
      (prepares : (command.prepare tree directory workspace).outcome = .ok prepared)
      (broken : launcher prepared.tree directory prepared.arguments command.timeout =
        .error (.breakdown cause)) :
      BreaksDown command launcher tree directory workspace cause

theorem Command.prepare_eq_error {command : Command} {fault : PathFault} :
    (command.prepare tree directory workspace).outcome = .error fault ↔
      (workspace.sources tree).outcome = .error fault ∨
      ∃ sources, (workspace.sources tree).outcome = .ok sources ∧
        (tree.makeDirectories directory = .error fault ∨
        ∃ made, tree.makeDirectories directory = .ok made ∧
          TempFile.writeAll directory (TempFile.ofSources command.suffix sources) made =
            .error fault) := by
  simp only [prepare, Attempt.bind_eq_error, Attempt.outcome_ofExcept, Attempt.outcome_pure,
    reduceCtorEq, and_false, exists_false, or_false]

theorem Command.compile_eq_breakdown {command : Command} {launcher : Launcher} :
    (command.compile launcher tree directory workspace).outcome = .error (.breakdown cause) ↔
      (∃ fault, (command.prepare tree directory workspace).outcome = .error fault ∧
        cause = .path fault) ∨
      ∃ prepared, (command.prepare tree directory workspace).outcome = .ok prepared ∧
        launcher prepared.tree directory prepared.arguments command.timeout =
          .error (.breakdown cause) := by
  simp only [compile, Attempt.bind_eq_error, Attempt.outcome_mapFault, Except.mapError_eq_error,
    Except.mapError_eq_ok, CompileFault.ofPath, CompileFault.breakdown.injEq,
    Attempt.outcome_ofExcept, Attempt.outcome_pure, reduceCtorEq, and_false, exists_false,
    or_false]

theorem Command.verify_eq_error {command : Command} {launcher : Launcher}
    (fresh : tree.IsFresh directory) :
    ((command.compiler launcher tree directory).verify workspace).outcome = .error cause ↔
      command.BreaksDown launcher tree directory workspace cause := by
  rw [Compiler.verify_eq_error, compiler, compile_eq_breakdown]
  constructor
  · rintro (⟨fault, failed, rfl⟩ | ⟨prepared, prepares, broken⟩)
    · rcases prepare_eq_error.mp failed with
        stalled | ⟨sources, assembled, unmade | ⟨made, makes, unwritten⟩⟩
      · obtain ⟨path, stalls, rfl⟩ := Workspace.sources_eq_error.mp stalled
        exact .host stalls
      · exact .directory assembled unmade
      · obtain ⟨before, file, after, files, earlier, long, rfl⟩ :=
          (TempFile.writeAll_eq_error ((fresh made makes).ready _) fun _ =>
            TempFile.isPlain_name).mp unwritten
        exact .file assembled makes files earlier long
    · exact .start prepares broken
  · rintro (stalls | ⟨assembled, unmade⟩ | ⟨assembled, makes, files, earlier, long⟩ |
      ⟨prepares, broken⟩)
    · have stalled := Workspace.sources_eq_error.mpr ⟨_, stalls, rfl⟩
      exact .inl ⟨_, prepare_eq_error.mpr (.inl stalled), rfl⟩
    · exact .inl ⟨_, prepare_eq_error.mpr (.inr ⟨_, assembled, .inl unmade⟩), rfl⟩
    · have unwritten := (TempFile.writeAll_eq_error ((fresh _ makes).ready _) fun _ =>
        TempFile.isPlain_name).mpr ⟨_, _, _, files, earlier, long, rfl⟩
      exact .inl ⟨_, prepare_eq_error.mpr (.inr ⟨_, assembled, .inr ⟨_, makes, unwritten⟩⟩), rfl⟩
    · exact .inr ⟨_, prepares, broken⟩

end Compiling

/-! ## Runs -/

namespace RunPlan

variable {plan : RunPlan} {document : Path}

/-- A document is told to be unreadable, or it is taken apart. -/
def Opens (plan : RunPlan) (document : Path) : Prop :=
  (∃ name fault, (Document.fragments plan.tree document plan.root).outcome =
    .error (.unreadable name fault)) ∨
  ∃ fragments includes,
    (Document.fragments plan.tree document plan.root).outcome = .ok fragments ∧
    Includes.collect plan.tree plan.includeDefaults fragments = .ok includes

theorem exists_verdicts_iff {jobs : List (Nat × Workspace)} :
    (∃ found, (verdicts plan.oneByOne document jobs).outcome = .ok found) ↔
      ∀ workspace ∈ jobs.map Prod.snd,
        ∃ verdict, (plan.compiler.verify workspace).outcome = .ok verdict := by
  simp only [verdicts_oneByOne_eq_ok, exists_forall₂_iff, List.forall_mem_map]
  refine forall₂_congr fun job _ => ?_
  constructor
  · rintro ⟨verdict, _, answered⟩
    exact ⟨verdict.2, answered⟩
  · rintro ⟨verdict, answered⟩
    exact ⟨(job.1, verdict), rfl, answered⟩

theorem exists_verifyDocument_iff :
    (∃ outcome, (plan.verifyDocument plan.oneByOne document).outcome = .ok outcome) ↔
      plan.Opens document ∧ ∀ workspace ∈ plan.unitsOf document,
        ∃ verdict, (plan.compiler.verify workspace).outcome = .ok verdict := by
  cases read : (Document.fragments plan.tree document plan.root).outcome with
  | error fault =>
      have none : plan.unitsOf document = [] := by simp [unitsOf, read]
      simp only [verifyDocument_of_unread read, Opens, read, none]
      cases fault <;> simp
  | ok fragments =>
      simp only [verifyDocument_of_read read]
      cases collected : Includes.collect plan.tree plan.includeDefaults fragments with
      | error fault => simp [Opens, read, collected]
      | ok includes =>
          have opens : plan.Opens document := .inr ⟨fragments, includes, read, collected⟩
          have units : plan.unitsOf document =
              (jobs (Session.ofFragments fragments) includes).map Prod.snd := by
            rw [snd_jobs]
            simp [unitsOf, read, collected]
          rw [units, ← exists_verdicts_iff, and_iff_right opens]
          constructor
          · rintro ⟨_, _, found, same, each, _⟩
            cases same
            exact ⟨found, each⟩
          · rintro ⟨found, each⟩
            exact ⟨_, includes, found, rfl, each, rfl⟩

/-- A run that writes no summary comes to an end when its documents can be opened and all that
is compiled gets a verdict. -/
theorem exists_run_iff {documents : List Path} (room : 1 ≤ plan.settings.maxConcurrency)
    (discovered : (Discovery.documents plan.tree plan.settings.documents).outcome = .ok documents)
    (unwritten : plan.settings.report.jsonPath = none) :
    (∃ result, plan.run.outcome = .ok result) ↔ ∀ document ∈ documents,
      plan.Opens document ∧ ∀ workspace ∈ plan.unitsOf document,
        ∃ verdict, (plan.compiler.verify workspace).outcome = .ok verdict := by
  rw [run_eq_runBy_oneByOne room, exists_runBy_iff discovered unwritten]
  exact forall₂_congr fun document _ => exists_verifyDocument_iff

end RunPlan

theorem Command.verify_of_fault {command : Command} {launcher : Launcher} {tree : Tree}
    {directory : Path} {workspace : Workspace} {prepared : Command.Preparation}
    {fault : CompilerFault}
    (prepares : (command.prepare tree directory workspace).outcome = .ok prepared)
    (failed : launcher prepared.tree directory prepared.arguments command.timeout =
      .error (.compiler fault)) :
    ((command.compiler launcher tree directory).verify workspace).outcome =
      .ok (.ofFault workspace.project fault) := by
  have compiled : (command.compile launcher tree directory workspace).outcome =
      .error (.compiler fault) := by
    simp only [compile, Attempt.bind_eq_error, Attempt.mapFault_eq_ok, Attempt.outcome_ofExcept]
    exact .inr ⟨prepared, prepares, .inl failed⟩
  exact Compiler.verify_eq_ok.mpr (.inr ⟨fault, compiled, rfl⟩)

theorem isFresh_work : Tree.IsFresh ⟨[], []⟩ Verdict.workDirectory := by
  intro tree makes
  obtain rfl := Except.ok.inj (Verdict.makeDirectories_work.symm.trans makes)
  exact Verdict.holdsFiles_work

/-- No program is there under any name. -/
def launchMissing : Launcher := fun _ _ words _ =>
  .error (.compiler (.notStarted (words.headD "") (.system .notFound (words.headD ""))))

/-- A sample for a region of a file whose name is too long. -/
def farName : String := String.ofList (List.replicate 256 'a')

def farPath : Path := .ofNames .root [farName]

def farWorkspace : Workspace where
  buffers := [⟨⟨some farPath, some "r"⟩, "x = 1", true⟩]

theorem utf8ByteSize_farName : farName.utf8ByteSize = 256 :=
  (String.utf8ByteSize_ofList _).trans (by decide +kernel)

theorem nameLimit_lt_farName : Tree.nameLimit < farName.utf8ByteSize := by
  rw [utf8ByteSize_farName]
  decide

theorem isPlain_farName : Tree.IsPlain farName := by
  have chars : farName.toList = List.replicate 256 'a' := String.toList_ofList
  have only {c : Char} (member : c ∈ farName.toList) : c = 'a' :=
    List.eq_of_mem_replicate (chars ▸ member)
  have longer (text : String) (short : text.utf8ByteSize < 256) : farName ≠ text := by
    intro same
    rw [← same, utf8ByteSize_farName] at short
    omega
  refine ⟨⟨longer "" (by decide), longer "." (by decide), ?_⟩, longer ".." (by decide), ?_⟩
  · exact fun slash => absurd (only slash) (by decide)
  · exact fun null => absurd (only null) (by decide)

theorem stalls_far : farWorkspace.Stalls ⟨[], []⟩ farPath := by
  have plain := isPlain_farName
  have merged (buffer : Buffer) (region : buffer.isForRegion = true) :
      Buffer.mergeRegions [buffer] = [Buffer.merge buffer.id [buffer]] := by
    simp [Buffer.mergeRegions, region]
  have path : farPath = (Path.ofNames .root []).child farName := by
    rw [Path.child_eq plain.1]
    rfl
  have found : Tree.IsTooLong ⟨[], []⟩ farPath :=
    path ▸ Tree.isTooLong_child (Tree.reaches_root _) plain nameLimit_lt_farName
  exact ⟨[], _, [], _, merged _ rfl, rfl, rfl, by simp [Buffer.merge, BufferId.namedRegion?], rfl,
    found⟩

end DocSamples
