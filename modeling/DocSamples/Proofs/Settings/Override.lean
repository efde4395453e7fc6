import DocSamples.Proofs.Settings

namespace DocSamples.Settings

/-! # Overrides that fail

Overriding settings asks for the name of the compiler, for its timeout and for the rule about
commands, in this order, and only then changes the rest.  The compiler alone is changed before
the last question, so it is the one setting that a failure can leave behind.
-/

namespace Overrides

variable {overrides : Overrides} {settings : Settings}

/-- The settings with everything that is given in its place. -/
def onto (overrides : Overrides) (settings : Settings) : Settings where
  documents :=
    { settings.documents with root := overrides.root.getD settings.documents.root }
  compiler :=
    { kind := (overrides.compiler.bind fun name => CompilerKind.ofName? name.toLower).getD
        settings.compiler.kind
      command := overrides.command.getD settings.compiler.command
      timeout := overrides.timeout.getD settings.compiler.timeout }
  report :=
    { jsonPath := overrides.jsonPath.or settings.report.jsonPath
      color := overrides.color.getD settings.report.color }
  parallel := overrides.parallel.getD settings.parallel
  maxConcurrency := settings.maxConcurrency

/-- A compiler is named that there is, if one is named at all. -/
def NamesCompiler (overrides : Overrides) : Prop :=
  ∀ name, overrides.compiler = some name → (CompilerKind.ofName? name.toLower).isSome

/-- The values for the compiler are accepted each for itself. -/
structure IsAcceptable (overrides : Overrides) (settings : Settings) : Prop where
  known : overrides.NamesCompiler
  positive : 0 < (overrides.onto settings).compiler.timeout

theorem applyRest_onto :
    overrides.applyRest { settings with compiler := (overrides.onto settings).compiler } =
      overrides.onto settings :=
  rfl

theorem onto_compiler (still : overrides.changesCompiler = false) :
    (overrides.onto settings).compiler = settings.compiler := by
  simp only [changesCompiler, Bool.or_eq_false_iff, Option.isSome_eq_false_iff,
    Option.isNone_iff_eq_none] at still
  obtain ⟨⟨compiler, command⟩, timeout⟩ := still
  simp [onto, compiler, command, timeout]

/-! ## Every way in which overriding ends -/

/-- What has been reached, and with which outcome. -/
inductive Ends (overrides : Overrides) (settings : Settings) :
    Settings × Except SettingsFault Unit → Prop
  | untouched (still : overrides.changesCompiler = false) :
      Ends overrides settings (overrides.onto settings, .ok ())
  | unknown {name : String} (changes : overrides.changesCompiler = true)
      (named : overrides.compiler = some name)
      (missing : CompilerKind.ofName? name.toLower = none) :
      Ends overrides settings (settings, .error (.unknownCompiler name))
  | refused (changes : overrides.changesCompiler = true) (known : overrides.NamesCompiler)
      (short : (overrides.onto settings).compiler.timeout ≤ 0) :
      Ends overrides settings
        (settings, .error (.refused [{ place := [.field "timeout"], kind := .tooSmall }]))
  | commandless (changes : overrides.changesCompiler = true)
      (acceptable : overrides.IsAcceptable settings)
      (breaks : ¬ (overrides.onto settings).compiler.HasCommand) :
      Ends overrides settings
        ({ settings with compiler := (overrides.onto settings).compiler }, .error .noCommand)
  | changed (changes : overrides.changesCompiler = true)
      (acceptable : overrides.IsAcceptable settings)
      (obeys : (overrides.onto settings).compiler.HasCommand) :
      Ends overrides settings (overrides.onto settings, .ok ())

theorem compilerFrom_of_known (known : overrides.NamesCompiler) :
    overrides.compilerFrom settings.compiler =
      compilerOf (overrides.onto settings).compiler.kind (overrides.onto settings).compiler.command
        (overrides.onto settings).compiler.timeout := by
  cases named : overrides.compiler with
  | none => simp [compilerFrom, onto, named, bind, Except.bind]
  | some name =>
      obtain ⟨kind, found⟩ := Option.isSome_iff_exists.mp (known name named)
      simp [compilerFrom, onto, named, found, kindOfName, bind, Except.bind]

theorem ends_apply (overrides : Overrides) (settings : Settings) :
    Ends overrides settings (overrides.apply settings) := by
  cases changes : overrides.changesCompiler with
  | false =>
      have rest : overrides.applyRest settings = overrides.onto settings := by
        rw [← applyRest_onto, onto_compiler changes]
      simp only [apply, changes, Bool.false_eq_true, if_false, rest]
      exact .untouched changes
  | true =>
      simp only [apply, changes, if_true]
      by_cases known : overrides.NamesCompiler
      · rw [compilerFrom_of_known known]
        by_cases positive : 0 < (overrides.onto settings).compiler.timeout
        · rw [compilerOf_eq positive]
          by_cases obeys : (overrides.onto settings).compiler.HasCommand
          · simp only [checkCommand_eq, obeys, if_true]
            exact .changed changes ⟨known, positive⟩ obeys
          · simp only [checkCommand_eq, obeys, if_false]
            exact .commandless changes ⟨known, positive⟩ obeys
        · simp only [compilerOf, Fields.positive, positive, if_false, Checked.refuse,
            Checked.inside, List.map_cons, List.map_nil]
          exact .refused changes known (Int.not_lt.mp positive)
      · simp only [NamesCompiler, not_forall] at known
        obtain ⟨name, named, missing⟩ := known
        rw [Option.not_isSome_iff_eq_none] at missing
        simp only [compilerFrom, named, kindOfName, missing, bind, Except.bind]
        exact .unknown changes named missing

/-! ## What a failure leaves behind -/

/-- Overriding succeeds when the compiler is not touched, or when it is one that can be used. -/
def Accepts (overrides : Overrides) (settings : Settings) : Prop :=
  overrides.changesCompiler = false ∨
    overrides.IsAcceptable settings ∧ (overrides.onto settings).compiler.HasCommand

/-- The compiler changes to one that lacks its command. -/
structure Strands (overrides : Overrides) (settings : Settings) : Prop where
  acceptable : overrides.IsAcceptable settings
  breaks : ¬ (overrides.onto settings).compiler.HasCommand
  differs : (overrides.onto settings).compiler ≠ settings.compiler

theorem with_compiler_eq_self_iff {compiler : CompilerSettings} :
    { settings with compiler } = settings ↔ compiler = settings.compiler := by
  constructor
  · intro same
    exact congrArg Settings.compiler same
  · rintro rfl
    rfl

/-- Overriding that succeeds changes what is given and nothing else.  When it fails the settings
are as they were, unless the compiler changed to one that lacks its command: then that compiler
stays, and all else is as it was. -/
theorem kept_iff_not_strands (overrides : Overrides) (settings : Settings) :
    match overrides.apply settings with
    | (after, .ok ()) => overrides.Accepts settings ∧ after = overrides.onto settings
    | (after, .error fault) =>
        ¬ overrides.Accepts settings ∧ (after = settings ↔ ¬ overrides.Strands settings) ∧
          after = { settings with
            compiler :=
              if fault = .noCommand then (overrides.onto settings).compiler
              else settings.compiler } := by
  have ends := ends_apply overrides settings
  generalize overrides.apply settings = result at ends
  cases ends with
  | untouched still => exact ⟨.inl still, rfl⟩
  | changed changes acceptable obeys => exact ⟨.inr ⟨acceptable, obeys⟩, rfl⟩
  | unknown changes named missing =>
      have stranger : ¬ overrides.IsAcceptable settings := fun acceptable => by
        simpa [missing] using acceptable.known _ named
      refine ⟨?_, ?_, rfl⟩
      · simp [Accepts, changes, stranger]
      · simpa using fun strands : overrides.Strands settings => stranger strands.acceptable
  | refused changes known short =>
      have early : ¬ overrides.IsAcceptable settings := fun acceptable =>
        absurd acceptable.positive (Int.not_lt.mpr short)
      refine ⟨?_, ?_, rfl⟩
      · simp [Accepts, changes, early]
      · simpa using fun strands : overrides.Strands settings => early strands.acceptable
  | commandless changes acceptable breaks =>
      refine ⟨?_, ?_, rfl⟩
      · simp [Accepts, changes, breaks]
      · rw [with_compiler_eq_self_iff]
        constructor
        · exact fun same strands => strands.differs same
        · intro kept
          by_contra differs
          exact kept ⟨acceptable, breaks, differs⟩

/-- A compiler that is a command is asked for, and no command is given. -/
def commandlessOverride : Overrides where
  compiler := some "command"

/-- The refused compiler is in the settings afterwards. -/
theorem compiler_left_behind :
    (commandlessOverride.apply {}).2 = .error .noCommand ∧
      (commandlessOverride.apply {}).1.compiler = { kind := .command } ∧
      (commandlessOverride.apply {}).1 ≠ {} := by
  decide +kernel

end Overrides

end DocSamples.Settings
