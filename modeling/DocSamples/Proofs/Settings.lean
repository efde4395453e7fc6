import DocSamples.CommandLine.Choice
import DocSamples.Proofs.Attempt
import DocSamples.Proofs.Tree

namespace DocSamples

/-! # Settings of a file and of a command line

A file is read with a positive timeout, and what the command line gives takes the place of
what the file says, setting by setting.  The rule that a compiler that is a command needs
one is asked of the file alone, and then of the merge.
-/

/-! ## Values that are checked -/

namespace Checked

variable {α β : Type} {checked : Checked α}

theorem map_eq_valid {change : α → β} {value : β} :
    change <$> checked = .valid value ↔ ∃ part, checked = .valid part ∧ change part = value := by
  change checked.map change = .valid value ↔ _
  cases checked <;> simp [map]

theorem seq_eq_valid {change : Checked (α → β)} {value : β} :
    change <*> checked = .valid value ↔
      ∃ known part, change = .valid known ∧ checked = .valid part ∧ known part = value := by
  change change.apply checked = .valid value ↔ _
  cases change <;> cases checked <;> simp [apply]

theorem inside_eq_valid {step : PlaceStep} {value : α} :
    checked.inside step = .valid value ↔ checked = .valid value := by
  cases checked <;> simp [inside]

end Checked

namespace Fields

/-- What holds of a default and of every value that passes a check holds of the setting. -/
theorem holds_of_field {α : Type} {entries : Entries} {name : String} {fallback item : α}
    {check : Yaml.Value → Checked α} (holds : α → Prop) (default : holds fallback)
    (checks : ∀ value item, check value = .valid item → holds item)
    (read : field entries name fallback check = .valid item) : holds item := by
  rw [field] at read
  split at read
  · cases read
    exact default
  · exact checks _ _ (Checked.inside_eq_valid.mp read)

theorem positive_eq_valid {value item : Int} :
    positive value = .valid item ↔ 0 < value ∧ value = item := by
  rw [positive]
  split <;> simp_all [Checked.refuse]

theorem atLeastOne_eq_valid {value item : Int} :
    atLeastOne value = .valid item ↔ 1 ≤ value ∧ value = item := by
  rw [atLeastOne]
  split <;> simp_all [Checked.refuse]

theorem pos_of_andCheck_positive {checked : Checked Int} {item : Int}
    (passed : andCheck checked positive = .valid item) : 0 < item := by
  cases checked with
  | valid value =>
      obtain ⟨above, rfl⟩ := positive_eq_valid.mp passed
      exact above
  | invalid complaints => simp [andCheck] at passed

end Fields

theorem CompilerSettings.timeout_of_ofEntries {entries : Fields.Entries}
    {compiler : CompilerSettings} (read : ofEntries entries = .valid compiler) :
    0 < compiler.timeout := by
  simp only [ofEntries, Checked.seq_eq_valid, Checked.map_eq_valid] at read
  obtain ⟨_, timeout, ⟨_, _, ⟨_, _, rfl⟩, _, rfl⟩, given, rfl⟩ := read
  exact Fields.holds_of_field (fun timeout => 0 < timeout) (by decide)
    (fun _ _ => Fields.pos_of_andCheck_positive) given

namespace Settings

variable {settings held : Settings} {tree : Tree} {path : Path}

/-- What is read of the compiler and of the number of compiles at a time. -/
theorem fields_of_ofEntries {entries : Fields.Entries}
    (read : Settings.ofEntries entries = .valid settings) :
    Fields.field entries "compiler" {} (Fields.group CompilerSettings.ofEntries) =
        .valid settings.compiler ∧
      Fields.field entries "max_concurrency" 4
        (fun value => Fields.andCheck (Fields.integer value) Fields.atLeastOne) =
          .valid settings.maxConcurrency := by
  simp only [Settings.ofEntries, Checked.seq_eq_valid, Checked.map_eq_valid] at read
  obtain ⟨_, _, ⟨_, _, ⟨_, _, ⟨_, _, ⟨_, _, rfl⟩, compiler, rfl⟩, _, rfl⟩, _, rfl⟩, concurrency,
    rfl⟩ := read
  exact ⟨compiler, concurrency⟩

theorem timeout_of_ofEntries {entries : Fields.Entries}
    (read : Settings.ofEntries entries = .valid settings) : 0 < settings.compiler.timeout := by
  obtain ⟨given, _⟩ := fields_of_ofEntries read
  refine Fields.holds_of_field (fun compiler => 0 < compiler.timeout) (by decide) ?_ given
  intro value item checked
  cases value with
  | mapping entries => exact CompilerSettings.timeout_of_ofEntries checked
  | _ => simp [Fields.group, Checked.refuse] at checked

theorem exists_entries_of_ofValue {value : Yaml.Value} (read : ofValue value = .ok settings) :
    ∃ entries, Settings.ofEntries entries = .valid settings := by
  rw [ofValue.eq_def] at read
  split at read
  · simp at read
  · split at read
    · rename_i entries _
      cases checked : Settings.ofEntries entries with
      | invalid complaints => simp [checked, Checked.toExcept, Except.mapError] at read
      | valid value =>
          obtain rfl : value = settings := by
            simpa [checked, Checked.toExcept, Except.mapError] using read
          exact ⟨entries, checked⟩
    · simp at read
  · simp at read

theorem timeout_of_ofValue {value : Yaml.Value} (read : ofValue value = .ok settings) :
    0 < settings.compiler.timeout := by
  obtain ⟨entries, checked⟩ := exists_entries_of_ofValue read
  exact timeout_of_ofEntries checked

end Settings

/-! ## The rule about commands -/

/-- A compiler that is a command has one. -/
def CompilerSettings.HasCommand (compiler : CompilerSettings) : Prop :=
  compiler.kind = .command → compiler.command ≠ []

instance (compiler : CompilerSettings) : Decidable compiler.HasCommand :=
  inferInstanceAs (Decidable (_ → _))

namespace Settings

theorem checkCommand_eq (compiler : CompilerSettings) :
    checkCommand compiler = if compiler.HasCommand then .ok () else .error .noCommand := by
  rw [checkCommand]
  by_cases kind : compiler.kind = .command <;> by_cases command : compiler.command = [] <;>
    simp [CompilerSettings.HasCommand, kind, command]

theorem compilerOf_eq {kind : CompilerKind} {command : List String} {timeout : Int}
    (positive : 0 < timeout) :
    compilerOf kind command timeout = .ok { kind, command, timeout } := by
  simp [compilerOf, Fields.positive, positive, Checked.inside]

/-! ## What a file says -/

/-- What a file says, with its root placed, before the rule about commands is asked of it. -/
structure IsSaid (tree : Tree) (path : Path) (held : Settings) : Prop where
  read : ∃ source value, readFile tree path = .ok source ∧ Yaml.load source = .ok value ∧
    ∃ settings, ofValue value = .ok settings ∧ placeRoot tree path settings = .ok held

/-- Placing the root changes nothing else. -/
theorem exists_root_of_placeRoot (placed : placeRoot tree path settings = .ok held) :
    ∃ root, held = { settings with documents := { settings.documents with root } } := by
  rw [placeRoot] at placed
  split at placed
  · cases placed
    exact ⟨_, rfl⟩
  · obtain ⟨root, _, same⟩ := Except.bind_eq_ok.mp placed
    cases same
    exact ⟨root, rfl⟩

theorem placeRoot_compiler (placed : placeRoot tree path settings = .ok held) :
    held.compiler = settings.compiler := by
  obtain ⟨root, rfl⟩ := exists_root_of_placeRoot placed
  rfl

theorem IsSaid.timeout (said : IsSaid tree path held) : 0 < held.compiler.timeout := by
  obtain ⟨_, _, _, _, settings, read, placed⟩ := said.read
  rw [placeRoot_compiler placed]
  exact timeout_of_ofValue read

theorem load_of_value {source : Yaml.Source} {value : Yaml.Value}
    (read : readFile tree path = .ok source) (loaded : Yaml.load source = .ok value)
    (valid : ofValue value = .ok settings) :
    load tree path = (do
      let held ← placeRoot tree path settings
      checkCommand held.compiler
      return held) := by
  simp only [load, read, loaded, valid, Except.mapError, bind, Except.bind]

theorem load_of_isSaid (said : IsSaid tree path held) :
    load tree path = if held.compiler.HasCommand then .ok held else .error .noCommand := by
  obtain ⟨source, value, read, loaded, settings, valid, placed⟩ := said.read
  rw [load_of_value read loaded valid, placed]
  by_cases obeys : held.compiler.HasCommand <;>
    simp [checkCommand_eq, obeys, bind, Except.bind, pure, Except.pure]

theorem readFile_of_readBytes {bytes : Text.Utf8.Bytes} (read : tree.readBytes path = .ok bytes) :
    readFile tree path = .ok (.ofPieces (Text.Intake.piecesOf bytes)) := by
  have there : tree.existsAt path = .ok true := by
    rw [Tree.readBytes] at read
    rw [Tree.existsAt, Tree.leadsTo]
    split at read
    · simp at read
    · rename_i whole
      rw [if_neg whole]
      split at read <;> simp_all
  simp [readFile, there, read, Except.mapError, bind, Except.bind, pure, Except.pure]

/-! ## What the command line changes -/

/-- The settings with what is to be different, where the rule is asked of the result only. -/
def Overrides.merge (overrides : Overrides) (settings : Settings) :
    Except SettingsFault Settings := do
  let compiler ← overrides.compilerFrom settings.compiler
  checkCommand compiler
  return overrides.applyRest { settings with compiler }

/-- Overriding settings that obey the rule asks it once. -/
theorem Overrides.apply_eq_merge (overrides : Overrides) (obeys : settings.compiler.HasCommand)
    (positive : 0 < settings.compiler.timeout) :
    (overrides.apply settings).2.map (fun () => (overrides.apply settings).1) =
      overrides.merge settings := by
  rw [apply, merge]
  by_cases changes : overrides.changesCompiler = true
  · rw [if_pos changes]
    cases merged : overrides.compilerFrom settings.compiler with
    | error fault => rfl
    | ok compiler =>
        cases checked : checkCommand compiler <;>
          simp [checked, Except.map, bind, Except.bind, pure, Except.pure]
  · rw [if_neg changes]
    simp only [changesCompiler, Bool.or_eq_true, not_or, Option.not_isSome_iff_eq_none] at changes
    obtain ⟨⟨compiler, command⟩, timeout⟩ := changes
    simp [compilerFrom, compiler, command, timeout, compilerOf_eq positive, checkCommand_eq, obeys,
      Except.map, bind, Except.bind, pure, Except.pure]

/-! ## One file of settings -/

/-- The bytes of a file that consists of some lines. -/
def bytesOfLines (lines : List String) : Text.Utf8.Bytes :=
  Text.Utf8.encode (lines.flatMap fun line => line.toList ++ ['\n'])

/-- A tree with one file, whose bytes are given. -/
def treeOfFile (bytes : Text.Utf8.Bytes) : Tree where
  current := []
  entries := [(["c"], .file bytes)]

theorem isSaid_treeOfFile {bytes : Text.Utf8.Bytes} {settings : Settings}
    (loaded : ((Yaml.load (.ofPieces (Text.Intake.piecesOf bytes))).toOption.bind fun value =>
      (ofValue value).toOption) = some settings)
    (placed : placeRoot (treeOfFile bytes) (.ofText "/c") settings = .ok held) :
    IsSaid (treeOfFile bytes) (.ofText "/c") held := by
  have file : Path.ofText "/c" = .ofNames .root ["c"] := by decide
  have read : (treeOfFile bytes).readBytes (.ofText "/c") = .ok bytes := by
    rw [file]
    exact Tree.readBytes_rootChild (by decide) (by decide) rfl
  obtain ⟨value, parsed, read'⟩ := Option.bind_eq_some_iff.mp loaded
  exact ⟨_, value, readFile_of_readBytes read, Except.eq_ok_of_toOption parsed, settings,
    Except.eq_ok_of_toOption read', placed⟩

/-- A file that says everything about the compiler but its timeout. -/
def commandBytes : Text.Utf8.Bytes :=
  bytesOfLines ["documents:", "  root: /d", "compiler:", "  kind: command", "  command: [cc]"]

def commandSettings : Settings where
  documents := { root := .ofText "/d" }
  compiler := { kind := .command, command := ["cc"] }

/-- A file that wants a command and has none. -/
def commandlessBytes : Text.Utf8.Bytes :=
  bytesOfLines ["compiler:", "  kind: command"]

end Settings

namespace VerifyRequest

open Settings (IsSaid commandBytes commandSettings commandlessBytes isSaid_treeOfFile placeRoot
  treeOfFile)

variable {request : VerifyRequest} {tree : Tree} {config : String} {words : Option (List String)}
  {held : Settings}

/-- The settings of a file, with the request's own wherever it gives them. -/
def merged (request : VerifyRequest) (words : Option (List String)) (held : Settings) :
    Settings where
  documents :=
    { held.documents with
      root := ((nonEmpty request.root).map .ofText).getD held.documents.root }
  compiler :=
    { kind := (request.compiler.bind fun name => CompilerKind.ofName? name.toLower).getD
        held.compiler.kind
      command := words.getD held.compiler.command
      timeout := request.timeout.getD held.compiler.timeout }
  report :=
    { jsonPath := ((nonEmpty request.jsonReport).map .ofText).or held.report.jsonPath
      color := request.color && held.report.color }
  parallel := request.parallel.getD held.parallel
  maxConcurrency := held.maxConcurrency

/-- A request with values that are accepted each for itself. -/
structure IsAcceptable (request : VerifyRequest) : Prop where
  known : ∀ name, request.compiler = some name → (CompilerKind.ofName? name.toLower).isSome
  positive : ∀ timeout, request.timeout = some timeout → 0 < timeout

theorem compilerFrom_overrides (acceptable : request.IsAcceptable)
    (positive : 0 < held.compiler.timeout) :
    (request.overrides words).compilerFrom held.compiler =
      .ok (request.merged words held).compiler := by
  have later : 0 < request.timeout.getD held.compiler.timeout := by
    cases given : request.timeout with
    | none => exact positive
    | some timeout => exact acceptable.positive timeout given
  cases given : request.compiler with
  | none =>
      simp [Settings.Overrides.compilerFrom, overrides, merged, given,
        Settings.compilerOf_eq later, bind, Except.bind]
  | some name =>
      obtain ⟨kind, known⟩ := Option.isSome_iff_exists.mp (acceptable.known name given)
      simp [Settings.Overrides.compilerFrom, overrides, merged, given, known, Settings.kindOfName,
        Settings.compilerOf_eq later, bind, Except.bind]

theorem applyRest_overrides :
    (request.overrides words).applyRest
      { held with compiler := (request.merged words held).compiler } =
      request.merged words held := by
  cases color : request.color <;>
    simp [Settings.Overrides.applyRest, overrides, merged, reportPath, color]

/-- Next to a file that obeys the rule about commands, the settings are its own with what
the request changes. -/
theorem settings_of_load (file : nonEmpty request.config = some config)
    (loaded : Settings.load tree (.ofText config) = .ok held)
    (positive : 0 < held.compiler.timeout) (obeys : held.compiler.HasCommand) :
    request.settings tree = (do
      let words ← request.commandWords
      ((request.overrides words).merge held).mapError .settings) := by
  have swap (outcome : Except SettingsFault Unit) (reached : Settings) :
      (outcome.mapError CommandFault.settings).map (fun () => reached) =
        (outcome.map fun () => reached).mapError .settings := by
    cases outcome <;> rfl
  have opened :
      (Settings.load tree (.ofText config)).mapError CommandFault.settings = .ok held := by
    rw [loaded]
    rfl
  simp only [settings, file, opened, swap, bind, Except.bind,
    Settings.Overrides.apply_eq_merge _ obeys positive]

/-- A file that breaks the rule about commands is refused, whatever the request gives. -/
theorem settings_of_refused (file : nonEmpty request.config = some config)
    (said : IsSaid tree (.ofText config) held) (breaks : ¬ held.compiler.HasCommand) :
    request.settings tree = .error (.settings .noCommand) := by
  simp [settings, file, Settings.load_of_isSaid said, breaks, Except.mapError, bind, Except.bind]

/-- A request that changes the compiler of the file. -/
def changingRequest : VerifyRequest where
  config := some "/c"
  compiler := some "Python"
  timeout := some 5
  color := false

/-- A request that gives the command that the file does not have. -/
def supplyingRequest : VerifyRequest where
  config := some "/c"
  command := some "cc"

end VerifyRequest

end DocSamples
