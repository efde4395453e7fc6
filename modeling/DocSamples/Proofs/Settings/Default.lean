import DocSamples.Proofs.Settings
import DocSamples.Proofs.Tree.Detour
import DocSamples.Settings.Write

namespace DocSamples

open Text

/-! # The file of default settings

The file that is written for a user says what holds without a file.  Only the root of the
documents differs, since it is the directory of the file, so a request that gives a root is
answered alike with the file and without it, provided that this directory can be resolved.
-/

namespace Settings

variable {tree before : Tree} {path : Path}

def defaultLines : List String := [
  "documents:",
  "  root: .",
  "  patterns:",
  "  - '*.md'",
  "  exclude_patterns:",
  "  - .git",
  "  - node_modules",
  "  - venv",
  "  - .venv",
  "  - __pycache__",
  "  include_file_suffix: .py",
  "compiler:",
  "  kind: python",
  "  command: []",
  "  timeout: 60",
  "report:",
  "  json_path: null",
  "  color: true",
  "parallel: false",
  "max_concurrency: 4"]

theorem encodeText_default : Utf8.encodeText (text {}) = bytesOfLines defaultLines := by
  have lines : Yaml.mappingLines (entries {}) = defaultLines := by decide +kernel
  rw [text, Yaml.print, lines, Utf8.encodeText, bytesOfLines, String.toList_join, List.flatMap_map]
  simp

theorem ofValue_default :
    ((Yaml.load (.ofPieces (Intake.piecesOf (bytesOfLines defaultLines)))).toOption.bind
      fun value => (ofValue value).toOption) = some {} := by
  decide +kernel

theorem parent_join_here (path : Path) : path.parent.join (Path.ofText ".") = path.parent := by
  have here : Path.ofText "." = .ofNames .here [] := by decide
  rw [here]
  simp [Path.join, Path.ofNames]

theorem load_default (read : tree.readBytes path = .ok (Utf8.encodeText (text {}))) :
    load tree path = ((tree.resolve path.parent).mapError .path).map fun root =>
      { documents := { root } } := by
  obtain ⟨value, loaded, valid⟩ := Option.bind_eq_some_iff.mp ofValue_default
  have opened := readFile_of_readBytes read
  rw [encodeText_default] at opened
  have here : (Path.ofText ".").isAbsolute = false := by decide
  rw [load_of_value opened (Except.eq_ok_of_toOption loaded) (Except.eq_ok_of_toOption valid),
    placeRoot, if_neg (by simp [here]), parent_join_here]
  cases tree.resolve path.parent with
  | error fault => rfl
  | ok root => rfl

theorem readBytes_of_writeDefault (wellFormed : before.IsWellFormed)
    (written : writeDefault before path = .ok tree) :
    tree.readBytes path = .ok (Utf8.encodeText (text {})) := by
  obtain ⟨above, makes, writes⟩ := Except.bind_eq_ok.mp written
  exact (wellFormed.makeDirectories makes).readBytes_of_writeBytes writes

theorem ofArguments_ne_path (arguments : Arguments) (fault : PathFault) :
    ofArguments arguments ≠ .error (.path fault) := by
  intro failed
  rw [ofArguments] at failed
  rcases Except.bind_eq_error.mp failed with unknown | ⟨kind, _, failed⟩
  · rw [kindOfName] at unknown
    split at unknown <;> simp at unknown
  rcases Except.bind_eq_error.mp failed with refused | ⟨compiler, _, failed⟩
  · rw [compilerOf] at refused
    split at refused <;> simp at refused
  rcases Except.bind_eq_error.mp failed with commandless | ⟨_, _, failed⟩
  · rw [checkCommand] at commandless
    split at commandless <;> simp at commandless
  · dsimp only at failed
    split at failed <;> simp [pure, Except.pure] at failed

end Settings

namespace VerifyRequest

variable {request : VerifyRequest} {tree before : Tree} {config : String}
  {words : Option (List String)}

theorem compilerFrom_default (compiler : request.compiler ≠ some "") :
    (request.overrides words).compilerFrom {} = (do
      let kind ← Settings.kindOfName (request.arguments words).compiler
      Settings.compilerOf kind (request.arguments words).command
        (request.arguments words).timeout) := by
  have python : Settings.kindOfName "python" = .ok .python := by decide +kernel
  cases named : request.compiler with
  | none =>
      simp [Settings.Overrides.compilerFrom, overrides, arguments, nonEmpty, named, python]
  | some name =>
      have filled : name ≠ "" := fun empty => compiler (by rw [named, empty])
      simp [Settings.Overrides.compilerFrom, overrides, arguments, nonEmpty, named, Option.filter,
        filled]

/-- The default settings with what a request changes are those that it makes without a file. -/
theorem merge_default (root : nonEmpty request.root ≠ none) (compiler : request.compiler ≠ some "")
    (directory : Path) :
    (request.overrides words).merge { documents := { root := directory } } =
      Settings.ofArguments (request.arguments words) := by
  obtain ⟨text, given⟩ := Option.ne_none_iff_exists'.mp root
  have rest (compiler : CompilerSettings) :
      (request.overrides words).applyRest { documents := { root := directory }, compiler } =
        { documents := { root := .ofText text }
          compiler
          report := { jsonPath := request.reportPath, color := request.color }
          parallel := request.parallel.getD false } := by
    cases color : request.color <;>
      simp [Settings.Overrides.applyRest, overrides, given, color]
  rw [Settings.Overrides.merge, compilerFrom_default compiler, Settings.ofArguments]
  cases Settings.kindOfName (request.arguments words).compiler with
  | error fault => rfl
  | ok kind =>
      simp only [bind, Except.bind]
      cases Settings.compilerOf kind (request.arguments words).command
        (request.arguments words).timeout with
      | error fault => rfl
      | ok compiler =>
          cases checked : Settings.checkCommand compiler with
          | error fault => simp only [checked]
          | ok =>
              simp only [checked, rest]
              simp [arguments, given, Fields.atLeastOne, Checked.inside]

theorem settings_without_file (other : Tree) (none : request.config = none) :
    request.settings other = (do
      let words ← request.commandWords
      (Settings.ofArguments (request.arguments words)).mapError .settings) := by
  simp [settings, nonEmpty, none]

theorem settings_without_file_ne_path (other : Tree) (none : request.config = none)
    (fault : PathFault) : request.settings other ≠ .error (.settings (.path fault)) := by
  rw [settings_without_file other none]
  intro failed
  rcases Except.bind_eq_error.mp failed with unsplit | ⟨words, _, refused⟩
  · rw [commandWords] at unsplit
    split at unsplit
    · simp at unsplit
    · obtain ⟨_, _, same⟩ := Except.mapError_eq_error.mp unsplit
      simp at same
  · obtain ⟨cause, made, same⟩ := Except.mapError_eq_error.mp refused
    cases same
    exact Settings.ofArguments_ne_path _ fault made

/-- With a file of default settings, a request that gives a root is answered as without a file
when the directory of the file can be resolved, and refused for that directory otherwise. -/
theorem settings_of_default (filled : config ≠ "")
    (read : tree.readBytes (.ofText config) = .ok (Utf8.encodeText (Settings.text {})))
    (root : nonEmpty request.root ≠ none) (compiler : request.compiler ≠ some "") (other : Tree) :
    { request with config := some config }.settings tree =
      match tree.resolve (Path.ofText config).parent with
      | .ok _ => { request with config := none }.settings other
      | .error fault => .error (.settings (.path fault)) := by
  have file : nonEmpty (some config) = some config := by simp [nonEmpty, Option.filter, filled]
  cases resolved : tree.resolve (Path.ofText config).parent with
  | error fault =>
      have refused : Settings.load tree (.ofText config) = .error (.path fault) := by
        rw [Settings.load_default read, resolved]
        rfl
      simp [settings, file, refused, Except.mapError, bind, Except.bind]
  | ok directory =>
      have loaded : Settings.load tree (.ofText config) =
          .ok { documents := { root := directory } } := by
        rw [Settings.load_default read, resolved]
        rfl
      have positive : (0 : Int) < 60 := by decide
      have obeys : CompilerSettings.HasCommand {} := by decide
      rw [settings_of_load file loaded positive obeys, settings_without_file other rfl]
      congr 1
      funext words
      exact congrArg _ (merge_default root compiler directory)

/-- A request that is refused with the file and without it. -/
def commandlessRequest : VerifyRequest where
  root := some "d"
  compiler := some "Command"
  timeout := some 5

section Detour

variable {deep : Place} {far : String}

/-- Behind a detour the file of default settings is written and then refused. -/
theorem refused_behind_detour (detour : before.IsDetour deep far)
    (takes : before.TakesFile ["x", "s"]) :
    ∃ tree,
      Settings.writeDefault before (.ofText ((Tree.detourPath far).child "s").text) = .ok tree ∧
      ∀ request : VerifyRequest, nonEmpty request.root ≠ none → request.compiler ≠ some "" →
        { request with config := some ((Tree.detourPath far).child "s").text }.settings tree =
          .error (.settings (.path (.linkLoop ((Path.ofNames .root deep).child "x").text))) := by
  have plain : Tree.IsPlain "s" := by decide
  have size : "s".utf8ByteSize ≤ Tree.nameLimit := by decide
  have near := detour.near_detourPath.2.2
  have path :
      Path.ofText ((Tree.detourPath far).child "s").text = (Tree.detourPath far).child "s" :=
    Path.ofText_text _
  have reaches : before.Reaches (Tree.detourPath far) ["x"] :=
    Tree.reaches_of_status detour.whole_detourPath detour.status_detourPath
  have keeps : before.KeepsWays
      (before.set ["x", "s"] (.file (Utf8.encodeText (Settings.text {})))) :=
    Tree.keepsWays_set takes
  have written : Settings.writeDefault before ((Tree.detourPath far).child "s") =
      .ok (before.set ["x", "s"] (.file (Utf8.encodeText (Settings.text {})))) := by
    rw [Settings.writeDefault, Path.parent_child plain.1, detour.makeDirectories_detourPath]
    exact (Tree.writeText_child reaches plain takes).trans (if_neg (by omega))
  have read := Tree.readBytes_child (reaches.kept keeps) plain size near
    (Tree.lookup_set_self _ (by simp))
  rw [path]
  refine ⟨_, written, fun request root compiler => ?_⟩
  have filled : ((Tree.detourPath far).child "s").text ≠ "" := by
    refine (Tree.not_endsWith_slash ?_).1
    rw [Tree.names_child plain]
    simp
  rw [settings_of_default filled (by rwa [path]) root compiler before, path,
    Path.parent_child plain.1, (detour.kept keeps).resolve_detourPath]

end Detour

end VerifyRequest

/-- The longest name that is made of one letter. -/
def longName (letter : Char) : String := String.ofList (List.replicate Tree.nameLimit letter)

theorem utf8ByteSize_longName {letter : Char} (ascii : letter.utf8Size = 1) :
    (longName letter).utf8ByteSize = Tree.nameLimit := by
  have sizes (count : Nat) : String.utf8Len (List.replicate count letter) = count := by
    induction count with
    | zero => rfl
    | succ count ih => simp [List.replicate_succ, ih, ascii]
  rw [longName, String.utf8ByteSize_ofList, sizes]

theorem isPlain_longName {letter : Char} (ascii : letter.utf8Size = 1) (slash : letter ≠ '/')
    (null : letter ≠ '\x00') : Tree.IsPlain (longName letter) := by
  have chars : (longName letter).toList = List.replicate Tree.nameLimit letter :=
    String.toList_ofList
  have only {c : Char} (member : c ∈ (longName letter).toList) : c = letter :=
    List.eq_of_mem_replicate (chars ▸ member)
  have longer (text : String) (short : text.utf8ByteSize < Tree.nameLimit) :
      longName letter ≠ text := by
    intro same
    rw [← same, utf8ByteSize_longName ascii] at short
    omega
  refine ⟨⟨longer "" (by decide), longer "." (by decide), ?_⟩, longer ".." (by decide), ?_⟩
  · exact fun member => slash (only member).symm
  · exact fun member => null (only member).symm

/-- The deepest directory whose links can still be looked at. -/
def deepPlace : Place := List.replicate 15 (longName 'a')

def detourTree : Tree where
  current := []
  entries := [
    (["l"], .link ("/".intercalate deepPlace)),
    (deepPlace ++ [longName 'c'], .link "/"),
    (deepPlace ++ ["x"], .link "x"),
    (["x"], .directory)] ++ (Tree.empty deepPlace).entries

theorem isPlain_of_mem_deepPlace {name : String} (member : name ∈ longName 'c' :: deepPlace) :
    Tree.IsPlain name ∧ name.utf8ByteSize = Tree.nameLimit := by
  rcases List.mem_cons.mp member with rfl | deep
  · exact ⟨isPlain_longName rfl (by decide) (by decide), utf8ByteSize_longName rfl⟩
  · rw [List.eq_of_mem_replicate deep]
    exact ⟨isPlain_longName rfl (by decide) (by decide), utf8ByteSize_longName rfl⟩

theorem names_deepPlace : (Path.ofNames .root deepPlace).names = deepPlace :=
  Path.names_ofNames
    (fun _ member => (isPlain_of_mem_deepPlace (List.mem_cons_of_mem _ member)).1.1) _

theorem utf8ByteSize_deepPlace_child {name : String} (plain : Tree.IsPlain name) :
    ((Path.ofNames .root deepPlace).child name).text.utf8ByteSize = 3841 + name.utf8ByteSize := by
  have names : ((Path.ofNames .root deepPlace).child name).names = deepPlace ++ [name] := by
    rw [Tree.names_child plain, names_deepPlace]
  have root : ((Path.ofNames .root deepPlace).child name).anchor = .root := Tree.anchor_child plain
  rw [Path.utf8ByteSize_text_root root (by simp [names]), names, deepPlace, List.map_append,
    List.map_replicate, List.sum_append, List.sum_replicate, utf8ByteSize_longName rfl]
  simp only [Tree.nameLimit, smul_eq_mul, List.map_cons, List.map_nil, List.sum_cons, List.sum_nil]
  omega

theorem isDetour_detourTree : detourTree.IsDetour deepPlace (longName 'c') where
  plain name member :=
    ⟨(isPlain_of_mem_deepPlace member).1, (isPlain_of_mem_deepPlace member).2.le⟩
  filled := by decide
  beyond := by
    rw [utf8ByteSize_deepPlace_child (isPlain_longName rfl (by decide) (by decide)),
      utf8ByteSize_longName rfl]
    decide
  near := by
    rw [utf8ByteSize_deepPlace_child (by decide)]
    decide
  down above below split := by
    have all : ∀ depth < 16, detourTree.lookup (deepPlace.take depth) = some .directory := by
      decide +kernel
    have length := congrArg List.length split
    rw [deepPlace, List.length_replicate, List.length_append] at length
    have taken := all above.length (by omega)
    rwa [split, List.take_left] at taken
  shortcut := by decide +kernel
  back := by decide +kernel
  loop := by decide +kernel
  inside := by decide +kernel

theorem isWellFormed_detourTree : detourTree.IsWellFormed := by decide +kernel

/-- A file of default settings behind the detour. -/
def detourConfig : String := ((Tree.detourPath (longName 'c')).child "s").text

end DocSamples
