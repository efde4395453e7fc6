import DocSamples.Compiler.Command
import DocSamples.Proofs.Lists
import DocSamples.Proofs.OrderedMap
import DocSamples.Proofs.TempFile

namespace DocSamples

open Text

/-! # Handing sources to a program

Each source lies in a file of its own, whatever the names of the sources are, and the
arguments of the program name all those files in the order of the sources.
-/

namespace TempFile

variable {tree before after : Tree} {directory : Path} {place other : Place} {file : TempFile}
  {files : List TempFile} {suffix : String} {sources : List Source}

/-! ## What is written -/

theorem reaches_foldl_lay (ready : Ready tree directory place files) :
    (files.foldl (lay place) tree).Reaches directory place := by
  induction files generalizing tree with
  | nil => exact ready.reaches
  | cons file rest ih => exact ih ready.next

theorem lookup_foldl_lay_of_ne (apart : ∀ file ∈ files, other ≠ place ++ [file.name]) :
    (files.foldl (lay place) tree).lookup other = tree.lookup other := by
  induction files generalizing tree with
  | nil => rfl
  | cons file rest ih =>
      rw [List.foldl_cons, ih fun file member => apart file (by simp [member]), lay,
        Tree.lookup_set_of_ne _ (apart file (by simp))]

theorem lookup_foldl_lay (different : (files.map (·.name)).Nodup) (member : file ∈ files) :
    (files.foldl (lay place) tree).lookup (place ++ [file.name]) =
      some (.file (Utf8.encodeText file.source.text)) := by
  -- No later file has the name of one that is written, so what is written stays.
  induction files generalizing tree with
  | nil => cases member
  | cons first rest ih =>
      rw [List.map_cons, List.nodup_cons] at different
      obtain ⟨fresh, different⟩ := different
      rw [List.foldl_cons]
      rcases List.mem_cons.mp member with rfl | later
      · have apart : ∀ other ∈ rest, place ++ [file.name] ≠ place ++ [other.name] := by
          intro other inside same
          have name : file.name = other.name := by simpa using same
          exact fresh (List.mem_map.mpr ⟨other, inside, name.symm⟩)
        rw [lookup_foldl_lay_of_ne apart, lay, Tree.lookup_set_self _ (by simp)]
      · exact ih different later

/-- Each file is there with the text of its source, and nothing else has changed. -/
structure LaidOut (directory : Path) (place : Place) (files : List TempFile)
    (before after : Tree) : Prop where
  found : ∀ file ∈ files,
    after.lookup (place ++ [file.name]) = some (.file (Utf8.encodeText file.source.text))
  read : ∀ file ∈ files,
    after.readBytes (file.path directory) = .ok (Utf8.encodeText file.source.text)
  others : ∀ other, (∀ file ∈ files, other ≠ place ++ [file.name]) →
    after.lookup other = before.lookup other

theorem laidOut_of_writeAll (ready : Ready before directory place files)
    (plain : ∀ file ∈ files, Tree.IsPlain file.name) (different : (files.map (·.name)).Nodup)
    (written : writeAll directory files before = .ok after) :
    LaidOut directory place files before after := by
  obtain ⟨fits, rfl⟩ := (writeAll_eq_ok ready plain).mp written
  refine ⟨fun file member => lookup_foldl_lay different member, ?_,
    fun other apart => lookup_foldl_lay_of_ne apart⟩
  intro file member
  exact Tree.readBytes_child (reaches_foldl_lay ready) (plain file member)
    (fits file member).name (fits file member).path (lookup_foldl_lay different member)

/-! ## Which file is for which source -/

theorem source_ofSources : (ofSources suffix sources).map (·.source) = sources := by
  rw [ofSources, List.map_map]
  exact List.zipIdx_map_fst 0 sources

theorem name_ofSources_nodup : ((ofSources suffix sources).map (·.name)).Nodup := by
  rw [ofSources, List.map_map, List.nodup_map_iff_inj_on]
  · rintro ⟨source, number⟩ member ⟨otherSource, other⟩ otherMember same
    obtain rfl : number = other := number_eq_of_name_eq same
    have found := List.mem_zipIdx_iff_getElem?.mp member
    obtain rfl : source = otherSource :=
      Option.some.inj (found.symm.trans (List.mem_zipIdx_iff_getElem?.mp otherMember))
    rfl
  · exact List.Nodup.of_map Prod.snd (by simpa using List.nodup_range')

theorem text_path_nodup :
    ((ofSources suffix sources).map fun file => (file.path directory).text).Nodup := by
  have read : ((ofSources suffix sources).map fun file => (file.path directory).text).map
      (fun text => (Path.ofText text).name) = (ofSources suffix sources).map (·.name) := by
    rw [List.map_map]
    apply List.map_congr_left
    intro file member
    rw [Function.comp_apply, Path.ofText_text, name_path member]
  exact List.Nodup.of_map _ (read ▸ name_ofSources_nodup)

theorem find?_path (member : file ∈ ofSources suffix sources) :
    (ofSources suffix sources).find? (fun other =>
      (other.path directory).text = (file.path directory).text) = some file := by
  apply find?_eq_some_of_unique member (by simp)
  intro other inside found
  have same : other.path directory = file.path directory :=
    Path.text_injective (by simpa using found)
  have name : other.name = file.name := by rw [← name_path inside, same, name_path member]
  exact eq_of_name_eq inside member name

/-- The sources under the paths of their files; of two files with one path the later counts. -/
def registry (directory : Path) (files : List TempFile) : OrderedMap String Source :=
  (files.map fun file => ((file.path directory).text, file.source)).foldl
    (fun map entry => map.insert entry.1 entry.2) .empty

theorem entries_registry : (registry directory (ofSources suffix sources)).entries =
    (ofSources suffix sources).map fun file => ((file.path directory).text, file.source) := by
  rw [registry, OrderedMap.foldl_insert_of_nodup]
  rw [List.map_map]
  exact text_path_nodup

end TempFile

namespace Command

variable {command : Command} {directory : Path} {place : Place} {tree : Tree}

/-! ## Arguments -/

def expand (directory : Path) (word : String) : String :=
  word.replace directoryPlaceholder directory.text

/-- What the arguments have for a word of the command. -/
def wordArguments (directory : Path) (paths : List String) (word : String) : List String :=
  if word = filesPlaceholder then paths else [expand directory word]

theorem flatMap_wordArguments {piece : List String} (free : filesPlaceholder ∉ piece)
    (paths : List String) :
    piece.flatMap (wordArguments directory paths) = piece.map (expand directory) := by
  have single : piece.map (expand directory) = piece.flatMap fun word => [expand directory word] :=
    List.map_eq_flatMap
  rw [single]
  apply List.flatMap_congr
  intro word inside
  have other : word ≠ filesPlaceholder := fun same => free (same ▸ inside)
  rw [wordArguments, if_neg other]

theorem arguments_eq (files : List Path) :
    command.arguments directory files =
      command.words.flatMap (wordArguments directory (files.map Path.text)) ++
        if filesPlaceholder ∈ command.words then [] else files.map Path.text := by
  have same : (fun word => if word = filesPlaceholder then files.map Path.text
      else [word.replace directoryPlaceholder directory.text]) =
        wordArguments directory (files.map Path.text) := rfl
  by_cases given : filesPlaceholder ∈ command.words
  · simp [arguments, given, same]
  · simp [arguments, given, same]

/-- The paths of all files stand wherever a placeholder cuts the command. -/
theorem exists_arguments (command : Command) (directory : Path) (files : List Path) :
    ∃ pieces : List (List String), (∀ piece ∈ pieces, filesPlaceholder ∉ piece) ∧
      command.words = [filesPlaceholder].intercalate pieces ∧
      command.arguments directory files =
        (files.map Path.text).intercalate (pieces.map (·.map (expand directory))) ++
          if filesPlaceholder ∈ command.words then [] else files.map Path.text := by
  obtain ⟨pieces, _, free, split⟩ := exists_intercalate filesPlaceholder command.words
  refine ⟨pieces, free, split, ?_⟩
  have placed : wordArguments directory (files.map Path.text) filesPlaceholder =
      files.map Path.text := if_pos rfl
  have others : pieces.map (·.flatMap (wordArguments directory (files.map Path.text))) =
      pieces.map (·.map (expand directory)) :=
    List.map_congr_left fun piece member => flatMap_wordArguments (free piece member) _
  have whole : command.words.flatMap (wordArguments directory (files.map Path.text)) =
      (files.map Path.text).intercalate (pieces.map (·.map (expand directory))) := by
    rw [split, flatMap_intercalate, placed, others]
  rw [arguments_eq, whole]

/-- Sources reach a program unmixed: each is read back from a file of its own, and the paths of
all files stand in the arguments, in their order and side by side. -/
theorem sources_handed_over (command : Command) (sources : List Source)
    (ready : TempFile.Ready tree directory place (TempFile.ofSources command.suffix sources)) :
    let files := TempFile.ofSources command.suffix sources
    let registry := TempFile.registry directory files
    ((∃ written, TempFile.writeAll directory files tree = .ok written) ↔
      ∀ file ∈ files, file.Fits directory) ∧
    (∀ written, TempFile.writeAll directory files tree = .ok written →
      TempFile.LaidOut directory place files tree written) ∧
    (files.map (·.name)).Nodup ∧
    registry.keys.Nodup ∧ registry.keys = files.map (fun file => (file.path directory).text) ∧
    registry.values = sources ∧ files.map (·.source) = sources ∧
    (∀ file ∈ files, files.find? (fun other =>
      (other.path directory).text = (file.path directory).text) = some file) ∧
    ∃ pieces : List (List String), (∀ piece ∈ pieces, filesPlaceholder ∉ piece) ∧
      command.words = [filesPlaceholder].intercalate pieces ∧
      command.arguments directory (files.map (·.path directory)) =
        registry.keys.intercalate (pieces.map (·.map (expand directory))) ++
          if filesPlaceholder ∈ command.words then [] else registry.keys := by
  intro files registry
  have plain : ∀ file ∈ files, Tree.IsPlain file.name := fun file => TempFile.isPlain_name
  have keys : registry.keys = files.map (fun file => (file.path directory).text) := by
    rw [OrderedMap.keys, TempFile.entries_registry, List.map_map]
    rfl
  have values : registry.values = files.map (·.source) := by
    rw [OrderedMap.values, TempFile.entries_registry, List.map_map]
    rfl
  have distinct : registry.keys.Nodup := by
    rw [keys]
    exact TempFile.text_path_nodup
  refine ⟨?_, ?_, TempFile.name_ofSources_nodup, distinct, keys,
    values.trans TempFile.source_ofSources, TempFile.source_ofSources,
    fun _ => TempFile.find?_path, ?_⟩
  · constructor
    · rintro ⟨written, writes⟩
      exact ((TempFile.writeAll_eq_ok ready plain).mp writes).1
    · intro fits
      exact ⟨_, (TempFile.writeAll_eq_ok ready plain).mpr ⟨fits, rfl⟩⟩
  · intro written writes
    exact TempFile.laidOut_of_writeAll ready plain TempFile.name_ofSources_nodup writes
  · obtain ⟨pieces, free, split, same⟩ :=
      exists_arguments command directory (files.map (·.path directory))
    rw [List.map_map] at same
    rw [keys]
    exact ⟨pieces, free, split, same⟩

/-! ### Two files that sound alike, in a directory behind a link -/

def alikeSources : List Source := [
  ⟨"/docs/a b.py", "a = 1", some (.ofNames .root ["docs", "a b.py"]), false⟩,
  ⟨"/docs/a_b.py", "b = 2", some (.ofNames .root ["docs", "a_b.py"]), true⟩]

def linkedTree : Tree := ⟨[], [(["work"], .directory), (["way"], .link "work")]⟩

def linkedDirectory : Path := .ofNames .root ["way"]

def filesCommand : Command where
  words := ["cc", filesPlaceholder, "-o", directoryPlaceholder ++ "/out"]
  words_ne := by simp

theorem status_linked : linkedTree.status linkedDirectory = .ok (["work"], .directory) := by
  have names : linkedDirectory.names = ["way"] := Tree.names_rootChild (by decide)
  have near : ¬ Tree.pathLimit ≤ linkedDirectory.text.utf8ByteSize :=
    Tree.pathLimit_rootChild (by decide) (by decide)
  have target : Tree.slashNames "work" = ["work"] := Tree.slashNames_of_isName (by decide)
  have start : Path.anchorOf ['w', 'o', 'r', 'k'] = .here := rfl
  have short : ¬ 255 < "way".utf8ByteSize ∧ ¬ 255 < "work".utf8ByteSize := by decide
  rw [Tree.status, Tree.locate, if_neg near, names]
  simp [Tree.walk, Tree.lookup, linkedTree, linkedDirectory, Path.ofNames, Tree.turn,
    Tree.linkLimit, Tree.nameLimit, target, start, short]

theorem ready_linked (files : List TempFile) :
    TempFile.Ready linkedTree linkedDirectory ["work"] files where
  reaches := Tree.reaches_of_status (Tree.hasNullByte_rootChild (by decide)) status_linked
  takes := fun file _ entry found => by simp [Tree.lookup, linkedTree] at found

theorem fits_alike : ∀ file ∈ TempFile.ofSources ".py" alikeSources, file.Fits linkedDirectory := by
  have split : TempFile.ofSources ".py" alikeSources = [TempFile.ofSource ".py" 0 alikeSources[0],
      TempFile.ofSource ".py" 1 alikeSources[1]] := rfl
  have sizes : ∀ file ∈ TempFile.ofSources ".py" alikeSources, file.name.utf8ByteSize = 10 := by
    rw [split, List.forall_mem_cons, List.forall_mem_singleton, TempFile.utf8ByteSize_name,
      TempFile.utf8ByteSize_name]
    decide +kernel
  have front : linkedDirectory.names ≠ [] := by decide +kernel
  have text : (linkedDirectory.text ++ "/").utf8ByteSize = 5 := by decide +kernel
  intro file member
  refine ⟨by rw [sizes file member]; decide, ?_⟩
  rw [TempFile.path, Path.text_child (TempFile.isPlain_name member).1, if_neg front,
    String.utf8ByteSize_append, text, sizes file member]
  decide

theorem sources_handed_over_alike :
    TempFile.safeName "a b.py" = TempFile.safeName "a_b.py" ∧
    TempFile.Ready linkedTree linkedDirectory ["work"]
      (TempFile.ofSources filesCommand.suffix alikeSources) ∧
    ∃ written, TempFile.writeAll linkedDirectory (TempFile.ofSources filesCommand.suffix alikeSources)
        linkedTree = .ok written ∧
      TempFile.LaidOut linkedDirectory ["work"]
        (TempFile.ofSources filesCommand.suffix alikeSources) linkedTree written := by
  obtain ⟨writes, lies, _⟩ := sources_handed_over filesCommand alikeSources (ready_linked _)
  obtain ⟨written, wrote⟩ := writes.mpr fits_alike
  refine ⟨?_, ready_linked _, written, wrote, lies written wrote⟩
  rw [← String.toList_inj, TempFile.safeName, TempFile.safeName, String.toList_map, String.toList_map]
  decide +kernel

end Command

end DocSamples
