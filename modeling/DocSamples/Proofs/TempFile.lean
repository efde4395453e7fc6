import DocSamples.Compiler.TempFile
import DocSamples.Proofs.Attempt
import DocSamples.Proofs.Lists
import DocSamples.Proofs.Tree.Child

namespace DocSamples

open Text

/-! # Writing temporary files

Into a directory of its own a compiler's files can be written unless the name of one of them
is too long.  Their names are numbers and safe characters, so nothing else can be wrong.
-/

namespace Tree

variable {tree : Tree} {directory : Path}

/-- A directory that plain names lead to from the root, with nothing but files in it. -/
structure HoldsFiles (tree : Tree) (directory : Path) : Prop where
  anchored : directory.anchor = .root
  plain : ∀ name ∈ directory.names, IsPlain name ∧ name.utf8ByteSize ≤ nameLimit
  directories : ∀ above below, directory.names = above ++ below →
    tree.lookup above = some .directory
  files : ∀ name entry, tree.lookup (directory.names ++ [name]) = some entry →
    ∃ bytes, entry = .file bytes

theorem HoldsFiles.reaches (holds : tree.HoldsFiles directory) :
    tree.Reaches directory directory.names where
  whole := hasNullByte_eq_false fun name member => (holds.plain name member).1
  walked := by
    have there := holds.directories directory.names [] (by simp)
    have down := @walk_down tree .use linkLimit [] directory.names holds.plain
      (fun above name below split => holds.directories above (name :: below) split)
      (by simp [there])
    have root : turn tree.current .root = [] := rfl
    rw [holds.anchored, root, down, List.nil_append, there]

end Tree

namespace TempFile

variable {file : TempFile} {files : List TempFile} {directory : Path} {tree : Tree} {place : Place}
  {suffix : String} {number : Nat} {source : Source} {sources : List Source} {fault : PathFault}

/-! ## Names of temporary files -/

theorem isSafe_safeName {name : String} {c : Char} (member : c ∈ (safeName name).toList) :
    isSafe c = true := by
  rw [safeName, String.toList_map] at member
  obtain ⟨d, _, rfl⟩ := List.mem_map.mp member
  split
  · assumption
  · decide

theorem isSafe_numberText {c : Char} (member : c ∈ (numberText number).toList) :
    isSafe c = true := by
  rw [numberText, String.toList_ofList] at member
  rcases List.mem_append.mp member with zero | digit
  · rw [List.eq_of_mem_replicate zero]
    decide
  · have isDigit := Nat.isDigit_of_mem_toDigits (by decide) (by decide) digit
    simp [isSafe, Char.isAlphanum, isDigit]

theorem isSafe_name {c : Char} (member : c ∈ (ofSource suffix number source).name.toList) :
    isSafe c = true := by
  simp only [ofSource, String.toList_append, List.mem_append] at member
  rcases member with (front | middle) | back
  · exact isSafe_numberText front
  · obtain rfl : c = '_' := by simpa using middle
    decide
  · exact isSafe_safeName back

theorem toNat_of_isSafe {c : Char} (safe : isSafe c = true) : 45 ≤ c.toNat ∧ c.toNat ≤ 122 := by
  simp only [isSafe, Char.isAlphanum, Char.isAlpha, Char.isUpper, Char.isLower, Char.isDigit,
    Bool.or_eq_true, Bool.and_eq_true, decide_eq_true_eq, ge_iff_le,
    UInt32.le_iff_toNat_le] at safe
  change (((((65 ≤ c.toNat ∧ c.toNat ≤ 90) ∨ (97 ≤ c.toNat ∧ c.toNat ≤ 122)) ∨
    (48 ≤ c.toNat ∧ c.toNat ≤ 57)) ∨ c = '_') ∨ c = '.') ∨ c = '-' at safe
  rcases safe with (((((upper | lower) | digit) | rfl) | rfl) | rfl)
  · omega
  · omega
  · omega
  · decide
  · decide
  · decide

theorem isPlain_name (member : file ∈ ofSources suffix sources) : Tree.IsPlain file.name := by
  obtain ⟨⟨source, number⟩, _, rfl⟩ := List.mem_map.mp member
  have joined : '_' ∈ (ofSource suffix number source).name.toList := by
    simp [ofSource]
  have safe (c : Char) (barred : isSafe c = false) :
      c ∉ (ofSource suffix number source).name.toList := by
    intro inside
    rw [isSafe_name inside] at barred
    cases barred
  refine ⟨⟨?_, ?_, safe '/' (by decide)⟩, ?_, safe '\x00' (by decide)⟩
  all_goals
    intro same
    have here := same ▸ joined
    simp at here

theorem numberText_injective : Function.Injective numberText := by
  -- Zeros in front do not change what the digits are read as.
  have readBack : Function.LeftInverse (fun text => Nat.ofDigitChars 10 text.toList 0)
      numberText := by
    intro number
    change Nat.ofDigitChars 10 (numberText number).toList 0 = number
    rw [numberText, String.toList_ofList, Nat.ofDigitChars_append, Nat.ofDigitChars_replicate_zero]
    simp
  exact readBack.injective

theorem underscore_not_mem_numberText (number : Nat) : '_' ∉ (numberText number).toList := by
  rw [numberText, String.toList_ofList, List.mem_append]
  rintro (zero | digit)
  · exact absurd (List.eq_of_mem_replicate zero) (by decide)
  · exact absurd (Nat.isDigit_of_mem_toDigits (by decide) (by decide) digit) (by decide)

theorem takeWhile_name : (ofSource suffix number source).name.toList.takeWhile (· != '_') =
    (numberText number).toList := by
  have split : (ofSource suffix number source).name.toList =
      (numberText number).toList ++ '_' :: (safeName (baseName suffix source)).toList := by
    simp [ofSource]
  rw [split, takeWhile_append_of_not_mem (underscore_not_mem_numberText number)]

theorem number_eq_of_name_eq {other : Nat} {otherSource : Source}
    (same : (ofSource suffix number source).name = (ofSource suffix other otherSource).name) :
    number = other := by
  have texts : (numberText number).toList = (numberText other).toList := by
    rw [← takeWhile_name, same, takeWhile_name]
  exact numberText_injective (String.toList_inj.mp texts)

theorem mem_ofSources_iff : file ∈ ofSources suffix sources ↔
    ∃ number source, sources[number]? = some source ∧ file = ofSource suffix number source := by
  simp only [ofSources, List.mem_map, Prod.exists, List.mem_zipIdx_iff_getElem?, eq_comm]
  exact exists_comm

theorem ofSource_mem (suffix : String) (found : sources[number]? = some source) :
    ofSource suffix number source ∈ ofSources suffix sources :=
  mem_ofSources_iff.mpr ⟨number, source, found, rfl⟩

/-- The name of a temporary file tells which of them it is. -/
theorem eq_of_name_eq {other : TempFile} (member : file ∈ ofSources suffix sources)
    (otherMember : other ∈ ofSources suffix sources) (same : file.name = other.name) :
    file = other := by
  obtain ⟨number, source, found, rfl⟩ := mem_ofSources_iff.mp member
  obtain ⟨otherNumber, otherSource, otherFound, rfl⟩ := mem_ofSources_iff.mp otherMember
  obtain rfl := number_eq_of_name_eq same
  obtain rfl := Option.some.inj (found.symm.trans otherFound)
  rfl

theorem names_path (member : file ∈ ofSources suffix sources) :
    (file.path directory).names = directory.names ++ [file.name] :=
  Tree.names_child (isPlain_name member)

theorem name_path (member : file ∈ ofSources suffix sources) :
    (file.path directory).name = file.name := by
  simp [Path.name, names_path member]

/-! ## Files that can be written -/

/-- The name of a file and the path to it are short enough for a file system. -/
structure Fits (directory : Path) (file : TempFile) : Prop where
  name : file.name.utf8ByteSize ≤ Tree.nameLimit
  path : (file.path directory).text.utf8ByteSize < Tree.pathLimit

theorem utf8Size_of_isSafe {c : Char} (safe : isSafe c = true) : c.utf8Size = 1 := by
  have bounds := toNat_of_isSafe safe
  have small : c.val ≤ 0x7f := by
    rw [UInt32.le_iff_toNat_le]
    change c.toNat ≤ 127
    omega
  exact Char.utf8Size_eq_one_iff.mpr small

/-- A name of safe characters has as many bytes as characters. -/
theorem utf8ByteSize_name : (ofSource suffix number source).name.utf8ByteSize =
    (numberText number).length + 1 + (baseName suffix source).length := by
  have bytes (chars : List Char) (safe : ∀ c ∈ chars, isSafe c = true) :
      String.utf8Len chars = chars.length := by
    induction chars with
    | nil => rfl
    | cons c rest ih =>
        rw [String.utf8Len_cons, ih fun d member => safe d (by simp [member]),
          utf8Size_of_isSafe (safe c (by simp)), List.length_cons]
  have whole := String.utf8ByteSize_ofList (ofSource suffix number source).name.toList
  rw [String.ofList_toList, bytes _ fun c member => isSafe_name member] at whole
  rw [whole]
  simp only [ofSource, safeName, String.toList_append, String.toList_map, List.length_append,
    List.length_map, String.length_toList]
  rfl

theorem fits_ofSource_iff : (ofSource suffix number source).Fits directory ↔
    (numberText number).length + 1 + (baseName suffix source).length ≤ Tree.nameLimit ∧
      ((ofSource suffix number source).path directory).text.utf8ByteSize < Tree.pathLimit := by
  rw [← utf8ByteSize_name]
  exact ⟨fun fits => ⟨fits.name, fits.path⟩, fun ⟨name, path⟩ => ⟨name, path⟩⟩

/-- As far as what is there goes, each file can be put into a directory. -/
structure Ready (tree : Tree) (directory : Path) (place : Place) (files : List TempFile) : Prop where
  reaches : tree.Reaches directory place
  takes : ∀ file ∈ files, tree.TakesFile (place ++ [file.name])

/-- A tree with one more file below a place. -/
def lay (place : Place) (tree : Tree) (file : TempFile) : Tree :=
  tree.set (place ++ [file.name]) (.file (Utf8.encodeText file.source.text))

theorem Ready.next (ready : Ready tree directory place (file :: files)) :
    Ready (lay place tree file) directory place files where
  reaches := ready.reaches.kept (Tree.keepsWays_set (ready.takes file (by simp)))
  takes := fun other member => (ready.takes other (by simp [member])).set

theorem writeText_eq_ok (ready : Ready tree directory place (file :: files))
    (plain : Tree.IsPlain file.name) (fits : file.Fits directory) :
    tree.writeText (file.path directory) file.source.text = .ok (lay place tree file) := by
  have short : ¬ (Tree.nameLimit < file.name.utf8ByteSize ∨
      Tree.pathLimit ≤ (directory.child file.name).text.utf8ByteSize) := by
    rw [not_or, not_lt, not_le]
    exact ⟨fits.name, fits.path⟩
  rw [path, Tree.writeText_child ready.reaches plain (ready.takes file (by simp)), if_neg short, lay]

theorem writeText_eq_error (ready : Ready tree directory place (file :: files))
    (plain : Tree.IsPlain file.name) (long : ¬ file.Fits directory) :
    tree.writeText (file.path directory) file.source.text =
      .error (.system .nameTooLong (file.path directory).text) := by
  have long : Tree.nameLimit < file.name.utf8ByteSize ∨
      Tree.pathLimit ≤ (directory.child file.name).text.utf8ByteSize := by
    by_contra short
    rw [not_or, not_lt, not_le] at short
    exact long ⟨short.1, short.2⟩
  rw [path, Tree.writeText_child ready.reaches plain (ready.takes file (by simp)), if_pos long]

theorem writeAll_eq_ok (ready : Ready tree directory place files)
    (plain : ∀ file ∈ files, Tree.IsPlain file.name) {written : Tree} :
    writeAll directory files tree = .ok written ↔
      (∀ file ∈ files, file.Fits directory) ∧ files.foldl (lay place) tree = written := by
  -- A file that is written leaves the directory ready for the next one.
  induction files generalizing tree with
  | nil => simp [writeAll]
  | cons file rest ih =>
      by_cases fits : file.Fits directory
      · rw [writeAll, writeText_eq_ok ready (plain file (by simp)) fits, List.foldl_cons,
          List.forall_mem_cons, and_iff_right fits]
        exact ih ready.next fun other member => plain other (by simp [member])
      · rw [writeAll, writeText_eq_error ready (plain file (by simp)) fits]
        constructor
        · rintro ⟨⟩
        · rintro ⟨all, _⟩
          exact absurd (all file (by simp)) fits

/-- The first file that does not fit ends the writing. -/
theorem writeAll_eq_error (ready : Ready tree directory place files)
    (plain : ∀ file ∈ files, Tree.IsPlain file.name) :
    writeAll directory files tree = .error fault ↔
      ∃ before file after, files = before ++ file :: after ∧
        (∀ earlier ∈ before, earlier.Fits directory) ∧ ¬ file.Fits directory ∧
        fault = .system .nameTooLong (file.path directory).text := by
  induction files generalizing tree with
  | nil => simp [writeAll]
  | cons file rest ih =>
      by_cases fits : file.Fits directory
      · have first : writeAll directory (file :: rest) tree =
            writeAll directory rest (lay place tree file) := by
          rw [writeAll, writeText_eq_ok ready (plain file (by simp)) fits]
          rfl
        rw [first, ih ready.next fun other member => plain other (by simp [member])]
        constructor
        · rintro ⟨before, other, after, rfl, earlier, long, rfl⟩
          exact ⟨file :: before, other, after, rfl, by simpa [fits] using earlier, long, rfl⟩
        · rintro ⟨_ | ⟨first, before⟩, other, after, split, earlier, long, rfl⟩
          · obtain ⟨rfl, rfl⟩ := List.cons.inj split
            exact absurd fits long
          · obtain ⟨rfl, rfl⟩ := List.cons.inj split
            exact ⟨before, other, after, rfl,
              fun file member => earlier file (by simp [member]), long, rfl⟩
      · rw [writeAll, writeText_eq_error ready (plain file (by simp)) fits]
        constructor
        · intro failed
          exact ⟨[], file, rest, rfl, by simp, fits, (Except.error.inj failed).symm⟩
        · rintro ⟨_ | ⟨first, before⟩, other, after, split, earlier, long, rfl⟩
          · obtain ⟨rfl, rfl⟩ := List.cons.inj split
            rfl
          · obtain ⟨rfl, rfl⟩ := List.cons.inj split
            exact absurd (earlier file (by simp)) fits

end TempFile

theorem Tree.HoldsFiles.ready {tree : Tree} {directory : Path} (holds : tree.HoldsFiles directory)
    (files : List TempFile) : TempFile.Ready tree directory directory.names files :=
  ⟨holds.reaches, fun file _ => holds.files file.name⟩

end DocSamples
