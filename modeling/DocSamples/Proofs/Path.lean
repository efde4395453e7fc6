import Mathlib
import DocSamples.Path

namespace DocSamples.Path

/-! # Paths and their texts

The text of a path is read back as that path, so paths with one text are one path.
-/

theorem splitSlashes_of_not_mem {part : List Char} (plain : '/' ∉ part) :
    splitSlashes part = [part] := by
  induction part with
  | nil => rfl
  | cons c part ih =>
      have different : c ≠ '/' := fun same => plain (by simp [same])
      have rest : '/' ∉ part := fun member => plain (by simp [member])
      simp [splitSlashes, different, ih rest]

theorem splitSlashes_slash (rest : List Char) :
    splitSlashes ('/' :: rest) = [] :: splitSlashes rest := by
  simp [splitSlashes]

theorem splitSlashes_append {part : List Char} (plain : '/' ∉ part) (rest : List Char) :
    splitSlashes (part ++ '/' :: rest) = part :: splitSlashes rest := by
  induction part with
  | nil => exact splitSlashes_slash rest
  | cons c part ih =>
      have different : c ≠ '/' := fun same => plain (by simp [same])
      have later : '/' ∉ part := fun member => plain (by simp [member])
      simp [splitSlashes, different, ih later]

theorem splitSlashes_intercalate {parts : List (List Char)} (some : parts ≠ [])
    (plain : ∀ part ∈ parts, '/' ∉ part) : splitSlashes (['/'].intercalate parts) = parts := by
  induction parts with
  | nil => exact absurd rfl some
  | cons part rest ih =>
      have first := plain part (by simp)
      cases rest with
      | nil => simpa using splitSlashes_of_not_mem first
      | cons next more =>
          rw [List.intercalate_cons_cons, List.append_assoc, List.singleton_append,
            splitSlashes_append first, ih (by simp) fun part member => plain part (by simp [member])]

/-- A name begins with something that is no slash. -/
theorem IsName.exists_head {name : String} (named : IsName name) :
    ∃ c rest, name.toList = c :: rest ∧ c ≠ '/' := by
  obtain ⟨filled, _, plain⟩ := named
  have some : name.toList ≠ [] := fun empty => filled (String.toList_eq_nil_iff.mp empty)
  obtain ⟨c, rest, split⟩ := List.exists_cons_of_ne_nil some
  exact ⟨c, rest, split, fun same => plain (by simp [split, same])⟩

theorem anchorOf_of_ne {c : Char} (different : c ≠ '/') (rest : List Char) :
    anchorOf (c :: rest) = .here ∧ anchorOf ('/' :: c :: rest) = .root ∧
      anchorOf ('/' :: '/' :: c :: rest) = .doubleRoot := by
  simp [anchorOf, different]

theorem text_of_ne_nil {path : Path} (some : path.names ≠ []) :
    path.text = path.anchor.text ++ "/".intercalate path.names := by
  obtain ⟨name, rest, split⟩ := List.exists_cons_of_ne_nil some
  cases anchor : path.anchor <;> simp [text, anchor, split]

theorem toList_text_of_ne_nil {path : Path} (some : path.names ≠ []) :
    path.text.toList = path.anchor.text.toList ++ ['/'].intercalate (path.names.map String.toList) := by
  simp [text_of_ne_nil some, String.toList_intercalate]

/-- A path is read from its text: the anchor from the slashes in front, and the
names from what stands between slashes. -/
theorem ofText_text (path : Path) : ofText path.text = path := by
  obtain ⟨anchor, names, named⟩ := path
  rw [ofText, ofNames, mk.injEq]
  cases names with
  | nil => cases anchor <;> simp [text, Anchor.text, anchorOf, splitSlashes, IsName]
  | cons name rest =>
      have whole := toList_text_of_ne_nil (show (mk anchor (name :: rest) named).names ≠ [] by simp)
      have plain : ∀ part ∈ (name :: rest).map String.toList, '/' ∉ part := by
        intro part member
        obtain ⟨name, inside, rfl⟩ := List.mem_map.mp member
        exact (named name inside).2.2
      have parts := splitSlashes_intercalate (by simp) plain
      obtain ⟨c, more, begins, different⟩ : ∃ c more,
          ['/'].intercalate ((name :: rest).map String.toList) = c :: more ∧ c ≠ '/' := by
        obtain ⟨c, more, split, different⟩ := IsName.exists_head (named name (by simp))
        cases rest <;> simp [split, different]
      obtain ⟨here, root, doubleRoot⟩ := anchorOf_of_ne different more
      have kept : (name :: rest).filter (fun text => IsName text) = name :: rest :=
        List.filter_eq_self.mpr fun name member => by simpa using named name member
      have unnamed : ¬ IsName "" := fun named => named.1 rfl
      rw [begins] at whole parts
      rw [whole]
      cases anchor <;>
        simp [Anchor.text, here, root, doubleRoot, splitSlashes_slash, parts, kept, unnamed]

theorem text_injective : Function.Injective text := fun first second same => by
  rw [← ofText_text first, same, ofText_text]

theorem ofNames_names (path : Path) : ofNames path.anchor path.names = path := by
  obtain ⟨anchor, names, named⟩ := path
  simpa [ofNames] using named

theorem names_ofNames {names : List String} (named : ∀ name ∈ names, IsName name)
    (anchor : Anchor) : (ofNames anchor names).names = names :=
  List.filter_eq_self.mpr fun name member => by simpa using named name member

theorem ofText_name {name : String} (named : IsName name) : ofText name = ofNames .here [name] := by
  have read := ofText_text (ofNames .here [name])
  rwa [show (ofNames .here [name]).text = name by simp [text, ofNames, named, Anchor.text]] at read

theorem child_eq {name : String} (named : IsName name) (path : Path) :
    path.child name = ofNames path.anchor (path.names ++ [name]) := by
  have whole := ofNames_names (path.child name)
  rw [← whole]
  simp [child, ofText_name named, join, ofNames, named]

theorem text_child {name : String} (named : IsName name) (path : Path) :
    (path.child name).text =
      (if path.names = [] then path.anchor.text else path.text ++ "/") ++ name := by
  have names : (ofNames path.anchor (path.names ++ [name])).names = path.names ++ [name] := by
    simpa [ofNames, named] using path.named
  rw [child_eq named, text_of_ne_nil (by simp [names]), names]
  split
  · next empty => simp [empty, ofNames]
  · next filled =>
      rw [String.intercalate_append_of_ne_nil filled (by simp), text_of_ne_nil filled]
      simp [ofNames, String.append_assoc]

/-- A path below the root takes a slash and a name for each step. -/
theorem utf8ByteSize_text_root {path : Path} (root : path.anchor = .root) (filled : path.names ≠ []) :
    path.text.utf8ByteSize = (path.names.map fun name => name.utf8ByteSize + 1).sum := by
  have slash : "/".utf8ByteSize = 1 := by decide
  have parts {names : List String} (filled : names ≠ []) :
      ("/".intercalate names).utf8ByteSize + 1 =
        (names.map fun name => name.utf8ByteSize + 1).sum := by
    induction names with
    | nil => exact absurd rfl filled
    | cons name rest ih =>
        cases rest with
        | nil => simp
        | cons next more =>
            have later := ih (by simp)
            rw [String.intercalate_cons_cons, String.utf8ByteSize_append,
              String.utf8ByteSize_append, slash, List.map_cons, List.sum_cons, ← later]
            omega
  rw [text_of_ne_nil filled, root, String.utf8ByteSize_append, ← parts filled]
  simp only [Anchor.text, slash]
  omega

private theorem mem_intercalate {c : Char} {parts : List (List Char)}
    (member : c ∈ ['/'].intercalate parts) : c = '/' ∨ ∃ part ∈ parts, c ∈ part := by
  induction parts with
  | nil => simp at member
  | cons part rest ih =>
      cases rest with
      | nil => exact .inr ⟨part, by simp, by simpa using member⟩
      | cons next more =>
          rw [List.intercalate_cons_cons, List.mem_append, List.mem_append] at member
          rcases member with (inside | slash) | later
          · exact .inr ⟨part, by simp, inside⟩
          · exact .inl (List.mem_singleton.mp slash)
          · exact (ih later).imp_right fun ⟨other, member, inside⟩ =>
              ⟨other, by simp [member], inside⟩

theorem mem_text {path : Path} {c : Char} (member : c ∈ path.text.toList) :
    c = '.' ∨ c = '/' ∨ ∃ name ∈ path.names, c ∈ name.toList := by
  by_cases none : path.names = []
  · cases anchor : path.anchor <;> simp_all [text, Anchor.text]
  · rw [toList_text_of_ne_nil none, List.mem_append] at member
    rcases member with slash | inside
    · cases anchor : path.anchor <;> simp_all [Anchor.text]
    · rcases mem_intercalate inside with slash | ⟨part, member, here⟩
      · exact .inr (.inl slash)
      · obtain ⟨name, named, rfl⟩ := List.mem_map.mp member
        exact .inr (.inr ⟨name, named, here⟩)

end DocSamples.Path
