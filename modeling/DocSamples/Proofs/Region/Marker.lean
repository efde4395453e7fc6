import DocSamples.Proofs.Text.Blank
import DocSamples.Region

namespace DocSamples

open Text

/-! # How markers are written

A marker is a comment line that begins with one of two words.  After the first of them stands
the name of the region and nothing else; after the second may stand anything that does not
continue the word.
-/

namespace Marker

variable {marker : Marker} {line name word : String} {chars rest : List Char}

/-- A line that is a comment, with what is written in it. -/
def IsComment (line written : List Char) : Prop :=
  ∃ indent sign gap, AreBlank indent ∧ (sign = ['#'] ∨ sign = ['/', '/']) ∧ AreBlank gap ∧
    line = indent ++ (sign ++ (gap ++ written))

/-- A name that stands between blanks, the first of which there has to be. -/
structure IsName (name : String) (chars : List Char) : Prop where
  filled : name ≠ ""
  solid : ∀ c ∈ name.toList, isBlank c = false
  between : ∃ gap tail, gap ≠ [] ∧ AreBlank gap ∧ AreBlank tail ∧
    chars = gap ++ (name.toList ++ tail)

/-- How a line is written that is a marker. -/
def IsWritten : Marker → String → Prop
  | opening name, line =>
      ∃ rest, IsComment line.toList ("region".toList ++ rest) ∧ IsName name rest
  | closing, line =>
      ∃ rest, IsComment line.toList ("endregion".toList ++ rest) ∧
        ∀ c ∈ rest.head?, isWordChar c = false

theorem comment_eq_some_iff {line written : List Char} : comment? line = some written ↔
    IsComment line written ∧ ∀ c ∈ written.head?, isBlank c = false := by
  constructor
  · intro found
    obtain ⟨⟨indent, blank, split⟩, _⟩ := dropBlanks_eq_iff.mp (Eq.refl (dropBlanks line))
    rw [comment?.eq_def] at found
    split at found
    · rename_i rest begins
      obtain ⟨⟨gap, blankGap, whole⟩, first⟩ := dropBlanks_eq_iff.mp (Option.some.inj found)
      rw [begins, whole] at split
      exact ⟨⟨indent, _, gap, blank, .inl rfl, blankGap, split⟩, first⟩
    · rename_i rest begins
      obtain ⟨⟨gap, blankGap, whole⟩, first⟩ := dropBlanks_eq_iff.mp (Option.some.inj found)
      rw [begins, whole] at split
      exact ⟨⟨indent, _, gap, blank, .inr rfl, blankGap, split⟩, first⟩
    · simp at found
  · rintro ⟨⟨indent, sign, gap, blank, signed, blankGap, rfl⟩, first⟩
    have after := dropBlanks_append blankGap written
    rw [dropBlanks_eq_self first] at after
    have sharp : isBlank '#' = false := by decide +kernel
    have slash : isBlank '/' = false := by decide +kernel
    rcases signed with rfl | rfl
    · have begins := (dropBlanks_append blank _).trans
        (dropBlanks_cons_solid (gap ++ written) sharp)
      rw [comment?, List.singleton_append, begins]
      exact congrArg some after
    · have begins := (dropBlanks_append blank _).trans
        (dropBlanks_cons_solid ('/' :: (gap ++ written)) slash)
      rw [comment?, List.cons_append, List.singleton_append, begins]
      exact congrArg some after

theorem afterWord_eq_some_iff :
    afterWord? word chars = some rest ↔ chars = word.toList ++ rest := by
  rw [afterWord?]
  split
  · rename_i begins
    obtain ⟨more, rfl⟩ := List.isPrefixOf_iff_prefix.mp begins
    simp
  · rename_i apart
    simp only [reduceCtorEq, false_iff]
    rintro rfl
    exact apart (List.isPrefixOf_iff_prefix.mpr (List.prefix_append _ _))

theorem name_eq_some_iff_trimChars : name? chars = some name ↔
    (∀ c ∈ chars.head?, isBlank c = true) ∧ trimChars chars = name.toList ∧ name ≠ "" ∧
      ∀ c ∈ name.toList, isBlank c = false := by
  have empty : [] = name.toList ↔ name = "" := by
    rw [← String.toList_inj, eq_comm]
    rfl
  cases chars with
  | nil =>
      have nothing : trimChars [] = [] := rfl
      simp +contextual [name?, nothing, empty]
  | cons c more =>
      cases blank : isBlank c with
      | false => simp [name?, blank]
      | true =>
          cases word : trimChars (c :: more) with
          | nil => simp +contextual [name?, blank, word, empty]
          | cons d others =>
              have same : String.ofList (d :: others) = name ↔ d :: others = name.toList := by
                rw [← String.toList_inj, String.toList_ofList]
              simp only [name?, blank, word, if_true, Option.ite_none_left_eq_some,
                Option.some.injEq, same]
              constructor
              · rintro ⟨solid, spelled⟩
                rw [← spelled]
                refine ⟨by simpa using blank, rfl, ?_, by simpa using solid⟩
                rintro rfl
                simp at spelled
              · rintro ⟨_, spelled, _, solid⟩
                rw [← spelled] at solid
                exact ⟨by simpa using solid, spelled⟩

theorem name_eq_some_iff : name? chars = some name ↔ IsName name chars := by
  rw [name_eq_some_iff_trimChars]
  constructor
  · rintro ⟨first, trimmed, filled, solid⟩
    have word : name.toList ≠ [] := by simpa using filled
    obtain ⟨_, gap, tail, blank, blankTail, rfl⟩ := (trimChars_eq_iff word).mp trimmed
    refine ⟨filled, solid, gap, tail, ?_, blank, blankTail, rfl⟩
    -- Without a gap the first letter of the name would have to be blank.
    rintro rfl
    obtain ⟨c, rest, split⟩ := List.exists_cons_of_ne_nil word
    have letter := solid c (by simp [split])
    simp [split, letter] at first
  · rintro ⟨filled, solid, gap, tail, wide, blank, blankTail, rfl⟩
    have word : name.toList ≠ [] := by simpa using filled
    refine ⟨fun c head => ?_, ?_, filled, solid⟩
    · rw [List.head?_append_of_ne_nil _ wide] at head
      exact blank c (List.mem_of_head? head)
    · exact (trimChars_eq_iff word).mpr ⟨isTrimmed_of_solid solid, gap, tail, blank, blankTail, rfl⟩

theorem endsWord_iff : endsWord chars = true ↔ ∀ c ∈ chars.head?, isWordChar c = false := by
  cases chars <;> simp [endsWord]

/-- A line is a marker when it is written as that marker. -/
theorem ofLine_eq_some_iff : ofLine? line = some marker ↔ marker.IsWritten line := by
  have region : "region".toList = ['r', 'e', 'g', 'i', 'o', 'n'] := by decide +kernel
  have endregion : "endregion".toList = ['e', 'n', 'd', 'r', 'e', 'g', 'i', 'o', 'n'] := by
    decide +kernel
  have solid : isBlank 'r' = false ∧ isBlank 'e' = false := by decide +kernel
  constructor
  · intro read
    obtain ⟨written, found, read⟩ := Option.bind_eq_some_iff.mp read
    obtain ⟨comment, _⟩ := comment_eq_some_iff.mp found
    split at read
    · rename_i rest begins
      obtain rfl := afterWord_eq_some_iff.mp begins
      obtain ⟨name, named, rfl⟩ := Option.map_eq_some_iff.mp read
      exact ⟨rest, comment, name_eq_some_iff.mp named⟩
    · obtain ⟨rest, begins, ends⟩ := Option.bind_eq_some_iff.mp read
      obtain rfl := afterWord_eq_some_iff.mp begins
      obtain ⟨stops, same⟩ := Option.ite_none_right_eq_some.mp ends
      cases same
      exact ⟨rest, comment, endsWord_iff.mp stops⟩
  · cases marker with
    | opening name =>
        rintro ⟨rest, comment, named⟩
        have found := comment_eq_some_iff.mpr ⟨comment, by simp [region, solid]⟩
        have begins : afterWord? "region" ("region".toList ++ rest) = some rest :=
          afterWord_eq_some_iff.mpr rfl
        simp only [ofLine?, found, begins, name_eq_some_iff.mpr named, Option.bind_eq_bind,
          Option.bind_some, Option.map_some]
    | closing =>
        rintro ⟨rest, comment, stops⟩
        have found := comment_eq_some_iff.mpr ⟨comment, by simp [endregion, solid]⟩
        -- The other word is tried first, and it begins with another letter.
        have other : afterWord? "region" ("endregion".toList ++ rest) = none := by
          simp [afterWord?, region, endregion]
        have begins : afterWord? "endregion" ("endregion".toList ++ rest) = some rest :=
          afterWord_eq_some_iff.mpr rfl
        simp only [ofLine?, found, other, begins, endsWord_iff.mpr stops, Option.bind_eq_bind,
          Option.bind_some, if_true]

instance (marker : Marker) (line : String) : Decidable (marker.IsWritten line) :=
  decidable_of_iff _ ofLine_eq_some_iff

end Marker

end DocSamples
