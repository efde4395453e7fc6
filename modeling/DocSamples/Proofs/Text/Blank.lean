import Mathlib
import DocSamples.Text.Blank

namespace DocSamples.Text

/-! # Blanks at the ends of a text

What is left of a text without the blanks at its ends begins and ends with something else, and
the text is told by it and by the blanks around it.
-/

variable {chars rest word : List Char}

def AreBlank (chars : List Char) : Prop :=
  ∀ c ∈ chars, isBlank c = true

theorem AreBlank.reverse (blank : AreBlank chars) : AreBlank chars.reverse :=
  fun c member => blank c (List.mem_reverse.mp member)

/-! ## Texts without blanks at their ends -/

structure IsTrimmed (chars : List Char) : Prop where
  first : ∀ c ∈ chars.head?, isBlank c = false
  last : ∀ c ∈ chars.getLast?, isBlank c = false

theorem dropBlanks_eq_self (first : ∀ c ∈ chars.head?, isBlank c = false) :
    dropBlanks chars = chars := by
  cases chars with
  | nil => rfl
  | cons c rest => exact dropBlanks_cons_solid rest (first c rfl)

theorem dropEndBlanks_eq_self (last : ∀ c ∈ chars.getLast?, isBlank c = false) :
    dropEndBlanks chars = chars := by
  have same := @dropBlanks_eq_self chars.reverse (by simpa using last)
  rw [dropBlanks] at same
  rw [dropEndBlanks, same, List.reverse_reverse]

theorem IsTrimmed.trimChars_eq (trimmed : IsTrimmed chars) : trimChars chars = chars := by
  rw [trimChars, dropBlanks_eq_self trimmed.first, dropEndBlanks_eq_self trimmed.last]

theorem isTrimmed_of_solid (solid : ∀ c ∈ chars, isBlank c = false) : IsTrimmed chars where
  first := fun c head => solid c (List.mem_of_head? head)
  last := fun c last => solid c (List.mem_of_getLast? last)

theorem isTrimmed_append {front back : List Char} (first : ∀ c ∈ front.head?, isBlank c = false)
    (filled : back ≠ []) (solid : ∀ c ∈ back, isBlank c = false) : IsTrimmed (front ++ back) where
  first := by
    cases front with
    | nil => exact fun c head => solid c (List.mem_of_head? head)
    | cons c rest => simpa using first
  last := by
    rw [List.getLast?_append_of_ne_nil _ filled]
    exact (isTrimmed_of_solid solid).last

/-! ## Texts by what is left of them -/

theorem dropBlanks_append {gap : List Char} (blank : AreBlank gap) (rest : List Char) :
    dropBlanks (gap ++ rest) = dropBlanks rest :=
  List.dropWhile_append_of_pos blank

theorem dropBlanks_eq_iff : dropBlanks chars = rest ↔
    (∃ gap, AreBlank gap ∧ chars = gap ++ rest) ∧ ∀ c ∈ rest.head?, isBlank c = false := by
  constructor
  · rintro rfl
    refine ⟨⟨chars.takeWhile isBlank, fun c member => List.mem_takeWhile_imp member,
      List.takeWhile_append_dropWhile.symm⟩, fun c head => ?_⟩
    have stops := List.head?_dropWhile_not isBlank chars
    rw [← dropBlanks, Option.mem_def.mp head] at stops
    simpa using stops
  · rintro ⟨⟨gap, blank, rfl⟩, first⟩
    rw [dropBlanks_append blank, dropBlanks_eq_self first]

theorem dropEndBlanks_eq_iff : dropEndBlanks chars = rest ↔
    (∃ gap, AreBlank gap ∧ chars = rest ++ gap) ∧ ∀ c ∈ rest.getLast?, isBlank c = false := by
  have turned : dropEndBlanks chars = rest ↔ dropBlanks chars.reverse = rest.reverse :=
    List.reverse_eq_iff
  rw [turned, dropBlanks_eq_iff, List.head?_reverse]
  refine and_congr_left fun _ => ⟨?_, ?_⟩
  · rintro ⟨gap, blank, split⟩
    exact ⟨gap.reverse, blank.reverse, by simpa using congrArg List.reverse split⟩
  · rintro ⟨gap, blank, rfl⟩
    exact ⟨gap.reverse, blank.reverse, List.reverse_append⟩

theorem trimChars_eq_iff (filled : word ≠ []) : trimChars chars = word ↔
    IsTrimmed word ∧ ∃ gap tail, AreBlank gap ∧ AreBlank tail ∧ chars = gap ++ (word ++ tail) := by
  constructor
  · intro trimmed
    obtain ⟨⟨tail, blankTail, split⟩, last⟩ := dropEndBlanks_eq_iff.mp trimmed
    obtain ⟨⟨gap, blankGap, whole⟩, first⟩ := dropBlanks_eq_iff.mp split
    rw [List.head?_append_of_ne_nil _ filled] at first
    exact ⟨⟨first, last⟩, gap, tail, blankGap, blankTail, whole⟩
  · rintro ⟨trimmed, gap, tail, blankGap, blankTail, rfl⟩
    have first : ∀ c ∈ (word ++ tail).head?, isBlank c = false := by
      rw [List.head?_append_of_ne_nil _ filled]
      exact trimmed.first
    rw [trimChars, dropBlanks_append blankGap, dropBlanks_eq_self first]
    exact dropEndBlanks_eq_iff.mpr ⟨⟨tail, blankTail, rfl⟩, trimmed.last⟩

end DocSamples.Text
