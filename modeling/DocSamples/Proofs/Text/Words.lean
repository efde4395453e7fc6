import Mathlib
import DocSamples.Text.Blank

namespace DocSamples.Text

/-! # Words between blanks

Blanks part a text into words, and whatever stands between two of them is a word of its
own.  So a word begins where the text begins or where a blank is followed by something else.
-/

variable {c : Char} {first second : List Char}

theorem wordChars_nil : wordChars [] = [] := rfl

theorem wordChars_blank (rest : List Char) (blank : isBlank c = true) :
    wordChars (c :: rest) = wordChars rest :=
  if_pos blank

theorem wordChars_ne_nil (rest : List Char) (solid : isBlank c = false) :
    wordChars (c :: rest) ≠ [] := by
  have begun : wordChars (c :: rest) = _ := if_neg (by simp [solid])
  rw [begun]
  split
  · split <;> simp
  · simp

theorem wordChars_single (rest : List Char) (solid : isBlank c = false)
    (ends : ∀ d ∈ rest.head?, isBlank d = true) : wordChars (c :: rest) = [c] :: wordChars rest := by
  have begun : wordChars (c :: rest) = _ := if_neg (by simp [solid])
  rw [begun]
  cases rest with
  | nil => rfl
  | cons d more =>
      have blank : isBlank d = true := ends d rfl
      cases wordChars (d :: more) <;> simp [blank]

theorem wordChars_solid {d : Char} {rest word : List Char} {more : List (List Char)}
    (solid : isBlank c = false) (next : isBlank d = false)
    (found : wordChars (d :: rest) = word :: more) :
    wordChars (c :: d :: rest) = (c :: word) :: more := by
  have begun : wordChars (c :: d :: rest) = _ := if_neg (by simp [solid])
  rw [begun, found]
  simp [next]

/-- The words before a blank and the words after it have nothing to do with each other. -/
theorem wordChars_append_blank (blank : isBlank c = true) :
    wordChars (first ++ c :: second) = wordChars first ++ wordChars second := by
  induction first with
  | nil => exact wordChars_blank second blank
  | cons d rest ih =>
      cases solid : isBlank d with
      | true => rw [List.cons_append, wordChars_blank _ solid, wordChars_blank _ solid, ih]
      | false =>
          cases rest with
          | nil =>
              rw [List.cons_append, wordChars_single _ solid (by simp [blank]), ih,
                wordChars_single _ solid (by simp)]
              rfl
          | cons e more =>
              cases next : isBlank e with
              | true =>
                  rw [List.cons_append, wordChars_single _ solid (by simp [next]), ih,
                    wordChars_single _ solid (by simp [next])]
                  rfl
              | false =>
                  obtain ⟨word, others, found⟩ :=
                    List.exists_cons_of_ne_nil (wordChars_ne_nil more next)
                  rw [found, List.cons_append] at ih
                  rw [List.cons_append, List.cons_append, wordChars_solid solid next ih,
                    wordChars_solid solid next found]
                  rfl

theorem wordChars_run {run : List Char} (filled : run ≠ [])
    (solid : ∀ c ∈ run, isBlank c = false) : wordChars run = [run] := by
  induction run with
  | nil => contradiction
  | cons c rest ih =>
      cases rest with
      | nil => exact wordChars_single [] (solid c (by simp)) (by simp)
      | cons d more =>
          have later := ih (by simp) fun e member => solid e (by simp [member])
          exact wordChars_solid (solid c (by simp)) (solid d (by simp)) later

/-! ## Where a word begins -/

section Beginnings

variable {mark chars : List Char}

/-- A mark that stands after a blank. -/
def FollowsBlank (mark chars : List Char) : Prop :=
  ∃ before c after, isBlank c = true ∧ chars = before ++ c :: (mark ++ after)

theorem prefix_append_blank_iff (solid : ∀ d ∈ mark, isBlank d = false) (blank : isBlank c = true) :
    mark <+: first ++ c :: second ↔ mark <+: first := by
  constructor
  · intro begins
    rcases List.prefix_or_prefix_of_prefix begins (List.prefix_append first (c :: second)) with
      inside | ⟨rest, rfl⟩
    · exact inside
    · cases rest with
      | nil => simp
      | cons d more =>
          obtain ⟨rfl, _⟩ := List.cons_prefix_cons.mp ((List.prefix_append_right_inj first).mp begins)
          simp [solid d (by simp)] at blank
  · intro inside
    exact inside.trans (List.prefix_append _ _)

theorem followsBlank_append_blank_iff (solid : ∀ d ∈ mark, isBlank d = false)
    (blank : isBlank c = true) :
    FollowsBlank mark (first ++ c :: second) ↔
      FollowsBlank mark first ∨ mark <+: second ∨ FollowsBlank mark second := by
  constructor
  · rintro ⟨before, d, after, blank', split⟩
    rcases List.append_eq_append_iff.mp split with ⟨rest, rfl, later⟩ | ⟨rest, rfl, later⟩
    · cases rest with
      | nil =>
          obtain ⟨rfl, rfl⟩ := List.cons.inj later
          exact .inr (.inl (List.prefix_append _ _))
      | cons e more =>
          obtain ⟨rfl, rfl⟩ := List.cons.inj later
          exact .inr (.inr ⟨more, d, after, blank', rfl⟩)
    · cases rest with
      | nil =>
          obtain ⟨rfl, rfl⟩ := List.cons.inj later
          exact .inr (.inl (List.prefix_append _ _))
      | cons e more =>
          obtain ⟨rfl, tails⟩ := List.cons.inj later
          have begins : mark <+: more ++ c :: second := ⟨after, tails⟩
          obtain ⟨tail, rfl⟩ := (prefix_append_blank_iff solid blank).mp begins
          exact .inl ⟨before, d, tail, blank', rfl⟩
  · rintro (⟨before, d, after, blank', rfl⟩ | ⟨after, rfl⟩ | ⟨before, d, after, blank', rfl⟩)
    · exact ⟨before, d, after ++ c :: second, blank', by simp⟩
    · exact ⟨first, c, after, blank, rfl⟩
    · exact ⟨first ++ c :: before, d, after, blank', by simp⟩

theorem not_followsBlank (solid : ∀ d ∈ chars, isBlank d = false) : ¬ FollowsBlank mark chars := by
  rintro ⟨before, c, after, blank, rfl⟩
  simp [solid c (by simp)] at blank

/-- A word begins with a mark where the whole text does, or where the mark follows a blank. -/
theorem exists_word_prefix_iff (filled : mark ≠ []) (solid : ∀ d ∈ mark, isBlank d = false) :
    (∃ word ∈ wordChars chars, mark <+: word) ↔ mark <+: chars ∨ FollowsBlank mark chars := by
  have run (part : List Char) (whole : ∀ d ∈ part, isBlank d = false) :
      (∃ word ∈ wordChars part, mark <+: word) ↔ mark <+: part := by
    cases part with
    | nil => simp [wordChars_nil, filled]
    | cons c rest => simp [wordChars_run (List.cons_ne_nil c rest) whole]
  -- The induction goes from one blank of the text to the next.
  induction size : chars.length using Nat.strong_induction_on generalizing chars with
  | _ size ih =>
      subst size
      have before : ∀ d ∈ chars.takeWhile (!isBlank ·), isBlank d = false := by
        intro d member
        simpa using List.mem_takeWhile_imp member
      have split := (List.takeWhile_append_dropWhile (p := (!isBlank ·)) (l := chars)).symm
      cases after : chars.dropWhile (!isBlank ·) with
      | nil =>
          rw [after, List.append_nil] at split
          rw [split, run _ before]
          simp [not_followsBlank before]
      | cons c rest =>
          have blank : isBlank c = true := by
            have stops := List.head?_dropWhile_not (!isBlank ·) chars
            simpa [after] using stops
          rw [after] at split
          have shorter : rest.length < chars.length := by
            rw [split, List.length_append, List.length_cons]
            omega
          have later : (∃ word ∈ wordChars rest, mark <+: word) ↔
              mark <+: rest ∨ FollowsBlank mark rest := ih rest.length shorter rfl
          rw [split, wordChars_append_blank blank, prefix_append_blank_iff solid blank,
            followsBlank_append_blank_iff solid blank, ← later, ← run _ before]
          simp only [not_followsBlank before, false_or, List.mem_append, or_and_right, exists_or]

end Beginnings

end DocSamples.Text
