import Mathlib
import DocSamples.Wildcard

namespace DocSamples.Wildcard

/-! # What wildcards describe

A star stands for any text, and every other item for one character that it accepts.  All
ways to read a text are followed at once when it is matched.
-/

/-- The texts that a wildcard describes. -/
inductive Describes : Wildcard → List Char → Prop
  | done : Describes [] []
  | star {rest : Wildcard} (text : List Char) {chars : List Char} (later : Describes rest chars) :
      Describes (.anyText :: rest) (text ++ chars)
  | one {item : WildcardItem} {c : Char} {rest : Wildcard} {chars : List Char}
      (single : item ≠ .anyText) (accepts : item.accepts c = true)
      (later : Describes rest chars) : Describes (item :: rest) (c :: chars)

variable {wildcard rest : Wildcard} {item : WildcardItem} {c : Char} {chars : List Char}

theorem describes_star_nil_iff : Describes (.anyText :: rest) [] ↔ Describes rest [] := by
  constructor
  · intro described
    generalize empty : ([] : List Char) = chars at described
    cases described with
    | star text later =>
        obtain ⟨rfl, rfl⟩ := List.append_eq_nil_iff.mp empty.symm
        exact later
    | one single => exact absurd rfl single
  · exact fun later => .star [] later

theorem describes_star_cons_iff :
    Describes (.anyText :: rest) (c :: chars) ↔
      Describes rest (c :: chars) ∨ Describes (.anyText :: rest) chars := by
  constructor
  · intro described
    generalize whole : c :: chars = all at described
    cases described with
    | star text later =>
        cases text with
        | nil => exact .inl later
        | cons first text =>
            obtain ⟨_, rfl⟩ := List.cons.inj whole
            exact .inr (.star text later)
    | one single => exact absurd rfl single
  · rintro (here | more)
    · exact .star [] here
    · cases more with
      | star text later => exact .star (c :: text) later
      | one single => exact absurd rfl single

theorem describes_one_iff (single : item ≠ .anyText) :
    Describes (item :: rest) chars ↔
      ∃ c more, chars = c :: more ∧ item.accepts c = true ∧ Describes rest more := by
  constructor
  · intro described
    cases described with
    | star => exact absurd rfl single
    | one _ accepts later => exact ⟨_, _, rfl, accepts, later⟩
  · rintro ⟨c, more, rfl, accepts, later⟩
    exact .one single accepts later

theorem skips_one (single : item ≠ .anyText) : skips (item :: rest) = [item :: rest] := by
  cases item <;> simp_all [skips]

theorem step_one (single : item ≠ .anyText) :
    step c (item :: rest) = if item.accepts c then skips rest else [] := by
  cases item <;> simp_all [step]

theorem describes_nil_iff : Describes wildcard [] ↔ [] ∈ skips wildcard := by
  induction wildcard with
  | nil => simpa [skips] using Describes.done
  | cons item rest ih =>
      by_cases star : item = .anyText
      · rw [star, describes_star_nil_iff, skips, ih]
        simp
      · simp [describes_one_iff star, skips_one star]

/-- Several wildcards are followed at once. -/
theorem anyMatches_iff {wildcards : List Wildcard} :
    anyMatches wildcards chars = true ↔
      ∃ wildcard ∈ wildcards, anyMatches [wildcard] chars = true := by
  induction chars generalizing wildcards with
  | nil => simp [anyMatches, eq_comm]
  | cons c more ih =>
      rw [anyMatches, ih]
      simp only [List.mem_eraseDups, List.mem_flatMap]
      constructor
      · rintro ⟨left, ⟨wildcard, member, steps⟩, later⟩
        refine ⟨wildcard, member, ?_⟩
        rw [anyMatches, ih]
        exact ⟨left, by simpa using steps, later⟩
      · rintro ⟨wildcard, member, matched⟩
        rw [anyMatches, ih] at matched
        obtain ⟨left, steps, later⟩ := matched
        exact ⟨left, ⟨wildcard, member, by simpa using steps⟩, later⟩

theorem anyMatches_nil : anyMatches [] chars = false := by
  rw [← Bool.not_eq_true, anyMatches_iff]
  simp

theorem anyMatches_cons_iff {wildcards : List Wildcard} :
    anyMatches wildcards (c :: chars) = true ↔
      ∃ now ∈ wildcards, anyMatches (step c now) chars = true := by
  rw [anyMatches_iff]
  refine exists_congr fun now => and_congr_right fun _ => ?_
  rw [anyMatches, anyMatches_iff, anyMatches_iff]
  simp

/-- Matching follows all ways to read a text, with every star left out or not. -/
theorem anyMatches_skips_iff :
    anyMatches (skips wildcard) chars = true ↔ Describes wildcard chars := by
  induction chars generalizing wildcard with
  | nil => simp [anyMatches, describes_nil_iff]
  | cons c more later =>
      induction wildcard with
      | nil =>
          simp only [skips, anyMatches_cons_iff, List.mem_singleton, exists_eq_left, step,
            anyMatches_nil, Bool.false_eq_true, false_iff]
          rintro ⟨⟩
      | cons item rest ih =>
          by_cases star : item = .anyText
          · have all : anyMatches (skips (item :: rest)) (c :: more) = true ↔
                Describes (item :: rest) more ∨ anyMatches (skips rest) (c :: more) = true := by
              rw [star, skips, anyMatches_cons_iff, anyMatches_cons_iff]
              simp [step, later]
            rw [all, ih, star, describes_star_cons_iff]
            exact or_comm
          · rw [describes_one_iff star, skips_one star, anyMatches_cons_iff]
            simp only [List.mem_singleton, exists_eq_left, step_one star]
            by_cases accepts : item.accepts c = true
            · simp [accepts, later]
            · simp [accepts, anyMatches_nil]

theorem isMatch_iff {name : String} :
    wildcard.isMatch name = true ↔ Describes wildcard name.toList :=
  anyMatches_skips_iff

end DocSamples.Wildcard
