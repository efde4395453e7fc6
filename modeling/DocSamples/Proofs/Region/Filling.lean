import Mathlib
import DocSamples.Proofs.Region.Parts

namespace DocSamples.Region

open Text

/-! # Several regions filled at once

The lines of a text are numbered, and regions are told by the numbers of their markers.  So a
region stays the same region while others are filled, and it does not matter which is filled
first when they lie apart.
-/

/-- New lines for the body of a region. -/
structure Filling where
  span : Span
  body : List String

namespace Filling

/-- The lines that the new body takes the place of, with the opening marker. -/
def Covers (filling : Filling) (number : Nat) : Prop :=
  filling.span.first ≤ number ∧ number < filling.span.last

instance (filling : Filling) (number : Nat) : Decidable (filling.Covers number) :=
  inferInstanceAs (Decidable (_ ∧ _))

end Filling

/-- Neither of two regions reaches into the other. -/
def Span.IsApart (one other : Span) : Prop :=
  one.last < other.first ∨ other.last < one.first

theorem Span.IsApart.symm {one other : Span} (apart : one.IsApart other) : other.IsApart one :=
  Or.symm apart

def IsSeparate (fillings : List Filling) : Prop :=
  fillings.Pairwise fun one other => one.span.IsApart other.span

def covering? (fillings : List Filling) (number : Nat) : Option Filling :=
  fillings.find? fun filling => decide (filling.Covers number)

/-- The lines that stand for one line when some regions are filled. -/
def filledLine (fillings : List Filling) (number : Nat) (line : String) : List String :=
  match covering? fillings number with
  | none => [line]
  | some filling => if number = filling.span.first then line :: filling.body else []

def fillFrom (fillings : List Filling) (number : Nat) : List String → List String
  | [] => []
  | line :: rest => filledLine fillings number line ++ fillFrom fillings (number + 1) rest

variable {fillings others : List Filling} {filling : Filling} {number : Nat}
  {above below all : List String} {line : String}

/-! ## Which region covers a line -/

/-- A region does not cover the lines of one apart from it, nor the marker that closes that. -/
theorem Span.IsApart.not_covers {span : Span} (apart : span.IsApart filling.span)
    (after : span.first ≤ number) (before : number ≤ span.last) : ¬ filling.Covers number := by
  simp only [IsApart, Filling.Covers] at apart ⊢
  omega

theorem covering_cons_of_covers (covers : filling.Covers number) :
    covering? (filling :: fillings) number = some filling := by
  rw [covering?, List.find?_cons_of_pos (by simpa using covers)]

theorem covering_cons_of_not_covers (outside : ¬ filling.Covers number) :
    covering? (filling :: fillings) number = covering? fillings number := by
  rw [covering?, List.find?_cons_of_neg (by simpa using outside), covering?]

theorem covering_eq_some (separate : IsSeparate fillings) :
    covering? fillings number = some filling ↔ filling ∈ fillings ∧ filling.Covers number := by
  constructor
  · intro found
    exact ⟨List.mem_of_find?_eq_some found, by simpa using List.find?_some found⟩
  · rintro ⟨member, covers⟩
    induction separate with
    | nil => simp at member
    | @cons first rest apart _ ih =>
        rcases List.mem_cons.mp member with rfl | later
        · exact covering_cons_of_covers covers
        · have outside : ¬ first.Covers number :=
            (apart filling later).symm.not_covers covers.1 covers.2.le
          rw [covering_cons_of_not_covers outside, ih later]

theorem covering_eq_none : covering? fillings number = none ↔
    ∀ filling ∈ fillings, ¬ filling.Covers number := by
  simp [covering?]

theorem covering_perm (separate : IsSeparate fillings) (reordered : others.Perm fillings) :
    covering? others number = covering? fillings number := by
  have otherSeparate : IsSeparate others :=
    (reordered.pairwise_iff Span.IsApart.symm).mpr separate
  refine Option.ext fun filling => ?_
  rw [covering_eq_some otherSeparate, covering_eq_some separate, reordered.mem_iff]

/-! ## Filling line by line -/

theorem fillFrom_append : fillFrom fillings number (above ++ below) =
    fillFrom fillings number above ++ fillFrom fillings (number + above.length) below := by
  induction above generalizing number with
  | nil => simp [fillFrom]
  | cons line above ih =>
      have next : number + (line :: above).length = number + 1 + above.length := by
        simp only [List.length_cons]
        omega
      rw [List.cons_append, fillFrom, fillFrom, ih, next, List.append_assoc]

theorem fillFrom_congr (same : ∀ place, number ≤ place → place < number + all.length →
      covering? fillings place = covering? others place) :
    fillFrom fillings number all = fillFrom others number all := by
  induction all generalizing number with
  | nil => rfl
  | cons line rest ih =>
      have here : filledLine fillings number line = filledLine others number line := by
        rw [filledLine, filledLine, same number le_rfl (by simp)]
      have later : fillFrom fillings (number + 1) rest = fillFrom others (number + 1) rest :=
        ih fun place after before =>
          same place (by omega) (by simp only [List.length_cons]; omega)
      rw [fillFrom, fillFrom, here, later]

theorem fillFrom_nil : fillFrom [] number all = all := by
  induction all generalizing number with
  | nil => rfl
  | cons line rest ih => rw [fillFrom, ih]; rfl

theorem fillFrom_outside (outside : ∀ place, number ≤ place → place < number + all.length →
      ∀ filling ∈ fillings, ¬ filling.Covers place) :
    fillFrom fillings number all = all := by
  have same : fillFrom fillings number all = fillFrom [] number all :=
    fillFrom_congr fun place after before => covering_eq_none.mpr (outside place after before)
  rw [same, fillFrom_nil]

theorem fillFrom_inside (inside : ∀ place, number ≤ place → place < number + all.length →
      covering? fillings place = some filling ∧ place ≠ filling.span.first) :
    fillFrom fillings number all = [] := by
  induction all generalizing number with
  | nil => rfl
  | cons line rest ih =>
      obtain ⟨covered, different⟩ := inside number le_rfl (by simp)
      have later : fillFrom fillings (number + 1) rest = [] :=
        ih fun place after before =>
          inside place (by omega) (by simp only [List.length_cons]; omega)
      rw [fillFrom, filledLine, covered, later]
      simp [different]

theorem mem_fillFrom (member : line ∈ fillFrom fillings number all) :
    line ∈ all ∨ ∃ filling ∈ fillings, line ∈ filling.body := by
  induction all generalizing number with
  | nil => simp [fillFrom] at member
  | cons first rest ih =>
      rw [fillFrom, List.mem_append] at member
      rcases member with here | later
      · rw [filledLine] at here
        split at here
        · exact .inl (by simp [List.mem_singleton.mp here])
        · rename_i filling covered
          have present : filling ∈ fillings := List.mem_of_find?_eq_some covered
          split at here
          · rcases List.mem_cons.mp here with rfl | filled
            · exact .inl (by simp)
            · exact .inr ⟨filling, present, filled⟩
          · simp at here
      · exact (ih later).imp (List.mem_cons_of_mem first) id

/-! ## One region among others -/

/-- All regions of some fillings are filled. -/
def fill (fillings : List Filling) (all : List String) : List String :=
  fillFrom fillings 0 all

theorem fill_nil : fill [] all = all :=
  fillFrom_nil

theorem fill_perm (separate : IsSeparate fillings) (reordered : others.Perm fillings) :
    fill others all = fill fillings all :=
  fillFrom_congr fun _ _ _ => covering_perm separate reordered

/-- What is around a region when others are filled. -/
def Parts.around (fillings : List Filling) (parts : Parts) : Parts :=
  { parts with
    above := fill fillings parts.above
    below := fillFrom fillings (parts.span.last + 1) parts.below }

variable {parts : Parts} {name : String} {body : List String}

/-- A region keeps its lines while regions apart from it are filled. -/
theorem fill_around (apart : ∀ filling ∈ fillings, parts.span.IsApart filling.span) :
    fill fillings parts.all = (parts.around fillings).all := by
  have region : parts.all = parts.above ++
      ((parts.opening :: (parts.body ++ [parts.closing])) ++ parts.below) := by
    simp [Parts.all]
  have length : (parts.opening :: (parts.body ++ [parts.closing])).length =
      parts.body.length + 2 := by
    simp
  have still : fillFrom fillings parts.above.length
      (parts.opening :: (parts.body ++ [parts.closing])) =
        parts.opening :: (parts.body ++ [parts.closing]) := by
    refine fillFrom_outside fun place after before filling member =>
      (apart filling member).not_covers after ?_
    simp only [length] at before
    simp only [Parts.span]
    omega
  have next : 0 + parts.above.length + (parts.body.length + 2) = parts.span.last + 1 := by
    simp only [Parts.span]
    omega
  rw [fill, region, fillFrom_append, fillFrom_append, length, next, Nat.zero_add, still]
  simp [Parts.around, Parts.all, fill]

/-- A region that is filled together with regions apart from it has its new body. -/
theorem fill_cons (apart : ∀ filling ∈ fillings, parts.span.IsApart filling.span) :
    fill (⟨parts.span, body⟩ :: fillings) parts.all =
      { parts.around fillings with body := body }.all := by
  have first : parts.span.first = parts.above.length := rfl
  have last : parts.span.last = parts.above.length + parts.body.length + 1 := rfl
  have away {place : Nat} (outside : place < parts.span.first ∨ parts.span.last ≤ place) :
      covering? (⟨parts.span, body⟩ :: fillings) place = covering? fillings place :=
    covering_cons_of_not_covers fun ⟨after, before⟩ =>
      outside.elim (Nat.not_lt.mpr after) (Nat.not_le.mpr before)
  have above : fillFrom (⟨parts.span, body⟩ :: fillings) 0 parts.above =
      fillFrom fillings 0 parts.above :=
    fillFrom_congr fun place _ before => away (.inl (by omega))
  have opening : filledLine (⟨parts.span, body⟩ :: fillings) parts.above.length parts.opening =
      parts.opening :: body := by
    rw [filledLine, covering_cons_of_covers ⟨first.le, by simp only; omega⟩]
    exact if_pos rfl
  have gone : fillFrom (⟨parts.span, body⟩ :: fillings) (parts.above.length + 1) parts.body = [] :=
    fillFrom_inside fun place after before =>
      ⟨covering_cons_of_covers ⟨by simp only; omega, by simp only; omega⟩, by simp only; omega⟩
  have closing : fillFrom (⟨parts.span, body⟩ :: fillings) parts.span.last
      (parts.closing :: parts.below) = fillFrom fillings parts.span.last
        (parts.closing :: parts.below) :=
    fillFrom_congr fun place after _ => away (.inr after)
  have ends : filledLine fillings parts.span.last parts.closing = [parts.closing] := by
    have none : covering? fillings parts.span.last = none :=
      covering_eq_none.mpr fun filling member =>
        (apart filling member).not_covers (by omega) le_rfl
    rw [filledLine, none]
  have next : parts.above.length + 1 + parts.body.length = parts.span.last := by omega
  rw [fill, Parts.all, fillFrom_append, Nat.zero_add, fillFrom, fillFrom_append, above, opening,
    gone, next, closing, fillFrom, ends]
  simp [Parts.around, Parts.all, fill]

/-! ## Texts with filled regions -/

def IsPlain (body : List String) : Prop :=
  ∀ line ∈ body, Marker.ofLine? line = none

theorem depthAfter_plain (plain : IsPlain body) :
    depthAfter? 0 (body.map Marker.ofLine?) = some 0 := by
  refine depthAfter_of_plain fun marker member => ?_
  obtain ⟨line, inside, rfl⟩ := List.mem_map.mp member
  exact plain line inside

/-- The lines that a new body has when it is put into a region. -/
def bodyOf (content : String) : List String :=
  lines (dropEndNewlines content ++ "\n")

theorem isPlain_bodyOf {content : String} (plain : IsPlain (lines content)) :
    IsPlain (bodyOf content) := by
  intro line member
  obtain ⟨gap, empty, whole⟩ := lines_feed (dropEndNewlines content)
  rw [bodyOf, whole, List.mem_append] at member
  rcases member with solid | blank
  · exact plain line ((solidLines_prefix_lines content).subset solid)
  · rw [empty line blank]
    decide

/-- A region is the first of its name while others are filled with plain lines. -/
theorem Parts.AreAt.around (placed : parts.AreAt name)
    (plain : ∀ filling ∈ fillings, IsPlain filling.body) :
    (parts.around fillings).AreAt name := by
  refine ⟨fun line member => ?_, placed.opens, placed.balanced, placed.closes⟩
  rcases mem_fillFrom member with above | ⟨filling, present, filled⟩
  · exact placed.first line above
  · rw [plain filling present line filled]
    simp

theorem Parts.AreAt.withBody (placed : parts.AreAt name) (plain : IsPlain body) :
    { parts with body := body }.AreAt name :=
  ⟨placed.first, placed.opens, depthAfter_plain plain, placed.closes⟩

variable {text content : String}

/-- Filling one more region of a text is the same as filling it together with the others. -/
theorem exists_replace_of_fill (placed : parts.AreAt name)
    (apart : ∀ filling ∈ fillings, parts.span.IsApart filling.span)
    (plain : ∀ filling ∈ fillings, IsPlain filling.body)
    (filled : keptLines text = fill fillings parts.all) (content : String) :
    ∃ result, replace? text name content = some result ∧
      lines result = fill (⟨parts.span, bodyOf content⟩ :: fillings) parts.all ∧
      keptLines result = lines result := by
  obtain ⟨result, replaced, read, kept⟩ := replace_of_parts (placed.around plain)
    ((fill_around apart).symm.trans filled.symm) content
  exact ⟨result, replaced, read.trans (fill_cons apart).symm, kept⟩

/-- The body of a region that was filled is what it was filled with. -/
theorem body_of_fill (placed : parts.AreAt name)
    (apart : ∀ filling ∈ fillings, parts.span.IsApart filling.span)
    (plain : ∀ filling ∈ fillings, IsPlain filling.body) (bodyPlain : IsPlain body)
    (filled : keptLines text = fill (⟨parts.span, body⟩ :: fillings) parts.all) :
    body? text name = some (joinLines body) :=
  body_of_parts ((placed.around plain).withBody bodyPlain)
    ((fill_cons apart).symm.trans filled.symm)

end DocSamples.Region
