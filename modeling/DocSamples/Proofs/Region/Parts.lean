import Mathlib
import DocSamples.Proofs.Region
import DocSamples.Proofs.Region.Marker
import DocSamples.Proofs.Text.Joined

namespace DocSamples

open Text

/-! # Regions as brackets

The markers of a text are brackets.  A region reaches from the first opening marker of its
name to the marker that closes it, and what stands between them is balanced.
-/

namespace Region

/-- How many regions are open after some lines; none when one more is closed than was opened. -/
def depthAfter? (depth : Nat) : List (Option Marker) → Option Nat
  | [] => some depth
  | none :: rest => depthAfter? depth rest
  | some (.opening _) :: rest => depthAfter? (depth + 1) rest
  | some .closing :: rest =>
      match depth with
      | 0 => none
      | outer + 1 => depthAfter? outer rest

theorem depthAfter_of_plain {depth : Nat} {markers : List (Option Marker)}
    (plain : ∀ marker ∈ markers, marker = none) : depthAfter? depth markers = some depth := by
  induction markers with
  | nil => rfl
  | cons marker rest ih =>
      obtain rfl : marker = none := plain marker (by simp)
      exact ih fun other member => plain other (by simp [member])

theorem closingLine_of_depthAfter {depth : Nat} {inner below : List (Option Marker)}
    (balanced : depthAfter? depth inner = some 0) :
    closingLine? depth (inner ++ some .closing :: below) = some inner.length := by
  fun_induction depthAfter? depth inner with
  | case1 depth =>
      obtain rfl : depth = 0 := by simpa using balanced
      rfl
  | case2 depth rest ih => simp [closingLine?, ih balanced]
  | case3 depth name rest ih => simp [closingLine?, ih balanced]
  | case4 rest => simp at balanced
  | case5 rest outer ih => simp [closingLine?, ih balanced]

theorem exists_of_closingLine {depth line : Nat} {markers : List (Option Marker)}
    (closes : closingLine? depth markers = some line) :
    ∃ inner below, markers = inner ++ some .closing :: below ∧ inner.length = line ∧
      depthAfter? depth inner = some 0 := by
  fun_induction closingLine? depth markers generalizing line with
  | case1 => simp at closes
  | case2 depth rest ih =>
      obtain ⟨before, closed, rfl⟩ := Option.map_eq_some_iff.mp closes
      obtain ⟨inner, below, rfl, rfl, balanced⟩ := ih closed
      exact ⟨none :: inner, below, rfl, rfl, balanced⟩
  | case3 depth name rest ih =>
      obtain ⟨before, closed, rfl⟩ := Option.map_eq_some_iff.mp closes
      obtain ⟨inner, below, rfl, rfl, balanced⟩ := ih closed
      exact ⟨some (.opening name) :: inner, below, rfl, rfl, balanced⟩
  | case4 rest =>
      obtain rfl : 0 = line := by simpa using closes
      exact ⟨[], rest, rfl, rfl, rfl⟩
  | case5 rest outer ih =>
      obtain ⟨before, closed, rfl⟩ := Option.map_eq_some_iff.mp closes
      obtain ⟨inner, below, rfl, rfl, balanced⟩ := ih closed
      exact ⟨some .closing :: inner, below, rfl, rfl, balanced⟩

/-! ## The parts of a text at a region -/

structure Parts where
  above : List String
  opening : String
  body : List String
  closing : String
  below : List String

namespace Parts

def all (parts : Parts) : List String :=
  parts.above ++ parts.opening :: (parts.body ++ parts.closing :: parts.below)

def span (parts : Parts) : Span :=
  ⟨parts.above.length, parts.above.length + parts.body.length + 1⟩

/-- The parts are those at the first region of a name. -/
structure AreAt (parts : Parts) (name : String) : Prop where
  first : ∀ line ∈ parts.above, Marker.ofLine? line ≠ some (.opening name)
  opens : Marker.ofLine? parts.opening = some (.opening name)
  balanced : depthAfter? 0 (parts.body.map Marker.ofLine?) = some 0
  closes : Marker.ofLine? parts.closing = some .closing

variable {parts : Parts} {name : String}

theorem spanOf_all (placed : parts.AreAt name) :
    spanOf? name (parts.all.map Marker.ofLine?) = some parts.span := by
  obtain ⟨above, opening, body, closing, below⟩ := parts
  obtain ⟨first, opens, balanced, closes⟩ := placed
  simp only [all, span] at first opens balanced closes ⊢
  induction above with
  | nil =>
      simp [spanOf?, opens, closes, closingLine_of_depthAfter balanced]
  | cons line above ih =>
      have different := first line (by simp)
      have later := ih fun other member => first other (by simp [member])
      rw [List.cons_append, List.map_cons, spanOf?, if_neg different, later]
      simp only [Option.map_some, List.length_cons]
      congr 2
      omega

end Parts

theorem exists_parts_of_spanOf {name : String} {span : Span} {all : List String}
    (found : spanOf? name (all.map Marker.ofLine?) = some span) :
    ∃ parts : Parts, parts.AreAt name ∧ parts.all = all ∧ parts.span = span := by
  induction all generalizing span with
  | nil => simp [spanOf?] at found
  | cons line rest ih =>
      rw [List.map_cons, spanOf?] at found
      split at found
      · rename_i opens
        obtain ⟨closing, closes, rfl⟩ := Option.map_eq_some_iff.mp found
        obtain ⟨inner, below, split, rfl, balanced⟩ := exists_of_closingLine closes
        obtain ⟨body, others, rfl, rfl, restOfText⟩ := List.map_eq_append_iff.mp split
        obtain ⟨closingLine, more, rfl, closed, rfl⟩ := List.map_eq_cons_iff.mp restOfText
        exact ⟨⟨[], line, body, closingLine, more⟩, ⟨by simp, opens, balanced, closed⟩, rfl,
          by simp [Parts.span]⟩
      · rename_i different
        obtain ⟨before, within, rfl⟩ := Option.map_eq_some_iff.mp found
        obtain ⟨parts, ⟨first, opens, balanced, closes⟩, rfl, rfl⟩ := ih within
        refine ⟨{ parts with above := line :: parts.above }, ⟨?_, opens, balanced, closes⟩, rfl, ?_⟩
        · intro other member
          rcases List.mem_cons.mp member with rfl | later
          · exact different
          · exact first other later
        · simp only [Parts.span, List.length_cons]
          congr 1
          omega

/-! ## Replacing the body -/

theorem closingLine_append_none {depth : Nat} {markers : List (Option Marker)} :
    closingLine? depth (markers ++ [none]) = closingLine? depth markers := by
  fun_induction closingLine? depth markers with
  | case1 => rfl
  | case2 depth rest ih => simp [closingLine?, ih]
  | case3 depth name rest ih => simp [closingLine?, ih]
  | case4 rest => rfl
  | case5 rest outer ih => simp [closingLine?, ih]

theorem spanOf_append_none {name : String} {markers : List (Option Marker)} :
    spanOf? name (markers ++ [none]) = spanOf? name markers := by
  induction markers with
  | nil => simp [spanOf?]
  | cons marker rest ih => simp only [List.cons_append, spanOf?, closingLine_append_none, ih]

variable {text name : String} {parts : Parts}

/-- An empty line at the end of a text is in no region. -/
theorem find_eq_spanOf_kept (text name : String) :
    find? text name = spanOf? name ((keptLines text).map Marker.ofLine?) := by
  obtain ⟨gap, empty, whole⟩ := exists_keptLines_append text
  rw [find?, whole]
  rcases empty with rfl | rfl
  · rw [List.append_nil]
  · rw [List.map_append]
    exact spanOf_append_none

theorem exists_parts_of_find {span : Span} (found : find? text name = some span) :
    ∃ parts : Parts, parts.AreAt name ∧ parts.all = keptLines text ∧ parts.span = span := by
  rw [find_eq_spanOf_kept] at found
  exact exists_parts_of_spanOf found

theorem find_of_parts (placed : parts.AreAt name) (whole : parts.all = keptLines text) :
    find? text name = some parts.span := by
  rw [find_eq_spanOf_kept, ← whole]
  exact Parts.spanOf_all placed

theorem Parts.take_drop_all (parts : Parts) (more : List String) :
    (parts.all ++ more).take (parts.span.first + 1) = parts.above ++ [parts.opening] ∧
      ((parts.all ++ more).take parts.span.last).drop (parts.span.first + 1) = parts.body ∧
      (parts.all ++ more).drop parts.span.last = parts.closing :: (parts.below ++ more) := by
  have opened : parts.all ++ more = (parts.above ++ [parts.opening]) ++
      (parts.body ++ parts.closing :: (parts.below ++ more)) := by
    simp [all]
  have closed : parts.all ++ more = (parts.above ++ [parts.opening] ++ parts.body) ++
      (parts.closing :: (parts.below ++ more)) := by
    simp [all]
  refine ⟨?_, ?_, ?_⟩
  · rw [opened]
    exact List.take_left' (by simp [span])
  · rw [closed, List.take_left' (by simp [span]; omega)]
    exact List.drop_left' (by simp [span])
  · rw [closed]
    exact List.drop_left' (by simp [span]; omega)

theorem body_of_parts (placed : parts.AreAt name) (whole : parts.all = keptLines text) :
    body? text name = some (joinLines parts.body) := by
  obtain ⟨gap, _, split⟩ := exists_keptLines_append text
  obtain ⟨_, body, _⟩ := parts.take_drop_all gap
  rw [body?, find_of_parts placed whole, Option.map_some, split, ← whole, body]

/-- The lines of a text and the empty one that may end it, joined around another body. -/
def Parts.joined (parts : Parts) (gap : List String) (body : String) : String :=
  joinLines (parts.above ++ [parts.opening] ++ [dropEndNewlines body] ++
    (parts.closing :: (parts.below ++ gap)))

section Replace

variable {gap : List String} {body : String}

theorem Parts.isLine_above (split : lines text = parts.all ++ gap) :
    ∀ line ∈ parts.above ++ [parts.opening], IsLine line := by
  have among : parts.above ++ [parts.opening] ⊆ lines text := by simp [split, all]
  exact fun line member => isLine_of_mem_lines (among member)

theorem Parts.isLine_below (split : lines text = parts.all ++ gap) :
    ∀ line ∈ parts.closing :: (parts.below ++ gap), IsLine line := by
  have ends : lines text =
      parts.above ++ parts.opening :: parts.body ++ (parts.closing :: (parts.below ++ gap)) := by
    simp [split, all]
  have among : parts.closing :: (parts.below ++ gap) ⊆ lines text :=
    ends ▸ List.subset_append_right _ _
  exact fun line member => isLine_of_mem_lines (among member)

theorem Parts.lines_joined (split : lines text = parts.all ++ gap) (last : String) :
    lines (parts.joined gap body ++ last) = parts.above ++ [parts.opening] ++
      lines (dropEndNewlines body ++ "\n") ++
        lines (joinLines (parts.closing :: (parts.below ++ gap)) ++ last) :=
  lines_joinLines_around (isLine_above split) (by simp) _ _

theorem replace_eq_joined (placed : parts.AreAt name) (whole : parts.all = keptLines text)
    (split : lines text = parts.all ++ gap) :
    replace? text name body = some (if endsWithNewline text then parts.joined gap body ++ "\n"
      else parts.joined gap body) := by
  obtain ⟨above, _, below⟩ := parts.take_drop_all gap
  simp only [replace?, find_of_parts placed whole, Option.map_some, split, above, below,
    Parts.joined]

/-- Where no newline ends a text, its last lines are read again without the empty one. -/
theorem Parts.lines_joinLines_below (whole : parts.all = keptLines text)
    (split : lines text = parts.all ++ gap) (unclosed : ¬ endsWithNewline text = true) :
    lines (joinLines (parts.closing :: (parts.below ++ gap))) = parts.closing :: parts.below := by
  have some : parts.closing :: (parts.below ++ gap) ≠ [] := by simp
  have ends : parts.all ++ gap = parts.above ++ parts.opening :: parts.body ++
      (parts.closing :: (parts.below ++ gap)) := by
    simp [all]
  have kept : keptLines text = dropBlankEnd (lines text) := if_neg unclosed
  rw [split, ← whole, ends, dropBlankEnd_append some] at kept
  rw [lines_joinLines (isLine_below split)]
  simpa [all] using kept.symm

/-- A text keeps its lines around a region whose body is replaced, and it keeps them when it is
read and joined again. -/
theorem replace_of_parts (placed : parts.AreAt name) (whole : parts.all = keptLines text)
    (body : String) : ∃ result, replace? text name body = some result ∧
      lines result = { parts with body := lines (dropEndNewlines body ++ "\n") }.all ∧
      keptLines result = lines result := by
  obtain ⟨gap, _, split⟩ := exists_keptLines_append text
  rw [← whole] at split
  have single := Parts.isLine_below split
  have some : parts.closing :: (parts.below ++ gap) ≠ [] := by simp
  refine ⟨_, replace_eq_joined placed whole split, ?_⟩
  by_cases closed : endsWithNewline text = true
  · rw [if_pos closed]
    refine ⟨?_, keptLines_feed _⟩
    have nothing : gap = [] := by simpa [whole, keptLines, closed] using split
    rw [Parts.lines_joined split, lines_joinLines_feed single some, nothing]
    simp [Parts.all]
  · rw [if_neg closed]
    have tails := Parts.lines_joinLines_below whole split closed
    have around := @Parts.lines_joined text parts gap body split ""
    rw [String.append_empty, String.append_empty, tails] at around
    refine ⟨around.trans (by simp [Parts.all]), ?_⟩
    have filled : joinLines (parts.closing :: (parts.below ++ gap)) ≠ "" := by
      intro empty
      rw [empty] at tails
      simp [lines] at tails
    have parted : parts.joined gap body =
        joinLines (parts.above ++ [parts.opening] ++ [dropEndNewlines body]) ++ "\n" ++
          joinLines (parts.closing :: (parts.below ++ gap)) :=
      joinLines_append (by simp) some
    rw [parted, keptLines_append_feed filled, lines_append_feed, keptLines_joinLines single]

end Replace

/-! ## Names of regions -/

theorem solid_of_opening {line : String} (opens : Marker.ofLine? line = some (.opening name)) :
    name ≠ "" ∧ ∀ c ∈ name.toList, isBlank c = false := by
  obtain ⟨_, _, named⟩ := Marker.ofLine_eq_some_iff.mp opens
  exact ⟨named.filled, named.solid⟩

theorem solid_of_find {span : Span} (found : find? text name = some span) :
    name ≠ "" ∧ isBlankText name = false := by
  obtain ⟨parts, placed, _⟩ := exists_parts_of_find found
  obtain ⟨filled, solid⟩ := solid_of_opening placed.opens
  refine ⟨filled, ?_⟩
  obtain ⟨c, rest, split⟩ := List.exists_cons_of_ne_nil
    (show name.toList ≠ [] by simpa using filled)
  have first : isBlank c = false := solid c (by simp [split])
  simp [isBlankText, split, first]

end Region

end DocSamples
