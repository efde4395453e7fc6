import Mathlib
import DocSamples.Proofs.Region.Filling
import DocSamples.Proofs.Region.Surroundings

namespace DocSamples

open Text

/-! # What a region holds after it was replaced

A region that is given a new body holds that body and still ends where it is closed, as long as
the body closes what it opens.  The body before it leaves no trace.
-/

namespace Region

/-! ## Balanced lines -/

def openings (body : List String) : Nat :=
  body.countP fun line => match Marker.ofLine? line with
    | some (.opening _) => true
    | _ => false

def closings (body : List String) : Nat :=
  body.countP fun line => Marker.ofLine? line = some .closing

/-- Lines that close no region but those that they open, and all of these. -/
structure IsBalanced (body : List String) : Prop where
  within : ∀ front, front <+: body → closings front ≤ openings front
  whole : closings body = openings body

theorem forall_prefix_cons_iff {α : Type} {first : α} {rest : List α} {motive : List α → Prop} :
    (∀ front, front <+: first :: rest → motive front) ↔
      motive [] ∧ ∀ front, front <+: rest → motive (first :: front) := by
  constructor
  · intro all
    exact ⟨all [] (List.nil_prefix), fun front before =>
      all (first :: front) (List.cons_prefix_cons.mpr ⟨rfl, before⟩)⟩
  · rintro ⟨none, some⟩ front before
    rcases List.prefix_cons_iff.mp before with rfl | ⟨more, rfl, inside⟩
    · exact none
    · exact some more inside

/-- The depth after some lines is what they open beyond what they close, as long as they close no
more than there is to close. -/
theorem depthAfter_eq_some_iff {depth left : Nat} {body : List String} :
    depthAfter? depth (body.map Marker.ofLine?) = some left ↔
      (∀ front, front <+: body → closings front ≤ depth + openings front) ∧
        left + closings body = depth + openings body := by
  induction body generalizing depth with
  | nil => simp [depthAfter?, closings, openings, eq_comm]
  | cons line rest ih =>
      have nothing (depth : Nat) : closings [] ≤ depth + openings [] := by simp [closings]
      rw [forall_prefix_cons_iff, List.map_cons]
      cases marked : Marker.ofLine? line with
      | none =>
          have opens (more : List String) : openings (line :: more) = openings more := by
            simp [openings, marked]
          have closes (more : List String) : closings (line :: more) = closings more := by
            simp [closings, marked]
          simp only [depthAfter?, ih, opens, closes, nothing, true_and]
      | some marker =>
          cases marker with
          | opening name =>
              have opens (more : List String) : openings (line :: more) = openings more + 1 := by
                simp [openings, marked]
              have closes (more : List String) : closings (line :: more) = closings more := by
                simp [closings, marked]
              simp only [depthAfter?, ih, opens, closes, nothing, true_and]
              refine and_congr (forall₂_congr fun front _ => ?_) ?_ <;> omega
          | closing =>
              have opens (more : List String) : openings (line :: more) = openings more := by
                simp [openings, marked]
              have closes (more : List String) : closings (line :: more) = closings more + 1 := by
                simp [closings, marked]
              cases depth with
              | zero =>
                  simp only [depthAfter?, reduceCtorEq, opens, closes, false_iff]
                  rintro ⟨⟨_, within⟩, _⟩
                  simpa [openings] using within [] List.nil_prefix
              | succ depth =>
                  simp only [depthAfter?, ih, opens, closes, nothing, true_and]
                  refine and_congr (forall₂_congr fun front _ => ?_) ?_ <;> omega

theorem isBalanced_iff {body : List String} :
    IsBalanced body ↔ depthAfter? 0 (body.map Marker.ofLine?) = some 0 := by
  rw [depthAfter_eq_some_iff]
  simp only [Nat.zero_add]
  exact ⟨fun balanced => ⟨balanced.within, balanced.whole⟩, fun ⟨within, whole⟩ => ⟨within, whole⟩⟩

/-! ## New bodies -/

theorem depthAfter_append (depth : Nat) (first second : List (Option Marker)) :
    depthAfter? depth (first ++ second) =
      (depthAfter? depth first).bind (depthAfter? · second) := by
  fun_induction depthAfter? depth first with
  | case1 depth => rfl
  | case2 depth rest ih => simp [depthAfter?, ih]
  | case3 depth name rest ih => simp [depthAfter?, ih]
  | case4 rest => simp [depthAfter?]
  | case5 rest outer ih => simp [depthAfter?, ih]

theorem depthAfter_append_blanks {depth : Nat} {body gap : List String}
    (empty : ∀ line ∈ gap, line = "") :
    depthAfter? depth ((body ++ gap).map Marker.ofLine?) =
      depthAfter? depth (body.map Marker.ofLine?) := by
  have plain : ∀ marker ∈ gap.map Marker.ofLine?, marker = none := by
    intro marker member
    obtain ⟨line, inside, rfl⟩ := List.mem_map.mp member
    rw [empty line inside]
    decide
  have still (depth : Nat) : depthAfter? depth (gap.map Marker.ofLine?) = some depth :=
    depthAfter_of_plain plain
  rw [List.map_append, depthAfter_append]
  simp [still]

theorem isBalanced_bodyOf {content : String} (balanced : IsBalanced (lines content)) :
    IsBalanced (bodyOf content) := by
  obtain ⟨blanks, blank, whole⟩ := lines_solidLines content
  obtain ⟨gap, empty, fed⟩ := lines_feed (dropEndNewlines content)
  rw [isBalanced_iff, whole, depthAfter_append_blanks blank, solidLines] at balanced
  rw [isBalanced_iff, bodyOf, fed, depthAfter_append_blanks empty]
  exact balanced

variable {text name content result : String} {span : Span} {parts : Parts}

theorem Parts.AreAt.withBalancedBody {body : List String} (placed : parts.AreAt name)
    (balanced : IsBalanced body) : { parts with body := body }.AreAt name :=
  ⟨placed.first, placed.opens, isBalanced_iff.mp balanced, placed.closes⟩

theorem exists_parts_of_replace (placed : parts.AreAt name) (whole : parts.all = keptLines text)
    (balanced : IsBalanced (lines content)) (replaced : replace? text name content = some result) :
    ∃ changed : Parts, changed = { parts with body := bodyOf content } ∧ changed.AreAt name ∧
      changed.all = keptLines result ∧ changed.all = lines result := by
  obtain ⟨_, again, read, kept⟩ := replace_of_parts placed whole content
  obtain rfl := Option.some.inj (replaced.symm.trans again)
  exact ⟨_, rfl, placed.withBalancedBody (isBalanced_bodyOf balanced), (kept.trans read).symm,
    read.symm⟩

/-- What follows the body is joined to the same text whatever the body was. -/
theorem closedAs_of_replace {below : List String} (found : find? text name = some span)
    (replaced : replace? text name content = some result)
    (read : lines result = (lines text).take (span.first + 1) ++ (bodyOf content ++ below))
    (some : below ≠ []) :
    closedAs result below = closedAs text ((lines text).drop span.last) := by
  obtain ⟨above, after, _⟩ := lines_eq_of_find found
  have singleAbove : ∀ line ∈ (lines text).take (span.first + 1), IsLine line :=
    fun line member => isLine_of_mem_lines (List.mem_of_mem_take member)
  have singleAfter : ∀ line ∈ (lines text).drop span.last, IsLine line :=
    fun line member => isLine_of_mem_lines (List.mem_of_mem_drop member)
  obtain rfl := Option.some.inj (replaced.symm.trans (replace_eq_some found content))
  -- The end of the result has been joined once, so reading and joining it changes it no more.
  generalize ending : closedAs text ((lines text).drop span.last) = last at read ⊢
  have same : lines last = below := by
    rw [lines_append_feed, lines_joinLines_feed singleAbove above, lines_append_feed] at read
    exact List.append_cancel_left (List.append_cancel_left read)
  have solid : last ≠ "" := by
    rintro rfl
    exact some same.symm
  rw [← String.append_assoc, closedAs_congr (endsWithNewline_append solid), ← same, ← ending,
    closedAs_lines_closedAs singleAfter after]

theorem replace_replace (placed : parts.AreAt name) (whole : parts.all = keptLines text)
    (balanced : IsBalanced (lines content)) (replaced : replace? text name content = some result)
    (body : String) : replace? result name body = replace? text name body := by
  obtain ⟨gap, _, split⟩ := exists_keptLines_append text
  obtain ⟨above, _, _⟩ := parts.take_drop_all gap
  obtain ⟨_, rfl, changed, kept, read⟩ := exists_parts_of_replace placed whole balanced replaced
  obtain ⟨changedAbove, _, changedBelow⟩ :=
    { parts with body := bodyOf content }.take_drop_all []
  rw [whole, ← split] at above
  rw [List.append_nil, read] at changedAbove changedBelow
  have found := find_of_parts placed whole
  rw [replace_eq_some found, replace_eq_some (find_of_parts changed kept), above, changedAbove,
    changedBelow, closedAs_of_replace found replaced (by rw [above, ← read]; simp [Parts.all])
      (by simp)]

/-- A region that is given a balanced body holds that body: its markers stand around the lines of
it, and they alone are left of what other balanced body it was given before. -/
theorem region_holds_last_body (found : find? text name = some span) {first last : String}
    (firstBalanced : IsBalanced (lines first)) (lastBalanced : IsBalanced (lines last)) :
    ∃ result, replace? text name last = some result ∧
      find? result name = some ⟨span.first, span.first + 1 + (bodyOf last).length⟩ ∧
      body? result name = some (joinLines (bodyOf last)) ∧ 1 ≤ (bodyOf last).length ∧
      ∃ before, replace? text name first = some before ∧
        replace? before name last = some result := by
  have exists_replace (body : String) : ∃ result, replace? text name body = some result :=
    ⟨_, replace_eq_some found body⟩
  obtain ⟨result, replaced⟩ := exists_replace last
  obtain ⟨before, replacedBefore⟩ := exists_replace first
  obtain ⟨parts, placed, whole, rfl⟩ := exists_parts_of_find found
  obtain ⟨_, rfl, changed, kept, _⟩ := exists_parts_of_replace placed whole lastBalanced replaced
  have held := body_of_parts changed kept
  dsimp only at held
  refine ⟨result, replaced, ?_, held, ?_, before, replacedBefore, ?_⟩
  · rw [find_of_parts changed kept]
    simp only [Parts.span, Option.some.injEq, Span.mk.injEq, true_and]
    omega
  · exact List.length_pos_iff.mpr (lines_feed_ne_nil _)
  · rw [replace_replace placed whole firstBalanced replacedBefore, replaced]

/-! ## A body with a region in it, and one that is empty -/

theorem region_holds_last_body_nested :
    IsBalanced (lines "") ∧ IsBalanced (lines "#region a\n#endregion\n\n") ∧
      find? "#region a\nx = 1\n#endregion" "a" = some ⟨0, 2⟩ ∧
      ∃ result, replace? "#region a\nx = 1\n#endregion" "a" "#region a\n#endregion\n\n" =
          some result ∧
        find? result "a" = some ⟨0, 3⟩ ∧ body? result "a" = some "#region a\n#endregion" ∧
        ∃ before, replace? "#region a\nx = 1\n#endregion" "a" "" = some before ∧
          replace? before "a" "#region a\n#endregion\n\n" = some result := by
  have empty : IsBalanced (lines "") := isBalanced_iff.mpr (by simp [lines, depthAfter?])
  have nested : IsBalanced (lines "#region a\n#endregion\n\n") :=
    isBalanced_iff.mpr (by decide +kernel)
  have found : find? "#region a\nx = 1\n#endregion" "a" = some ⟨0, 2⟩ := by decide +kernel
  have body : bodyOf "#region a\n#endregion\n\n" = ["#region a", "#endregion"] := by
    decide +kernel
  have joined : joinLines ["#region a", "#endregion"] = "#region a\n#endregion" := by
    decide +kernel
  obtain ⟨result, replaced, span, held, _, again⟩ := region_holds_last_body found empty nested
  rw [body] at span held
  rw [joined] at held
  exact ⟨empty, nested, found, result, replaced, span, held, again⟩

end Region

end DocSamples
