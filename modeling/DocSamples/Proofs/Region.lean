import Mathlib
import DocSamples.Region
import DocSamples.Proofs.Text.Lines

namespace DocSamples

open Text

/-! # What a text keeps when a region is replaced

The lines down to the opening marker and those from the closing marker on stay;
between them stand the lines of the new body.
-/

namespace Region

/-! ## Spans -/

theorem closingLine_lt {depth line : Nat} {markers : List (Option Marker)}
    (closes : closingLine? depth markers = some line) : line < markers.length := by
  induction markers generalizing depth line with
  | nil => simp [closingLine?] at closes
  | cons marker rest ih =>
      have later {depth' : Nat} (found : (closingLine? depth' rest).map (· + 1) = some line) :
          line < (marker :: rest).length := by
        obtain ⟨before, closed, rfl⟩ := Option.map_eq_some_iff.mp found
        exact Nat.succ_lt_succ (ih closed)
      match marker, depth with
      | none, _ => exact later closes
      | some (.opening _), _ => exact later closes
      | some .closing, 0 =>
          obtain rfl : 0 = line := by simpa [closingLine?] using closes
          simp
      | some .closing, _ + 1 => exact later closes

theorem span_last_lt {name : String} {span : Span} {markers : List (Option Marker)}
    (found : spanOf? name markers = some span) : span.last < markers.length := by
  induction markers generalizing span with
  | nil => simp [spanOf?] at found
  | cons marker rest ih =>
      rw [spanOf?] at found
      split at found
      · obtain ⟨closing, closes, rfl⟩ := Option.map_eq_some_iff.mp found
        exact Nat.succ_lt_succ (closingLine_lt closes)
      · obtain ⟨before, within, rfl⟩ := Option.map_eq_some_iff.mp found
        exact Nat.succ_lt_succ (ih within)

theorem opening_of_span {name : String} {span : Span} {markers : List (Option Marker)}
    (found : spanOf? name markers = some span) :
    markers[span.first]? = some (some (.opening name)) := by
  induction markers generalizing span with
  | nil => simp [spanOf?] at found
  | cons marker rest ih =>
      rw [spanOf?] at found
      split at found
      · rename_i opens
        obtain ⟨closing, _, rfl⟩ := Option.map_eq_some_iff.mp found
        simp [opens]
      · obtain ⟨before, within, rfl⟩ := Option.map_eq_some_iff.mp found
        simpa using ih within

/-! ## Frames -/

/-- The lines around a region, with its markers. -/
structure Frame where
  above : List String
  below : List String
deriving DecidableEq, Repr

/-- What stays of a text when the body of a region is replaced.  An empty line at
its end does not, when it is not closed by a line feed. -/
def frame? (text name : String) : Option Frame :=
  (find? text name).map fun span =>
    let rest := joinLines ((lines text).drop span.last)
    { above := (lines text).take (span.first + 1)
      below := lines (if endsWithNewline text then rest ++ "\n" else rest) }

variable {text name body result : String} {frame : Frame}

theorem below_ne_nil {span : Span} (found : find? text name = some span) :
    (lines text).drop span.last ≠ [] := by
  have inside := span_last_lt found
  rw [List.length_map] at inside
  simpa using inside

theorem above_prefix_lines (framed : frame? text name = some frame) : frame.above <+: lines text := by
  obtain ⟨span, _, rfl⟩ := Option.map_eq_some_iff.mp framed
  exact List.take_prefix _ _

/-- What stays above ends with the line that opens the region. -/
theorem above_last (framed : frame? text name = some frame) :
    ∃ line, frame.above.getLast? = some line ∧ Marker.ofLine? line = some (.opening name) := by
  obtain ⟨span, found, rfl⟩ := Option.map_eq_some_iff.mp framed
  have opening := opening_of_span found
  rw [List.getElem?_map] at opening
  obtain ⟨line, here, opens⟩ := Option.map_eq_some_iff.mp opening
  exact ⟨line, by simp [List.getLast?_take, here], opens⟩

theorem below_infix_lines (framed : frame? text name = some frame) : frame.below <:+: lines text := by
  obtain ⟨span, found, rfl⟩ := Option.map_eq_some_iff.mp framed
  have single : ∀ line ∈ (lines text).drop span.last, IsLine line := fun line member =>
    isLine_of_mem_lines (List.mem_of_mem_drop member)
  have whole := lines_joinLines_feed single (below_ne_nil found)
  have kept : lines (joinLines ((lines text).drop span.last)) <+: (lines text).drop span.last := by
    simpa only [whole] using lines_prefix_feed (joinLines ((lines text).drop span.last))
  dsimp only
  split
  · rw [whole]
    exact (List.drop_suffix _ _).isInfix
  · exact kept.isInfix.trans (List.drop_suffix _ _).isInfix

/-- A text between lines that are joined around it stands on lines of its own. -/
theorem lines_joinLines_around {above below : List String} (single : ∀ line ∈ above, IsLine line)
    (some : below ≠ []) (body last : String) :
    lines (joinLines (above ++ [body] ++ below) ++ last) =
      above ++ lines (body ++ "\n") ++ lines (joinLines below ++ last) := by
  rw [List.append_assoc, lines_joinLines_append single (by simp), List.singleton_append,
    joinLines_cons some, String.append_assoc, lines_append_feed, List.append_assoc]

/-- A new body stands on its own lines within what stays of the text. -/
theorem lines_replace (replaced : replace? text name body = some result) :
    ∃ frame, frame? text name = some frame ∧
      lines result = frame.above ++ lines (dropEndNewlines body ++ "\n") ++ frame.below := by
  obtain ⟨span, found, rfl⟩ := Option.map_eq_some_iff.mp replaced
  refine ⟨_, by rw [frame?, found]; rfl, ?_⟩
  have single : ∀ line ∈ (lines text).take (span.first + 1), IsLine line := fun line member =>
    isLine_of_mem_lines (List.mem_of_mem_take member)
  have spread := lines_joinLines_around single (below_ne_nil found) (dropEndNewlines body)
  dsimp only
  split
  · exact spread "\n"
  · simpa using spread ""

end Region

end DocSamples
