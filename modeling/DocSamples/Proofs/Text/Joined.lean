import Mathlib
import DocSamples.Proofs.Text.Lines

namespace DocSamples.Text

/-! # Lines joined and read back

Lines that are joined are read back as they are, apart from an empty one at the end: no line
follows the last line feed.  A text that has such a line after another line end loses it.
-/

variable {all above below : List String} {text head line : String}

def dropBlankEnd (all : List String) : List String :=
  if all.getLast? = some "" then all.dropLast else all

theorem dropBlankEnd_append (some : below ≠ []) :
    dropBlankEnd (above ++ below) = above ++ dropBlankEnd below := by
  rw [dropBlankEnd, dropBlankEnd, List.getLast?_append_of_ne_nil _ some]
  split
  · exact List.dropLast_append_of_ne_nil some
  · rfl

theorem exists_dropBlankEnd_append (all : List String) :
    ∃ gap, (gap = [] ∨ gap = [""]) ∧ all = dropBlankEnd all ++ gap := by
  rw [dropBlankEnd]
  split
  · rename_i last
    obtain ⟨front, rfl⟩ := List.getLast?_eq_some_iff.mp last
    exact ⟨[""], .inr rfl, by simp⟩
  · exact ⟨[], .inl rfl, by simp⟩

theorem dropBlankEnd_eq_self_iff : dropBlankEnd all = all ↔ all.getLast? ≠ some "" := by
  rw [dropBlankEnd]
  split
  · rename_i last
    have shorter : all.dropLast ≠ all := by
      obtain ⟨front, rfl⟩ := List.getLast?_eq_some_iff.mp last
      simp
    simp [last, shorter]
  · rename_i last
    simp [last]

theorem joinLines_append (some : above ≠ []) (others : below ≠ []) :
    joinLines (above ++ below) = joinLines above ++ "\n" ++ joinLines below :=
  String.intercalate_append_of_ne_nil some others

@[simp] theorem joinLines_singleton (line : String) : joinLines [line] = line := by
  simp [joinLines]

theorem lines_of_isLine (single : IsLine line) (solid : line ≠ "") : lines line = [line] := by
  have closed : lines (line ++ "\n") = [line] := by
    simpa [lines] using lines_line_feed single ""
  obtain ⟨gap, _, whole⟩ := lines_feed line
  have some : lines line ≠ [] := by
    simpa [lines, splitLines_eq_nil_iff] using solid
  obtain ⟨first, rest, split⟩ := List.exists_cons_of_ne_nil some
  rw [closed, split, List.cons_append] at whole
  obtain ⟨rfl, nothing⟩ := List.cons.inj whole
  rw [split, (List.append_eq_nil_iff.mp nothing.symm).1]

theorem lines_joinLines (single : ∀ line ∈ all, IsLine line) :
    lines (joinLines all) = dropBlankEnd all := by
  rcases List.eq_nil_or_concat' all with rfl | ⟨front, last, rfl⟩
  · rfl
  · have some : [last] ≠ [] := by simp
    have above := lines_joinLines_append
      (fun line member => single line (List.mem_append_left [last] member)) some ""
    rw [String.append_empty, String.append_empty, joinLines_singleton] at above
    rw [above, dropBlankEnd_append (by simp)]
    congr 1
    by_cases blank : last = ""
    · simp [dropBlankEnd, blank, lines]
    · simp [dropBlankEnd, blank, lines_of_isLine (single last (by simp)) blank]

/-! ## What is kept of a text -/

/-- The lines that are left when those of a text are joined and closed as the text is. -/
def keptLines (text : String) : List String :=
  if endsWithNewline text then lines text else dropBlankEnd (lines text)

theorem exists_keptLines_append (text : String) :
    ∃ gap, (gap = [] ∨ gap = [""]) ∧ lines text = keptLines text ++ gap := by
  rw [keptLines]
  split
  · exact ⟨[], .inl rfl, by simp⟩
  · exact exists_dropBlankEnd_append _

theorem isLine_of_mem_keptLines (member : line ∈ keptLines text) : IsLine line := by
  obtain ⟨gap, _, whole⟩ := exists_keptLines_append text
  exact isLine_of_mem_lines (whole ▸ List.mem_append_left gap member)

theorem keptLines_eq_lines_iff : keptLines text = lines text ↔
    endsWithNewline text = true ∨ (lines text).getLast? ≠ some "" := by
  rw [keptLines]
  split
  · rename_i closed
    simp [closed]
  · rename_i unclosed
    simp [unclosed, dropBlankEnd_eq_self_iff]

theorem endsWithNewline_append (solid : text ≠ "") :
    endsWithNewline (head ++ text) = endsWithNewline text := by
  have some : text.toList ≠ [] := by simpa using solid
  rw [endsWithNewline, endsWithNewline, String.toList_append,
    List.getLast?_append_of_ne_nil _ some]

@[simp] theorem endsWithNewline_feed (text : String) : endsWithNewline (text ++ "\n") = true := by
  simp [endsWithNewline]

theorem keptLines_feed (text : String) : keptLines (text ++ "\n") = lines (text ++ "\n") := by
  rw [keptLines, if_pos (endsWithNewline_feed text)]

theorem keptLines_append_feed (solid : text ≠ "") :
    keptLines (head ++ "\n" ++ text) = lines (head ++ "\n") ++ keptLines text := by
  have some : lines text ≠ [] := by
    simpa [lines, splitLines_eq_nil_iff] using solid
  rw [keptLines, keptLines, endsWithNewline_append solid, lines_append_feed]
  split
  · rfl
  · exact dropBlankEnd_append some

theorem keptLines_joinLines (single : ∀ line ∈ all, IsLine line) :
    keptLines (joinLines all) = lines (joinLines all) := by
  refine keptLines_eq_lines_iff.mpr ?_
  rw [lines_joinLines single]
  rcases List.eq_nil_or_concat' all with rfl | ⟨front, last, rfl⟩
  · simp [dropBlankEnd]
  · by_cases blank : last = ""
    · subst blank
      cases front with
      | nil => simp [dropBlankEnd]
      | cons line rest =>
          rw [joinLines_append (by simp) (by simp), joinLines_singleton, String.append_empty]
          exact .inl (endsWithNewline_feed _)
    · simp [dropBlankEnd, blank]

/-! ## Line feeds at the end of joined lines -/

theorem dropEndNewlines_of_isLine (single : IsLine text) : dropEndNewlines text = text := by
  rw [← String.toList_inj, toList_dropEndNewlines, List.rdropWhile_eq_self_iff]
  intro some
  have solid := single _ (List.getLast_mem some)
  intro feed
  rw [beq_iff_eq.mp feed] at solid
  exact absurd solid (by decide)

theorem dropEndNewlines_joinLines (single : ∀ line ∈ all, IsLine line) :
    dropEndNewlines (joinLines all) = joinLines (all.rdropWhile (· == "")) := by
  induction all using List.reverseRecOn with
  | nil => rfl
  | append_singleton front last ih =>
      have before := ih fun line member => single line (List.mem_append_left _ member)
      by_cases blank : last = ""
      · subst blank
        rw [List.rdropWhile_concat_pos _ _ _ (by simp), ← before]
        cases front with
        | nil => simp [joinLines]
        | cons line rest =>
            rw [joinLines_append (by simp) (by simp), joinLines_singleton, String.append_empty]
            exact dropEndNewlines_append_of_eq (by decide +kernel) _
      · have same := dropEndNewlines_of_isLine (single last (by simp))
        have solid : dropEndNewlines last ≠ "" := by rwa [same]
        rw [List.rdropWhile_concat_neg _ _ _ (by simpa using blank)]
        cases front with
        | nil => simpa using same
        | cons line rest =>
            rw [joinLines_append (by simp) (by simp), joinLines_singleton,
              dropEndNewlines_append_of_ne solid, same]

/-- What a body of lines is when it has been taken out and put back. -/
def putBack (body : List String) : List String :=
  if body.rdropWhile (· == "") = [] then [""] else body.rdropWhile (· == "")

theorem lines_putBack (single : ∀ line ∈ all, IsLine line) :
    lines (dropEndNewlines (joinLines all) ++ "\n") = putBack all := by
  rw [dropEndNewlines_joinLines single, putBack]
  split
  · rename_i nothing
    rw [nothing]
    rfl
  · rename_i something
    exact lines_joinLines_feed (fun line member =>
      single line ((List.rdropWhile_prefix _ _).subset member)) something

/-- The first line of a body stays, empty or not. -/
theorem putBack_eq_self_iff (some : all ≠ []) :
    putBack all = all ↔ all.tail.getLast? ≠ .some "" := by
  obtain ⟨front, last, rfl⟩ := (List.eq_nil_or_concat' all).resolve_left some
  by_cases blank : last = ""
  · subst blank
    have dropped := List.rdropWhile_concat_pos (· == "") front "" (by simp)
    have shorter := (List.rdropWhile_prefix (· == "") front).length_le
    cases front with
    | nil => simp [putBack]
    | cons line rest =>
        have changed : putBack (line :: rest ++ [""]) ≠ line :: rest ++ [""] := by
          intro same
          have lengths := congrArg List.length same
          rw [putBack, dropped] at lengths
          split at lengths
          · simp at lengths
          · simp only [List.length_append, List.length_singleton] at lengths
            omega
        simp only [changed, false_iff]
        simp
  · have kept : putBack (front ++ [last]) = front ++ [last] := by
      rw [putBack, List.rdropWhile_concat_neg (· == "") front last (by simpa using blank)]
      simp
    rw [kept, eq_self_iff_true, true_iff]
    cases front <;> simp [blank]

theorem length_putBack_le (some : all ≠ []) : (putBack all).length ≤ all.length := by
  rw [putBack]
  split
  · exact List.length_pos_iff.mpr some
  · exact (List.rdropWhile_prefix _ _).length_le

end DocSamples.Text
