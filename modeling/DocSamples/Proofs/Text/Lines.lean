import Mathlib
import DocSamples.Text.Lines

namespace DocSamples.Text

/-! # What lines a text has

A line feed parts a text: the lines before it and the lines after it are those of
the two texts.  The text before it, closed by the line feed, has at most one empty
line more than it has alone.
-/

section Characters

@[simp] theorem splitLines_nil : splitLines [] = [] := rfl

theorem splitLines_carriage_feed (rest : List Char) :
    splitLines ('\r' :: '\n' :: rest) = [] :: splitLines rest := rfl

theorem splitLines_end {c : Char} {rest : List Char} (ended : isLineEnd c = true)
    (apart : c = '\r' → rest.head? ≠ some '\n') :
    splitLines (c :: rest) = [] :: splitLines rest := by
  rw [splitLines.eq_def]
  split
  · contradiction
  · rename_i both
    cases both
    simp at apart
  · rename_i same
    cases same
    rw [if_pos ended]

theorem splitLines_feed (rest : List Char) : splitLines ('\n' :: rest) = [] :: splitLines rest :=
  splitLines_end (by decide) (by simp)

theorem splitLines_solid {c : Char} (solid : isLineEnd c = false) (rest : List Char) :
    splitLines (c :: rest) = (c :: (splitLines rest).headD []) :: (splitLines rest).tail := by
  rw [splitLines.eq_def]
  split
  · contradiction
  · rename_i both
    cases both
    exact absurd solid (by decide)
  · rename_i same
    cases same
    cases splitLines rest <;> simp [solid]

/-- Texts are read end by end: the three ways in which one begins. -/
@[elab_as_elim]
theorem splitLines_induction {motive : List Char → Prop} (nil : motive [])
    (carriageFeed : ∀ rest, motive rest → motive ('\r' :: '\n' :: rest))
    (ending : ∀ c rest, isLineEnd c = true → (c = '\r' → rest.head? ≠ some '\n') →
      motive rest → motive (c :: rest))
    (solid : ∀ c rest, isLineEnd c = false → motive rest → motive (c :: rest))
    (chars : List Char) : motive chars := by
  induction chars using splitLines.induct with
  | case1 => exact nil
  | case2 rest ih => exact carriageFeed rest ih
  | case3 c rest plain ended ih =>
      refine ending c rest ended (fun carriage feed => ?_) ih
      cases rest with
      | nil => simp at feed
      | cons next later => exact plain later carriage (by simpa using feed)
  | case4 c rest _ solid_ _ ih => exact solid c rest (by simpa using solid_) ih
  | case5 c rest _ solid_ _ _ _ ih => exact solid c rest (by simpa using solid_) ih

theorem splitLines_eq_nil_iff {chars : List Char} : splitLines chars = [] ↔ chars = [] := by
  induction chars using splitLines_induction with
  | nil => simp
  | carriageFeed rest _ => simp [splitLines_carriage_feed]
  | ending c rest ended apart _ => simp [splitLines_end ended apart]
  | solid c rest solid _ => simp [splitLines_solid solid]

theorem splitLines_append_feed (first second : List Char) :
    splitLines (first ++ '\n' :: second) = splitLines (first ++ ['\n']) ++ splitLines second := by
  induction first using splitLines_induction with
  | nil => simp [splitLines_feed]
  | carriageFeed rest ih => simpa [splitLines_carriage_feed] using ih
  | ending c rest ended apart ih =>
      by_cases carriage : c = '\r' ∧ rest = []
      · obtain ⟨rfl, rfl⟩ := carriage
        simp [splitLines_carriage_feed]
      · have still (more : List Char) : c = '\r' → (rest ++ '\n' :: more).head? ≠ some '\n' := by
          cases rest with
          | nil => exact fun same => absurd ⟨same, rfl⟩ carriage
          | cons next later => exact apart
        simp only [List.cons_append, splitLines_end ended (still _), ih]
  | solid c rest solid ih =>
      have some : splitLines (rest ++ ['\n']) ≠ [] := by simp [splitLines_eq_nil_iff]
      obtain ⟨line, more, first⟩ := List.exists_cons_of_ne_nil some
      simp [splitLines_solid solid, ih, first]

/-- A line feed at the end closes the last line, or else is an empty line. -/
theorem splitLines_feed_end (chars : List Char) :
    splitLines (chars ++ ['\n']) = splitLines chars ∨
      splitLines (chars ++ ['\n']) = splitLines chars ++ [[]] := by
  induction chars using splitLines_induction with
  | nil => simp [splitLines_feed]
  | carriageFeed rest ih => simpa [splitLines_carriage_feed] using ih
  | ending c rest ended apart ih =>
      by_cases carriage : c = '\r' ∧ rest = []
      · obtain ⟨rfl, rfl⟩ := carriage
        have alone : splitLines ['\r'] = [[]] := splitLines_end ended apart
        simp [splitLines_carriage_feed, alone]
      · have still : c = '\r' → (rest ++ ['\n']).head? ≠ some '\n' := by
          cases rest with
          | nil => exact fun same => absurd ⟨same, rfl⟩ carriage
          | cons next later => exact apart
        simpa [splitLines_end ended still, splitLines_end ended apart] using ih
  | solid c rest solid ih =>
      cases rest with
      | nil => simp [splitLines_solid solid, splitLines_feed]
      | cons next later =>
          have some : splitLines (next :: later) ≠ [] := by simp [splitLines_eq_nil_iff]
          obtain ⟨line, more, first⟩ := List.exists_cons_of_ne_nil some
          rw [List.cons_append, splitLines_solid solid, splitLines_solid solid]
          rcases ih with same | longer
          · exact .inl (by rw [same])
          · exact .inr (by rw [longer, first]; rfl)

theorem isLineEnd_of_mem_splitLines {chars line : List Char} (member : line ∈ splitLines chars)
    {c : Char} (inside : c ∈ line) : isLineEnd c = false := by
  induction chars using splitLines_induction generalizing line c with
  | nil => simp at member
  | carriageFeed rest ih =>
      rw [splitLines_carriage_feed] at member
      rcases List.mem_cons.mp member with rfl | later
      · simp at inside
      · exact ih later inside
  | ending first rest ended apart ih =>
      rw [splitLines_end ended apart] at member
      rcases List.mem_cons.mp member with rfl | later
      · simp at inside
      · exact ih later inside
  | solid first rest solid ih =>
      rw [splitLines_solid solid] at member
      rcases List.mem_cons.mp member with rfl | later
      · rcases List.mem_cons.mp inside with rfl | more
        · exact solid
        · cases lines : splitLines rest with
          | nil => simp [lines] at more
          | cons line others =>
              have first : line ∈ splitLines rest := by simp [lines]
              exact ih first (by simpa [lines] using more)
      · exact ih (List.mem_of_mem_tail later) inside

theorem splitLines_line_feed {line : List Char} (solid : ∀ c ∈ line, isLineEnd c = false)
    (rest : List Char) : splitLines (line ++ '\n' :: rest) = line :: splitLines rest := by
  induction line with
  | nil => exact splitLines_feed rest
  | cons c line ih =>
      have later := ih fun other member => solid other (by simp [member])
      simp [splitLines_solid (solid c (by simp)), later]

/-- Line feeds at the end of a text make no lines but empty ones. -/
theorem splitLines_dropFeeds (chars : List Char) : ∃ gap, (∀ line ∈ gap, line = []) ∧
    splitLines chars = splitLines (chars.rdropWhile (· == '\n')) ++ gap := by
  induction chars using List.reverseRecOn with
  | nil => exact ⟨[], by simp⟩
  | append_singleton chars last ih =>
      by_cases feed : last = '\n'
      · obtain ⟨gap, empty, whole⟩ := ih
        rw [List.rdropWhile_concat_pos _ _ _ (by simpa using feed), feed]
        rcases splitLines_feed_end chars with same | longer
        · exact ⟨gap, empty, same.trans whole⟩
        · refine ⟨gap ++ [[]], fun line member => ?_, ?_⟩
          · rcases List.mem_append.mp member with before | last
            · exact empty line before
            · exact List.mem_singleton.mp last
          · rw [longer, whole, List.append_assoc]
      · rw [List.rdropWhile_concat_neg _ _ _ (by simpa using feed)]
        exact ⟨[], by simp⟩

end Characters

/-! ## Texts -/

@[simp] theorem toList_dropEndNewlines (text : String) :
    (dropEndNewlines text).toList = text.toList.rdropWhile (· == '\n') := by
  simp [dropEndNewlines, List.rdropWhile]

/-- The lines of a text without the empty ones that line feeds at its end make. -/
def solidLines (text : String) : List String :=
  lines (dropEndNewlines text)

theorem lines_append_feed (first second : String) :
    lines (first ++ "\n" ++ second) = lines (first ++ "\n") ++ lines second := by
  simpa [lines] using congrArg (List.map String.ofList)
    (splitLines_append_feed first.toList second.toList)

/-- A line feed closes a text: its last line, or else an empty one after it. -/
theorem lines_feed (text : String) :
    ∃ gap, (∀ line ∈ gap, line = "") ∧ lines (text ++ "\n") = lines text ++ gap := by
  rcases splitLines_feed_end text.toList with same | longer
  · exact ⟨[], by simp, by simp [lines, same]⟩
  · exact ⟨[""], by simp, by simp [lines, longer]⟩

theorem lines_prefix_feed (text : String) : lines text <+: lines (text ++ "\n") := by
  obtain ⟨gap, _, whole⟩ := lines_feed text
  exact ⟨gap, whole.symm⟩

theorem lines_solidLines (text : String) : ∃ gap, (∀ line ∈ gap, line = "") ∧
    lines text = solidLines text ++ gap := by
  obtain ⟨gap, empty, whole⟩ := splitLines_dropFeeds text.toList
  refine ⟨gap.map String.ofList, fun line member => ?_, ?_⟩
  · obtain ⟨chars, inside, rfl⟩ := List.mem_map.mp member
    rw [empty chars inside]
  · simp [lines, solidLines, whole]

theorem solidLines_prefix_lines (text : String) : solidLines text <+: lines text := by
  obtain ⟨gap, _, whole⟩ := lines_solidLines text
  exact ⟨gap, whole.symm⟩

theorem lines_feed_ne_nil (text : String) : lines (text ++ "\n") ≠ [] := by
  simp [lines, splitLines_eq_nil_iff]

/-! ## Texts without line feeds at their end -/

theorem dropEndNewlines_append_of_eq {second : String} (feeds : dropEndNewlines second = "")
    (first : String) : dropEndNewlines (first ++ second) = dropEndNewlines first := by
  have nothing : second.toList.rdropWhile (· == '\n') = [] := by
    rw [← toList_dropEndNewlines, feeds]
    rfl
  rw [← String.toList_inj]
  simp_all [List.rdropWhile]

theorem dropEndNewlines_append_of_ne {second : String} (solid : dropEndNewlines second ≠ "")
    (first : String) : dropEndNewlines (first ++ second) = first ++ dropEndNewlines second := by
  have something : second.toList.rdropWhile (· == '\n') ≠ [] := by
    rw [← toList_dropEndNewlines]
    simpa [← String.toList_inj] using solid
  rw [← String.toList_inj]
  simp_all [List.rdropWhile, List.dropWhile_append]

/-! ## Texts made of lines -/

/-- A text without a line end in it. -/
def IsLine (text : String) : Prop :=
  ∀ c ∈ text.toList, isLineEnd c = false

theorem isLine_of_mem_lines {text line : String} (member : line ∈ lines text) : IsLine line := by
  obtain ⟨chars, inside, rfl⟩ := List.mem_map.mp member
  intro c here
  exact isLineEnd_of_mem_splitLines inside (by simpa using here)

theorem lines_line_feed {line : String} (single : IsLine line) (rest : String) :
    lines (line ++ "\n" ++ rest) = line :: lines rest := by
  simpa [lines] using congrArg (List.map String.ofList)
    (splitLines_line_feed single rest.toList)

theorem joinLines_cons {rest : List String} (some : rest ≠ []) (line : String) :
    joinLines (line :: rest) = line ++ "\n" ++ joinLines rest :=
  String.intercalate_cons_of_ne_nil some

/-- Lines that stand above a text are read back, and then the lines of the text. -/
theorem lines_joinLines_append {above below : List String} (single : ∀ line ∈ above, IsLine line)
    (some : below ≠ []) (last : String) :
    lines (joinLines (above ++ below) ++ last) = above ++ lines (joinLines below ++ last) := by
  induction above with
  | nil => rfl
  | cons line above ih =>
      have later := ih fun other member => single other (by simp [member])
      rw [List.cons_append, joinLines_cons (by simp [some]), String.append_assoc,
        lines_line_feed (single line (by simp)), later, List.cons_append]

theorem lines_joinLines_feed {all : List String} (single : ∀ line ∈ all, IsLine line)
    (some : all ≠ []) : lines (joinLines all ++ "\n") = all := by
  obtain ⟨above, last, rfl⟩ := (List.eq_nil_or_concat' all).resolve_left some
  have alone : lines (last ++ "\n") = [last] := by
    simpa [lines] using lines_line_feed (single last (by simp)) ""
  rw [lines_joinLines_append (fun line member => single line (by simp [member])) (by simp)]
  simp [joinLines, alone]

theorem mem_joinLines {all : List String} {c : Char} (inside : c ∈ (joinLines all).toList) :
    c = '\n' ∨ ∃ line ∈ all, c ∈ line.toList := by
  induction all with
  | nil => simp [joinLines] at inside
  | cons line rest ih =>
      cases rest with
      | nil => exact .inr ⟨line, by simp, by simpa [joinLines] using inside⟩
      | cons next more =>
          rw [joinLines_cons (by simp)] at inside
          simp only [String.toList_append, List.mem_append] at inside
          rcases inside with (first | feed) | later
          · exact .inr ⟨line, by simp, first⟩
          · exact .inl (by simpa using feed)
          · rcases ih later with feed | ⟨other, member, there⟩
            · exact .inl feed
            · exact .inr ⟨other, by simp [member], there⟩

/-! ## Uniform line ends -/

theorem unifyLineEnds_of_not_mem {chars : List Char} (plain : '\r' ∉ chars) :
    unifyLineEnds chars = chars := by
  induction chars with
  | nil => rfl
  | cons c rest ih =>
      obtain ⟨different, later⟩ : '\r' ≠ c ∧ '\r' ∉ rest := by simpa using plain
      rw [unifyLineEnds.eq_def]
      split <;> simp_all

theorem unifyLineEnds_joinLines_feed {all : List String} (single : ∀ line ∈ all, IsLine line) :
    unifyLineEnds (joinLines all ++ "\n").toList = (joinLines all ++ "\n").toList := by
  refine unifyLineEnds_of_not_mem fun carriage => ?_
  rw [String.toList_append, List.mem_append] at carriage
  rcases carriage with inside | last
  · rcases mem_joinLines inside with feed | ⟨line, member, there⟩
    · simp at feed
    · exact absurd (single line member '\r' there) (by decide)
  · simp at last

end DocSamples.Text
