import Mathlib
import DocSamples.Proofs.Text.Joined

namespace DocSamples.Text

/-! # Lines and the characters that end them

A text without carriage returns has one character for each line end.  It is parted before any of
its lines, and the lines before that place, each with a line feed after it, are the text up to
there with a line feed for each line end.
-/

section Characters

variable {chars above below line : List Char} {first second more : List (List Char)} {c : Char}

/-- A text with a line feed in the place of each line end. -/
def feedEnds (chars : List Char) : List Char :=
  chars.map fun c => if isLineEnd c then '\n' else c

/-- A text whose lines are ended by line feeds and by nothing else. -/
def HasOnlyFeeds (chars : List Char) : Prop :=
  ∀ c ∈ chars, isLineEnd c = true → c = '\n'

instance (chars : List Char) : Decidable (HasOnlyFeeds chars) :=
  List.decidableBAll (fun c => isLineEnd c = true → c = '\n') chars

/-- A text without a line at its end that goes on. -/
def IsClosed (chars : List Char) : Prop :=
  ∀ c ∈ chars.getLast?, isLineEnd c = true

instance (chars : List Char) : Decidable (IsClosed chars) :=
  @decidable_of_iff _ (∀ c ∈ chars.getLast?.toList, isLineEnd c = true) (by simp [IsClosed])
    (List.decidableBAll _ _)

theorem feedEnds_eq_self_iff : feedEnds chars = chars ↔ HasOnlyFeeds chars := by
  induction chars with
  | nil => simp [feedEnds, HasOnlyFeeds]
  | cons c rest ih =>
      simp only [feedEnds, HasOnlyFeeds, List.map_cons, List.cons.injEq, List.forall_mem_cons]
        at ih ⊢
      rw [ih]
      refine and_congr_left fun _ => ?_
      by_cases ended : isLineEnd c = true <;> simp [ended, eq_comm]

theorem hasOnlyFeeds_feedEnds (chars : List Char) : HasOnlyFeeds (feedEnds chars) := by
  intro c member ended
  obtain ⟨d, _, rfl⟩ := List.mem_map.mp member
  by_cases here : isLineEnd d = true
  · rw [if_pos here]
  · rw [if_neg here] at ended
    contradiction

theorem count_feed_eq_iff : chars.count '\n' = chars.countP isLineEnd ↔ HasOnlyFeeds chars := by
  have fewer (chars : List Char) : chars.count '\n' ≤ chars.countP isLineEnd :=
    List.countP_mono_left fun c _ feed => by
      rw [beq_iff_eq.mp feed]
      decide
  induction chars with
  | nil => simp [HasOnlyFeeds]
  | cons c rest ih =>
      have later := fewer rest
      have parted : HasOnlyFeeds (c :: rest) ↔ (isLineEnd c = true → c = '\n') ∧
          HasOnlyFeeds rest := List.forall_mem_cons
      refine Iff.trans ?_ ((and_congr_right fun _ => ih).trans parted.symm)
      rw [List.count_cons, List.countP_cons]
      by_cases feed : c = '\n'
      · subst feed
        simp [isLineEnd]
      · by_cases ended : isLineEnd c = true
        · simp only [feed, ended, beq_iff_eq, if_false, if_true]
          constructor
          · omega
          · simp
        · simp [feed, ended]

theorem IsClosed.tail {rest : List Char} (closed : IsClosed (c :: rest)) : IsClosed rest := by
  intro last there
  refine closed last ?_
  cases rest with
  | nil => simp at there
  | cons next later => simpa using there

theorem IsClosed.ne_nil {rest : List Char} (closed : IsClosed (c :: rest))
    (solid : isLineEnd c = false) : rest ≠ [] := by
  rintro rfl
  have ended := closed c (by simp)
  rw [solid] at ended
  contradiction

/-! ## Reading up to a line end -/

theorem splitLines_plain_end {rest : List Char} (plain : '\r' ∉ c :: rest)
    (ended : isLineEnd c = true) : splitLines (c :: rest) = [] :: splitLines rest :=
  splitLines_end ended fun carriage => absurd (carriage ▸ List.mem_cons_self) plain

/-- The first line of a text stands at its beginning, and the others stand after its end. -/
theorem exists_of_splitLines_cons (plain : '\r' ∉ chars)
    (split : splitLines chars = line :: more) :
    ∃ rest, chars = line ++ rest ∧ (rest = [] ∧ more = [] ∨
      ∃ c below, rest = c :: below ∧ isLineEnd c = true ∧ splitLines below = more) := by
  induction chars generalizing line more with
  | nil => simp at split
  | cons c rest ih =>
      have plainRest : '\r' ∉ rest := fun inside => plain (List.mem_cons_of_mem c inside)
      cases ended : isLineEnd c with
      | true =>
          rw [splitLines_plain_end plain ended] at split
          obtain ⟨rfl, rfl⟩ := List.cons.inj split
          exact ⟨c :: rest, rfl, .inr ⟨c, rest, rfl, ended, rfl⟩⟩
      | false =>
          rw [splitLines_solid ended] at split
          obtain ⟨rfl, rfl⟩ := List.cons.inj split
          cases read : splitLines rest with
          | nil =>
              obtain rfl := splitLines_eq_nil_iff.mp read
              exact ⟨[], by simp, .inl ⟨rfl, rfl⟩⟩
          | cons next later =>
              obtain ⟨below, whole, shape⟩ := ih plainRest read
              exact ⟨below, congrArg (c :: ·) whole, shape⟩

theorem splitLines_line_end {rest : List Char} (single : ∀ d ∈ line, isLineEnd d = false)
    (plain : c ≠ '\r') (ended : isLineEnd c = true) :
    splitLines (line ++ c :: rest) = line :: splitLines rest := by
  induction line with
  | nil => exact splitLines_end ended fun carriage => absurd carriage plain
  | cons d line ih =>
      have later := ih fun other inside => single other (List.mem_cons_of_mem d inside)
      rw [List.cons_append, splitLines_solid (single d (by simp)), later]
      rfl

theorem exists_of_splitLines_append (plain : '\r' ∉ chars)
    (split : splitLines chars = first ++ second) (some : second ≠ []) :
    ∃ above below, chars = above ++ below ∧ IsClosed above ∧ splitLines above = first ∧
      splitLines below = second := by
  induction first generalizing chars with
  | nil => exact ⟨[], chars, rfl, by simp [IsClosed], rfl, split⟩
  | cons line more ih =>
      obtain ⟨_, rfl, ⟨_, nothing⟩ | ⟨c, rest, rfl, ended, read⟩⟩ :=
        exists_of_splitLines_cons plain split
      · exact absurd nothing (by simp [some])
      · have plainEnd : c ≠ '\r' := fun carriage => plain (by simp [carriage])
        have plainRest : '\r' ∉ rest := fun inside => plain (by simp [inside])
        have single : ∀ d ∈ line, isLineEnd d = false := fun d inside =>
          isLineEnd_of_mem_splitLines (by rw [split]; simp) inside
        obtain ⟨above, below, rfl, closed, readAbove, readBelow⟩ := ih plainRest read
        refine ⟨line ++ c :: above, below, by simp, ?_, ?_, readBelow⟩
        · intro last there
          cases above with
          | nil =>
              obtain rfl : c = last := by simpa using there
              exact ended
          | cons next later => exact closed last (by simpa [List.getLast?_cons] using there)
        · rw [splitLines_line_end single plainEnd ended, readAbove]

/-! ## Joining again -/

/-- Each line end is that of one line. -/
theorem length_splitLines (plain : '\r' ∉ chars) (closed : IsClosed chars) :
    (splitLines chars).length = chars.countP isLineEnd := by
  induction chars with
  | nil => rfl
  | cons c rest ih =>
      have later := ih (fun inside => plain (List.mem_cons_of_mem c inside)) closed.tail
      cases ended : isLineEnd c with
      | true => simp [splitLines_plain_end plain ended, ended, later]
      | false =>
          have some : splitLines rest ≠ [] := by
            simpa [splitLines_eq_nil_iff] using closed.ne_nil ended
          have positive := List.length_pos_iff.mpr some
          rw [splitLines_solid ended, List.length_cons, List.length_tail, List.countP_cons, ← later,
            if_neg (by simp [ended])]
          omega

theorem flatMap_feed_splitLines (plain : '\r' ∉ chars) (closed : IsClosed chars) :
    (splitLines chars).flatMap (· ++ ['\n']) = feedEnds chars := by
  induction chars with
  | nil => rfl
  | cons c rest ih =>
      have later := ih (fun inside => plain (List.mem_cons_of_mem c inside)) closed.tail
      rw [feedEnds, List.map_cons, ← feedEnds, ← later]
      cases ended : isLineEnd c with
      | true => simp [splitLines_plain_end plain ended]
      | false =>
          have some : splitLines rest ≠ [] := by
            simpa [splitLines_eq_nil_iff] using closed.ne_nil ended
          obtain ⟨line, more, read⟩ := List.exists_cons_of_ne_nil some
          simp [splitLines_solid ended, read]

/-- A line feed ends a last line that goes on, and begins no other. -/
theorem splitLines_feed_of_not_isClosed (plain : '\r' ∉ chars) (unclosed : ¬ IsClosed chars) :
    splitLines (chars ++ ['\n']) = splitLines chars := by
  induction chars with
  | nil => simp [IsClosed] at unclosed
  | cons c rest ih =>
      have plainRest : '\r' ∉ rest := fun inside => plain (List.mem_cons_of_mem c inside)
      cases rest with
      | nil =>
          have solid : isLineEnd c = false := by simpa [IsClosed] using unclosed
          simp [splitLines_solid solid, splitLines_feed]
      | cons next more =>
          have later := ih plainRest fun closed => unclosed (by simpa [IsClosed] using closed)
          cases ended : isLineEnd c with
          | true =>
              have plainFeed : '\r' ∉ c :: (next :: more ++ ['\n']) := by simpa using plain
              rw [List.cons_append, splitLines_plain_end plainFeed ended,
                splitLines_plain_end plain ended, later]
          | false =>
              rw [List.cons_append, splitLines_solid ended, splitLines_solid ended, later]

/-- A text without a line end at its end that is no line feed. -/
def dropOtherEnd (chars : List Char) : List Char :=
  if ∃ c ∈ chars.getLast?, isLineEnd c = true ∧ c ≠ '\n' then chars.dropLast else chars

theorem dropOtherEnd_of_hasOnlyFeeds (feeds : HasOnlyFeeds chars) : dropOtherEnd chars = chars := by
  refine if_neg ?_
  rintro ⟨c, last, ended, other⟩
  exact other (feeds c (List.mem_of_getLast? last) ended)

end Characters

/-! ## Texts -/

variable {text : String} {all : List String}

theorem splitLines_toList (text : String) :
    splitLines text.toList = (lines text).map String.toList := by
  simp [lines, Function.comp_def]

theorem lines_ofList {chars : List Char} {all : List String}
    (read : splitLines chars = all.map String.toList) : lines (String.ofList chars) = all := by
  simp [lines, read, Function.comp_def]

theorem toList_joinLines_feed (some : all ≠ []) :
    (joinLines all ++ "\n").toList = all.flatMap fun line => line.toList ++ ['\n'] := by
  induction all with
  | nil => exact absurd rfl some
  | cons line rest ih =>
      cases rest with
      | nil => simp
      | cons next more =>
          rw [joinLines_cons (by simp), String.append_assoc, String.toList_append, ih (by simp)]
          simp

/-- Lines joined, with a line feed after the last of them as at the end of a text. -/
def closedAs (text : String) (all : List String) : String :=
  if endsWithNewline text then joinLines all ++ "\n" else joinLines all

theorem closedAs_congr {other : String} (same : endsWithNewline text = endsWithNewline other) :
    closedAs text = closedAs other := by
  funext all
  rw [closedAs, closedAs, same]

theorem closedAs_append {above below : List String} (some : above ≠ []) (others : below ≠ []) :
    closedAs text (above ++ below) = joinLines above ++ "\n" ++ closedAs text below := by
  rw [closedAs, closedAs, joinLines_append some others]
  split <;> simp [String.append_assoc]

theorem endsWithNewline_of_isLine (single : IsLine text) : endsWithNewline text = false := by
  refine Bool.eq_false_iff.mpr fun closed => ?_
  have last : text.toList.getLast? = some '\n' := by simpa [endsWithNewline] using closed
  exact absurd (single '\n' (List.mem_of_getLast? last)) (by decide)

/-- Lines that have been joined once are joined to the same text again. -/
theorem closedAs_lines_closedAs (single : ∀ line ∈ all, IsLine line) (some : all ≠ []) :
    closedAs (closedAs text all) (lines (closedAs text all)) = closedAs text all := by
  by_cases closed : endsWithNewline text = true
  · have whole : closedAs text all = joinLines all ++ "\n" := if_pos closed
    rw [whole, lines_joinLines_feed single some, closedAs, if_pos (endsWithNewline_feed _)]
  · have whole : closedAs text all = joinLines all := if_neg closed
    rw [whole, lines_joinLines single]
    -- An empty last line is not read again, but then the text before it ends with a line feed.
    obtain ⟨front, last, rfl⟩ := (List.eq_nil_or_concat' all).resolve_left some
    by_cases blank : last = ""
    · subst blank
      cases front with
      | nil => decide +kernel
      | cons line rest =>
          have fed : joinLines (line :: rest ++ [""]) = joinLines (line :: rest) ++ "\n" := by
            rw [joinLines_append (by simp) (by simp), joinLines_singleton, String.append_empty]
          have shorter : dropBlankEnd (line :: rest ++ [""]) = line :: rest := by
            rw [dropBlankEnd, if_pos List.getLast?_concat, List.dropLast_concat]
          rw [fed, closedAs, if_pos (endsWithNewline_feed _), shorter]
    · have unfed : endsWithNewline (joinLines (front ++ [last])) = false := by
        have open_ := endsWithNewline_of_isLine (single last (by simp))
        cases front with
        | nil => simpa using open_
        | cons line rest =>
            rw [joinLines_append (by simp) (by simp), joinLines_singleton,
              endsWithNewline_append blank, open_]
      have kept : dropBlankEnd (front ++ [last]) = front ++ [last] :=
        dropBlankEnd_eq_self_iff.mpr (by simpa using blank)
      rw [kept, closedAs, unfed]
      simp

/-- A closed text whose lines are joined again has a line feed for each line end. -/
theorem toList_joinLines_lines {chars : List Char} (plain : '\r' ∉ chars) (closed : IsClosed chars)
    (some : chars ≠ []) :
    (joinLines (lines (String.ofList chars)) ++ "\n").toList = feedEnds chars := by
  have read : lines (String.ofList chars) ≠ [] := by simpa [lines, splitLines_eq_nil_iff] using some
  rw [toList_joinLines_feed read, ← flatMap_feed_splitLines plain closed]
  simp [lines, List.flatMap_map]

/-- Without the last line feed a closed text comes back without its last line end. -/
theorem toList_joinLines_lines_dropLast {chars : List Char} (plain : '\r' ∉ chars)
    (closed : IsClosed chars) :
    (joinLines (lines (String.ofList chars))).toList = feedEnds chars.dropLast := by
  rcases List.eq_nil_or_concat' chars with rfl | ⟨front, last, rfl⟩
  · rfl
  · have joined := toList_joinLines_lines plain closed (by simp)
    have ended : isLineEnd last = true := closed last (by simp)
    have fed : feedEnds (front ++ [last]) = feedEnds front ++ ['\n'] := by simp [feedEnds, ended]
    rw [fed, String.toList_append] at joined
    rw [List.dropLast_concat]
    exact List.append_cancel_right joined

/-- The last lines of a text that are joined again have a line feed for each line end, but for one
at the very end. -/
theorem toList_closedAs_lines {head below : List Char} (plain : '\r' ∉ below) (some : below ≠ [])
    (whole : head ++ below = text.toList) :
    (closedAs text (lines (String.ofList below))).toList = feedEnds (dropOtherEnd below) := by
  have closes : endsWithNewline text = true ↔ below.getLast? = .some '\n' := by
    rw [endsWithNewline, ← whole, List.getLast?_append_of_ne_nil _ some, beq_iff_eq]
  obtain ⟨front, c, rfl⟩ := (List.eq_nil_or_concat' below).resolve_left some
  rw [List.getLast?_concat, Option.some.injEq] at closes
  have feedEnds_concat (front : List Char) (c : Char) :
      feedEnds (front ++ [c]) = feedEnds front ++ feedEnds [c] := List.map_append
  cases ended : isLineEnd c with
  | true =>
      have closed : IsClosed (front ++ [c]) := by simpa [IsClosed] using ended
      have joined := toList_joinLines_lines plain closed some
      by_cases feed : c = '\n'
      · have kept : dropOtherEnd (front ++ [c]) = front ++ [c] := if_neg (by simp [feed])
        rw [closedAs, if_pos (closes.mpr feed), joined, kept]
      · have dropped : dropOtherEnd (front ++ [c]) = front := by
          rw [dropOtherEnd, if_pos (by simp [ended, feed]), List.dropLast_concat]
        have single : feedEnds [c] = ['\n'] := by simp [feedEnds, ended]
        rw [feedEnds_concat, single, String.toList_append] at joined
        rw [closedAs, if_neg (closes.not.mpr feed), dropped]
        exact List.append_cancel_right joined
  | false =>
      have feed : c ≠ '\n' := by
        rintro rfl
        exact absurd ended (by decide)
      have unclosed : ¬ IsClosed (front ++ [c]) := by simpa [IsClosed] using ended
      have fed : lines (String.ofList (front ++ [c] ++ ['\n'])) =
          lines (String.ofList (front ++ [c])) := by
        simp only [lines, String.toList_ofList, splitLines_feed_of_not_isClosed plain unclosed]
      have plainFed : '\r' ∉ front ++ [c] ++ ['\n'] := by simpa using plain
      have joined := toList_joinLines_lines plainFed (by simp [IsClosed, isLineEnd]) (by simp)
      have kept : dropOtherEnd (front ++ [c]) = front ++ [c] := if_neg (by simp [ended])
      rw [fed, feedEnds_concat (front ++ [c]), String.toList_append] at joined
      rw [closedAs, if_neg (closes.not.mpr feed), kept]
      exact List.append_cancel_right joined

end DocSamples.Text
