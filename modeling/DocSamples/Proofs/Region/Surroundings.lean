import Mathlib
import DocSamples.Proofs.Region.Parts
import DocSamples.Proofs.Text.Ends

namespace DocSamples

open Text

/-! # What stands around a region that is replaced

A text with a region is three texts: that up to the line with the opening marker, the body, and
that from the closing marker on.  A new body leaves the first and the last as they are, but for
line ends that are no line feeds: each of these is written as one, and one at the very end is lost.
-/

namespace Region

variable {text name body : String} {span : Span}

/-- The lines of a text that has a region: down to the opening marker, those of the body, and from
the closing marker on. -/
theorem lines_eq_of_find (found : find? text name = some span) :
    (lines text).take (span.first + 1) ≠ [] ∧ (lines text).drop span.last ≠ [] ∧
      lines text = (lines text).take (span.first + 1) ++
        (((lines text).take span.last).drop (span.first + 1) ++ (lines text).drop span.last) := by
  obtain ⟨parts, placed, whole, rfl⟩ := exists_parts_of_find found
  obtain ⟨gap, _, split⟩ := exists_keptLines_append text
  obtain ⟨above, body, below⟩ := parts.take_drop_all gap
  rw [whole, ← split] at above body below
  refine ⟨by simp [above], by simp [below], ?_⟩
  rw [above, body, below, split, ← whole]
  simp [Parts.all]

/-- A new body stands on lines of its own between what is read of the text and joined again. -/
theorem replace_eq_some (found : find? text name = some span) (body : String) :
    replace? text name body = some (joinLines ((lines text).take (span.first + 1)) ++ "\n" ++
      (dropEndNewlines body ++ "\n" ++ closedAs text ((lines text).drop span.last))) := by
  obtain ⟨above, below, _⟩ := lines_eq_of_find found
  have whole : replace? text name body = some (closedAs text ((lines text).take (span.first + 1) ++
      ([dropEndNewlines body] ++ (lines text).drop span.last))) := by
    rw [replace?, found, Option.map_some, ← List.append_assoc]
    rfl
  rw [whole, closedAs_append above (by simp), closedAs_append (by simp) below,
    joinLines_singleton]

/-- A text that is parted around the body of a region, at the ends of lines. -/
structure Cut where
  above : List Char
  body : List Char
  below : List Char

def Cut.chars (cut : Cut) : List Char :=
  cut.above ++ cut.body ++ cut.below

/-- The first part ends with the line of the opening marker, the last part begins with that of the
closing marker. -/
structure Cut.IsAt (cut : Cut) (text : String) (span : Span) : Prop where
  whole : cut.chars = text.toList
  aboveClosed : IsClosed cut.above
  above : lines (String.ofList cut.above) = (lines text).take (span.first + 1)
  bodyClosed : IsClosed cut.body
  body : lines (String.ofList cut.body) = ((lines text).take span.last).drop (span.first + 1)
  below : lines (String.ofList cut.below) = (lines text).drop span.last

theorem exists_cut (plain : '\r' ∉ text.toList) (found : find? text name = some span) :
    ∃ cut : Cut, cut.IsAt text span := by
  obtain ⟨_, some, split⟩ := lines_eq_of_find found
  have read := splitLines_toList text
  rw [split, List.map_append] at read
  obtain ⟨above, rest, whole, aboveClosed, readAbove, readRest⟩ :=
    exists_of_splitLines_append plain read
      (List.map_eq_nil_iff.not.mpr (List.append_ne_nil_of_right_ne_nil _ some))
  have plainRest : '\r' ∉ rest := fun inside => plain (by simp [whole, inside])
  rw [List.map_append] at readRest
  obtain ⟨body, below, rfl, bodyClosed, readBody, readBelow⟩ :=
    exists_of_splitLines_append plainRest readRest (by simpa using some)
  exact ⟨⟨above, body, below⟩, by simp [Cut.chars, whole], aboveClosed,
    lines_ofList readAbove, bodyClosed, lines_ofList readBody, lines_ofList readBelow⟩

theorem Cut.IsAt.toList_replace {cut : Cut} (placed : cut.IsAt text span)
    (plain : '\r' ∉ text.toList) (found : find? text name = some span)
    {result : String} (replaced : replace? text name body = some result) :
    result.toList = feedEnds cut.above ++ ((dropEndNewlines body).toList ++
      '\n' :: feedEnds (dropOtherEnd cut.below)) := by
  obtain ⟨above, below, _⟩ := lines_eq_of_find found
  have plainAbove : '\r' ∉ cut.above := fun inside =>
    plain (by simp [← placed.whole, Cut.chars, inside])
  have plainBelow : '\r' ∉ cut.below := fun inside =>
    plain (by simp [← placed.whole, Cut.chars, inside])
  have some : cut.below ≠ [] := by
    intro none
    rw [← placed.below, none] at below
    exact below rfl
  have whole := replace_eq_some found body
  rw [replaced, Option.some.injEq] at whole
  have someAbove : cut.above ≠ [] := by
    intro none
    rw [← placed.above, none] at above
    exact above rfl
  have first := toList_joinLines_lines plainAbove placed.aboveClosed someAbove
  have last := toList_closedAs_lines plainBelow some placed.whole
  rw [placed.above] at first
  rw [placed.below] at last
  rw [whole, String.toList_append, first, String.toList_append, last]
  simp

theorem hasOnlyFeeds_iff_prefix {chars rest : List Char} :
    chars <+: feedEnds chars ++ rest ↔ HasOnlyFeeds chars := by
  rw [← feedEnds_eq_self_iff]
  constructor
  · intro before
    have same := List.prefix_of_prefix_length_le before (List.prefix_append _ _)
      (by simp [feedEnds])
    exact (same.eq_of_length (by simp [feedEnds])).symm
  · intro same
    rw [same]
    exact List.prefix_append _ _

theorem hasOnlyFeeds_iff_suffix {chars front : List Char} :
    chars <:+ front ++ '\n' :: feedEnds (dropOtherEnd chars) ↔ HasOnlyFeeds chars := by
  constructor
  · intro after
    by_cases other : ∃ c ∈ chars.getLast?, isLineEnd c = true ∧ c ≠ '\n'
    · -- The text would end with its last character, but each end in it is a line feed.
      obtain ⟨c, last, ended, different⟩ := other
      obtain ⟨before, whole⟩ := after
      have some : chars ≠ [] := fun none => by simp [none] at last
      have there := congrArg List.getLast? whole
      rw [List.getLast?_append_of_ne_nil _ some, last,
        List.getLast?_append_of_ne_nil _ (List.cons_ne_nil _ _)] at there
      rcases List.mem_cons.mp (List.mem_of_getLast? there.symm) with feed | inside
      · exact absurd feed different
      · exact absurd (hasOnlyFeeds_feedEnds _ c inside ended) different
    · have kept : dropOtherEnd chars = chars := if_neg other
      rw [kept] at after
      have same := List.suffix_of_suffix_length_le after
        ((List.suffix_cons _ _).trans (List.suffix_append _ _)) (by simp [feedEnds])
      exact feedEnds_eq_self_iff.mp (same.eq_of_length (by simp [feedEnds])).symm
  · intro feeds
    rw [dropOtherEnd_of_hasOnlyFeeds feeds, feedEnds_eq_self_iff.mpr feeds]
    exact (List.suffix_cons _ _).trans (List.suffix_append _ _)

/-- A text without carriage returns is kept around a region that is given a new body, but for line
ends that are no line feeds.  It is kept character by character above or below the body exactly
when there are none of these there. -/
theorem surroundings_kept_iff (body : String) (plain : '\r' ∉ text.toList)
    (found : find? text name = some span) :
    ∃ result, replace? text name body = some result ∧ (∃ cut : Cut, cut.IsAt text span) ∧
      ∀ cut : Cut, cut.IsAt text span →
        result.toList = feedEnds cut.above ++ ((dropEndNewlines body).toList ++
          '\n' :: feedEnds (dropOtherEnd cut.below)) ∧
        (cut.above <+: result.toList ↔ HasOnlyFeeds cut.above) ∧
        (cut.below <:+ result.toList ↔ HasOnlyFeeds cut.below) := by
  have replaced := replace_eq_some found body
  refine ⟨_, replaced, exists_cut plain found, fun cut placed => ?_⟩
  have whole := placed.toList_replace plain found replaced
  refine ⟨whole, ?_, ?_⟩
  · rw [whole]
    exact hasOnlyFeeds_iff_prefix
  · rw [whole, ← List.append_assoc]
    exact hasOnlyFeeds_iff_suffix

/-! ## A host with line feeds, and one with other line ends -/

def feedHost : Cut where
  above := "x = 1\n#region a\n".toList
  body := "y = 2\n".toList
  below := "#endregion\nz = 3".toList

def feedText : String :=
  String.ofList feedHost.chars

/-- A host with a line separator above the region and a form feed below it, inside of texts. -/
def separatorHost : Cut where
  above := "x = 'a\u2028b'\n#region a\n".toList
  body := []
  below := "#endregion\ny = 'c\x0cd'\n".toList

theorem surroundings_kept_feeds :
    '\r' ∉ feedText.toList ∧ find? feedText "a" = some ⟨1, 3⟩ ∧
      ∃ result, replace? feedText "a" "w = 4\n\n" = some result ∧
        feedHost.above <+: result.toList ∧ feedHost.below <:+ result.toList := by
  have plain : '\r' ∉ feedText.toList := by decide +kernel
  have found : find? feedText "a" = some ⟨1, 3⟩ := by decide +kernel
  have placed : feedHost.IsAt feedText ⟨1, 3⟩ :=
    ⟨by decide +kernel, by decide +kernel, by decide +kernel, by decide +kernel, by decide +kernel,
      by decide +kernel⟩
  obtain ⟨result, replaced, _, kept⟩ := surroundings_kept_iff "w = 4\n\n" plain found
  obtain ⟨_, above, below⟩ := kept feedHost placed
  exact ⟨plain, found, result, replaced, above.mpr (by decide +kernel),
    below.mpr (by decide +kernel)⟩

/-- A new body changes the lines around it when there are other line ends in them. -/
theorem surroundings_changed :
    ∃ (text name body : String) (span : Span) (cut : Cut) (result : String),
      '\r' ∉ text.toList ∧ find? text name = some span ∧ cut.IsAt text span ∧
      replace? text name body = some result ∧
      ¬ cut.above <+: result.toList ∧ ¬ cut.below <:+ result.toList := by
  refine ⟨String.ofList separatorHost.chars, "a", "z = 1", ⟨2, 3⟩, separatorHost,
    "x = 'a\nb'\n#region a\nz = 1\n#endregion\ny = 'c\nd'\n", by decide +kernel, by decide +kernel,
    ?_, by decide +kernel, by decide +kernel, by decide +kernel⟩
  exact ⟨by decide +kernel, by decide +kernel, by decide +kernel, by decide +kernel,
    by decide +kernel, by decide +kernel⟩

end Region

end DocSamples
