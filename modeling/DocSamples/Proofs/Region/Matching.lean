import DocSamples.Proofs.Region.Laws
import DocSamples.Proofs.Region.Marker

namespace DocSamples

open Text

/-! # Regions as matching brackets

A region reaches from the first opening marker of its name to the first closing marker after it
with as many opening as closing markers between.  What stands above the region does not count,
and between the two markers never more is closed than was opened.
-/

namespace Region

variable {all body : List String} {name text : String} {first last : Nat} {span : Span}

/-! ## Markers between two lines -/

/-- The lines strictly between two lines. -/
def between (all : List String) (first last : Nat) : List String :=
  (all.take last).drop (first + 1)

def IsOpener (line : String) : Prop :=
  ∃ name, (Marker.opening name).IsWritten line

theorem isOpener_iff {line : String} :
    (match Marker.ofLine? line with
      | some (.opening _) => true
      | _ => false) = true ↔ IsOpener line := by
  simp only [IsOpener, ← Marker.ofLine_eq_some_iff]
  cases Marker.ofLine? line with
  | none => simp
  | some marker => cases marker <;> simp

instance (line : String) : Decidable (IsOpener line) :=
  decidable_of_iff _ isOpener_iff

/-- How many lines are written as an opening marker, of whatever name. -/
def openers (body : List String) : Nat :=
  body.countP fun line => IsOpener line

def closers (body : List String) : Nat :=
  body.countP fun line => Marker.closing.IsWritten line

theorem openers_eq (body : List String) : openers body = openings body := by
  refine List.countP_congr fun line _ => ?_
  rw [decide_eq_true_iff]
  exact isOpener_iff.symm

theorem closers_eq (body : List String) : closers body = closings body := by
  refine List.countP_congr fun line _ => ?_
  rw [decide_eq_true_iff, decide_eq_true_iff]
  exact Marker.ofLine_eq_some_iff.symm

/-- The first line that opens a region of a name. -/
structure IsOpenedAt (all : List String) (name : String) (first : Nat) : Prop where
  opens : ∃ line, all[first]? = some line ∧ (Marker.opening name).IsWritten line
  earliest : ∀ number < first, ∀ line, all[number]? = some line →
    ¬ (Marker.opening name).IsWritten line

/-- A closing marker below a line, with as many opening as closing markers between. -/
structure CanCloseAt (all : List String) (first last : Nat) : Prop where
  later : first < last
  closes : ∃ line, all[last]? = some line ∧ Marker.closing.IsWritten line
  even : openers (between all first last) = closers (between all first last)

/-- The first of these closes what was opened. -/
structure Encloses (all : List String) (name : String) (span : Span) : Prop where
  opened : IsOpenedAt all name span.first
  closed : CanCloseAt all span.first span.last
  nearest : ∀ number < span.last, ¬ CanCloseAt all span.first number

/-! ## Balanced bodies -/

/-- Never more is closed than was opened when no closing marker finds both counts equal. -/
theorem closings_le_iff : (∀ front, front <+: body → closings front ≤ openings front) ↔
    ∀ front line, front ++ [line] <+: body → Marker.ofLine? line = some .closing →
      openings front ≠ closings front := by
  constructor
  · intro within front line begins closes even
    have opens : openings (front ++ [line]) = openings front := by simp [openings, closes]
    have more : closings (front ++ [line]) = closings front + 1 := by simp [closings, closes]
    have bound := within _ begins
    omega
  · -- By induction from the end: the counts are in order before the last line, and where that
    -- line closes they differ.
    intro uneven front
    induction front using List.reverseRecOn with
    | nil => simp [closings]
    | append_singleton front line ih =>
        intro begins
        have before := ih ((List.prefix_append front [line]).trans begins)
        have kept : openings front ≤ openings (front ++ [line]) := by simp [openings]
        by_cases closes : Marker.ofLine? line = some .closing
        · have more : closings (front ++ [line]) = closings front + 1 := by simp [closings, closes]
          have apart := uneven front line begins closes
          omega
        · have same : closings (front ++ [line]) = closings front := by simp [closings, closes]
          omega

/-! ## The parts of a text by their numbers -/

theorem prefix_of_getElem {line : String} {count : Nat} (here : body[count]? = some line) :
    body.take count ++ [line] <+: body := by
  obtain ⟨inside, rfl⟩ := List.getElem?_eq_some_iff.mp here
  rw [List.take_append_getElem inside]
  exact List.take_prefix _ _

theorem exists_append_of_getElem {line : String} {count : Nat} (here : all[count]? = some line) :
    ∃ front back, all = front ++ line :: back ∧ front.length = count := by
  obtain ⟨inside, rfl⟩ := List.getElem?_eq_some_iff.mp here
  exact ⟨all.take count, all.drop (count + 1), by simp, by simp [inside.le]⟩

section Parts

variable {parts : Parts} {count : Nat}

theorem span_last (parts : Parts) :
    parts.span.last = parts.above.length + 1 + parts.body.length := by
  simp only [Parts.span]
  omega

theorem between_all (inside : count ≤ parts.body.length) :
    between parts.all parts.above.length (parts.above.length + 1 + count) =
      parts.body.take count := by
  have split : parts.all = (parts.above ++ [parts.opening]) ++
      (parts.body ++ parts.closing :: parts.below) := by
    simp [Parts.all]
  have length : (parts.above ++ [parts.opening]).length = parts.above.length + 1 := by simp
  rw [between, split, ← length, List.take_length_add_append, List.drop_left,
    List.take_append_of_le_length inside]

theorem getElem_all : parts.all[parts.above.length + 1 + count]? =
    (parts.body ++ parts.closing :: parts.below)[count]? := by
  rw [Parts.all, List.getElem?_append_right (by omega)]
  have number : parts.above.length + 1 + count - parts.above.length = count + 1 := by omega
  rw [number, List.getElem?_cons_succ]

theorem canCloseAt_all_iff (inside : count ≤ parts.body.length) :
    CanCloseAt parts.all parts.above.length (parts.above.length + 1 + count) ↔
      (∃ line, (parts.body ++ parts.closing :: parts.below)[count]? = some line ∧
        Marker.ofLine? line = some .closing) ∧
      openings (parts.body.take count) = closings (parts.body.take count) := by
  simp only [Marker.ofLine_eq_some_iff, ← openers_eq, ← closers_eq]
  constructor
  · rintro ⟨_, closes, even⟩
    rw [getElem_all] at closes
    rw [between_all inside] at even
    exact ⟨closes, even⟩
  · rintro ⟨closes, even⟩
    refine ⟨by omega, ?_, ?_⟩
    · rwa [getElem_all]
    · rwa [between_all inside]

theorem encloses_of_parts (placed : parts.AreAt name) : Encloses parts.all name parts.span := by
  obtain ⟨within, whole⟩ := isBalanced_iff.mpr placed.balanced
  refine ⟨⟨⟨parts.opening, ?_, Marker.ofLine_eq_some_iff.mp placed.opens⟩, ?_⟩, ?_, ?_⟩
  · simp [Parts.span, Parts.all]
  · intro number above line found opens
    rw [Parts.all, List.getElem?_append_left above] at found
    exact placed.first line (List.mem_of_getElem? found) (Marker.ofLine_eq_some_iff.mpr opens)
  · rw [span_last]
    refine (canCloseAt_all_iff (Nat.le_refl _)).mpr ⟨⟨parts.closing, by simp, placed.closes⟩, ?_⟩
    rw [List.take_length, whole]
  · rw [span_last]
    intro number before closes
    obtain ⟨count, rfl⟩ : ∃ count, number = parts.above.length + 1 + count :=
      Nat.exists_eq_add_of_le closes.later
    have inside : count < parts.body.length := by omega
    obtain ⟨⟨line, here, closing⟩, even⟩ := (canCloseAt_all_iff inside.le).mp closes
    rw [List.getElem?_append_left inside] at here
    exact closings_le_iff.mp within _ line (prefix_of_getElem here) closing even

/-- The parts of a text at two lines, the second below the first. -/
theorem exists_parts_of_lines {opening closing : String} (opened : all[first]? = some opening)
    (closed : all[last]? = some closing) (later : first < last) :
    ∃ parts : Parts, parts.all = all ∧ parts.span = ⟨first, last⟩ ∧
      parts.opening = opening ∧ parts.closing = closing := by
  obtain ⟨more, rfl⟩ := Nat.exists_eq_add_of_lt later
  obtain ⟨above, below, rfl, rfl⟩ := exists_append_of_getElem opened
  rw [List.getElem?_append_right (by omega), Nat.add_assoc, Nat.add_sub_cancel_left,
    List.getElem?_cons_succ] at closed
  obtain ⟨body, rest, rfl, rfl⟩ := exists_append_of_getElem closed
  exact ⟨⟨above, opening, body, closing, rest⟩, rfl, by simp [Parts.span], rfl, rfl⟩

theorem exists_parts_of_encloses (encloses : Encloses all name span) :
    ∃ parts : Parts, parts.AreAt name ∧ parts.all = all ∧ parts.span = span := by
  obtain ⟨⟨⟨opening, opened, opens⟩, earliest⟩, closed, nearest⟩ := encloses
  obtain ⟨closing, found, closes⟩ := closed.closes
  obtain ⟨parts, rfl, placed, rfl, rfl⟩ := exists_parts_of_lines opened found closed.later
  obtain rfl : parts.span = span := placed
  rw [span_last] at closed nearest
  obtain ⟨_, whole⟩ := (canCloseAt_all_iff (Nat.le_refl _)).mp closed
  rw [List.take_length] at whole
  refine ⟨parts, ⟨?_, Marker.ofLine_eq_some_iff.mpr opens, ?_,
    Marker.ofLine_eq_some_iff.mpr closes⟩, rfl, rfl⟩
  · intro line member opens
    obtain ⟨number, above, rfl⟩ := List.mem_iff_getElem.mp member
    refine earliest number above _ ?_ (Marker.ofLine_eq_some_iff.mp opens)
    rw [Parts.all, List.getElem?_append_left above, List.getElem?_eq_getElem above]
  · -- A closing marker with both counts equal before it would be a nearer one.
    have uneven : ∀ front line, front ++ [line] <+: parts.body →
        Marker.ofLine? line = some .closing → openings front ≠ closings front := by
      rintro front line ⟨rest, split⟩ closing even
      have inside : front.length < parts.body.length := by
        rw [← split]
        simp
      refine nearest (parts.above.length + 1 + front.length) (by omega)
        ((canCloseAt_all_iff inside.le).mpr ⟨⟨line, ?_, closing⟩, ?_⟩)
      · rw [List.getElem?_append_left inside, ← split]
        simp
      · rw [← split]
        simpa using even
    exact isBalanced_iff.mp ⟨closings_le_iff.mpr uneven, whole.symm⟩

end Parts

theorem spanOf_eq_some_iff :
    spanOf? name (all.map Marker.ofLine?) = some span ↔ Encloses all name span := by
  constructor
  · intro found
    obtain ⟨parts, placed, rfl, rfl⟩ := exists_parts_of_spanOf found
    exact encloses_of_parts placed
  · intro encloses
    obtain ⟨parts, placed, rfl, rfl⟩ := exists_parts_of_encloses encloses
    exact Parts.spanOf_all placed

/-! ## Regions that are not there -/

theorem exists_isOpenedAt_iff : (∃ first, IsOpenedAt all name first) ↔
    ∃ line ∈ all, (Marker.opening name).IsWritten line := by
  constructor
  · rintro ⟨first, ⟨line, here, opens⟩, _⟩
    exact ⟨line, List.mem_of_getElem? here, opens⟩
  · rintro ⟨line, member, opens⟩
    have found : ∃ first : Nat, ∃ line, all[first]? = some line ∧
        (Marker.opening name).IsWritten line := by
      obtain ⟨first, here⟩ := List.getElem?_of_mem member
      exact ⟨first, line, here, opens⟩
    classical
    refine ⟨Nat.find found, Nat.find_spec found, fun number before line here opens => ?_⟩
    exact Nat.find_min found before ⟨line, here, opens⟩

theorem IsOpenedAt.unique {other : Nat} (opened : IsOpenedAt all name first)
    (again : IsOpenedAt all name other) : first = other := by
  obtain ⟨line, here, opens⟩ := opened.opens
  obtain ⟨line', here', opens'⟩ := again.opens
  rcases Nat.lt_trichotomy first other with before | same | after
  · exact absurd opens (again.earliest first before line here)
  · exact same
  · exact absurd opens' (opened.earliest other after line' here')

theorem exists_encloses_iff (opened : IsOpenedAt all name first) :
    (∃ span, Encloses all name span) ↔ ∃ last, CanCloseAt all first last := by
  constructor
  · rintro ⟨span, encloses⟩
    obtain rfl := opened.unique encloses.opened
    exact ⟨span.last, encloses.closed⟩
  · intro closes
    classical
    exact ⟨⟨first, Nat.find closes⟩, opened, Nat.find_spec closes,
      fun _ before => Nat.find_min closes before⟩

theorem not_exists_encloses_iff : (¬ ∃ span, Encloses all name span) ↔
    (∀ line ∈ all, ¬ (Marker.opening name).IsWritten line) ∨
      ∃ first, IsOpenedAt all name first ∧ ∀ last, ¬ CanCloseAt all first last := by
  by_cases opens : ∃ first, IsOpenedAt all name first
  · obtain ⟨first, opened⟩ := opens
    have some : ¬ ∀ line ∈ all, ¬ (Marker.opening name).IsWritten line := by
      simpa using exists_isOpenedAt_iff.mp ⟨first, opened⟩
    rw [exists_encloses_iff opened, or_iff_right some, not_exists]
    constructor
    · intro never
      exact ⟨first, opened, never⟩
    · rintro ⟨other, again, never⟩
      rwa [opened.unique again]
  · have none : ∀ line ∈ all, ¬ (Marker.opening name).IsWritten line := by
      simpa using mt exists_isOpenedAt_iff.mpr opens
    refine iff_of_true ?_ (.inl none)
    rintro ⟨span, encloses⟩
    exact opens ⟨_, encloses.opened⟩

/-! ## Finding a region -/

theorem find_eq_some_iff : find? text name = some span ↔ Encloses (lines text) name span :=
  spanOf_eq_some_iff

theorem find_eq_none_iff : find? text name = none ↔ ¬ ∃ span, Encloses (lines text) name span := by
  simp [Option.eq_none_iff_forall_ne_some, find_eq_some_iff]

theorem closers_le_of_encloses (encloses : Encloses all name span) {front : List String}
    (begins : front <+: between all span.first span.last) : closers front ≤ openers front := by
  obtain ⟨parts, placed, rfl, rfl⟩ := exists_parts_of_encloses encloses
  rw [openers_eq, closers_eq]
  rw [span_last] at begins
  have whole := between_all (Nat.le_refl parts.body.length)
  rw [List.take_length] at whole
  exact (isBalanced_iff.mpr placed.balanced).within front (whole ▸ begins)

theorem body_eq_some_iff {body : String} : body? text name = some body ↔
    ∃ span, Encloses (lines text) name span ∧
      body = joinLines (between (lines text) span.first span.last) := by
  simp only [body?, Option.map_eq_some_iff, find_eq_some_iff, between]
  exact exists_congr fun span => and_congr_right fun _ => eq_comm

/-- A region is found from the first opening marker of its name to the marker that matches it,
and not at all when no marker does. -/
theorem find_iff_encloses (text name : String) :
    (∀ span, find? text name = some span ↔ Encloses (lines text) name span) ∧
      (find? text name = none ↔
        (∀ line ∈ lines text, ¬ (Marker.opening name).IsWritten line) ∨
          ∃ first, IsOpenedAt (lines text) name first ∧
            ∀ last, ¬ CanCloseAt (lines text) first last) ∧
      (∀ span, Encloses (lines text) name span →
        ∀ front, front <+: between (lines text) span.first span.last →
          closers front ≤ openers front) ∧
      ∀ body, body? text name = some body ↔ ∃ span, Encloses (lines text) name span ∧
        body = joinLines (between (lines text) span.first span.last) := by
  exact ⟨fun _ => find_eq_some_iff, find_eq_none_iff.trans not_exists_encloses_iff,
    fun _ encloses _ => closers_le_of_encloses encloses, fun _ => body_eq_some_iff⟩

/-- A region within one of the same name, below a marker that closes nothing. -/
def nestedText : String :=
  "#endregion\n// region a\n#region a\nx = 1\n  # endregion (inner)\n//endregion\n#endregion"

theorem find_iff_encloses_nested :
    Encloses (lines nestedText) "a" ⟨1, 5⟩ ∧
      closers ["#region a"] ≤ openers ["#region a"] ∧
      body? nestedText "a" = some "#region a\nx = 1\n  # endregion (inner)" ∧
      find? nestedText "b" = none := by
  obtain ⟨found, _, within, held⟩ := find_iff_encloses nestedText "a"
  have encloses : Encloses (lines nestedText) "a" ⟨1, 5⟩ := (found _).mp (by decide +kernel)
  have begins : ["#region a"] <+: between (lines nestedText) 1 5 := by decide +kernel
  have absent : find? nestedText "b" = none :=
    (find_iff_encloses nestedText "b").2.1.mpr (.inl (by decide +kernel))
  exact ⟨encloses, within _ encloses _ begins,
    (held _).mpr ⟨_, encloses, by decide +kernel⟩, absent⟩

end Region

end DocSamples
