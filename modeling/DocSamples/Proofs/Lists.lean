import Mathlib

namespace DocSamples

/-! # Lists side by side, runs in a list, cuts of it and what is found in it -/

section Related

variable {α β : Type} {relates : α → β → Prop} {firsts : List α}

theorem exists_of_mem_forall₂ {seconds : List β} (related : List.Forall₂ relates firsts seconds)
    {first : α} (member : first ∈ firsts) : ∃ second ∈ seconds, relates first second := by
  induction related with
  | nil => simp at member
  | cons head _ ih =>
      rcases List.mem_cons.mp member with rfl | later
      · exact ⟨_, by simp, head⟩
      · obtain ⟨second, inside, relates⟩ := ih later
        exact ⟨second, by simp [inside], relates⟩

/-- Of two lists side by side, one is split where the other is. -/
theorem split_of_forall₂_append_cons {before after : List β} {second : β}
    (related : List.Forall₂ relates firsts (before ++ second :: after)) :
    ∃ front first back, firsts = front ++ first :: back ∧ List.Forall₂ relates front before ∧
      relates first second ∧ List.Forall₂ relates back after := by
  have fronts := List.forall₂_take_append _ before (second :: after) related
  obtain ⟨first, back, here, backs, rest⟩ :=
    List.forall₂_cons_right_iff.mp (List.forall₂_drop_append _ before (second :: after) related)
  have split := (List.take_append_drop before.length firsts).symm
  rw [rest] at split
  exact ⟨_, first, back, split, fronts, here, backs⟩

theorem exists_forall₂_iff :
    (∃ seconds, List.Forall₂ relates firsts seconds) ↔
      ∀ first ∈ firsts, ∃ second, relates first second := by
  induction firsts with
  | nil => simp
  | cons first rest ih =>
      simp only [List.forall₂_cons_left_iff, List.forall_mem_cons, ← ih]
      constructor
      · rintro ⟨_, second, more, head, tail, rfl⟩
        exact ⟨⟨second, head⟩, more, tail⟩
      · rintro ⟨⟨second, head⟩, more, tail⟩
        exact ⟨_, second, more, head, tail, rfl⟩

/-- The items that have a partner, side by side with the partners. -/
theorem exists_reduceOption_iff {γ : Type} {part : γ → Option α} {items : List γ}
    {seconds : List β} :
    (∃ values, List.Forall₂ (fun item value => Option.Rel relates (part item) value) items values ∧
      values.reduceOption = seconds) ↔ List.Forall₂ relates (items.filterMap part) seconds := by
  induction items generalizing seconds with
  | nil => cases seconds <;> simp
  | cons item rest ih =>
      simp only [List.forall₂_cons_left_iff]
      cases here : part item with
      | none =>
          rw [List.filterMap_cons_none here, ← ih]
          constructor
          · rintro ⟨_, ⟨value, more, ⟨⟩, tail, rfl⟩, rfl⟩
            exact ⟨more, tail, by simp⟩
          · rintro ⟨more, tail, rfl⟩
            exact ⟨_, ⟨none, more, .none, tail, rfl⟩, by simp⟩
      | some first =>
          rw [List.filterMap_cons_some here, List.forall₂_cons_left_iff]
          constructor
          · rintro ⟨_, ⟨value, more, ⟨head⟩, tail, rfl⟩, rfl⟩
            exact ⟨_, _, head, ih.mp ⟨more, tail, rfl⟩, by simp⟩
          · rintro ⟨second, others, head, tail, rfl⟩
            obtain ⟨more, beside, rfl⟩ := ih.mpr tail
            exact ⟨_, ⟨some second, more, .some head, beside, rfl⟩, by simp⟩

end Related

section Runs

variable {α : Type} {run above between below : List α}

/-- A run whose ends are foreign to what follows does not reach into it. -/
theorem infix_of_infix_append (nonempty : run ≠ []) (first : ∀ item ∈ run.head?, item ∉ below)
    (last : ∀ item ∈ run.getLast?, item ∉ below) (inside : run <:+: above ++ below) :
    run <:+: above := by
  rcases List.infix_append_iff_ne_nil.mp inside with
    kept | beyond | ⟨left, right, _, reaches, rfl, _, start⟩
  · exact kept
  · obtain ⟨item, rest, rfl⟩ := List.exists_cons_of_ne_nil nonempty
    exact absurd (beyond.subset (by simp)) (first item (by simp))
  · have final : (left ++ right).getLast? = some (right.getLast reaches) := by
      rw [List.getLast?_append_of_ne_nil _ reaches, List.getLast?_eq_some_getLast]
    exact absurd (start.subset (List.getLast_mem reaches)) (last _ final)

/-- A run that begins apart from what stands between stays on one side of it, when
the run as a whole is apart from it or does not reach to its upper bound. -/
theorem infix_of_infix_between (nonempty : run ≠ [])
    (first : ∀ item ∈ run.head?, item ∉ between)
    (apart : (between ≠ [] ∧ ∀ item ∈ run, item ∉ between) ∨ ∀ item ∈ above.getLast?, item ∉ run)
    (inside : run <:+: above ++ between ++ below) : run <:+: above ∨ run <:+: below := by
  have beginning (items : List α) (begins : items <+: run) (reached : items ≠ []) :
      ¬ items <:+: between := by
    obtain ⟨item, rest, rfl⟩ := List.exists_cons_of_ne_nil reached
    obtain ⟨more, rfl⟩ := begins
    exact fun within => first item (by simp) (within.subset (by simp))
  rw [List.append_assoc] at inside
  rcases List.infix_append_iff_ne_nil.mp inside with
    kept | beyond | ⟨left, right, leaves, reaches, rfl, final, start⟩
  · exact .inl kept
  · rcases List.infix_append_iff_ne_nil.mp beyond with
      within | kept | ⟨left, right, leaves, _, rfl, final, _⟩
    · exact absurd within (beginning run List.prefix_rfl nonempty)
    · exact .inr kept
    · exact absurd final.isInfix (beginning left (List.prefix_append _ _) leaves)
  · rcases apart with ⟨filled, foreign⟩ | bound
    · obtain ⟨item, rest, rfl⟩ := List.exists_cons_of_ne_nil filled
      obtain ⟨next, later, rfl⟩ := List.exists_cons_of_ne_nil reaches
      obtain ⟨rfl, _⟩ := List.cons_prefix_cons.mp start
      exact absurd (by simp) (foreign next (by simp))
    · obtain ⟨before, rfl⟩ := final
      have last : (before ++ left).getLast? = some (left.getLast leaves) := by
        rw [List.getLast?_append_of_ne_nil _ leaves, List.getLast?_eq_some_getLast]
      exact absurd (List.mem_append_left _ (List.getLast_mem leaves)) (bound _ last)

end Runs

section Cuts

variable {α : Type} [BEq α] [LawfulBEq α] {item : α} {front : List α}

theorem bne_of_not_mem (absent : item ∉ front) : ∀ other ∈ front, (other != item) = true := by
  intro other member
  simp only [bne_iff_ne]
  rintro rfl
  exact absent member

theorem takeWhile_append_of_not_mem (absent : item ∉ front) (back : List α) :
    (front ++ item :: back).takeWhile (· != item) = front := by
  simp [List.takeWhile_append_of_pos (bne_of_not_mem absent)]

theorem dropWhile_append_of_not_mem (absent : item ∉ front) (back : List α) :
    (front ++ item :: back).dropWhile (· != item) = item :: back := by
  simp [List.dropWhile_append_of_pos (bne_of_not_mem absent)]

end Cuts

/-- An item that alone meets a condition is the one that is found by it. -/
theorem find?_eq_some_of_unique {α : Type} {meets : α → Bool} {items : List α} {item : α}
    (member : item ∈ items) (own : meets item = true)
    (unique : ∀ other ∈ items, meets other = true → other = item) :
    items.find? meets = some item := by
  cases found : items.find? meets with
  | none => exact absurd own (List.find?_eq_none.mp found item member)
  | some other =>
      rw [unique other (List.mem_of_find?_eq_some found) (List.find?_some found)]

section Joined

variable {α β : Type} {mark : α} {pieces : List (List α)}

/-- A list is cut at each place of an item. -/
theorem exists_intercalate (mark : α) (items : List α) :
    ∃ pieces : List (List α), pieces ≠ [] ∧ (∀ piece ∈ pieces, mark ∉ piece) ∧
      items = [mark].intercalate pieces := by
  induction items with
  | nil => exact ⟨[[]], by simp, by simp, rfl⟩
  | cons item rest ih =>
      obtain ⟨pieces, some, free, rfl⟩ := ih
      obtain ⟨first, more, rfl⟩ := List.exists_cons_of_ne_nil some
      by_cases same : item = mark
      · subst same
        exact ⟨[] :: first :: more, by simp, by simpa using free, by simp⟩
      · refine ⟨(item :: first) :: more, by simp, ?_, ?_⟩
        · simpa [Ne.symm same] using free
        · cases more <;> simp

theorem flatMap_intercalate (write : α → List β) :
    ([mark].intercalate pieces).flatMap write =
      (write mark).intercalate (pieces.map (·.flatMap write)) := by
  induction pieces with
  | nil => rfl
  | cons first more ih =>
      cases more with
      | nil => simp
      | cons next others =>
          rw [List.intercalate_cons_cons, List.flatMap_append, List.flatMap_append, ih]
          simp

end Joined

end DocSamples
