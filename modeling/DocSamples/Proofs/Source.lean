import Mathlib
import DocSamples.Source
import DocSamples.Proofs.Lists
import DocSamples.Proofs.Text.Lines

namespace DocSamples

open Text

/-! # Texts put together

Of two texts put together both keep their lines, apart from an empty line that may
stand between them.  So does every buffer that is merged into another one.
-/

section JoinedTexts

variable (first second : String)

/-- Either text comes after a line feed, which the first text may have brought, or
there is nothing before it. -/
theorem joinTexts_shape : first = "" ∨ ∃ head, joinTexts first second = head ++ "\n" ++ second ∧
    (first = head ∨ first = head ++ "\n") := by
  by_cases empty : first = ""
  · exact .inl empty
  · refine .inr ?_
    by_cases closed : endsWithNewline first
    · have last : first.toList.getLast? = some '\n' := by simpa [endsWithNewline] using closed
      obtain ⟨head, split⟩ := List.getLast?_eq_some_iff.mp last
      have whole : first = String.ofList head ++ "\n" := by
        rw [← String.toList_inj, split]
        simp
      exact ⟨String.ofList head, by simp [joinTexts, closed, ← whole], .inr whole⟩
    · exact ⟨first, by simp [joinTexts, empty, closed], .inl rfl⟩

theorem toList_prefix_joinTexts : first.toList <+: (joinTexts first second).toList := by
  rw [joinTexts]
  split <;> simp [List.append_assoc]

theorem lines_joinTexts : ∃ gap, (∀ line ∈ gap, line = "") ∧
    lines (joinTexts first second) = lines first ++ gap ++ lines second := by
  rcases joinTexts_shape first second with rfl | ⟨head, whole, rfl | closed⟩
  · exact ⟨[], by simp, by simp [joinTexts, lines]⟩
  · obtain ⟨gap, empty, longer⟩ := lines_feed first
    exact ⟨gap, empty, by rw [whole, lines_append_feed, longer]⟩
  · exact ⟨[], by simp, by rw [whole, lines_append_feed, closed]; simp⟩

theorem lines_prefix_joinTexts : lines first <+: lines (joinTexts first second) := by
  obtain ⟨gap, _, whole⟩ := lines_joinTexts first second
  rw [whole, List.append_assoc]
  exact List.prefix_append _ _

theorem lines_suffix_joinTexts : lines second <:+ lines (joinTexts first second) := by
  obtain ⟨gap, _, whole⟩ := lines_joinTexts first second
  rw [whole]
  exact List.suffix_append _ _

theorem solidLines_prefix_joinTexts :
    solidLines first <+: solidLines (joinTexts first second) := by
  rcases joinTexts_shape first second with rfl | ⟨head, whole, shape⟩
  · simp [solidLines, dropEndNewlines, lines]
  · have same : dropEndNewlines first = dropEndNewlines head := by
      rcases shape with rfl | rfl
      · rfl
      · exact dropEndNewlines_append_of_eq (by decide +kernel) head
    simp only [solidLines, whole, same]
    by_cases feeds : dropEndNewlines second = ""
    · have onlyFeeds : dropEndNewlines ("\n" ++ second) = "" := by
        rw [dropEndNewlines_append_of_eq feeds]
        decide +kernel
      rw [String.append_assoc, dropEndNewlines_append_of_eq onlyFeeds]
    · rw [dropEndNewlines_append_of_ne feeds, lines_append_feed]
      exact (solidLines_prefix_lines head).trans
        ((lines_prefix_feed head).trans (List.prefix_append _ _))

theorem solidLines_infix_joinTexts :
    solidLines second <:+: solidLines (joinTexts first second) := by
  by_cases feeds : dropEndNewlines second = ""
  · simp [solidLines, feeds, lines]
  · rcases joinTexts_shape first second with rfl | ⟨head, whole, _⟩
    · simp [joinTexts]
    · rw [whole, solidLines, solidLines, dropEndNewlines_append_of_ne feeds, lines_append_feed]
      exact (List.suffix_append _ _).isInfix

end JoinedTexts

namespace Buffer

/-- A buffer with the content of some others, all for the same place. -/
structure IsMergeOf (merged : Buffer) (parts : List Buffer) : Prop where
  some : parts ≠ []
  place : ∀ part ∈ parts, part.id = merged.id
  whole : merged = merge merged.id parts

theorem isMergeOf_singleton (buffer : Buffer) : buffer.IsMergeOf [buffer] where
  some := by simp
  place := by simp
  whole := by
    cases buffer with
    | mk id content editable =>
        cases editable <;> simp [merge, samplesLast, joinTexts]

/-- Merging parts the buffers into groups and makes one buffer of each. -/
theorem mergeRegions_groups (buffers : List Buffer) :
    ∃ groups, groups.flatten.Perm buffers ∧
      List.Forall₂ IsMergeOf (mergeRegions buffers) groups := by
  induction buffers using mergeRegions.induct with
  | case1 => exact ⟨[], by simp, by simp [mergeRegions]⟩
  | case2 buffer rest region ih =>
      -- The recursion filters the attached list; without the proofs it is a plain filter.
      have others := (List.filter_map (f := Subtype.val)
        (p := fun part : Buffer => decide (part.id ≠ buffer.id)) (l := rest.attach)).symm
      rw [List.attach_map_subtype_val] at others
      have later : ∃ groups, groups.flatten.Perm (rest.filter (·.id ≠ buffer.id)) ∧
          List.Forall₂ IsMergeOf (mergeRegions (rest.filter (·.id ≠ buffer.id))) groups := by
        rw [← others]
        exact ih
      obtain ⟨groups, all, merged⟩ := later
      have first : (merge buffer.id (buffer :: rest.filter (·.id = buffer.id))).IsMergeOf
          (buffer :: rest.filter (·.id = buffer.id)) :=
        ⟨by simp, by simp [merge], rfl⟩
      have parted := List.filter_append_perm (fun part => decide (part.id = buffer.id)) rest
      simp only [← decide_not] at parted
      refine ⟨(buffer :: rest.filter (·.id = buffer.id)) :: groups, ?_, ?_⟩
      · simpa using ((all.append_left (rest.filter (·.id = buffer.id))).trans parted)
      · rw [mergeRegions, if_pos region]
        exact .cons first merged
  | case3 buffer rest place ih =>
      obtain ⟨groups, all, merged⟩ := ih
      refine ⟨[buffer] :: groups, by simpa using all, ?_⟩
      rw [mergeRegions, if_neg place]
      exact .cons (isMergeOf_singleton buffer) merged

theorem exists_same_place {buffers : List Buffer} {merged : Buffer}
    (member : merged ∈ mergeRegions buffers) : ∃ part ∈ buffers, part.id = merged.id := by
  obtain ⟨groups, all, merges⟩ := mergeRegions_groups buffers
  obtain ⟨parts, group, merge⟩ := exists_of_mem_forall₂ merges member
  obtain ⟨part, inside⟩ := List.exists_mem_of_ne_nil parts merge.some
  exact ⟨part, all.subset (List.mem_flatten.mpr ⟨parts, group, inside⟩), merge.place part inside⟩

/-! ## What a merged buffer has -/

section Merged

variable {merged part : Buffer} {parts : List Buffer}

theorem mem_samplesLast : part ∈ samplesLast parts ↔ part ∈ parts := by
  cases editable : part.editable <;> simp [samplesLast, editable]

private theorem solidLines_prefix_foldl (parts : List Buffer) (text : String) :
    solidLines text <+: solidLines (parts.foldl (fun text part => joinTexts text part.content) text) := by
  induction parts generalizing text with
  | nil => exact List.prefix_rfl
  | cons first rest ih => exact (solidLines_prefix_joinTexts text first.content).trans (ih _)

private theorem solidLines_infix_foldl (member : part ∈ parts) (text : String) :
    solidLines part.content <:+:
      solidLines (parts.foldl (fun text part => joinTexts text part.content) text) := by
  induction parts generalizing text with
  | nil => simp at member
  | cons first rest ih =>
      rcases List.mem_cons.mp member with rfl | later
      · exact (solidLines_infix_joinTexts text part.content).trans
          (solidLines_prefix_foldl rest _).isInfix
      · exact ih later _

private theorem mem_lines_foldl {line text : String}
    (member : line ∈ lines (parts.foldl (fun text part => joinTexts text part.content) text)) :
    line ∈ lines text ∨ line = "" ∨ ∃ part ∈ parts, line ∈ lines part.content := by
  induction parts generalizing text with
  | nil => exact .inl member
  | cons first rest ih =>
      rcases ih member with joined | empty | ⟨part, later, inside⟩
      · obtain ⟨gap, empty, whole⟩ := lines_joinTexts text first.content
        rw [whole, List.mem_append, List.mem_append] at joined
        rcases joined with (before | between) | inside
        · exact .inl before
        · exact .inr (.inl (empty line between))
        · exact .inr (.inr ⟨first, by simp, inside⟩)
      · exact .inr (.inl empty)
      · exact .inr (.inr ⟨part, by simp [later], inside⟩)

theorem IsMergeOf.editable (merge : merged.IsMergeOf parts) (member : part ∈ parts)
    (sample : part.editable = true) : merged.editable = true := by
  rw [merge.whole]
  exact List.any_eq_true.mpr ⟨part, member, sample⟩

theorem IsMergeOf.solidLines_infix_content (merge : merged.IsMergeOf parts) (member : part ∈ parts) :
    solidLines part.content <:+: solidLines merged.content := by
  rw [merge.whole]
  exact solidLines_infix_foldl (mem_samplesLast.mpr member) ""

theorem IsMergeOf.mem_lines (merge : merged.IsMergeOf parts) {line : String}
    (member : line ∈ lines merged.content) :
    line = "" ∨ ∃ part ∈ parts, line ∈ lines part.content := by
  rw [merge.whole] at member
  rcases mem_lines_foldl member with nothing | empty | ⟨part, inside, found⟩
  · simp [lines] at nothing
  · exact .inl empty
  · exact .inr ⟨part, mem_samplesLast.mp inside, found⟩

end Merged

/-- The buffer that one buffer is merged into has it as a part; the others have no
lines but those of other buffers. -/
theorem mergeRegions_split {buffers before after : List Buffer} {buffer : Buffer}
    (whole : buffers = before ++ buffer :: after) :
    ∃ front merged back parts, mergeRegions buffers = front ++ merged :: back ∧
      merged.IsMergeOf parts ∧ buffer ∈ parts ∧
      ∀ other ∈ front ++ back, ∀ line ∈ lines other.content,
        line = "" ∨ ∃ part ∈ before ++ after, line ∈ lines part.content := by
  obtain ⟨groups, all, merges⟩ := mergeRegions_groups buffers
  have member : buffer ∈ buffers := by simp [whole]
  obtain ⟨parts, group, inside⟩ := List.mem_flatten.mp (all.mem_iff.mpr member)
  obtain ⟨first, last, rfl⟩ := List.append_of_mem group
  obtain ⟨front, merged, back, split, frontMerges, merge, backMerges⟩ :=
    split_of_forall₂_append_cons merges
  refine ⟨front, merged, back, parts, split, merge, inside, fun other otherMember line found => ?_⟩
  -- Without the buffer, its group and the other groups are what is before it and after it.
  have others : ((first ++ last).flatten).Subset (before ++ after) := by
    have moved : (buffer :: (first.flatten ++ (parts.erase buffer ++ last.flatten))).Perm
        (first.flatten ++ (buffer :: parts.erase buffer ++ last.flatten)) :=
      List.perm_middle.symm
    have restored : (first.flatten ++ (buffer :: parts.erase buffer ++ last.flatten)).Perm
        (before ++ buffer :: after) :=
      (((List.perm_cons_erase inside).symm.append_right _).append_left _).trans
        (by simpa [whole] using all)
    have parted := (moved.trans restored).trans List.perm_middle
    intro part here
    refine (List.Perm.cons_inv parted).subset ?_
    simp only [List.flatten_append, List.mem_append] at here ⊢
    exact here.imp_right .inr
  obtain ⟨group, memberGroup, otherMerge⟩ :=
    exists_of_mem_forall₂ (List.rel_append frontMerges backMerges) otherMember
  rcases otherMerge.mem_lines found with empty | ⟨part, inGroup, inPart⟩
  · exact .inl empty
  · exact .inr ⟨part, others (List.mem_flatten.mpr ⟨group, memberGroup, inGroup⟩), inPart⟩

end Buffer

end DocSamples
