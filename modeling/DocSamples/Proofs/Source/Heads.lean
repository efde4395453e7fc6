import Mathlib
import DocSamples.Proofs.OrderedMap
import DocSamples.Proofs.Source.Merging

namespace DocSamples

/-! # Merged buffers one by one

A buffer for no region is left as it is.  All buffers for one region become one, which stands
where the first of them did; its text has the read-only parts before the samples.
-/

open Text

/-- Some texts one after the other, each on a line of its own. -/
def joinAll (texts : List String) : String :=
  texts.foldl joinTexts ""

theorem exists_foldl_joinTexts (texts : List String) (start : String) :
    ∃ rest, texts.foldl joinTexts start = start ++ rest := by
  induction texts generalizing start with
  | nil => exact ⟨"", by simp⟩
  | cons text texts ih =>
      obtain ⟨rest, whole⟩ := ih (joinTexts start text)
      obtain ⟨gap, joined⟩ : ∃ gap, joinTexts start text = start ++ gap := by
        rw [joinTexts]
        split
        · exact ⟨text, rfl⟩
        · exact ⟨"\n" ++ text, by rw [String.append_assoc]⟩
      exact ⟨gap ++ rest, by rw [List.foldl_cons, whole, joined, String.append_assoc]⟩

theorem exists_joinAll_append (front back : List String) (text : String) :
    ∃ rest, joinAll (front ++ text :: back) = joinTexts (joinAll front) text ++ rest := by
  rw [joinAll, List.foldl_append, List.foldl_cons]
  exact exists_foldl_joinTexts back _

theorem toList_suffix_joinTexts (first second : String) :
    second.toList <:+ (joinTexts first second).toList := by
  rw [joinTexts]
  split
  · rw [String.toList_append]
    exact List.suffix_append _ _
  · rw [String.toList_append]
    exact List.suffix_append _ _

namespace Buffer

variable {buffers before parts : List Buffer} {buffer part : Buffer}

/-- A buffer that no earlier one is merged with. -/
def Begins (before : List Buffer) (buffer : Buffer) : Prop :=
  buffer.isForRegion = true → ∀ earlier ∈ before, earlier.id ≠ buffer.id

instance (before : List Buffer) (buffer : Buffer) : Decidable (Begins before buffer) :=
  inferInstanceAs (Decidable (_ → _))

/-- The buffers after some others that are merged with no earlier one. -/
def heads (before : List Buffer) : List Buffer → List Buffer
  | [] => []
  | buffer :: rest =>
      if Begins before buffer then buffer :: heads (before ++ [buffer]) rest
      else heads (before ++ [buffer]) rest

/-- What a buffer becomes among others. -/
def gathered (buffers : List Buffer) (head : Buffer) : Buffer :=
  if head.isForRegion then merge head.id (buffers.filter (·.id = head.id)) else head

theorem begins_append_singleton : Begins (before ++ [buffer]) part ↔
    Begins before part ∧ (part.isForRegion = true → part.id ≠ buffer.id) := by
  simp only [Begins, List.mem_append, List.mem_singleton]
  constructor
  · intro begins
    exact ⟨fun region earlier member => begins region earlier (.inl member),
      fun region same => begins region buffer (.inr rfl) same.symm⟩
  · rintro ⟨begins, apart⟩ region earlier (member | rfl)
    · exact begins region earlier member
    · exact (apart region).symm

theorem begins_congr (same : part.id = buffer.id) : Begins before part ↔ Begins before buffer := by
  rw [Begins, Begins, isForRegion_congr same, same]

/-- Those that begin after a buffer for a region are those that begin before it, but for its own. -/
theorem filter_begins_region (region : buffer.isForRegion = true) (rest : List Buffer) :
    rest.filter (Begins (before ++ [buffer]) ·) =
      (rest.filter (Begins before ·)).filter (·.id ≠ buffer.id) := by
  rw [List.filter_filter]
  refine List.filter_congr fun part _ => ?_
  have apart : (part.isForRegion = true → part.id ≠ buffer.id) ↔ part.id ≠ buffer.id := by
    constructor
    · intro apart same
      exact apart (by rw [isForRegion_congr same, region]) same
    · exact fun apart _ => apart
  simp [begins_append_singleton, apart, and_comm]

theorem filter_begins_of_not (repeated : buffer.isForRegion = false ∨ ¬ Begins before buffer)
    (rest : List Buffer) :
    rest.filter (Begins (before ++ [buffer]) ·) = rest.filter (Begins before ·) := by
  refine List.filter_congr fun part _ => ?_
  have apart : Begins before part → part.isForRegion = true → part.id ≠ buffer.id := by
    intro begins region same
    rcases repeated with other | known
    · rw [← isForRegion_congr same, region] at other
      contradiction
    · exact known ((begins_congr same).mp begins)
  rw [decide_eq_decide, begins_append_singleton, and_iff_left_of_imp apart]

theorem filter_id_of_begins (region : buffer.isForRegion = true) (begins : Begins before buffer)
    (rest : List Buffer) : (before ++ buffer :: rest).filter (·.id = buffer.id) =
      buffer :: (rest.filter (Begins before ·)).filter (·.id = buffer.id) := by
  have none : before.filter (·.id = buffer.id) = [] :=
    List.filter_eq_nil_iff.mpr fun earlier member => by simpa using begins region earlier member
  have own : (rest.filter (Begins before ·)).filter (·.id = buffer.id) =
      rest.filter (·.id = buffer.id) := by
    rw [List.filter_filter]
    refine List.filter_congr fun part _ => ?_
    by_cases same : part.id = buffer.id
    · simp [same, (begins_congr same).mpr begins]
    · simp [same]
  rw [List.filter_append, none, List.nil_append, List.filter_cons_of_pos (by simp), own]

theorem mergeRegions_begins (before buffers : List Buffer) :
    mergeRegions (buffers.filter (Begins before ·)) =
      (heads before buffers).map (gathered (before ++ buffers)) := by
  -- What was gone through is carried along: it tells which of the others still begin, and what
  -- is gathered is gathered from all buffers, not only from those that are left.
  induction buffers generalizing before with
  | nil => simp [heads]
  | cons buffer rest ih =>
      have later := ih (before ++ [buffer])
      rw [List.append_assoc, List.singleton_append] at later
      by_cases begins : Begins before buffer
      · rw [List.filter_cons_of_pos (by simpa using begins), heads, if_pos begins, List.map_cons]
        cases place : buffer.isForRegion with
        | true =>
            rw [mergeRegions_region _ place, ← filter_begins_region place, later, gathered,
              if_pos place, filter_id_of_begins place begins]
        | false =>
            rw [mergeRegions_other _ place, ← filter_begins_of_not (.inl place), later, gathered,
              if_neg (by simp [place])]
      · rw [List.filter_cons_of_neg (by simpa using begins), heads, if_neg begins,
          ← filter_begins_of_not (.inr begins), later]

theorem mergeRegions_eq_map (buffers : List Buffer) :
    mergeRegions buffers = (heads [] buffers).map (gathered buffers) := by
  have all : buffers.filter (Begins [] ·) = buffers :=
    List.filter_eq_self.mpr fun _ _ => by simp [Begins]
  have whole := mergeRegions_begins [] buffers
  rwa [all, List.nil_append] at whole

/-! ## Items -/

/-- A buffer with the texts of some others in one, the read-only ones before the samples. -/
structure Gathers (parts : List Buffer) (item : Buffer) : Prop where
  content : item.content = joinAll ((parts.filter (!·.editable) ++ parts.filter (·.editable)).map
    (·.content))
  /-- Each text is there as a whole, after the join of those before it. -/
  placed : ∀ front part back,
    parts.filter (!·.editable) ++ parts.filter (·.editable) = front ++ part :: back →
      part.content.toList <:+: item.content.toList ∧
      ∃ rest, item.content = joinTexts (joinAll (front.map (·.content))) part.content ++ rest
  editable : item.editable = true ↔ ∃ part ∈ parts, part.editable = true

/-- The item that a buffer begins among others: itself, or all of them for its region. -/
structure IsItemOf (buffers : List Buffer) (head item : Buffer) : Prop where
  id : item.id = head.id
  other : head.isForRegion = false → item = head
  region : head.isForRegion = true → Gathers (buffers.filter (·.id = head.id)) item

theorem gathers_merge (id : BufferId) (parts : List Buffer) : Gathers parts (merge id parts) := by
  have content : (merge id parts).content =
      joinAll ((parts.filter (!·.editable) ++ parts.filter (·.editable)).map (·.content)) := by
    rw [merge, samplesLast, joinAll, List.foldl_map]
  refine ⟨content, ?_, by simp [merge]⟩
  intro front part back order
  rw [order, List.map_append, List.map_cons] at content
  obtain ⟨rest, whole⟩ :=
    exists_joinAll_append (front.map (·.content)) (back.map (·.content)) part.content
  rw [whole] at content
  refine ⟨?_, rest, content⟩
  rw [content, String.toList_append]
  exact (toList_suffix_joinTexts _ _).isInfix.trans (List.prefix_append _ _).isInfix

theorem isItemOf_gathered (buffers : List Buffer) (head : Buffer) :
    IsItemOf buffers head (gathered buffers head) := by
  rw [gathered]
  split
  · rename_i place
    exact ⟨rfl, fun other => by simp [place] at other, fun _ => gathers_merge head.id _⟩
  · rename_i place
    exact ⟨rfl, fun _ => rfl, fun region => absurd region place⟩

theorem items_of_heads (buffers : List Buffer) :
    List.Forall₂ (IsItemOf buffers) (heads [] buffers) (mergeRegions buffers) := by
  rw [mergeRegions_eq_map, List.forall₂_map_right_iff, List.forall₂_same]
  exact fun head _ => isItemOf_gathered buffers head

/-! ## Regions and others -/

theorem filter_region_mergeRegions (buffers : List Buffer) :
    (mergeRegions buffers).filter (·.isForRegion) =
      mergeRegions (buffers.filter (·.isForRegion)) :=
  (mergeRegions_filter (fun id => id.path.isSome && id.namedRegion?.isSome) buffers).symm

theorem filter_other_mergeRegions (buffers : List Buffer) :
    (mergeRegions buffers).filter (!·.isForRegion) = buffers.filter (!·.isForRegion) := by
  have none : (buffers.filter (!·.isForRegion)).filter (·.isForRegion) = [] := by
    simp [List.filter_filter]
  have alone : mergeRegions (buffers.filter (!·.isForRegion)) = buffers.filter (!·.isForRegion) :=
    mergeRegions_eq_self (by simp [none])
  exact (mergeRegions_filter (fun id => !(id.path.isSome && id.namedRegion?.isSome))
    buffers).symm.trans alone

theorem ids_mergeRegions (regions : ∀ buffer ∈ buffers, buffer.isForRegion = true) :
    (mergeRegions buffers).map (·.id) = distinct (buffers.map (·.id)) := by
  induction buffers using mergeRegions_induction with
  | nil => simp [distinct]
  | region buffer rest place ih =>
      have later := ih fun part member =>
        regions part (List.mem_cons_of_mem _ (List.mem_of_mem_filter member))
      rw [mergeRegions_region rest place, List.map_cons, List.map_cons, later, distinct, merge,
        filter_distinct_comm, List.filter_map]
      rfl
  | other buffer rest place ih =>
      have region := regions buffer (by simp)
      rw [place] at region
      contradiction

theorem region_ids_mergeRegions (buffers : List Buffer) :
    ((mergeRegions buffers).filter (·.isForRegion)).map (·.id) =
      distinct ((buffers.filter (·.isForRegion)).map (·.id)) := by
  rw [filter_region_mergeRegions]
  exact ids_mergeRegions fun _ member => (List.mem_filter.mp member).2

theorem mergeRegions_mergeRegions (buffers : List Buffer) :
    mergeRegions (mergeRegions buffers) = mergeRegions buffers := by
  apply mergeRegions_eq_self
  rw [region_ids_mergeRegions]
  exact distinct_nodup _

/-- Merging loses nothing: each buffer that begins an item gives that item in its place, buffers
for no region are as they were, and each region has one buffer.  Merging again changes nothing. -/
theorem mergeRegions_lossless (buffers : List Buffer) :
    List.Forall₂ (IsItemOf buffers) (heads [] buffers) (mergeRegions buffers) ∧
      (mergeRegions buffers).filter (!·.isForRegion) = buffers.filter (!·.isForRegion) ∧
      InFirstOrder ((buffers.filter (·.isForRegion)).map (·.id))
        (((mergeRegions buffers).filter (·.isForRegion)).map (·.id)) ∧
      mergeRegions (mergeRegions buffers) = mergeRegions buffers :=
  ⟨items_of_heads buffers, filter_other_mergeRegions buffers,
    inFirstOrder_iff.mpr (region_ids_mergeRegions buffers), mergeRegions_mergeRegions buffers⟩

end Buffer

end DocSamples
