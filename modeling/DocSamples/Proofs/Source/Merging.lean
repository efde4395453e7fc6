import Mathlib
import DocSamples.Proofs.Source

namespace DocSamples.Buffer

/-! # Merging by place

Buffers are merged by the place that they are for, and by nothing else.  So merging does not
see which buffers of other places there are, nor how a place without a region is written.
-/

variable {buffers : List Buffer}

theorem isForRegion_congr {first second : Buffer} (same : first.id = second.id) :
    first.isForRegion = second.isForRegion := by
  rw [isForRegion, isForRegion, same]

@[elab_as_elim]
theorem mergeRegions_induction {motive : List Buffer → Prop} (nil : motive [])
    (region : ∀ buffer rest, buffer.isForRegion = true →
      motive (rest.filter (·.id ≠ buffer.id)) → motive (buffer :: rest))
    (other : ∀ buffer rest, buffer.isForRegion = false → motive rest → motive (buffer :: rest))
    (buffers : List Buffer) : motive buffers := by
  induction length : buffers.length using Nat.strong_induction_on generalizing buffers with
  | h size ih =>
      cases buffers with
      | nil => exact nil
      | cons buffer rest =>
          rw [List.length_cons] at length
          cases place : buffer.isForRegion with
          | true =>
              have shorter := List.length_filter_le (fun part => decide (part.id ≠ buffer.id)) rest
              exact region buffer rest place (ih _ (by omega) _ rfl)
          | false => exact other buffer rest place (ih _ (by omega) _ rfl)

theorem mergeRegions_region {buffer : Buffer} (rest : List Buffer)
    (region : buffer.isForRegion = true) :
    mergeRegions (buffer :: rest) =
      merge buffer.id (buffer :: rest.filter (·.id = buffer.id)) ::
        mergeRegions (rest.filter (·.id ≠ buffer.id)) := by
  rw [mergeRegions, if_pos region]

theorem mergeRegions_other {buffer : Buffer} (rest : List Buffer)
    (other : buffer.isForRegion = false) :
    mergeRegions (buffer :: rest) = buffer :: mergeRegions rest := by
  rw [mergeRegions, if_neg (by simp [other])]

@[simp] theorem mergeRegions_nil : mergeRegions [] = [] := by
  rw [mergeRegions]

theorem merge_singleton (buffer : Buffer) : merge buffer.id [buffer] = buffer :=
  (isMergeOf_singleton buffer).whole.symm

theorem mergeRegions_eq_self
    (distinct : ((buffers.filter (·.isForRegion)).map (·.id)).Nodup) :
    mergeRegions buffers = buffers := by
  induction buffers with
  | nil => exact mergeRegions_nil
  | cons buffer rest ih =>
      cases place : buffer.isForRegion with
      | true =>
          rw [List.filter_cons_of_pos place, List.map_cons] at distinct
          obtain ⟨absent, distinct⟩ := List.nodup_cons.mp distinct
          have different : ∀ part ∈ rest, part.id ≠ buffer.id := by
            intro part member same
            have region : part.isForRegion = true := by rw [isForRegion_congr same, place]
            exact absent (List.mem_map.mpr ⟨part, List.mem_filter.mpr ⟨member, region⟩, same⟩)
          have none : rest.filter (·.id = buffer.id) = [] :=
            List.filter_eq_nil_iff.mpr fun part member => by simpa using different part member
          have all : rest.filter (·.id ≠ buffer.id) = rest :=
            List.filter_eq_self.mpr fun part member => by simpa using different part member
          rw [mergeRegions_region rest place, none, all, merge_singleton, ih distinct]
      | false =>
          rw [List.filter_cons_of_neg (by simp [place])] at distinct
          rw [mergeRegions_other rest place, ih distinct]

theorem mergeRegions_of_nodup (distinct : (buffers.map (·.id)).Nodup) :
    mergeRegions buffers = buffers :=
  mergeRegions_eq_self (distinct.sublist (List.filter_sublist.map _))

section Filter

variable {keep : BufferId → Bool} {place : BufferId}

theorem filter_away_comm :
    (buffers.filter (keep ·.id)).filter (·.id ≠ place) =
      (buffers.filter (·.id ≠ place)).filter (keep ·.id) := by
  rw [List.filter_filter, List.filter_filter]
  exact List.filter_congr fun part _ => Bool.and_comm _ _

theorem filter_same_of_kept (kept : keep place = true) :
    (buffers.filter (keep ·.id)).filter (·.id = place) = buffers.filter (·.id = place) := by
  rw [List.filter_filter]
  refine List.filter_congr fun part _ => ?_
  by_cases here : part.id = place <;> simp [here, kept]

theorem filter_away_of_dropped (dropped : keep place = false) :
    (buffers.filter (keep ·.id)).filter (·.id ≠ place) = buffers.filter (keep ·.id) := by
  refine List.filter_eq_self.mpr fun part member => ?_
  have partKept := (List.mem_filter.mp member).2
  by_cases here : part.id = place
  · simp [here, dropped] at partKept
  · simpa using here

end Filter

theorem mergeRegions_filter (keep : BufferId → Bool) (buffers : List Buffer) :
    mergeRegions (buffers.filter (keep ·.id)) = (mergeRegions buffers).filter (keep ·.id) := by
  induction buffers using mergeRegions_induction with
  | nil => simp
  | region buffer rest place ih =>
      rw [mergeRegions_region rest place, List.filter_cons, List.filter_cons]
      cases kept : keep buffer.id with
      | true =>
          simp only [merge, kept, if_true]
          rw [mergeRegions_region _ place, filter_away_comm, ih, filter_same_of_kept kept, merge]
      | false =>
          simp only [merge, kept, Bool.false_eq_true, if_false]
          rw [← ih, ← filter_away_comm, filter_away_of_dropped kept]
  | other buffer rest place ih =>
      rw [mergeRegions_other rest place, List.filter_cons, List.filter_cons]
      split
      · rw [mergeRegions_other _ place, ih]
      · exact ih

def relocate (change : BufferId → BufferId) (buffer : Buffer) : Buffer :=
  { buffer with id := change buffer.id }

/-- A change of places leaves regions alone and makes no new ones. -/
structure LeavesRegions (change : BufferId → BufferId) (buffers : List Buffer) : Prop where
  regions : ∀ buffer ∈ buffers, buffer.isForRegion = true → change buffer.id = buffer.id
  others : ∀ buffer ∈ buffers, buffer.isForRegion = false →
    (buffer.relocate change).isForRegion = false

section Relocate

variable {change : BufferId → BufferId} {buffer part : Buffer}

theorem LeavesRegions.subset {fewer : List Buffer} (leaves : LeavesRegions change buffers)
    (among : fewer ⊆ buffers) : LeavesRegions change fewer :=
  ⟨fun part member => leaves.regions part (among member),
    fun part member => leaves.others part (among member)⟩

theorem LeavesRegions.relocate_eq_self (leaves : LeavesRegions change buffers)
    (member : part ∈ buffers) (region : part.isForRegion = true) : part.relocate change = part := by
  rw [relocate, leaves.regions part member region]

theorem LeavesRegions.relocate_id_iff (leaves : LeavesRegions change buffers)
    (member : part ∈ buffers) (region : buffer.isForRegion = true) :
    (part.relocate change).id = buffer.id ↔ part.id = buffer.id := by
  cases place : part.isForRegion with
  | true => rw [leaves.relocate_eq_self member place]
  | false =>
      -- A part of another kind is at the region neither before the change nor after it.
      have moved := leaves.others part member place
      refine iff_of_false (fun here => ?_) fun here => ?_
      · rw [isForRegion_congr here, region] at moved
        contradiction
      · rw [isForRegion_congr here, region] at place
        contradiction

theorem LeavesRegions.filter_same (leaves : LeavesRegions change buffers)
    (region : buffer.isForRegion = true) :
    (buffers.map (relocate change)).filter (·.id = buffer.id) =
      buffers.filter (·.id = buffer.id) := by
  have kept : buffers.filter (fun part => (part.relocate change).id = buffer.id) =
      buffers.filter (·.id = buffer.id) :=
    List.filter_congr fun part member => by simp [leaves.relocate_id_iff member region]
  have still : ∀ part ∈ buffers.filter (·.id = buffer.id), part.relocate change = part := by
    intro part member
    obtain ⟨inside, here⟩ := List.mem_filter.mp member
    refine leaves.relocate_eq_self inside ?_
    rw [isForRegion_congr (by simpa using here), region]
  rw [List.filter_map, Function.comp_def, kept, List.map_congr_left still]
  exact List.map_id' _

theorem LeavesRegions.filter_away (leaves : LeavesRegions change buffers)
    (region : buffer.isForRegion = true) :
    (buffers.map (relocate change)).filter (·.id ≠ buffer.id) =
      (buffers.filter (·.id ≠ buffer.id)).map (relocate change) := by
  rw [List.filter_map]
  congr 1
  exact List.filter_congr fun part member => by simp [leaves.relocate_id_iff member region]

/-- Merging goes with a change of places that leaves regions alone. -/
theorem mergeRegions_relocate (leaves : LeavesRegions change buffers) :
    mergeRegions (buffers.map (relocate change)) = (mergeRegions buffers).map (relocate change) := by
  induction buffers using mergeRegions_induction with
  | nil => simp
  | region buffer rest place ih =>
      have tail := leaves.subset (List.subset_cons_self buffer rest)
      have merged : (merge buffer.id (buffer :: rest.filter (·.id = buffer.id))).relocate change =
          merge buffer.id (buffer :: rest.filter (·.id = buffer.id)) := by
        rw [relocate, merge, leaves.regions buffer (by simp) place]
      rw [mergeRegions_region rest place, List.map_cons, List.map_cons, merged,
        leaves.relocate_eq_self (by simp) place, mergeRegions_region _ place,
        tail.filter_same place, tail.filter_away place,
        ih (tail.subset (List.filter_subset_self rest))]
  | other buffer rest place ih =>
      have moved := leaves.others buffer (by simp) place
      rw [mergeRegions_other rest place, List.map_cons, List.map_cons, mergeRegions_other _ moved,
        ih (leaves.subset (List.subset_cons_self buffer rest))]

end Relocate

end DocSamples.Buffer
