import Mathlib
import DocSamples.OrderedMap
import DocSamples.Session

namespace DocSamples

/-! # Maps with an order

A write to a map is seen under its own key alone.  Grouping a list gives each key
that occurs in it, in the order of first occurrence, all items with that key in
their order.
-/

section Distinct

variable {α : Type} [DecidableEq α]

@[simp] theorem mem_distinct {item : α} {items : List α} :
    item ∈ distinct items ↔ item ∈ items := by
  induction items with
  | nil => simp [distinct]
  | cons first rest ih =>
      by_cases same : item = first <;> simp [distinct, ih, same]

theorem distinct_nodup (items : List α) : (distinct items).Nodup := by
  induction items with
  | nil => simp [distinct]
  | cons first rest ih => simp [distinct, ih.filter]

theorem distinct_append_singleton (items : List α) (item : α) :
    distinct (items ++ [item]) =
      if item ∈ items then distinct items else distinct items ++ [item] := by
  induction items with
  | nil => simp [distinct]
  | cons first rest ih =>
      simp only [List.cons_append, distinct, ih, List.mem_cons]
      by_cases later : item ∈ rest
      · simp [later]
      · by_cases same : item = first
        · subst same
          simp [later]
        · simp [later, same]

theorem filter_distinct (item : α) (items : List α) :
    (distinct items).filter (fun other => other = item) = if item ∈ items then [item] else [] := by
  rw [List.filter_eq]
  by_cases member : item ∈ items
  · rw [List.count_eq_one_of_mem (distinct_nodup items) (mem_distinct.mpr member)]
    simp [member]
  · rw [List.count_eq_zero_of_not_mem (mem_distinct.not.mpr member)]
    simp [member]

theorem filter_distinct_comm (keep : α → Bool) (items : List α) :
    (distinct items).filter keep = distinct (items.filter keep) := by
  induction items with
  | nil => rfl
  | cons item rest ih =>
      cases kept : keep item with
      | true => simp [distinct, kept, ← ih, Bool.and_comm]
      | false =>
          have apart : ∀ other, keep other = true → other ≠ item := by
            rintro other here rfl
            simp [kept] at here
          simp only [distinct, List.filter_cons, kept, Bool.false_eq_true, if_false, ← ih,
            List.filter_filter]
          exact List.filter_congr fun other _ => by
            by_cases here : keep other = true <;> simp [here, apart]

/-- A list of the items of another, each once, in the order of their first occurrence there. -/
structure InFirstOrder (items listed : List α) : Prop where
  mem_iff : ∀ item, item ∈ listed ↔ item ∈ items
  ordered : listed.Pairwise fun one other => items.idxOf one < items.idxOf other

theorem InFirstOrder.nodup {items listed : List α} (inOrder : InFirstOrder items listed) :
    listed.Nodup := by
  apply inOrder.ordered.imp
  intro one other before same
  rw [same] at before
  exact Nat.lt_irrefl _ before

theorem distinct_pairwise_idxOf (items : List α) :
    (distinct items).Pairwise fun one other => items.idxOf one < items.idxOf other := by
  induction items with
  | nil => exact .nil
  | cons first rest ih =>
      refine .cons ?_ ((ih.filter _).imp_of_mem ?_)
      · intro other member
        have different : first ≠ other := Ne.symm (by simpa using (List.mem_filter.mp member).2)
        rw [List.idxOf_cons_self, List.idxOf_cons_ne _ different]
        exact Nat.succ_pos _
      · intro one other inside otherInside before
        have apart {item : α} (member : item ∈ (distinct rest).filter (· ≠ first)) :
            first ≠ item :=
          Ne.symm (by simpa using (List.mem_filter.mp member).2)
        rw [List.idxOf_cons_ne _ (apart inside), List.idxOf_cons_ne _ (apart otherInside)]
        exact Nat.succ_lt_succ before

/-- There is one such list. -/
theorem inFirstOrder_iff {items listed : List α} :
    InFirstOrder items listed ↔ listed = distinct items := by
  constructor
  · intro inOrder
    have members : ∀ item, item ∈ listed ↔ item ∈ distinct items := fun item =>
      (inOrder.mem_iff item).trans mem_distinct.symm
    refine List.Perm.eq_of_pairwise ?_ inOrder.ordered (distinct_pairwise_idxOf items)
      ((List.perm_ext_iff_of_nodup inOrder.nodup (distinct_nodup items)).mpr members)
    intro one other _ _ before after
    exact absurd (before.trans after) (Nat.lt_irrefl _)
  · rintro rfl
    exact ⟨fun _ => mem_distinct, distinct_pairwise_idxOf items⟩

end Distinct

namespace OrderedMap

variable {κ ν α : Type} [DecidableEq κ] {key other : κ} {change : Option ν → ν}

/-! ## Writing -/

theorem find?_alter_self (map : OrderedMap κ ν) :
    (map.alter key change).find? key = some (change (map.find? key)) := by
  obtain ⟨entries⟩ := map
  simp only [alter, find?]
  induction entries with
  | nil => simp [alterEntries]
  | cons entry rest ih =>
      by_cases same : entry.1 = key
      · simp [alterEntries, same]
      · simpa [alterEntries, same] using ih

theorem find?_alter_of_ne (map : OrderedMap κ ν) (different : other ≠ key) :
    (map.alter key change).find? other = map.find? other := by
  obtain ⟨entries⟩ := map
  simp only [alter, find?]
  congr 1
  induction entries with
  | nil => simp [alterEntries, Ne.symm different]
  | cons entry rest ih =>
      obtain ⟨entryKey, value⟩ := entry
      by_cases same : entryKey = key
      · simp [alterEntries, same, Ne.symm different]
      · by_cases found : entryKey = other
        · simp [alterEntries, found, different]
        · simpa [alterEntries, same, found] using ih

theorem keys_alter (map : OrderedMap κ ν) :
    (map.alter key change).keys = if key ∈ map.keys then map.keys else map.keys ++ [key] := by
  obtain ⟨entries⟩ := map
  simp only [alter, keys]
  induction entries with
  | nil => simp [alterEntries]
  | cons entry rest ih =>
      by_cases same : entry.1 = key
      · simp [alterEntries, same]
      · by_cases present : key ∈ rest.map Prod.fst <;>
          simp only [alterEntries, same, Ne.symm same, ih, present, if_true, if_false,
            List.map_cons, List.mem_cons, false_or, List.cons_append]

theorem entries_alter_of_not_mem {map : OrderedMap κ ν} (absent : key ∉ map.keys) :
    (map.alter key change).entries = map.entries ++ [(key, change none)] := by
  obtain ⟨entries⟩ := map
  simp only [alter, keys] at absent ⊢
  induction entries with
  | nil => rfl
  | cons entry rest ih =>
      have different := List.ne_of_not_mem_cons absent
      have later := List.not_mem_of_not_mem_cons absent
      rw [alterEntries, if_neg (Ne.symm different), ih later, List.cons_append]

theorem keys_alter_ne_nil (map : OrderedMap κ ν) : (map.alter key change).keys ≠ [] := by
  rw [keys_alter]
  split
  · rename_i member
    exact List.ne_nil_of_mem member
  · simp

omit [DecidableEq κ] in
/-- When each step writes, nothing is written only if there is no step. -/
theorem keys_foldl_ne_nil_iff {step : OrderedMap κ ν → α → OrderedMap κ ν}
    (writes : ∀ map item, (step map item).keys ≠ []) {map : OrderedMap κ ν} {items : List α} :
    (items.foldl step map).keys ≠ [] ↔ map.keys ≠ [] ∨ items ≠ [] := by
  induction items generalizing map with
  | nil => simp
  | cons item rest ih =>
      rw [List.foldl_cons, ih]
      simp [writes map item]

theorem keys_nodup_alter {map : OrderedMap κ ν} (distinct : map.keys.Nodup) :
    (map.alter key change).keys.Nodup := by
  rw [keys_alter]
  split
  · exact distinct
  · rename_i absent
    exact List.nodup_append.mpr ⟨distinct, by simp, by
      intro first member second same
      rintro rfl
      exact absent (List.mem_singleton.mp same ▸ member)⟩

/-- In a map without repeated keys, the values are those found under some key. -/
theorem mem_values {map : OrderedMap κ ν} (distinct : map.keys.Nodup) {value : ν} :
    value ∈ map.values ↔ ∃ key, map.find? key = some value := by
  obtain ⟨entries⟩ := map
  simp only [values, find?, keys] at distinct ⊢
  induction entries with
  | nil => simp
  | cons entry rest ih =>
      simp only [List.map_cons, List.nodup_cons] at distinct
      rw [List.map_cons, List.mem_cons, ih distinct.2]
      constructor
      · rintro (rfl | ⟨key, found⟩)
        · exact ⟨entry.1, by simp⟩
        · have different : entry.1 ≠ key := by
            rintro rfl
            obtain ⟨later, same, _⟩ := Option.map_eq_some_iff.mp found
            exact distinct.1 (List.mem_map.mpr
              ⟨later, List.mem_of_find?_eq_some same, by simpa using List.find?_some same⟩)
          exact ⟨key, by simpa [different] using found⟩
      · rintro ⟨key, found⟩
        by_cases same : entry.1 = key
        · left
          simpa [same, eq_comm] using found
        · exact .inr ⟨key, by simpa [same] using found⟩

theorem mem_of_find? {map : OrderedMap κ ν} {value : ν} (found : map.find? key = some value) :
    (key, value) ∈ map.entries := by
  obtain ⟨entry, first, rfl⟩ := Option.map_eq_some_iff.mp found
  have same : entry.1 = key := by simpa using List.find?_some first
  rw [← same]
  exact List.mem_of_find?_eq_some first

/-- A write leaves the entries of a map and makes one. -/
theorem mem_entries_alter {map : OrderedMap κ ν} {value : ν}
    (member : (other, value) ∈ (map.alter key change).entries) :
    (other, value) ∈ map.entries ∨ other = key ∧ value = change (map.find? key) := by
  obtain ⟨entries⟩ := map
  simp only [alter, find?] at member ⊢
  induction entries with
  | nil =>
      right
      simpa [alterEntries] using member
  | cons entry rest ih =>
      obtain ⟨entryKey, old⟩ := entry
      by_cases same : entryKey = key
      · rw [alterEntries, if_pos same] at member
        rcases List.mem_cons.mp member with first | later
        · obtain ⟨rfl, rfl⟩ := Prod.mk.inj first
          exact .inr ⟨same, by simp [same]⟩
        · exact .inl (List.mem_cons_of_mem _ later)
      · rw [alterEntries, if_neg same] at member
        rcases List.mem_cons.mp member with first | later
        · exact .inl (first ▸ List.mem_cons_self ..)
        · rcases ih later with kept | written
          · exact .inl (List.mem_cons_of_mem _ kept)
          · exact .inr (by simpa [same] using written)

/-! ## Writing one after the other -/

section Writes

variable {entries : List (κ × ν)} {value : ν}

theorem find?_foldl_insert :
    (entries.foldl (fun map entry => map.insert entry.1 entry.2) empty).find? key =
      (entries.reverse.find? fun entry => entry.1 = key).map Prod.snd := by
  induction entries using List.reverseRecOn with
  | nil => rfl
  | append_singleton entries entry ih =>
      rw [List.foldl_append, List.reverse_append, List.foldl_cons, List.foldl_nil, insert]
      by_cases same : entry.1 = key
      · subst same
        simp [find?_alter_self]
      · rw [find?_alter_of_ne _ (Ne.symm same), ih]
        simp [same]

/-- Of several writes to a key the last one counts. -/
theorem find?_foldl_insert_eq_some_iff :
    (entries.foldl (fun map entry => map.insert entry.1 entry.2) empty).find? key = some value ↔
      ∃ before after, entries = before ++ (key, value) :: after ∧
        ∀ other, (key, other) ∉ after := by
  have absent (part : List (κ × ν)) :
      (∀ entry ∈ part, (!decide (entry.1 = key)) = true) ↔ ∀ other, (key, other) ∉ part := by
    simp only [Bool.not_eq_true', decide_eq_false_iff_not, Prod.forall]
    exact ⟨fun apart other member => apart _ _ member rfl,
      fun none _ other member same => none other (same ▸ member)⟩
  simp only [find?_foldl_insert, Option.map_eq_some_iff, List.find?_eq_some_iff_append, absent]
  constructor
  · rintro ⟨⟨_, _⟩, ⟨same, after, before, split, none⟩, rfl⟩
    obtain rfl := of_decide_eq_true same
    refine ⟨before.reverse, after.reverse, ?_, by simpa using none⟩
    simpa using congrArg List.reverse split
  · rintro ⟨before, after, rfl, none⟩
    exact ⟨(key, value), ⟨by simp, after.reverse, before.reverse, by simp, by simpa using none⟩, rfl⟩

/-- Writes to different keys stand in the map as they come. -/
theorem foldl_insert_of_nodup (distinct : (entries.map Prod.fst).Nodup) :
    entries.foldl (fun map entry => map.insert entry.1 entry.2) empty = ⟨entries⟩ := by
  induction entries using List.reverseRecOn with
  | nil => rfl
  | append_singleton entries entry ih =>
      rw [List.map_append, List.nodup_append] at distinct
      have absent : entry.1 ∉ (⟨entries⟩ : OrderedMap κ ν).keys := fun member =>
        distinct.2.2 _ member entry.1 (by simp) rfl
      rw [List.foldl_append, ih distinct.1, List.foldl_cons, List.foldl_nil, insert]
      exact congrArg mk (entries_alter_of_not_mem absent)

end Writes

/-! ## Parts of a map -/

def filter (map : OrderedMap κ ν) (keep : ν → Bool) : OrderedMap κ ν :=
  ⟨map.entries.filter (keep ·.2)⟩

section Filter

variable {map : OrderedMap κ ν} {keep : ν → Bool}

/-- A key whose values are kept has the same value in the part. -/
theorem find?_filter (all : ∀ value, (key, value) ∈ map.entries → keep value = true) :
    (map.filter keep).find? key = map.find? key := by
  have kept : map.entries.find? (fun entry => keep entry.2 = true ∧ (entry.1 == key) = true) =
      map.entries.find? (·.1 == key) := by
    refine List.find?_congr fun entry member => ?_
    by_cases same : entry.1 = key
    · simp [all entry.2 (same ▸ member), same]
    · simp [same]
  rw [find?, find?, filter, List.find?_filter, kept]

theorem filter_alter_kept (all : ∀ value, (key, value) ∈ map.entries → keep value = true)
    (kept : keep (change (map.find? key)) = true) :
    (map.alter key change).filter keep = (map.filter keep).alter key change := by
  obtain ⟨entries⟩ := map
  simp only [alter, filter, find?, mk.injEq] at all kept ⊢
  induction entries with
  | nil => simpa [alterEntries] using kept
  | cons entry rest ih =>
      obtain ⟨entryKey, value⟩ := entry
      by_cases same : entryKey = key
      · have keptValue := all value (by simp [same])
        rw [List.filter_cons, if_pos keptValue, alterEntries, alterEntries, if_pos same, if_pos same,
          List.filter_cons, if_pos (by simpa [same] using kept)]
      · have later := ih (fun value member => all value (by simp [member]))
          (by simpa [same] using kept)
        rw [List.filter_cons, alterEntries, if_neg same, List.filter_cons]
        split
        · rw [alterEntries, if_neg same, later]
        · exact later

theorem filter_alter_dropped (none : ∀ value, (key, value) ∈ map.entries → keep value = false)
    (dropped : keep (change (map.find? key)) = false) :
    (map.alter key change).filter keep = map.filter keep := by
  obtain ⟨entries⟩ := map
  simp only [alter, filter, find?, mk.injEq] at none dropped ⊢
  induction entries with
  | nil => simpa [alterEntries] using dropped
  | cons entry rest ih =>
      obtain ⟨entryKey, value⟩ := entry
      by_cases same : entryKey = key
      · have droppedValue := none value (by simp [same])
        have changed : keep (change (some value)) = false := by simpa [same] using dropped
        simp [alterEntries, same, droppedValue, changed]
      · have later := ih (fun value member => none value (by simp [member]))
          (by simpa [same] using dropped)
        rw [alterEntries, if_neg same, List.filter_cons, List.filter_cons, later]

end Filter

/-- Maps with the same keys in the same order, each with the same value, are one map. -/
theorem eq_of_find? {first second : OrderedMap κ ν} (distinct : first.keys.Nodup)
    (keys : first.keys = second.keys) (found : ∀ key, first.find? key = second.find? key) :
    first = second := by
  obtain ⟨entries⟩ := first
  obtain ⟨others⟩ := second
  simp only [OrderedMap.keys, find?, mk.injEq] at distinct keys found ⊢
  induction entries generalizing others with
  | nil => exact (List.map_eq_nil_iff.mp keys.symm).symm
  | cons entry rest ih =>
      cases others with
      | nil => simp at keys
      | cons other more =>
          obtain ⟨same, later⟩ := List.cons.inj keys
          obtain ⟨absent, distinct⟩ := List.nodup_cons.mp distinct
          have head : entry = other := Prod.ext same (by simpa [same] using found entry.1)
          subst head
          refine congrArg _ (ih distinct more later fun key => ?_)
          have here := found key
          by_cases reached : entry.1 = key
          · have none (items : List (κ × ν)) (missing : key ∉ items.map Prod.fst) :
                items.find? (·.1 == key) = none :=
              List.find?_eq_none.mpr fun item member => by
                simpa using fun equal => missing (List.mem_map.mpr ⟨item, member, equal⟩)
            rw [none rest (reached ▸ absent), none more (later ▸ reached ▸ absent)]
          · simpa [reached] using here

/-! ## Grouping -/

private theorem alterEntries_map {keys : List κ} (value : κ → ν) (distinct : keys.Nodup) :
    alterEntries key change (keys.map fun k => (k, value k)) =
      if key ∈ keys then
        keys.map fun k => (k, if k = key then change (some (value k)) else value k)
      else keys.map (fun k => (k, value k)) ++ [(key, change none)] := by
  induction keys with
  | nil => simp [alterEntries]
  | cons first rest ih =>
      simp only [List.nodup_cons] at distinct
      by_cases same : first = key
      · subst same
        have others : ∀ k ∈ rest, k ≠ first := fun k member equal => distinct.1 (equal ▸ member)
        simp only [List.map_cons, alterEntries, if_true, List.mem_cons, true_or]
        congr 1
        exact List.map_congr_left fun k member => by simp [others k member]
      · simp only [List.map_cons, alterEntries, same, if_false, ih distinct.2, List.mem_cons,
          Ne.symm same, false_or]
        split <;> simp

theorem entries_groupBy (key : α → κ) (items : List α) :
    (groupBy key items).entries =
      (distinct (items.map key)).map fun k => (k, items.filter fun item => key item = k) := by
  induction items using List.reverseRecOn with
  | nil => rfl
  | append_singleton items item ih =>
      have last : (groupBy key (items ++ [item])).entries =
          alterEntries (key item) (fun old => old.getD [] ++ [item])
            (groupBy key items).entries := by
        simp [groupBy, alter]
      rw [last, ih, alterEntries_map _ (distinct_nodup _), List.map_append, List.map_singleton,
        distinct_append_singleton]
      simp only [mem_distinct]
      by_cases known : key item ∈ items.map key
      · simp only [known, if_true]
        refine List.map_congr_left fun k _ => ?_
        by_cases same : k = key item
        · simp [same]
        · simp [same, Ne.symm same]
      · have none : items.filter (fun other => key other = key item) = [] := by
          refine List.filter_eq_nil_iff.mpr fun other member => ?_
          simpa using fun same => known (List.mem_map.mpr ⟨other, member, same⟩)
        simp only [known, if_false, List.map_append, List.map_cons, List.map_nil]
        congr 1
        · refine List.map_congr_left fun k member => ?_
          have different : key item ≠ k := fun same => known (same ▸ mem_distinct.mp member)
          simp [different]
        · simp [none]

/-- What is taken for different keys is what has one of the keys. -/
theorem flatMap_filter_perm {key : α → κ} {keys : List κ} (different : keys.Nodup)
    (items : List α) :
    (keys.flatMap fun k => items.filter fun item => key item = k).Perm
      (items.filter fun item => key item ∈ keys) := by
  induction keys with
  | nil => simp
  | cons first rest ih =>
      obtain ⟨absent, different⟩ := List.nodup_cons.mp different
      rw [List.flatMap_cons]
      refine ((ih different).append_left _).trans ?_
      have here : (items.filter fun item => key item ∈ first :: rest).filter
          (fun item => key item = first) = items.filter fun item => key item = first := by
        rw [List.filter_filter]
        exact List.filter_congr fun item _ => by simpa using Or.inl
      have there : (items.filter fun item => key item ∈ first :: rest).filter
          (fun item => !decide (key item = first)) = items.filter fun item => key item ∈ rest := by
        rw [List.filter_filter]
        refine List.filter_congr fun item _ => ?_
        by_cases same : key item = first
        · simp [same, absent]
        · simp [same]
      have parted := List.filter_append_perm (fun item => decide (key item = first))
        (items.filter fun item => key item ∈ first :: rest)
      rwa [here, there] at parted

end OrderedMap

end DocSamples
