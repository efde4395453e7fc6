import DocSamples.Discovery
import DocSamples.Proofs.OrderedMap
import DocSamples.Proofs.Path

namespace DocSamples

/-! # Paths in order

Paths are ordered by their parts, strictly and totally.  So a list of paths in order is known
by what is in it.
-/

namespace Path

variable {first second third : Path}

theorem orderKey_of_ne {path : Path} (anchored : path.anchor ≠ .here) :
    path.orderKey = path.anchor.text :: path.names := by
  rw [orderKey]
  split <;> simp_all

theorem not_isName_anchor {anchor : Anchor} (anchored : anchor ≠ .here) : ¬ IsName anchor.text := by
  cases anchor with
  | here => exact absurd rfl anchored
  | root | doubleRoot => decide

theorem orderKey_injective : Function.Injective orderKey := by
  intro first second same
  have anchored {path other : Path} (keys : path.orderKey = other.orderKey)
      (here : path.anchor = .here) : other.anchor = .here := by
    by_contra elsewhere
    have key : path.orderKey = path.names := by simp [orderKey, here]
    rw [orderKey_of_ne elsewhere, key] at keys
    exact not_isName_anchor elsewhere (path.named _ (by simp [keys]))
  have parts : first.anchor = second.anchor ∧ first.names = second.names := by
    by_cases here : first.anchor = .here
    · have there := anchored same here
      simp only [orderKey, here, there] at same
      exact ⟨here.trans there.symm, same⟩
    · have elsewhere : second.anchor ≠ .here := fun there => here (anchored same.symm there)
      rw [orderKey_of_ne here, orderKey_of_ne elsewhere, List.cons.injEq] at same
      refine ⟨?_, same.2⟩
      cases anchor : first.anchor <;> cases other : second.anchor <;>
        simp_all [Anchor.text]
  rw [← ofNames_names first, ← ofNames_names second, parts.1, parts.2]

theorem lt_iff : first < second ↔ first.orderKey < second.orderKey := Iff.rfl

theorem lt_irrefl (path : Path) : ¬ path < path := by
  simp [lt_iff]

theorem lt_chain (before : first < second) (after : second < third) : first < third := by
  rw [lt_iff] at *
  exact lt_trans before after

theorem eq_of_not_lt (before : ¬ first < second) (after : ¬ second < first) : first = second := by
  rw [lt_iff, not_lt] at *
  exact orderKey_injective (le_antisymm after before)

/-- Lists of paths in order are equal if the same paths are in them. -/
theorem eq_of_pairwise_lt {paths others : List Path} (ordered : paths.Pairwise (· < ·))
    (others_ordered : others.Pairwise (· < ·)) (same : ∀ path, path ∈ paths ↔ path ∈ others) :
    paths = others := by
  have nodup {paths : List Path} (ordered : paths.Pairwise (· < ·)) : paths.Nodup :=
    ordered.imp fun {first second} before same => by
      rw [same] at before
      exact lt_irrefl second before
  have perm : paths.Perm others :=
    (List.perm_ext_iff_of_nodup (nodup ordered) (nodup others_ordered)).mpr same
  refine perm.eq_of_pairwise (fun first second _ _ before after => ?_) ordered others_ordered
  exact absurd (lt_chain before after) (lt_irrefl first)

end Path

namespace Discovery

variable {paths found : List Path} {path : Path}

theorem mem_sortDistinct : path ∈ sortDistinct paths ↔ path ∈ paths := by
  rw [sortDistinct, (List.mergeSort_perm _ _).mem_iff, mem_distinct]

theorem pairwise_sortDistinct (paths : List Path) : (sortDistinct paths).Pairwise (· < ·) := by
  have sorted : (sortDistinct paths).Pairwise
      fun first second => (!decide (second < first)) = true := by
    refine List.pairwise_mergeSort (fun first second third before after => ?_)
      (fun first second => ?_) _
    · simp only [Bool.not_eq_true', decide_eq_false_iff_not, Path.lt_iff, not_lt] at before after ⊢
      exact before.trans after
    · simp only [Bool.or_eq_true, Bool.not_eq_true', decide_eq_false_iff_not, Path.lt_iff, not_lt]
      exact le_total _ _
  have nodup : (sortDistinct paths).Nodup :=
    (List.mergeSort_perm _ _).nodup_iff.mpr (distinct_nodup paths)
  refine (sorted.and nodup).imp fun {first second} ⟨notAfter, different⟩ => ?_
  by_contra notBefore
  exact different (Path.eq_of_not_lt notBefore (by simpa using notAfter))

/-- A list of paths in order is that of the paths that are in it. -/
theorem sortDistinct_eq_iff :
    sortDistinct paths = found ↔ found.Pairwise (· < ·) ∧ ∀ path, path ∈ found ↔ path ∈ paths := by
  constructor
  · rintro rfl
    exact ⟨pairwise_sortDistinct paths, fun _ => mem_sortDistinct⟩
  · rintro ⟨ordered, same⟩
    exact Path.eq_of_pairwise_lt (pairwise_sortDistinct paths) ordered fun path =>
      mem_sortDistinct.trans (same path).symm

end Discovery

end DocSamples
