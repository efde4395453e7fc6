import Mathlib
import DocSamples.Attempt

namespace DocSamples

/-! # Outcomes of attempts

What an attempt ends with, step by step and without its events.
-/

namespace Attempt

variable {ε ε' α β : Type}

@[simp] theorem outcome_pure (value : α) : (pure value : Attempt ε α).outcome = .ok value := rfl

@[simp] theorem outcome_done (value : α) : (done value : Attempt ε α).outcome = .ok value := rfl

@[simp] theorem outcome_fail (fault : ε) : (fail fault : Attempt ε α).outcome = .error fault := rfl

@[simp] theorem outcome_note (event : Event) : (note event : Attempt ε Unit).outcome = .ok () := rfl

@[simp] theorem outcome_ofExcept (outcome : Except ε α) : (ofExcept outcome).outcome = outcome := rfl

@[simp] theorem outcome_mapFault (attempt : Attempt ε α) (change : ε → ε') :
    (attempt.mapFault change).outcome = attempt.outcome.mapError change := rfl

@[simp] theorem outcome_settled (attempt : Attempt ε α) :
    (attempt.settled : Attempt ε' (Except ε α)).outcome = .ok attempt.outcome := rfl

theorem outcome_bind (first : Attempt ε α) (next : α → Attempt ε β) :
    (first >>= next).outcome = first.outcome.bind fun value => (next value).outcome := by
  change (first.andThen next).outcome = _
  cases found : first.outcome <;> simp [andThen, found, Except.bind]

theorem bind_eq_ok {first : Attempt ε α} {next : α → Attempt ε β} {last : β} :
    (first >>= next).outcome = .ok last ↔
      ∃ value, first.outcome = .ok value ∧ (next value).outcome = .ok last := by
  rw [outcome_bind]
  cases first.outcome <;> simp [Except.bind]

theorem bind_eq_error {first : Attempt ε α} {next : α → Attempt ε β} {fault : ε} :
    (first >>= next).outcome = .error fault ↔ first.outcome = .error fault ∨
      ∃ value, first.outcome = .ok value ∧ (next value).outcome = .error fault := by
  rw [outcome_bind]
  cases first.outcome <;> simp [Except.bind]

theorem mapFault_eq_ok {attempt : Attempt ε α} {change : ε → ε'} {value : α} :
    (attempt.mapFault change).outcome = .ok value ↔ attempt.outcome = .ok value := by
  rw [outcome_mapFault]
  cases attempt.outcome <;> simp [Except.mapError]

/-- Attempts for all items succeed together, each with its own value. -/
theorem each_eq_ok {attempt : α → Attempt ε β} {items : List α} {values : List β} :
    (each attempt items).outcome = .ok values ↔
      List.Forall₂ (fun item value => (attempt item).outcome = .ok value) items values := by
  induction items generalizing values with
  | nil => cases values <;> simp [each]
  | cons item rest ih =>
      simp only [each, bind_eq_ok, outcome_pure, Except.ok.injEq]
      constructor
      · rintro ⟨value, first, more, others, rfl⟩
        exact .cons first (ih.mp others)
      · rintro (_ | ⟨first, others⟩)
        exact ⟨_, first, _, ih.mpr others, rfl⟩

theorem exists_of_each_eq_error {attempt : α → Attempt ε β} {items : List α} {fault : ε}
    (failed : (each attempt items).outcome = .error fault) :
    ∃ item ∈ items, (attempt item).outcome = .error fault := by
  induction items with
  | nil => simp [each] at failed
  | cons item rest ih =>
      simp only [each, bind_eq_error, outcome_pure, reduceCtorEq, and_false, exists_false,
        or_false] at failed
      rcases failed with first | ⟨_, _, later⟩
      · exact ⟨item, by simp, first⟩
      · obtain ⟨other, member, found⟩ := ih later
        exact ⟨other, by simp [member], found⟩

end Attempt

theorem Except.mapError_eq_ok {ε ε' α : Type} {outcome : Except ε α} {change : ε → ε'}
    {value : α} : outcome.mapError change = .ok value ↔ outcome = .ok value := by
  cases outcome <;> simp [Except.mapError]

theorem Except.mapError_eq_error {ε ε' α : Type} {outcome : Except ε α} {change : ε → ε'}
    {fault : ε'} : outcome.mapError change = .error fault ↔
      ∃ cause, outcome = .error cause ∧ fault = change cause := by
  cases outcome <;> simp [Except.mapError, eq_comm]

theorem Except.bind_eq_ok {ε α β : Type} {first : Except ε α} {next : α → Except ε β} {last : β} :
    first >>= next = .ok last ↔ ∃ value, first = .ok value ∧ next value = .ok last := by
  cases first <;> simp [bind, Except.bind]

theorem Except.bind_eq_error {ε α β : Type} {first : Except ε α} {next : α → Except ε β}
    {fault : ε} : first >>= next = .error fault ↔
      first = .error fault ∨ ∃ value, first = .ok value ∧ next value = .error fault := by
  cases first <;> simp [bind, Except.bind]

theorem Except.mapM_eq_ok {ε α β : Type} {step : α → Except ε β} {items : List α}
    {values : List β} :
    items.mapM step = .ok values ↔
      List.Forall₂ (fun item value => step item = .ok value) items values := by
  induction items generalizing values with
  | nil => cases values <;> simp [pure, Except.pure]
  | cons item rest ih =>
      rw [List.mapM_cons]
      cases first : step item with
      | error fault => cases values <;> simp [bind, Except.bind, first]
      | ok value =>
          cases later : rest.mapM step <;> cases values <;>
            simp [bind, Except.bind, pure, Except.pure, ← ih, first, later]

theorem Except.eq_ok_of_toOption {ε α : Type} {outcome : Except ε α} {value : α}
    (same : outcome.toOption = some value) : outcome = .ok value := by
  cases outcome <;> simp_all [Except.toOption]

theorem Except.toOption_eq_some {ε α : Type} {outcome : Except ε α} {value : α} :
    outcome.toOption = some value ↔ outcome = .ok value := by
  cases outcome <;> simp [Except.toOption]

theorem Except.exists_mapM_iff {ε α β : Type} {step : α → Except ε β} {items : List α} :
    (∃ values, items.mapM step = .ok values) ↔ ∀ item ∈ items, ∃ value, step item = .ok value := by
  induction items with
  | nil => simp [pure, Except.pure]
  | cons item rest ih =>
      rw [List.forall_mem_cons, ← ih]
      simp [List.mapM_cons, Except.bind_eq_ok, pure, Except.pure]

theorem Except.mem_of_mapM {ε α β : Type} {step : α → Except ε β} {items : List α}
    {values : List β} (mapped : items.mapM step = .ok values) {value : β} :
    value ∈ values ↔ ∃ item ∈ items, step item = .ok value := by
  have each := Except.mapM_eq_ok.mp mapped
  clear mapped
  induction each with
  | nil => simp
  | cons first _ ih => simp [ih, first, eq_comm]

theorem Except.mem_flatten_of_mapM {ε α β : Type} {step : α → Except ε (List β)} {items : List α}
    {values : List (List β)} (mapped : items.mapM step = .ok values) {part : β} :
    part ∈ values.flatten ↔ ∃ item ∈ items, ∃ value, step item = .ok value ∧ part ∈ value := by
  simp only [List.mem_flatten, Except.mem_of_mapM mapped]
  constructor
  · rintro ⟨value, ⟨item, member, found⟩, inside⟩
    exact ⟨item, member, value, found, inside⟩
  · rintro ⟨item, member, value, found, inside⟩
    exact ⟨value, ⟨item, member, found⟩, inside⟩

private theorem Except.filterAuxM_eq_ok {ε α : Type} {keeps : α → Except ε Bool}
    {items front kept : List α} :
    items.filterAuxM keeps front = .ok kept ↔ (∀ item ∈ items, ∃ keep, keeps item = .ok keep) ∧
      kept = (items.filter fun item => (keeps item).toOption = some true).reverse ++ front := by
  induction items generalizing front with
  | nil => simp [List.filterAuxM, pure, Except.pure, eq_comm]
  | cons item rest ih =>
      rw [List.filterAuxM, List.forall_mem_cons]
      cases asked : keeps item with
      | error fault => simp [bind, Except.bind]
      | ok keep =>
          simp only [bind, Except.bind, ih]
          cases keep <;> simp [Except.toOption, asked]

theorem Except.filterM_eq_ok {ε α : Type} {keeps : α → Except ε Bool} {items kept : List α} :
    items.filterM keeps = .ok kept ↔ (∀ item ∈ items, ∃ keep, keeps item = .ok keep) ∧
      kept = items.filter fun item => (keeps item).toOption = some true := by
  rw [List.filterM, Except.bind_eq_ok]
  simp only [Except.filterAuxM_eq_ok, pure, Except.pure, Except.ok.injEq, List.append_nil]
  constructor
  · rintro ⟨_, ⟨asked, rfl⟩, rfl⟩
    exact ⟨asked, List.reverse_reverse _⟩
  · rintro ⟨asked, rfl⟩
    exact ⟨_, ⟨asked, rfl⟩, List.reverse_reverse _⟩

end DocSamples
