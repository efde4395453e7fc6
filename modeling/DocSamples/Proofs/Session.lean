import Mathlib
import DocSamples.Proofs.OrderedMap

namespace DocSamples

/-! # The sessions of a document

The sessions of a document share out its fragments by their declared session, and a
session is without fault when all projects that it names are one.
-/

theorem length_distinct_le_one_iff {α : Type} [DecidableEq α] {items : List α} :
    (distinct items).length ≤ 1 ↔ ∀ first ∈ items, ∀ second ∈ items, first = second := by
  have nodup := distinct_nodup items
  have members (item : α) : item ∈ items ↔ item ∈ distinct items := mem_distinct.symm
  simp only [members]
  generalize distinct items = kept at nodup ⊢
  rcases kept with _ | ⟨first, _ | ⟨second, rest⟩⟩
  · simp
  · simp
  · have different : first ≠ second := by
      rintro rfl
      simp at nodup
    simpa using fun same => absurd same different

open Text

namespace Session

variable {fragments : List Fragment} {session : Session} {project : String}

/-- The projects that the fragments of a session name, as often as they do. -/
def namedProjects (session : Session) : List String :=
  (session.fragments.filterMap (·.project)).filter (!isBlankText ·)

theorem mem_namedProjects : project ∈ session.namedProjects ↔
    ∃ fragment ∈ session.fragments,
      fragment.project = some project ∧ isBlankText project = false := by
  simp [namedProjects, List.mem_filterMap, ← and_assoc, exists_and_right]

theorem spansProjects_eq_false_iff_named : session.spansProjects = false ↔
    ∀ one ∈ session.namedProjects, ∀ other ∈ session.namedProjects, one = other := by
  rw [spansProjects, decide_eq_false_iff_not, Nat.not_lt, projects, length_distinct_le_one_iff]
  rfl

/-- Two fragments that name a project name the same one. -/
def NamesOneProject (session : Session) : Prop :=
  ∀ first ∈ session.fragments, ∀ second ∈ session.fragments,
    ∀ firstProject secondProject,
      first.project = some firstProject → isBlankText firstProject = false →
      second.project = some secondProject → isBlankText secondProject = false →
      firstProject = secondProject

theorem spansProjects_eq_false_iff {session : Session} :
    session.spansProjects = false ↔ session.NamesOneProject := by
  rw [spansProjects_eq_false_iff_named]
  simp only [mem_namedProjects, NamesOneProject]
  constructor
  · intro same first inFirst second inSecond p q firstNames firstShown secondNames secondShown
    exact same p ⟨first, inFirst, firstNames, firstShown⟩ q ⟨second, inSecond, secondNames, secondShown⟩
  · rintro same p ⟨first, inFirst, firstNames, firstShown⟩ q ⟨second, inSecond, secondNames, secondShown⟩
    exact same first inFirst second inSecond p q firstNames firstShown secondNames secondShown

theorem ofFragments_eq (fragments : List Fragment) :
    ofFragments fragments = (distinct (fragments.map (·.session))).map fun name =>
      ⟨name, fragments.filter (·.session = name)⟩ := by
  simp [ofFragments, OrderedMap.entries_groupBy]

theorem mem_ofFragments {fragments : List Fragment} {session : Session} :
    session ∈ ofFragments fragments ↔
      ∃ fragment ∈ fragments,
        session = ⟨fragment.session, fragments.filter (·.session = fragment.session)⟩ := by
  simp [ofFragments_eq, eq_comm]

theorem forall_fragments_iff {fragments : List Fragment} {holds : Fragment → Prop} :
    (∀ session ∈ ofFragments fragments, ∀ fragment ∈ session.fragments, holds fragment) ↔
      ∀ fragment ∈ fragments, holds fragment := by
  constructor
  · intro each fragment member
    exact each _ (mem_ofFragments.mpr ⟨fragment, member, rfl⟩) fragment (by simp [member])
  · intro each session member fragment inside
    obtain ⟨first, _, rfl⟩ := mem_ofFragments.mp member
    exact each fragment (List.mem_filter.mp inside).1

theorem isCompilable_iff {session : Session} :
    session.isCompilable = true ↔
      session.spansProjects = false ∧ ∀ fragment ∈ session.fragments, fragment.problems = [] := by
  simp [isCompilable, hasProblems, Fragment.hasProblems]

/-! ## Sharing out -/

theorem names_ofFragments (fragments : List Fragment) :
    (ofFragments fragments).map (·.name) = distinct (fragments.map (·.session)) := by
  simp [ofFragments_eq, Function.comp_def]

/-- No fragment is lost, and none is in two places. -/
theorem fragments_ofFragments_perm (fragments : List Fragment) :
    ((ofFragments fragments).flatMap (·.fragments)).Perm fragments := by
  rw [ofFragments_eq, List.flatMap_map]
  refine (OrderedMap.flatMap_filter_perm (distinct_nodup _) fragments).trans (.of_eq ?_)
  refine List.filter_eq_self.mpr fun fragment member => ?_
  simpa using ⟨fragment, member, rfl⟩

theorem existsUnique_session {fragment : Fragment} (member : fragment ∈ fragments) :
    ∃! session, session ∈ ofFragments fragments ∧ fragment ∈ session.fragments := by
  refine ⟨_, ⟨mem_ofFragments.mpr ⟨fragment, member, rfl⟩, by simp [member]⟩, ?_⟩
  rintro session ⟨built, inside⟩
  obtain ⟨first, _, rfl⟩ := mem_ofFragments.mp built
  have same : fragment.session = first.session := by simpa using (List.mem_filter.mp inside).2
  rw [same]

/-! ## The project of a session -/

theorem fault?_eq_none_iff : session.fault? = none ↔
    ∀ one ∈ session.namedProjects, ∀ other ∈ session.namedProjects, one = other := by
  rw [← spansProjects_eq_false_iff_named]
  cases spans : session.spansProjects <;> simp [fault?, spans]

theorem project?_eq_some_iff (whole : session.fault? = none) :
    session.project? = some project ↔ project ∈ session.namedProjects := by
  have named : ∀ project, project ∈ session.projects ↔ project ∈ session.namedProjects :=
    fun _ => mem_distinct
  rw [project?]
  constructor
  · intro first
    exact (named project).mp (List.mem_of_head? first)
  · intro member
    obtain ⟨first, rest, split⟩ :=
      List.exists_cons_of_ne_nil (List.ne_nil_of_mem ((named project).mpr member))
    have firstNamed : first ∈ session.namedProjects := (named first).mp (by simp [split])
    rw [split, List.head?_cons, fault?_eq_none_iff.mp whole first firstNamed project member]

/-- The sessions of a document part its fragments by what they declare, in their order, and a
session without fault has the one project that its fragments name. -/
theorem ofFragments_partition (fragments : List Fragment) :
    InFirstOrder (fragments.map (·.session)) ((ofFragments fragments).map (·.name)) ∧
      ((ofFragments fragments).flatMap (·.fragments)).Perm fragments ∧
      (∀ fragment ∈ fragments,
        ∃! session, session ∈ ofFragments fragments ∧ fragment ∈ session.fragments) ∧
      ∀ session ∈ ofFragments fragments,
        session.fragments ≠ [] ∧
        session.fragments = fragments.filter (·.session = session.name) ∧
        InFirstOrder session.namedProjects session.projects ∧
        (session.fault? = none ↔
          ∀ one ∈ session.namedProjects, ∀ other ∈ session.namedProjects, one = other) ∧
        (session.fault? = none →
          ∀ project, session.project? = some project ↔ project ∈ session.namedProjects) := by
  refine ⟨inFirstOrder_iff.mpr (names_ofFragments fragments), fragments_ofFragments_perm fragments,
    fun _ => existsUnique_session, fun session built => ?_⟩
  refine ⟨?_, ?_, inFirstOrder_iff.mpr rfl, fault?_eq_none_iff,
    fun whole _ => project?_eq_some_iff whole⟩
  · obtain ⟨fragment, member, rfl⟩ := mem_ofFragments.mp built
    exact List.ne_nil_of_mem (List.mem_filter.mpr ⟨member, by simp⟩)
  · obtain ⟨_, _, rfl⟩ := mem_ofFragments.mp built
    rfl

def sampleOf (session project : Option String) : Fragment where
  document := .ofNames .root ["guide.md"]
  line := 3
  text := "x = 1"
  session := session
  project := project

/-- Sessions that take turns, with names that differ in case or are empty. -/
def mixedSamples : List Fragment := [sampleOf (some "a") (some "p"), sampleOf none none,
  sampleOf (some "A") (some "q"), sampleOf (some "a") (some " "), sampleOf (some "") none,
  sampleOf (some "A") (some "p"), sampleOf (some "a") (some "p")]

theorem ofFragments_partition_mixed :
    (ofFragments mixedSamples).map (·.name) = [some "a", none, some "A", some ""] ∧
      ∃ one ∈ ofFragments mixedSamples, ∃ other ∈ ofFragments mixedSamples,
        one.name = some "a" ∧ one.fragments = [sampleOf (some "a") (some "p"),
          sampleOf (some "a") (some " "), sampleOf (some "a") (some "p")] ∧
        one.fault? = none ∧ one.project? = some "p" ∧
        other.name = some "A" ∧ other.projects = ["q", "p"] ∧ other.fault? ≠ none := by
  obtain ⟨names, _, unique, each⟩ := ofFragments_partition mixedSamples
  have listed := inFirstOrder_iff.mp names
  obtain ⟨one, ⟨built, inside⟩, _⟩ := unique (sampleOf (some "a") (some " ")) (by decide)
  obtain ⟨other, ⟨otherBuilt, otherInside⟩, _⟩ :=
    unique (sampleOf (some "A") (some "q")) (by decide)
  obtain ⟨_, whole, order, agrees, project⟩ := each one built
  obtain ⟨_, otherWhole, otherOrder, otherAgrees, _⟩ := each other otherBuilt
  have named : one.name = some "a" := by
    rw [whole] at inside
    simpa [sampleOf, eq_comm] using (List.mem_filter.mp inside).2
  have otherNamed : other.name = some "A" := by
    rw [otherWhole] at otherInside
    simpa [sampleOf, eq_comm] using (List.mem_filter.mp otherInside).2
  rw [named] at whole
  rw [otherNamed] at otherWhole
  have projects : one.namedProjects = ["p", "p"] := by
    rw [namedProjects, whole]
    decide +kernel
  have otherProjects : other.namedProjects = ["q", "p"] := by
    rw [namedProjects, otherWhole]
    decide +kernel
  have sound : one.fault? = none := agrees.mpr (by simp [projects])
  refine ⟨listed.trans (by decide), one, built, other, otherBuilt, named,
    whole.trans (by decide), sound, (project sound "p").mpr (by simp [projects]), otherNamed,
    ?_, ?_⟩
  · rw [inFirstOrder_iff.mp otherOrder, otherProjects]
    decide
  · intro none
    have same := otherAgrees.mp none "q" (by simp [otherProjects]) "p" (by simp [otherProjects])
    revert same
    decide

end Session

end DocSamples
