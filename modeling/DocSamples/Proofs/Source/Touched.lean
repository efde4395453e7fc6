import Mathlib
import DocSamples.Proofs.Breakdown
import DocSamples.Proofs.Source.BlankRegion
import DocSamples.Proofs.Source.Hosts
import DocSamples.Proofs.Source.Numbered

namespace DocSamples

open Text

/-! # Sources that samples go into

A source is editable when the content of a sample is written to it, and only then.  So what a
checker finds in the other sources is the project's.
-/

namespace Buffer

variable {buffers : List Buffer} {buffer merged : Buffer}

/-- A buffer goes into the one that the buffers of its region are merged into.  Without a region
it is left as it is. -/
structure GoesInto (buffer merged : Buffer) : Prop where
  place : merged.id = buffer.id
  whole : buffer.isForRegion = false → merged = buffer

theorem exists_goesInto (member : buffer ∈ buffers) :
    ∃ merged ∈ mergeRegions buffers, buffer.GoesInto merged := by
  induction buffers using mergeRegions_induction with
  | nil => simp at member
  | region first rest region ih =>
      rw [mergeRegions_region rest region]
      by_cases same : buffer.id = first.id
      · refine ⟨_, List.mem_cons_self, same.symm, fun other => ?_⟩
        rw [isForRegion_congr same, region] at other
        contradiction
      · have later : buffer ∈ rest.filter (·.id ≠ first.id) := by
          rcases List.mem_cons.mp member with rfl | inside
          · exact absurd rfl same
          · exact List.mem_filter.mpr ⟨inside, by simpa using same⟩
        obtain ⟨merged, present, goes⟩ := ih later
        exact ⟨merged, List.mem_cons_of_mem _ present, goes⟩
  | other first rest other ih =>
      rw [mergeRegions_other rest other]
      rcases List.mem_cons.mp member with rfl | inside
      · exact ⟨buffer, List.mem_cons_self, rfl, fun _ => rfl⟩
      · obtain ⟨merged, present, goes⟩ := ih inside
        exact ⟨merged, List.mem_cons_of_mem _ present, goes⟩

/-- All buffers of a place are parts of what is merged for it, and no others are. -/
theorem mem_parts {first : Buffer} {rest : List Buffer} :
    buffer ∈ first :: rest.filter (·.id = first.id) ↔
      buffer ∈ first :: rest ∧ first.id = buffer.id := by
  rw [List.mem_cons, List.mem_filter, List.mem_cons, decide_eq_true_eq]
  constructor
  · rintro (rfl | ⟨inside, same⟩)
    · exact ⟨.inl rfl, rfl⟩
    · exact ⟨.inr inside, same.symm⟩
  · rintro ⟨rfl | inside, same⟩
    · exact .inl rfl
    · exact .inr ⟨inside, same.symm⟩

/-- What is merged for the other places takes in only buffers of these. -/
theorem GoesInto.mem_iff_of_other {first : Buffer} {rest : List Buffer}
    (goes : buffer.GoesInto merged)
    (later : merged ∈ mergeRegions (rest.filter (·.id ≠ first.id))) :
    buffer ∈ first :: rest ↔ buffer ∈ rest.filter (·.id ≠ first.id) := by
  obtain ⟨part, kept, same⟩ := exists_same_place later
  have different : buffer.id ≠ first.id := by
    rw [← goes.place, ← same]
    simpa using (List.mem_filter.mp kept).2
  rw [List.mem_cons, List.mem_filter]
  constructor
  · rintro (rfl | inside)
    · exact absurd rfl different
    · exact ⟨inside, by simpa using different⟩
  · exact fun ⟨inside, _⟩ => .inr inside

theorem editable_iff_of_mem_mergeRegions (member : merged ∈ mergeRegions buffers) :
    merged.editable = true ↔
      ∃ buffer ∈ buffers, buffer.editable = true ∧ buffer.GoesInto merged := by
  induction buffers using mergeRegions_induction with
  | nil => simp at member
  | region first rest region ih =>
      rw [mergeRegions_region rest region, List.mem_cons] at member
      rcases member with rfl | later
      · rw [merge, List.any_eq_true]
        constructor
        · rintro ⟨part, inside, editable⟩
          obtain ⟨member, same⟩ := mem_parts.mp inside
          refine ⟨part, member, editable, same, fun other => ?_⟩
          rw [isForRegion_congr same.symm, region] at other
          contradiction
        · rintro ⟨part, member, editable, goes⟩
          exact ⟨part, mem_parts.mpr ⟨member, goes.place⟩, editable⟩
      · rw [ih later]
        constructor
        · rintro ⟨part, inside, editable, goes⟩
          exact ⟨part, (goes.mem_iff_of_other later).mpr inside, editable, goes⟩
        · rintro ⟨part, inside, editable, goes⟩
          exact ⟨part, (goes.mem_iff_of_other later).mp inside, editable, goes⟩
  | other first rest other ih =>
      rw [mergeRegions_other rest other, List.mem_cons] at member
      rcases member with rfl | later
      · constructor
        · exact fun editable => ⟨merged, List.mem_cons_self, editable, rfl, fun _ => rfl⟩
        · rintro ⟨part, _, editable, goes⟩
          rw [goes.whole (isForRegion_congr goes.place ▸ other), editable]
      · rw [ih later]
        constructor
        · rintro ⟨part, inside, editable, goes⟩
          exact ⟨part, List.mem_cons_of_mem _ inside, editable, goes⟩
        · rintro ⟨part, inside, editable, goes⟩
          rcases List.mem_cons.mp inside with rfl | inside
          · -- The first buffer may stand in the list once more.
            obtain rfl := goes.whole other
            exact (ih later).mp editable
          · exact ⟨part, inside, editable, goes⟩

end Buffer

/-! ## Writing the content of samples -/

def Sources.isEditable (sources : Sources) (name : String) : Bool :=
  (sources.find? name).any (·.editable)

theorem Sources.isEditable_ofFiles (files : List IncludedFile) (name : String) :
    (ofFiles files).isEditable name = false := by
  rw [isEditable, find?_ofFiles]
  cases (files.filter (·.path.text = name)).getLast? <;> rfl

namespace Assembly

variable {tree : Tree} {assembly next last : Assembly} {buffer : Buffer} {buffers : List Buffer}
  {name other : String} {change : Option Source → Source} {unplaced : Nat}

theorem Writes.editable (writes : assembly.Writes tree buffer name change unplaced)
    (old : Option Source) :
    (change old).editable = (buffer.editable || old.any (·.editable)) := by
  have added (name : String) :
      (buffer.addTo name old).editable = (buffer.editable || old.any (·.editable)) := by
    cases old with
    | none => simp [Buffer.addTo]
    | some source => exact Bool.or_comm _ _
  cases writes with
  | sample place => exact added _
  | whole place unnamed => exact added _
  | framed place named hosted filled => rfl
  | alone place named hosted unfilled => exact added _

theorem Writes.isEditable (writes : assembly.Writes tree buffer name change unplaced) :
    Sources.isEditable (assembly.sources.alter name change) name =
      (buffer.editable || assembly.sources.isEditable name) := by
  rw [Sources.isEditable, OrderedMap.find?_alter_self]
  exact writes.editable _

/-- One of some buffers that are added one after another is written to the source of a name. -/
inductive Brings (tree : Tree) (buffer : Buffer) (name : String) : Assembly → List Buffer → Prop
  | here {assembly : Assembly} {change : Option Source → Source} {unplaced : Nat}
      {rest : List Buffer} (writes : assembly.Writes tree buffer name change unplaced) :
      Brings tree buffer name assembly (buffer :: rest)
  | later {assembly next : Assembly} {first : Buffer} {rest : List Buffer}
      (added : (assembly.addBuffer tree first).outcome = .ok next)
      (brings : Brings tree buffer name next rest) :
      Brings tree buffer name assembly (first :: rest)

theorem Brings.mem (brings : Brings tree buffer name assembly buffers) : buffer ∈ buffers := by
  induction brings with
  | here writes => exact List.mem_cons_self
  | later added brings ih => exact List.mem_cons_of_mem _ ih

theorem Brings.mayBegin {workspace : Workspace}
    (brings : Brings tree buffer name assembly buffers)
    (members : ∀ buffer ∈ buffers, buffer.id ∈ workspace.buffers.map (·.id)) :
    workspace.MayBegin buffer.id.path name := by
  induction brings with
  | here writes => exact writes.mayBegin (members _ List.mem_cons_self)
  | later added brings ih =>
      exact ih fun other inside => members other (List.mem_cons_of_mem _ inside)

theorem exists_brings (added : (assembly.addBuffers tree buffers).outcome = .ok last)
    (member : buffer ∈ buffers) : ∃ name, Brings tree buffer name assembly buffers := by
  induction buffers generalizing assembly with
  | nil => simp at member
  | cons first rest ih =>
      obtain ⟨next, one, others⟩ := addBuffers_cons_eq_ok.mp added
      rcases List.mem_cons.mp member with rfl | inside
      · obtain ⟨name, change, unplaced, writes, _⟩ := addBuffer_eq_ok.mp one
        exact ⟨name, .here writes⟩
      · obtain ⟨name, brings⟩ := ih others inside
        exact ⟨name, .later one brings⟩

theorem isEditable_addBuffer (added : (assembly.addBuffer tree buffer).outcome = .ok next) :
    next.sources.isEditable name = true ↔ assembly.sources.isEditable name = true ∨
      buffer.editable = true ∧
        ∃ change unplaced, assembly.Writes tree buffer name change unplaced := by
  obtain ⟨target, change, unplaced, writes, rfl⟩ := addBuffer_eq_ok.mp added
  constructor
  · intro editable
    by_cases here : name = target
    · subst here
      rw [writes.isEditable, Bool.or_eq_true] at editable
      rcases editable with own | before
      · exact .inr ⟨own, change, unplaced, writes⟩
      · exact .inl before
    · rw [Sources.isEditable, OrderedMap.find?_alter_of_ne _ here] at editable
      exact .inl editable
  · rintro (before | ⟨own, otherChange, otherUnplaced, otherWrites⟩)
    · by_cases here : name = target
      · subst here
        rw [writes.isEditable, before, Bool.or_true]
      · rw [Sources.isEditable, OrderedMap.find?_alter_of_ne _ here]
        exact before
    · -- Both writes are what comes of the one buffer.
      have same := addBuffer_eq_ok.mpr ⟨name, otherChange, otherUnplaced, otherWrites, rfl⟩
      have whole := Except.ok.inj (added.symm.trans same)
      simp only [mk.injEq] at whole
      rw [whole.1, otherWrites.isEditable, own, Bool.true_or]

theorem isEditable_addBuffers (added : (assembly.addBuffers tree buffers).outcome = .ok last) :
    last.sources.isEditable name = true ↔ assembly.sources.isEditable name = true ∨
      ∃ buffer, buffer.editable = true ∧ Brings tree buffer name assembly buffers := by
  induction buffers generalizing assembly with
  | nil =>
      cases added
      refine (or_iff_left ?_).symm
      rintro ⟨buffer, _, brings⟩
      cases brings
  | cons first rest ih =>
      obtain ⟨next, one, others⟩ := addBuffers_cons_eq_ok.mp added
      rw [ih others, isEditable_addBuffer one]
      constructor
      · rintro ((before | ⟨editable, change, unplaced, writes⟩) | ⟨buffer, editable, brings⟩)
        · exact .inl before
        · exact .inr ⟨first, editable, .here writes⟩
        · exact .inr ⟨buffer, editable, .later one brings⟩
      · rintro (before | ⟨buffer, editable, brings⟩)
        · exact .inl (.inl before)
        · cases brings with
          | here writes => exact .inl (.inr ⟨editable, _, _, writes⟩)
          | later added brings =>
              obtain rfl := Except.ok.inj (added.symm.trans one)
              exact .inr ⟨buffer, editable, brings⟩

end Assembly

/-! ## What buffers touch -/

namespace Workspace

variable {workspace : Workspace} {tree : Tree} {buffer : Buffer} {name : String}
  {sources : List Source} {last : Assembly}

/-- The content of a buffer is written to the source of a name. -/
def Touches (workspace : Workspace) (tree : Tree) (buffer : Buffer) (name : String) : Prop :=
  ∃ merged, buffer.GoesInto merged ∧ Assembly.Brings tree merged name
    ⟨Sources.ofFiles workspace.files, 0⟩ (Buffer.mergeRegions workspace.buffers)

theorem exists_touches (assembled : (workspace.sources tree).outcome = .ok sources)
    (member : buffer ∈ workspace.buffers) : ∃ name, workspace.Touches tree buffer name := by
  obtain ⟨last, added, _⟩ := sources_eq_ok.mp assembled
  obtain ⟨merged, present, goes⟩ := Buffer.exists_goesInto member
  obtain ⟨name, brings⟩ := Assembly.exists_brings added present
  exact ⟨name, merged, goes, brings⟩

theorem Touches.mayBegin (touches : workspace.Touches tree buffer name) :
    workspace.MayBegin buffer.id.path name := by
  obtain ⟨merged, goes, brings⟩ := touches
  rw [← goes.place]
  exact brings.mayBegin fun _ => mem_mergeRegions_place

theorem named_sources (apart : workspace.NamesApart)
    (added : (Assembly.addBuffers tree ⟨Sources.ofFiles workspace.files, 0⟩
      (Buffer.mergeRegions workspace.buffers)).outcome = .ok last) :
    Assembly.Named workspace last.sources := by
  refine Assembly.addBuffers_preserves
    (motive := fun assembly => Assembly.Named workspace assembly.sources)
    (fun buffer member assembly next first named => ?_) (named_ofFiles (List.Subset.refl _)) added
  obtain ⟨name, change, unplaced, writes, rfl⟩ := Assembly.addBuffer_eq_ok.mp first
  exact (Assembly.named_alter apart named (mem_mergeRegions_place member) writes).2.2

theorem isEditable_iff
    (added : (Assembly.addBuffers tree ⟨Sources.ofFiles workspace.files, 0⟩
      (Buffer.mergeRegions workspace.buffers)).outcome = .ok last) :
    last.sources.isEditable name = true ↔
      ∃ buffer ∈ workspace.buffers, buffer.editable = true ∧
        workspace.Touches tree buffer name := by
  rw [Assembly.isEditable_addBuffers added, Sources.isEditable_ofFiles]
  constructor
  · rintro (begun | ⟨merged, editable, brings⟩)
    · contradiction
    · obtain ⟨buffer, member, editable, goes⟩ :=
        (Buffer.editable_iff_of_mem_mergeRegions brings.mem).mp editable
      exact ⟨buffer, member, editable, merged, goes, brings⟩
  · rintro ⟨buffer, member, editable, merged, goes, brings⟩
    exact .inr ⟨merged, (Buffer.editable_iff_of_mem_mergeRegions brings.mem).mpr
      ⟨buffer, member, editable, goes⟩, brings⟩

theorem exists_find?_of_mem (assembled : (workspace.sources tree).outcome = .ok sources)
    {source : Source} (member : source ∈ sources) :
    ∃ last, (Assembly.addBuffers tree ⟨Sources.ofFiles workspace.files, 0⟩
      (Buffer.mergeRegions workspace.buffers)).outcome = .ok last ∧
      last.sources.find? source.name = some source := by
  obtain ⟨last, added, rfl⟩ := sources_eq_ok.mp assembled
  obtain ⟨name, found⟩ :=
    (Assembly.mem_values_addBuffers (Sources.keys_nodup_ofFiles _) added).mp member
  rw [(labels_sources added name source (OrderedMap.mem_of_find? found)).1]
  exact ⟨last, added, found⟩

theorem editable_iff_touches (assembled : (workspace.sources tree).outcome = .ok sources)
    {source : Source} (member : source ∈ sources) :
    source.editable = true ↔ ∃ buffer ∈ workspace.buffers, buffer.editable = true ∧
      workspace.Touches tree buffer source.name := by
  obtain ⟨last, added, found⟩ := exists_find?_of_mem assembled member
  rw [← isEditable_iff added, Sources.isEditable, found, Option.any_some]

theorem exists_editable_of_touches (assembled : (workspace.sources tree).outcome = .ok sources)
    (member : buffer ∈ workspace.buffers) (editable : buffer.editable = true)
    (touches : workspace.Touches tree buffer name) :
    ∃ source ∈ sources, source.name = name ∧ source.editable = true := by
  obtain ⟨last, added, rfl⟩ := sources_eq_ok.mp assembled
  have shown := (isEditable_iff added).mpr ⟨buffer, member, editable, touches⟩
  rw [Sources.isEditable, Option.any_eq_true] at shown
  obtain ⟨source, found, sourceEditable⟩ := shown
  exact ⟨source,
    (Assembly.mem_values_addBuffers (Sources.keys_nodup_ofFiles _) added).mpr ⟨name, found⟩,
    (labels_sources added name source (OrderedMap.mem_of_find? found)).1, sourceEditable⟩

theorem path_of_touches (apart : workspace.NamesApart)
    (assembled : (workspace.sources tree).outcome = .ok sources) {source : Source}
    (member : source ∈ sources) (touches : workspace.Touches tree buffer source.name) :
    source.path = buffer.id.path := by
  obtain ⟨last, added, found⟩ := exists_find?_of_mem assembled member
  exact apart _ _ _ (named_sources apart added _ source (OrderedMap.mem_of_find? found))
    touches.mayBegin

theorem exists_editable_iff (apart : workspace.NamesApart)
    (assembled : (workspace.sources tree).outcome = .ok sources) (place : Option Path) :
    (∃ source ∈ sources, source.path = place ∧ source.editable = true) ↔
      ∃ buffer ∈ workspace.buffers, buffer.id.path = place ∧ buffer.editable = true := by
  constructor
  · rintro ⟨source, member, rfl, sourceEditable⟩
    obtain ⟨buffer, present, editable, touches⟩ :=
      (editable_iff_touches assembled member).mp sourceEditable
    exact ⟨buffer, present, (path_of_touches apart assembled member touches).symm, editable⟩
  · rintro ⟨buffer, member, rfl, editable⟩
    obtain ⟨name, touches⟩ := exists_touches assembled member
    obtain ⟨source, present, rfl, sourceEditable⟩ :=
      exists_editable_of_touches assembled member editable touches
    exact ⟨source, present, path_of_touches apart assembled present touches, sourceEditable⟩

end Workspace

/-! ## Errors of the project -/

namespace Checker

variable {checker : Checker} {tree : Tree} {workspace : Workspace} {result : CompileResult}

theorem compile_eq_ok : ((checker.compiler tree).compile workspace).outcome = .ok result ↔
    ∃ sources, (workspace.sources tree).outcome = .ok sources ∧
      resultOf (sources.filterMap checker.finding?) = result := by
  simp only [compiler, Attempt.bind_eq_ok, Attempt.mapFault_eq_ok, Attempt.outcome_pure,
    Except.ok.injEq]

theorem mem_projectDiagnostics {sources : List Source} {diagnostic : Diagnostic}
    (assembled : (workspace.sources tree).outcome = .ok sources) :
    diagnostic ∈ (resultOf (sources.filterMap checker.finding?)).projectDiagnostics ↔
      ∃ source ∈ sources, ∃ rejection, checker source.text = some rejection ∧
        rejection.diagnostic source.name = diagnostic ∧
        ∀ buffer ∈ workspace.buffers, buffer.editable = true →
          ¬ workspace.Touches tree buffer source.name := by
  have untouched {source : Source} (member : source ∈ sources) : source.editable = false ↔
      ∀ buffer ∈ workspace.buffers, buffer.editable = true →
        ¬ workspace.Touches tree buffer source.name := by
    rw [← Bool.not_eq_true, Workspace.editable_iff_touches assembled member]
    push Not
    rfl
  rw [resultOf, Finding.mem_aboutProject]
  constructor
  · rintro ⟨finding, found, plain, rfl⟩
    obtain ⟨source, member, told⟩ := List.mem_filterMap.mp found
    obtain ⟨rejection, rejected, rfl⟩ := Option.map_eq_some_iff.mp told
    exact ⟨source, member, rejection, rejected, rfl, (untouched member).mp plain⟩
  · rintro ⟨source, member, rejection, rejected, rfl, plain⟩
    exact ⟨⟨source, _⟩, List.mem_filterMap.mpr ⟨source, member, by rw [finding?, rejected]; rfl⟩,
      (untouched member).mpr plain, rfl⟩

end Checker

namespace Workspace

variable {workspace : Workspace} {tree : Tree}

def sharedPath : Path := .ofNames .root ["shared.py"]

/-- Included code and a sample for one region, included code for another file, and a sample
without a path. -/
def mixedWorkspace : Workspace where
  files := [⟨sharedPath, "#region a\n#endregion\n"⟩]
  buffers := [
    ⟨⟨some sharedPath, some "a"⟩, "x = 1", false⟩, ⟨⟨some plainPath, none⟩, "z = 0", false⟩,
    ⟨⟨some sharedPath, some "a"⟩, "y = x", true⟩, ⟨⟨none, none⟩, "w = 1", true⟩]

def mixedSources : List Source := [
  ⟨"/shared.py", "#region a\nx = 1\ny = x\n#endregion\n", some sharedPath, true⟩,
  ⟨"/a.py", "z = 0", some plainPath, false⟩, ⟨"<sample 1>", "w = 1", none, true⟩]

def refusal : Checker :=
  fun _ => some (.unsuitable "refused")

end Workspace

end DocSamples
