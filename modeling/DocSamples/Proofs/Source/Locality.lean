import Mathlib
import DocSamples.Proofs.Isolation
import DocSamples.Proofs.Source.Writes

namespace DocSamples

/-! # Sources place by place

When places have names of their own, the sources of a place are those that its files and
buffers have without all others.
-/

namespace Assembly

variable {tree : Tree} {assembly next part last : Assembly} {buffer : Buffer} {name : String}
  {change : Option Source → Source} {unplaced : Nat}

/-! ## The sources of a place -/

/-- Each source stands under a name of its place. -/
def Named (workspace : Workspace) (sources : Sources) : Prop :=
  ∀ name source, (name, source) ∈ sources.entries → workspace.MayBegin source.path name

/-- An assembly has what another has for one place. -/
structure IsPartOf (place : Option Path) (part assembly : Assembly) : Prop where
  sources : part.sources = assembly.sources.filter (·.path = place)
  unplaced : place = none → part.unplaced = assembly.unplaced

section Step

variable {workspace : Workspace} {place : Option Path}

theorem named_alter (apart : workspace.NamesApart) (named : Named workspace assembly.sources)
    (member : buffer.id ∈ workspace.buffers.map (·.id))
    (writes : assembly.Writes tree buffer name change unplaced) :
    (∀ source, (name, source) ∈ assembly.sources.entries → source.path = buffer.id.path) ∧
      (change (assembly.sources.find? name)).path = buffer.id.path ∧
      Named workspace (assembly.sources.alter name change) := by
  have begins := writes.mayBegin member
  have same : ∀ source, (name, source) ∈ assembly.sources.entries →
      source.path = buffer.id.path := fun source present =>
    apart _ _ name (named name source present) begins
  have kept : (change (assembly.sources.find? name)).path = buffer.id.path :=
    writes.keeps_place fun source found => same source (OrderedMap.mem_of_find? found)
  refine ⟨same, kept, fun other source present => ?_⟩
  rcases OrderedMap.mem_entries_alter present with before | ⟨rfl, rfl⟩
  · exact named other source before
  · rw [kept]
    exact begins

/-- A buffer of a place is added to the part for the place as it is to the whole. -/
theorem IsPartOf.addBuffer_own (partOf : IsPartOf buffer.id.path part assembly)
    (apart : workspace.NamesApart) (named : Named workspace assembly.sources)
    (member : buffer.id ∈ workspace.buffers.map (·.id))
    (added : (assembly.addBuffer tree buffer).outcome = .ok next) :
    ∃ nextPart, (part.addBuffer tree buffer).outcome = .ok nextPart ∧
      IsPartOf buffer.id.path nextPart next := by
  obtain ⟨name, change, unplaced, writes, rfl⟩ := addBuffer_eq_ok.mp added
  obtain ⟨same, kept, _⟩ := named_alter apart named member writes
  have seen : ∀ path, buffer.id.path = some path →
      part.sources.find? path.text = assembly.sources.find? path.text := by
    intro path place
    rw [partOf.sources]
    refine OrderedMap.find?_filter fun source present => ?_
    have samePlace := apart _ _ _ (named _ _ present) (.whole member place)
    rw [decide_eq_true_eq, samePlace, place]
  obtain ⟨partUnplaced, partWrites⟩ := writes.congr seen partOf.unplaced
  refine ⟨_, addBuffer_eq_ok.mpr ⟨_, _, _, partWrites, rfl⟩, ?_, fun none => ?_⟩
  · rw [partOf.sources]
    symm
    refine OrderedMap.filter_alter_kept (fun source present => ?_) ?_
    · simpa using same source present
    · simpa using kept
  · rw [partWrites.unplaced_eq, writes.unplaced_eq, partOf.unplaced none]

theorem IsPartOf.addBuffer_other (partOf : IsPartOf place part assembly)
    (apart : workspace.NamesApart) (named : Named workspace assembly.sources)
    (member : buffer.id ∈ workspace.buffers.map (·.id)) (different : buffer.id.path ≠ place)
    (added : (assembly.addBuffer tree buffer).outcome = .ok next) : IsPartOf place part next := by
  obtain ⟨name, change, unplaced, writes, rfl⟩ := addBuffer_eq_ok.mp added
  obtain ⟨same, kept, _⟩ := named_alter apart named member writes
  refine ⟨?_, fun none => ?_⟩
  · rw [partOf.sources]
    symm
    refine OrderedMap.filter_alter_dropped (fun source present => ?_) ?_
    · simpa [same source present] using different
    · simpa [kept] using different
  · have placed : buffer.id.path ≠ .none := none ▸ different
    rw [writes.unplaced_eq, if_neg placed, partOf.unplaced none]

theorem IsPartOf.addBuffers {buffers : List Buffer} (partOf : IsPartOf place part assembly)
    (apart : workspace.NamesApart) (named : Named workspace assembly.sources)
    (members : ∀ buffer ∈ buffers, buffer.id ∈ workspace.buffers.map (·.id))
    (added : (assembly.addBuffers tree buffers).outcome = .ok last) :
    ∃ lastPart, (part.addBuffers tree (buffers.filter (·.id.path = place))).outcome = .ok lastPart ∧
      IsPartOf place lastPart last := by
  induction buffers generalizing assembly part with
  | nil =>
      cases added
      exact ⟨part, rfl, partOf⟩
  | cons buffer rest ih =>
      have member := members buffer (by simp)
      have later := fun other inside => members other (List.mem_cons_of_mem buffer inside)
      obtain ⟨next, first, others⟩ := addBuffers_cons_eq_ok.mp added
      have nextNamed : Named workspace next.sources := by
        obtain ⟨name, change, unplaced, writes, rfl⟩ := addBuffer_eq_ok.mp first
        exact (named_alter apart named member writes).2.2
      by_cases own : buffer.id.path = place
      · subst own
        obtain ⟨nextPart, addedPart, nextPartOf⟩ :=
          partOf.addBuffer_own apart named member first
        obtain ⟨lastPart, rest, lastPartOf⟩ := ih nextPartOf nextNamed later others
        refine ⟨lastPart, ?_, lastPartOf⟩
        rw [List.filter_cons_of_pos (by simp)]
        exact addBuffers_cons_eq_ok.mpr ⟨nextPart, addedPart, rest⟩
      · have nextPartOf := partOf.addBuffer_other apart named member own first
        rw [List.filter_cons_of_neg (by simpa using own)]
        exact ih nextPartOf nextNamed later others

end Step

end Assembly

namespace Workspace

variable {workspace : Workspace} {tree : Tree} {place : Option Path}

/-- The files and buffers of one place, or those without a path. -/
def partFor (workspace : Workspace) (place : Option Path) : Workspace :=
  { workspace with
    files := workspace.files.filter (some ·.path = place)
    buffers := workspace.buffers.filter (·.id.path = place) }

theorem named_ofFiles {files : List IncludedFile} (inside : files ⊆ workspace.files) :
    Assembly.Named workspace (Sources.ofFiles files) :=
  Sources.forall_entries_ofFiles fun _ member => .file (inside member)

theorem ofFiles_filter (apart : workspace.NamesApart) {files : List IncludedFile}
    (inside : files ⊆ workspace.files) :
    Sources.ofFiles (files.filter (some ·.path = place)) =
      (Sources.ofFiles files).filter (·.path = place) := by
  induction files using List.reverseRecOn with
  | nil => rfl
  | append_singleton files file ih =>
      obtain ⟨before, own⟩ := List.append_subset.mp inside
      have same : ∀ source, (file.path.text, source) ∈ (Sources.ofFiles files).entries →
          source.path = some file.path := fun source present =>
        apart _ _ _ (named_ofFiles before _ _ present) (.file (own (List.mem_singleton_self file)))
      rw [List.filter_append, Sources.ofFiles_append_singleton, OrderedMap.insert]
      by_cases here : some file.path = place
      · rw [List.filter_cons_of_pos (by simpa using here), List.filter_nil,
          Sources.ofFiles_append_singleton, ih before, OrderedMap.insert]
        symm
        refine OrderedMap.filter_alter_kept (fun source present => ?_) ?_
        · simpa [same source present] using here
        · exact decide_eq_true here
      · rw [List.filter_cons_of_neg (by simpa using here), List.filter_nil, List.append_nil,
          ih before]
        symm
        refine OrderedMap.filter_alter_dropped (fun source present => ?_) ?_
        · simpa [same source present] using here
        · exact decide_eq_false here

end Workspace

/-- When no two places share a name, the sources of a place are those that it has when all else
is taken away.  No two places do when all paths are absolute and have no at sign. -/
theorem sources_of_place {workspace : Workspace} {tree : Tree} {sources : List Source}
    (assembled : (workspace.sources tree).outcome = .ok sources) :
    (workspace.NamesApart → ∀ place : Option Path,
      ((workspace.partFor place).sources tree).outcome =
        .ok (sources.filter (·.path = place))) ∧
    ((∀ path ∈ workspace.paths, path.isAbsolute = true ∧ '@' ∉ path.text.toList) →
      workspace.NamesApart) := by
  refine ⟨fun apart place => ?_, Workspace.namesApart_of_isClear⟩
  obtain ⟨last, added, rfl⟩ := Workspace.sources_eq_ok.mp assembled
  have begun : Assembly.IsPartOf place ⟨Sources.ofFiles (workspace.partFor place).files, 0⟩
      ⟨Sources.ofFiles workspace.files, 0⟩ :=
    ⟨Workspace.ofFiles_filter apart (List.Subset.refl _), fun _ => rfl⟩
  have members : ∀ buffer ∈ Buffer.mergeRegions workspace.buffers,
      buffer.id ∈ workspace.buffers.map (·.id) := by
    intro buffer member
    obtain ⟨part, present, same⟩ := Buffer.exists_same_place member
    exact List.mem_map.mpr ⟨part, present, same⟩
  obtain ⟨lastPart, addedPart, partOf⟩ :=
    begun.addBuffers apart (Workspace.named_ofFiles (List.Subset.refl _)) members added
  refine Workspace.sources_eq_ok.mpr ⟨lastPart, ?_, ?_⟩
  · have merged := Buffer.mergeRegions_filter (fun id => decide (id.path = place)) workspace.buffers
    rw [Workspace.partFor, merged]
    exact addedPart
  · rw [partOf.sources]
    simp [OrderedMap.values, OrderedMap.filter, List.filter_map, Function.comp_def]

/-! ## Names that are apart, and one that two places share -/

def plainPath : Path := .ofNames .root ["a.py"]

def otherPath : Path := .ofNames .root ["b.py"]

def regionLikePath : Path := .ofNames .root ["a.py@r"]

/-- A buffer for a region that its host does not have, and one for another path. -/
def besides (path : Path) : Workspace where
  files := [⟨plainPath, "z = 0\n"⟩]
  buffers := [⟨⟨some plainPath, some "r"⟩, "x = 1", true⟩, ⟨⟨some path, none⟩, "y = 2", false⟩]

theorem mergeRegions_besides (path : Path) :
    Buffer.mergeRegions (besides path).buffers = (besides path).buffers :=
  Buffer.mergeRegions_of_nodup (by simp [besides])

theorem sources_of_place_besides :
    ∃ sources, ((besides otherPath).sources emptyTree).outcome = .ok sources ∧
      (((besides otherPath).partFor (some plainPath)).sources emptyTree).outcome =
        .ok (sources.filter (·.path = some plainPath)) ∧
      sources.filter (·.path = some plainPath) =
        [⟨"/a.py", "z = 0\n", some plainPath, false⟩,
          ⟨"/a.py@r", "x = 1", some plainPath, true⟩] := by
  let sources : List Source := [
    ⟨"/a.py", "z = 0\n", some plainPath, false⟩, ⟨"/a.py@r", "x = 1", some plainPath, true⟩,
    ⟨"/b.py", "y = 2", some otherPath, false⟩]
  have assembled : ((besides otherPath).sources emptyTree).outcome = .ok sources := by
    rw [Workspace.sources, mergeRegions_besides]
    decide +kernel
  have clear : ∀ path ∈ (besides otherPath).paths,
      path.isAbsolute = true ∧ '@' ∉ path.text.toList := by
    decide +kernel
  obtain ⟨places, apart⟩ := sources_of_place assembled
  exact ⟨sources, assembled, places (apart clear) _, by decide +kernel⟩

/-- A path that looks like another one with a region shares its source. -/
theorem source_shared_by_places :
    ∃ (workspace : Workspace) (tree : Tree) (place : Option Path) (sources own : List Source),
      (workspace.sources tree).outcome = .ok sources ∧
      ((workspace.partFor place).sources tree).outcome = .ok own ∧
      own ≠ sources.filter (·.path = place) := by
  refine ⟨besides regionLikePath, emptyTree, some regionLikePath,
    [⟨"/a.py", "z = 0\n", some plainPath, false⟩,
      ⟨"/a.py@r", "x = 1\ny = 2", some plainPath, true⟩],
    [⟨"/a.py@r", "y = 2", some regionLikePath, false⟩], ?_, ?_, by decide +kernel⟩
  · rw [Workspace.sources, mergeRegions_besides]
    decide +kernel
  · have own : Buffer.mergeRegions ((besides regionLikePath).partFor (some regionLikePath)).buffers =
        ((besides regionLikePath).partFor (some regionLikePath)).buffers :=
      Buffer.mergeRegions_of_nodup (by decide +kernel)
    rw [Workspace.sources, own]
    decide +kernel

end DocSamples
