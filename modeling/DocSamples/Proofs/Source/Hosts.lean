import DocSamples.Proofs.Source.Assembly
import DocSamples.Proofs.Tree

namespace DocSamples

/-! # Hosts that cannot be looked at

The file that has the markers of a region is looked up unless it is a source already.  A host
that is not there, or cannot be read, is none; a name that is too long to be looked up ends the
assembly.
-/

variable {tree : Tree} {path : Path} {fault : PathFault}

theorem Sources.hostText_eq_error {sources : Sources} :
    (sources.hostText tree path).outcome = .error fault ↔
      sources.find? path.text = none ∧ tree.IsTooLong path ∧
        fault = .system .nameTooLong path.text := by
  rw [hostText]
  split
  · rename_i present
    simp [present]
  · rename_i absent
    simp only [absent, true_and]
    constructor
    · intro failed
      rcases Attempt.bind_eq_error.mp failed with looking | ⟨isFile, _, reading⟩
      · exact Tree.leadsTo_eq_error.mp looking
      · split at reading
        · split at reading
          · simp at reading
          · simp [Attempt.bind_eq_error] at reading
        · simp at reading
    · exact fun tooLong => Attempt.bind_eq_error.mpr (.inl (Tree.leadsTo_eq_error.mpr tooLong))

/-- A buffer for a region whose host is not a source yet and has a path that is too long. -/
structure Buffer.Stalls (tree : Tree) (sources : Sources) (buffer : Buffer) (path : Path) :
    Prop where
  place : buffer.id.path = some path
  named : buffer.id.namedRegion? ≠ none
  absent : sources.find? path.text = none
  long : tree.IsTooLong path

namespace Assembly

variable {assembly : Assembly} {buffer : Buffer} {buffers : List Buffer}

theorem addBuffer_eq_error : (assembly.addBuffer tree buffer).outcome = .error fault ↔
    ∃ path, buffer.Stalls tree assembly.sources path ∧
      fault = .system .nameTooLong path.text := by
  rw [addBuffer]
  split
  · rename_i unplaced
    simp only [Attempt.outcome_pure, reduceCtorEq, false_iff]
    rintro ⟨path, stalls, _⟩
    exact absurd (unplaced.symm.trans stalls.place) (by simp)
  · rename_i unnamed
    simp only [Attempt.outcome_pure, reduceCtorEq, false_iff]
    rintro ⟨path, stalls, _⟩
    exact stalls.named unnamed
  · rename_i path region place named
    simp only [Attempt.bind_eq_error, Sources.hostText_eq_error, Attempt.outcome_pure,
      reduceCtorEq, and_false, exists_false, or_false]
    constructor
    · rintro ⟨absent, long, rfl⟩
      exact ⟨path, ⟨place, by simp [named], absent, long⟩, rfl⟩
    · rintro ⟨other, stalls, rfl⟩
      obtain rfl := Option.some.inj (place.symm.trans stalls.place)
      exact ⟨stalls.absent, stalls.long, rfl⟩

theorem addBuffers_eq_error : (assembly.addBuffers tree buffers).outcome = .error fault ↔
    ∃ before buffer after next path, buffers = before ++ buffer :: after ∧
      (assembly.addBuffers tree before).outcome = .ok next ∧
      buffer.Stalls tree next.sources path ∧ fault = .system .nameTooLong path.text := by
  induction buffers generalizing assembly with
  | nil => simp [addBuffers]
  | cons buffer rest ih =>
      simp only [addBuffers, Attempt.bind_eq_error, addBuffer_eq_error, ih]
      constructor
      · rintro (⟨path, stalls, rfl⟩ | ⟨next, added, before, other, after, last, path, rfl, goes,
          stalls, rfl⟩)
        · exact ⟨[], buffer, rest, assembly, path, rfl, rfl, stalls, rfl⟩
        · exact ⟨buffer :: before, other, after, last, path, rfl,
            addBuffers_cons_eq_ok.mpr ⟨next, added, goes⟩, stalls, rfl⟩
      · rintro ⟨before, other, after, last, path, split, goes, stalls, rfl⟩
        cases before with
        | nil =>
            obtain ⟨rfl, rfl⟩ := List.cons.inj split
            obtain rfl : assembly = last := by simpa [addBuffers] using goes
            exact .inl ⟨path, stalls, rfl⟩
        | cons first before =>
            obtain ⟨rfl, rfl⟩ := List.cons.inj split
            obtain ⟨next, added, goes⟩ := addBuffers_cons_eq_ok.mp goes
            exact .inr ⟨next, added, before, other, after, last, path, rfl, goes, stalls, rfl⟩

end Assembly

/-- A buffer of the workspace stalls when the buffers before it have been added. -/
def Workspace.Stalls (workspace : Workspace) (tree : Tree) (path : Path) : Prop :=
  ∃ before buffer after assembly,
    Buffer.mergeRegions workspace.buffers = before ++ buffer :: after ∧
    (Assembly.addBuffers tree ⟨Sources.ofFiles workspace.files, 0⟩ before).outcome =
      .ok assembly ∧
    buffer.Stalls tree assembly.sources path

theorem Workspace.sources_eq_error {workspace : Workspace} :
    (workspace.sources tree).outcome = .error fault ↔
      ∃ path, workspace.Stalls tree path ∧ fault = .system .nameTooLong path.text := by
  simp only [sources, Attempt.bind_eq_error, Assembly.addBuffers_eq_error, Attempt.outcome_pure,
    reduceCtorEq, and_false, exists_false, or_false, Stalls]
  constructor
  · rintro ⟨before, buffer, after, assembly, path, split, added, stalls, rfl⟩
    exact ⟨path, ⟨before, buffer, after, assembly, split, added, stalls⟩, rfl⟩
  · rintro ⟨path, ⟨before, buffer, after, assembly, split, added, stalls⟩, rfl⟩
    exact ⟨before, buffer, after, assembly, path, split, added, stalls, rfl⟩

end DocSamples
