import Mathlib
import DocSamples.Proofs.Source.Locality

namespace DocSamples

/-! # Samples without a path

Samples that have no path are sources of their own, by their numbers.  No path stands in their way
unless it is read as the name of one of them.
-/

namespace Workspace

variable {workspace : Workspace} {tree : Tree} {name : String} {sources : List Source}

/-! ## Names without an at sign -/

def sampleName (number : Nat) : String :=
  "<sample " ++ toString number ++ ">"

theorem sampleName_injective : Function.Injective sampleName := by
  intro one other same
  have readBack : Function.LeftInverse (Nat.ofDigitChars 10 · 0) (Nat.toDigits 10) :=
    fun _ => Nat.ofDigitChars_ten_toDigits
  have whole := congrArg String.toList same
  exact readBack.injective (by simpa [sampleName, Nat.toString_eq_ofList_toDigits] using whole)

theorem at_not_mem_sampleName (number : Nat) : '@' ∉ (sampleName number).toList := by
  intro inside
  simp only [sampleName, Nat.toString_eq_ofList_toDigits, String.toList_append,
    String.toList_ofList, List.mem_append] at inside
  rcases inside with (opening | digit) | closing
  · revert opening
    decide
  · exact absurd (Nat.isDigit_of_mem_toDigits (by decide) (by decide) digit) (by decide)
  · revert closing
    decide

/-- A path that has no at sign and is not read as the name of a sample. -/
def IsOwnName (path : Path) : Prop :=
  '@' ∉ path.text.toList ∧ ∀ number, path.text ≠ sampleName number

/-- What comes before the first at sign in a name. -/
inductive IsStem (workspace : Workspace) : Option Path → String → Prop
  | path {path : Path} (member : path ∈ workspace.paths) : IsStem workspace (some path) path.text
  | sample (number : Nat) : IsStem workspace none (sampleName number)

theorem IsStem.plain {place : Option Path} {stem : String}
    (own : ∀ path ∈ workspace.paths, IsOwnName path) (isStem : workspace.IsStem place stem) :
    '@' ∉ stem.toList := by
  cases isStem with
  | path member => exact (own _ member).1
  | sample number => exact at_not_mem_sampleName number

theorem IsStem.place_unique {one other : Option Path} {stem : String}
    (own : ∀ path ∈ workspace.paths, IsOwnName path) (isStem : workspace.IsStem one stem)
    (otherIsStem : workspace.IsStem other stem) : one = other := by
  cases isStem with
  | @path path member =>
      generalize same : path.text = stem at otherIsStem
      cases otherIsStem with
      | path _ => rw [Path.text_injective same]
      | sample number => exact absurd same ((own _ member).2 number)
  | sample number =>
      generalize same : sampleName number = stem at otherIsStem
      cases otherIsStem with
      | path member => exact absurd same.symm ((own _ member).2 number)
      | sample _ => rfl

theorem isOwnName_of_isClear {path : Path} (clear : IsClear path) : IsOwnName path := by
  refine ⟨clear.2, fun number same => ?_⟩
  have heads := congrArg (fun text => text.toList.head?) same
  simp [head_of_isClear clear, sampleName] at heads

theorem exists_stem {place : Option Path} (begins : workspace.MayBegin place name) :
    ∃ stem rest, name.toList = stem.toList ++ rest ∧ (∀ c ∈ rest.head?, c = '@') ∧
      workspace.IsStem place stem := by
  cases begins with
  | file member =>
      exact ⟨_, [], by simp, by simp, .path (List.mem_append_left _ (List.mem_map_of_mem member))⟩
  | whole member place => exact ⟨_, [], by simp, by simp, .path (mem_paths member place)⟩
  | @region _ path region member place named =>
      exact ⟨_, '@' :: region.toList, by simp, by simp, .path (mem_paths member place)⟩
  | sample member place number => exact ⟨_, [], by simp [sampleName], by simp, .sample number⟩

theorem namesApart_of_isOwnName (own : ∀ path ∈ workspace.paths, IsOwnName path) :
    workspace.NamesApart := by
  intro one other name begins otherBegins
  obtain ⟨stem, rest, whole, bound, isStem⟩ := exists_stem begins
  obtain ⟨otherStem, more, otherWhole, otherBound, otherIsStem⟩ := exists_stem otherBegins
  have same := eq_of_append_eq (isStem.plain own) (otherIsStem.plain own) bound otherBound
    (whole.symm.trans otherWhole)
  obtain rfl := String.toList_inj.mp same
  exact isStem.place_unique own otherIsStem

theorem mem_mergeRegions_place {merged : Buffer}
    (member : merged ∈ Buffer.mergeRegions workspace.buffers) :
    merged.id ∈ workspace.buffers.map (·.id) := by
  obtain ⟨part, present, same⟩ := Buffer.exists_same_place member
  exact List.mem_map.mpr ⟨part, present, same⟩

/-! ## Sources by numbers -/

def sampleSource (number : Nat) (buffer : Buffer) : Source where
  name := sampleName number
  text := buffer.content
  editable := buffer.editable

/-- Buffers without a path are sources of their own, one after the other. -/
theorem addBuffers_of_placeless {buffers : List Buffer} {start : Sources} {number : Nat}
    (placeless : ∀ buffer ∈ buffers, buffer.id.path = none)
    (fresh : ∀ later, number < later → sampleName later ∉ start.keys) :
    (Assembly.addBuffers tree ⟨start, number⟩ buffers).outcome =
      .ok ⟨⟨start.entries ++ (buffers.zipIdx (number + 1)).map fun (buffer, number) =>
        (sampleName number, sampleSource number buffer)⟩, number + buffers.length⟩ := by
  induction buffers generalizing start number with
  | nil => simp [Assembly.addBuffers]
  | cons buffer rest ih =>
      let next : Sources := OrderedMap.alter start (sampleName (number + 1))
        (buffer.addTo (sampleName (number + 1)))
      have place := placeless buffer List.mem_cons_self
      have added : (Assembly.addBuffer tree ⟨start, number⟩ buffer).outcome =
          .ok ⟨next, number + 1⟩ := Assembly.addBuffer_eq_ok.mpr ⟨_, _, _, .sample place, rfl⟩
      have absent := fresh (number + 1) (Nat.lt_succ_self number)
      have entries : next.entries =
          start.entries ++ [(sampleName (number + 1), sampleSource (number + 1) buffer)] := by
        rw [OrderedMap.entries_alter_of_not_mem absent, Buffer.addTo, place]
        rfl
      have freshAfter : ∀ later, number + 1 < later → sampleName later ∉ next.keys := by
        intro later after member
        rw [OrderedMap.keys_alter, if_neg absent, List.mem_append, List.mem_singleton] at member
        rcases member with before | same
        · exact fresh later (by omega) before
        · have := sampleName_injective same
          omega
      have others := ih (fun other inside => placeless other (List.mem_cons_of_mem _ inside))
        freshAfter
      refine Assembly.addBuffers_cons_eq_ok.mpr ⟨_, added, others.trans ?_⟩
      rw [entries]
      simp [Nat.add_assoc, Nat.add_comm 1]

theorem mergeRegions_of_placeless {buffers : List Buffer}
    (placeless : ∀ buffer ∈ buffers, buffer.id.path = none) :
    Buffer.mergeRegions buffers = buffers := by
  induction buffers with
  | nil => exact Buffer.mergeRegions_nil
  | cons buffer rest ih =>
      have other : buffer.isForRegion = false := by
        simp [Buffer.isForRegion, placeless buffer List.mem_cons_self]
      rw [Buffer.mergeRegions_other rest other,
        ih fun later inside => placeless later (List.mem_cons_of_mem _ inside)]

theorem sources_of_placeless (apart : workspace.NamesApart)
    (assembled : (workspace.sources tree).outcome = .ok sources) :
    sources.filter (·.path = none) =
      ((workspace.buffers.filter (·.id.path = none)).zipIdx 1).map fun (buffer, number) =>
        sampleSource number buffer := by
  obtain ⟨last, added, rfl⟩ := sources_eq_ok.mp assembled
  -- What is without a path is assembled as it is on its own, and there it begins with no source.
  have noFiles : workspace.files.filter (some ·.path = none) = [] :=
    List.filter_eq_nil_iff.mpr fun file _ => by simp
  have begun : Assembly.IsPartOf none ⟨.empty, 0⟩ ⟨Sources.ofFiles workspace.files, 0⟩ := by
    refine ⟨?_, fun _ => rfl⟩
    rw [← ofFiles_filter apart (List.Subset.refl _), noFiles]
    rfl
  obtain ⟨lastPart, addedPart, partOf⟩ :=
    begun.addBuffers apart (named_ofFiles (List.Subset.refl _))
      (fun _ => mem_mergeRegions_place) added
  have placeless : ∀ buffer ∈ workspace.buffers.filter (·.id.path = none),
      buffer.id.path = none := fun buffer inside => by simpa using (List.mem_filter.mp inside).2
  rw [← Buffer.mergeRegions_filter (fun id => decide (id.path = none)),
    mergeRegions_of_placeless placeless,
    addBuffers_of_placeless placeless (by simp [OrderedMap.keys, OrderedMap.empty])] at addedPart
  have values : last.sources.values.filter (·.path = none) = lastPart.sources.values := by
    rw [partOf.sources]
    simp [OrderedMap.values, OrderedMap.filter, List.filter_map, Function.comp_def]
  rw [values, ← Except.ok.inj addedPart]
  simp [OrderedMap.values, OrderedMap.empty, Function.comp_def]

end Workspace

end DocSamples
