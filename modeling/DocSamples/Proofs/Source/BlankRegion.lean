import Mathlib
import DocSamples.Proofs.Isolation
import DocSamples.Proofs.Region.Parts
import DocSamples.Proofs.Source.Writes

namespace DocSamples

open Text

/-! # Blank names of regions

A fragment that is included takes a blank region for none.  A sample takes an empty one for
none, but one of blanks for a region of its file, which is never found there.
-/

namespace BufferId

def withoutBlankRegion (id : BufferId) : BufferId :=
  { id with region := id.region.filter (!isBlankText ·) }

/-- A region of a file whose name is made of blanks. -/
def IsBlankRegion (id : BufferId) : Prop :=
  id.path.isSome = true ∧ ∃ region, id.namedRegion? = some region ∧ isBlankText region = true

theorem namedRegion_withoutBlankRegion (id : BufferId) :
    id.withoutBlankRegion.namedRegion? = id.namedRegion?.filter (!isBlankText ·) := by
  rw [namedRegion?, namedRegion?, withoutBlankRegion, Option.filter_filter, Option.filter_filter]
  congr 1
  funext region
  exact Bool.and_comm _ _

theorem namedRegion_eq_of_spared {id : BufferId} (path : id.path.isSome = true)
    (spared : ¬ id.IsBlankRegion) :
    id.withoutBlankRegion.namedRegion? = id.namedRegion? := by
  rw [namedRegion_withoutBlankRegion]
  cases named : id.namedRegion? with
  | none => rfl
  | some region =>
      have solid : isBlankText region = false := by
        cases blank : isBlankText region with
        | false => rfl
        | true => exact absurd ⟨path, region, named, blank⟩ spared
      simp [Option.filter, solid]

end BufferId

/-! ## Buffers without blank regions -/

namespace Workspace

variable {workspace : Workspace} {tree : Tree}

def withoutBlankRegions (workspace : Workspace) : Workspace :=
  { workspace with
    buffers := workspace.buffers.map (Buffer.relocate BufferId.withoutBlankRegion) }

theorem addBuffer_withoutBlankRegion {assembly : Assembly} {buffer : Buffer}
    (spared : ¬ buffer.id.IsBlankRegion) :
    assembly.addBuffer tree (buffer.relocate BufferId.withoutBlankRegion) =
      assembly.addBuffer tree buffer := by
  obtain ⟨⟨path, region⟩, content, editable⟩ := buffer
  cases path with
  | none => rfl
  | some path =>
      have same := BufferId.namedRegion_eq_of_spared rfl spared
      simp only [Assembly.addBuffer, Buffer.relocate, same]
      rfl

theorem addBuffers_withoutBlankRegions {assembly : Assembly} {buffers : List Buffer}
    (spared : ∀ buffer ∈ buffers, ¬ buffer.id.IsBlankRegion) :
    assembly.addBuffers tree (buffers.map (Buffer.relocate BufferId.withoutBlankRegion)) =
      assembly.addBuffers tree buffers := by
  induction buffers generalizing assembly with
  | nil => rfl
  | cons buffer rest ih =>
      have first := @addBuffer_withoutBlankRegion tree assembly buffer (spared buffer (by simp))
      have later (next : Assembly) := @ih next fun other member => spared other (by simp [member])
      simp only [List.map_cons, Assembly.addBuffers, first, later]

theorem mergeRegions_withoutBlankRegions {buffers : List Buffer}
    (spared : ∀ buffer ∈ buffers, ¬ buffer.id.IsBlankRegion) :
    Buffer.mergeRegions (buffers.map (Buffer.relocate BufferId.withoutBlankRegion)) =
      (Buffer.mergeRegions buffers).map (Buffer.relocate BufferId.withoutBlankRegion) := by
  refine Buffer.mergeRegions_relocate
    ⟨fun buffer member region => ?_, fun buffer member other => ?_⟩
  · rw [Buffer.isForRegion, Bool.and_eq_true, Option.isSome_iff_exists,
      Option.isSome_iff_exists] at region
    obtain ⟨⟨path, place⟩, name, named⟩ := region
    have solid : isBlankText name = false := by
      cases blank : isBlankText name with
      | false => rfl
      | true => exact absurd ⟨by simp [place], name, named, blank⟩ (spared buffer member)
    have given : buffer.id.region = some name := (Option.filter_eq_some_iff.mp named).1
    rw [BufferId.withoutBlankRegion, given]
    simp [Option.filter, solid, ← given]
  · rw [Buffer.isForRegion] at other ⊢
    rw [Buffer.relocate, BufferId.namedRegion_withoutBlankRegion]
    cases named : buffer.id.namedRegion? with
    | none => simp
    | some name =>
        rw [named] at other
        simp only [Option.isSome_some, Bool.and_true] at other
        simp [BufferId.withoutBlankRegion, other]

/-- Without a region whose name is made of blanks, blank regions are none. -/
theorem sources_withoutBlankRegions
    (spared : ∀ buffer ∈ workspace.buffers, ¬ buffer.id.IsBlankRegion) :
    workspace.withoutBlankRegions.sources tree = workspace.sources tree := by
  have merged : ∀ buffer ∈ Buffer.mergeRegions workspace.buffers, ¬ buffer.id.IsBlankRegion := by
    intro buffer member
    obtain ⟨part, present, same⟩ := Buffer.exists_same_place member
    rw [← same]
    exact spared part present
  rw [sources, sources, withoutBlankRegions, mergeRegions_withoutBlankRegions spared,
    addBuffers_withoutBlankRegions merged]

/-! ## The names of the sources -/

theorem exists_merged_same_place {buffers : List Buffer} {buffer : Buffer}
    (member : buffer ∈ buffers) : ∃ merged ∈ Buffer.mergeRegions buffers, merged.id = buffer.id := by
  obtain ⟨groups, all, merges⟩ := Buffer.mergeRegions_groups buffers
  obtain ⟨parts, group, inside⟩ := List.mem_flatten.mp (all.symm.subset member)
  obtain ⟨merged, present, merge⟩ := exists_of_mem_forall₂ merges.flip group
  exact ⟨merged, present, (merge.place buffer inside).symm⟩

/-- Each source has the name that it stands under, and this is one of a place. -/
def Labels (workspace : Workspace) (sources : Sources) : Prop :=
  ∀ name source, (name, source) ∈ sources.entries →
    source.name = name ∧ ∃ place, workspace.MayBegin place name

theorem labels_ofFiles : workspace.Labels (Sources.ofFiles workspace.files) :=
  Sources.forall_entries_ofFiles fun _ member => ⟨rfl, _, .file member⟩

theorem labels_alter {assembly : Assembly} {buffer : Buffer} {name : String}
    {change : Option Source → Source} {unplaced : Nat} (labels : workspace.Labels assembly.sources)
    (writes : assembly.Writes tree buffer name change unplaced)
    (member : buffer.id ∈ workspace.buffers.map (·.id)) :
    workspace.Labels (assembly.sources.alter name change) := by
  intro other source present
  rcases OrderedMap.mem_entries_alter present with before | ⟨rfl, rfl⟩
  · exact labels other source before
  · refine ⟨writes.keeps_name fun old found => ?_, _, writes.mayBegin member⟩
    exact (labels _ old (OrderedMap.mem_of_find? found)).1

theorem labels_sources {last : Assembly}
    (added : (Assembly.addBuffers tree ⟨Sources.ofFiles workspace.files, 0⟩
      (Buffer.mergeRegions workspace.buffers)).outcome = .ok last) :
    workspace.Labels last.sources := by
  refine Assembly.addBuffers_preserves (motive := fun assembly => workspace.Labels assembly.sources)
    (fun buffer member assembly next first labels => ?_) labels_ofFiles added
  obtain ⟨name, change, unplaced, writes, rfl⟩ := Assembly.addBuffer_eq_ok.mp first
  obtain ⟨part, present, same⟩ := Buffer.exists_same_place member
  exact labels_alter labels writes (List.mem_map.mpr ⟨part, present, same⟩)

theorem mem_names {last : Assembly} {name : String} (labels : workspace.Labels last.sources) :
    name ∈ last.sources.values.map (·.name) ↔ name ∈ last.sources.keys := by
  have same : last.sources.values.map (·.name) = last.sources.keys := by
    rw [OrderedMap.values, OrderedMap.keys, List.map_map]
    exact List.map_congr_left fun entry member => (labels entry.1 entry.2 member).1
  rw [same]

/-- A buffer for a region of blanks is a source of its own. -/
theorem name_of_blankRegion {sources : List Source} {buffer : Buffer} {path : Path}
    {region : String} (assembled : (workspace.sources tree).outcome = .ok sources)
    (member : buffer ∈ workspace.buffers) (place : buffer.id.path = some path)
    (named : buffer.id.namedRegion? = some region) (blank : isBlankText region = true) :
    path.text ++ "@" ++ region ∈ sources.map (·.name) := by
  obtain ⟨last, added, rfl⟩ := sources_eq_ok.mp assembled
  rw [mem_names (labels_sources added)]
  obtain ⟨merged, present, same⟩ := exists_merged_same_place member
  obtain ⟨before, after, split⟩ := List.append_of_mem present
  rw [split, List.append_cons] at added
  obtain ⟨next, reached, others⟩ := Assembly.addBuffers_append_eq_ok.mp added
  obtain ⟨previous, _, first⟩ := Assembly.addBuffers_concat_eq_ok.mp reached
  obtain ⟨name, change, unplaced, writes, rfl⟩ := Assembly.addBuffer_eq_ok.mp first
  have begun : name = path.text ++ "@" ++ region := by
    rw [← same] at place named
    cases writes with
    | sample none => simp [none] at place
    | whole _ unnamed => simp [unnamed] at named
    | framed _ other _ filled =>
        obtain rfl := Option.some.inj (named.symm.trans other)
        obtain ⟨span, found, _⟩ := Option.map_eq_some_iff.mp filled
        simp [(Region.solid_of_find found).2] at blank
    | alone here other _ _ =>
        obtain rfl := Option.some.inj (place.symm.trans here)
        obtain rfl := Option.some.inj (named.symm.trans other)
        rfl
  refine Assembly.addBuffers_preserves (motive := fun assembly =>
    path.text ++ "@" ++ region ∈ assembly.sources.keys) (fun _ _ assembly next first kept => ?_) ?_
    others
  · obtain ⟨other, change, unplaced, _, rfl⟩ := Assembly.addBuffer_eq_ok.mp first
    rw [OrderedMap.keys_alter]
    split
    · exact kept
    · exact List.mem_append_left _ kept
  · rw [begun, OrderedMap.keys_alter]
    split
    · assumption
    · simp

/-- No source has the name of a region of blanks when no buffer is for one. -/
theorem name_of_spared {sources : List Source} {path : Path} {region : String}
    (clear : ∀ path ∈ workspace.paths, IsClear path) (own : IsClear path)
    (solid : ∀ buffer ∈ workspace.buffers, ∀ name, buffer.id.namedRegion? = some name →
      isBlankText name = false)
    (blank : isBlankText region = true)
    (assembled : (workspace.sources tree).outcome = .ok sources) :
    path.text ++ "@" ++ region ∉ sources.map (·.name) := by
  intro member
  obtain ⟨last, added, rfl⟩ := sources_eq_ok.mp assembled
  have labels := labels_sources added
  obtain ⟨⟨name, source⟩, present, same⟩ := List.mem_map.mp ((mem_names labels).mp member)
  obtain ⟨_, place, begins⟩ := labels name source present
  have signed {other : Path} (clear : IsClear other) : other.text ≠ path.text ++ "@" ++ region := by
    intro same
    refine clear.2 ?_
    rw [same]
    simp
  simp only at same
  cases begins with
  | file member => exact signed (clear _ (List.mem_append_left _ (List.mem_map_of_mem member))) same
  | whole member place => exact signed (clear _ (mem_paths member place)) same
  | @region id other otherRegion member place named =>
      have whole : other.text.toList ++ '@' :: otherRegion.toList =
          path.text.toList ++ '@' :: region.toList := by
        simpa using congrArg String.toList same
      have samePath := eq_of_append_eq (clear _ (mem_paths member place)).2 own.2 (by simp)
        (by simp) whole
      rw [samePath, List.append_cancel_left_eq, List.cons.injEq, String.toList_inj] at whole
      obtain ⟨buffer, present, rfl⟩ := List.mem_map.mp member
      rw [whole.2] at named
      simp [solid buffer present region named] at blank
  | sample member place number =>
      have heads := congrArg (fun text => text.toList.head?) same
      simp [head_of_isClear own] at heads

end Workspace

/-! ## Fragments without blank regions -/

namespace Fragment

variable {fragment : Fragment}

def withoutBlankRegion (fragment : Fragment) : Fragment :=
  { fragment with region := fragment.region.filter (!isBlankText ·) }

/-- A sample that is placed in a region of a file whose name is made of blanks. -/
structure IsInBlankRegion (fragment : Fragment) : Prop where
  sample : fragment.editable = true
  placed : (fragment.destination.or fragment.sourceFile).isSome = true
  blank : ∃ region, fragment.region = some region ∧ region ≠ "" ∧ isBlankText region = true

theorem isBlankRegion_ofFragment :
    (Buffer.ofFragment fragment).id.IsBlankRegion ↔
      (fragment.destination.or fragment.sourceFile).isSome = true ∧
        ∃ region, fragment.region = some region ∧ region ≠ "" ∧ isBlankText region = true := by
  simp [BufferId.IsBlankRegion, Buffer.ofFragment, BufferId.namedRegion?, and_assoc]

end Fragment

namespace Includes

variable {tree : Tree} {defaults : IncludeDefaults} {fragments : List Fragment}
  {includes : Includes} {scope : Scope}

theorem inclusionOf_withoutBlankRegion (fragment : Fragment) :
    inclusionOf tree defaults fragment.withoutBlankRegion = inclusionOf tree defaults fragment := by
  have once : (fragment.region.filter (!isBlankText ·)).filter (!isBlankText ·) =
      fragment.region.filter (!isBlankText ·) := by
    rw [Option.filter_filter]
    simp
  simp only [inclusionOf, Fragment.withoutBlankRegion, once]

theorem collect_withoutBlankRegions :
    collect tree defaults (fragments.map Fragment.withoutBlankRegion) =
      collect tree defaults fragments := by
  have readOnly : (fragments.map Fragment.withoutBlankRegion).filter (!·.editable) =
      (fragments.filter (!·.editable)).map Fragment.withoutBlankRegion := by
    rw [List.filter_map]
    rfl
  rw [collect, collect, readOnly, List.mapM_map]
  simp only [Function.comp_def, inclusionOf_withoutBlankRegion]

/-- What is included goes into no region with a blank name. -/
theorem solid_of_buffersIn (collected : collect tree defaults fragments = .ok includes)
    {buffer : Buffer} (member : buffer ∈ includes.buffersIn scope) :
    ∃ region, buffer.id.region = some region ∧ isBlankText region = false := by
  obtain ⟨inclusions, related, rfl⟩ := collect_eq_ok.mp collected
  obtain ⟨⟨key, texts⟩, entry, rfl⟩ := List.mem_map.mp member
  have inside := List.mem_of_mem_filter entry
  simp only [ofInclusions, entries_grouped] at inside
  obtain ⟨other, present, same⟩ := List.mem_map.mp inside
  obtain ⟨rfl, _⟩ := Prod.mk.inj same
  obtain ⟨inclusion, there, keyed⟩ := List.mem_filterMap.mp (mem_distinct.mp present)
  obtain ⟨region, given, rfl⟩ := Option.map_eq_some_iff.mp keyed
  obtain ⟨fragment, _, _, included⟩ := (mem_inclusions related inclusion).mp there
  rw [(inclusionOf_eq_ok included).2.1] at given
  have solid := (Option.filter_eq_some_iff.mp given).2
  exact ⟨region, rfl, by simpa using solid⟩

end Includes

namespace Workspace

variable {tree : Tree} {defaults : IncludeDefaults} {fragments : List Fragment}
  {includes : Includes} {name : Option String}

theorem ofSession_withoutBlankRegions (collected : Includes.collect tree defaults fragments =
      .ok includes) (own : List Fragment) :
    ofSession ⟨name, own.map Fragment.withoutBlankRegion⟩ includes =
      (ofSession ⟨name, own⟩ includes).withoutBlankRegions := by
  have included (scopes : List Scope) : (scopes.flatMap includes.buffersIn).map
      (Buffer.relocate BufferId.withoutBlankRegion) = scopes.flatMap includes.buffersIn := by
    refine (List.map_congr_left fun buffer member => ?_).trans (List.map_id' _)
    obtain ⟨scope, _, inside⟩ := List.mem_flatMap.mp member
    obtain ⟨region, given, solid⟩ := Includes.solid_of_buffersIn collected inside
    rw [Buffer.relocate, BufferId.withoutBlankRegion, given]
    simp [Option.filter, solid, ← given]
  have samples : (Session.editableFragments ⟨name, own.map Fragment.withoutBlankRegion⟩).map
      Buffer.ofFragment = ((Session.editableFragments ⟨name, own⟩).map Buffer.ofFragment).map
        (Buffer.relocate BufferId.withoutBlankRegion) := by
    simp only [Session.editableFragments, List.filter_map, List.map_map]
    rfl
  have project : Session.project? ⟨name, own.map Fragment.withoutBlankRegion⟩ =
      Session.project? ⟨name, own⟩ := by
    simp only [Session.project?, Session.projects, List.filterMap_map]
    rfl
  rw [ofSession, ofSession, withoutBlankRegions, List.map_append, included, samples, project]
  rfl

theorem forName_withoutBlankRegions {workspace : Workspace}
    (built : forName tree defaults fragments name = .ok (some workspace)) :
    forName tree defaults (fragments.map Fragment.withoutBlankRegion) name =
      .ok (some workspace.withoutBlankRegions) := by
  obtain ⟨includes, collected, ⟨fragment, member, here⟩, rfl⟩ := forName_eq_some.mp built
  have own : (fragments.map Fragment.withoutBlankRegion).filter (·.session = name) =
      (fragments.filter (·.session = name)).map Fragment.withoutBlankRegion := by
    rw [List.filter_map]
    rfl
  refine forName_eq_some.mpr ⟨includes, Includes.collect_withoutBlankRegions.trans collected,
    ⟨_, List.mem_map_of_mem member, here⟩, ?_⟩
  rw [own, ofSession_withoutBlankRegions collected]

/-- A session has a buffer for a blank region when one of its samples is placed in one. -/
theorem exists_blankRegion_iff {workspace : Workspace}
    (built : forName tree defaults fragments name = .ok (some workspace)) :
    (∀ buffer ∈ workspace.buffers, ¬ buffer.id.IsBlankRegion) ↔
      ∀ fragment ∈ fragments, fragment.session = name → ¬ fragment.IsInBlankRegion := by
  obtain ⟨includes, collected, _, rfl⟩ := forName_eq_some.mp built
  constructor
  · intro spared fragment member here blank
    refine spared (.ofFragment fragment) (List.mem_append_left _ (List.mem_map_of_mem ?_))
      (Fragment.isBlankRegion_ofFragment.mpr ⟨blank.placed, blank.blank⟩)
    simp [Session.editableFragments, member, here, blank.sample]
  · intro spared buffer member blank
    rcases List.mem_append.mp member with own | included
    · obtain ⟨fragment, inside, rfl⟩ := List.mem_map.mp own
      obtain ⟨present, sample⟩ := List.mem_filter.mp inside
      obtain ⟨there, here⟩ := List.mem_filter.mp present
      obtain ⟨placed, named⟩ := Fragment.isBlankRegion_ofFragment.mp blank
      exact spared fragment there (by simpa using here) ⟨sample, placed, named⟩
    · obtain ⟨scope, _, inside⟩ := List.mem_flatMap.mp included
      obtain ⟨region, given, solid⟩ := Includes.solid_of_buffersIn collected inside
      obtain ⟨_, other, named, blank⟩ := blank
      have same := (Option.filter_eq_some_iff.mp named).1
      rw [given, Option.some.injEq] at same
      simp [← same, solid] at blank

end Workspace

/-- What is included is the same without blank regions.  So are the sources of a session, unless
a sample of it is placed in a region of a file whose name is made of blanks; then the names of
its sources are others, at least when no path looks like one with a region. -/
theorem blank_region_is_none_iff (tree : Tree) (defaults : IncludeDefaults)
    (fragments : List Fragment) :
    Includes.collect tree defaults (fragments.map Fragment.withoutBlankRegion) =
      Includes.collect tree defaults fragments ∧
    ∀ name workspace, Workspace.forName tree defaults fragments name = .ok (some workspace) →
      ∃ bare, Workspace.forName tree defaults (fragments.map Fragment.withoutBlankRegion) name =
          .ok (some bare) ∧
        ((∀ fragment ∈ fragments, fragment.session = name → ¬ fragment.IsInBlankRegion) →
          bare.sources tree = workspace.sources tree) ∧
        ∀ sources others, (workspace.sources tree).outcome = .ok sources →
          (bare.sources tree).outcome = .ok others →
          (∀ path ∈ workspace.paths, path.isAbsolute = true ∧ '@' ∉ path.text.toList) →
          (others.map (·.name) = sources.map (·.name) ↔
            ∀ fragment ∈ fragments, fragment.session = name → ¬ fragment.IsInBlankRegion) := by
  refine ⟨Includes.collect_withoutBlankRegions, fun name workspace built => ?_⟩
  have spared := Workspace.exists_blankRegion_iff built
  refine ⟨_, Workspace.forName_withoutBlankRegions built,
    fun none => Workspace.sources_withoutBlankRegions (spared.mpr none), ?_⟩
  intro sources others assembled reassembled clear
  constructor
  · intro same
    refine spared.mp fun buffer member blank => ?_
    obtain ⟨somePath, region, named, blank⟩ := blank
    obtain ⟨path, place⟩ := Option.isSome_iff_exists.mp somePath
    have own := Workspace.mem_paths (List.mem_map_of_mem member) place
    have present := Workspace.name_of_blankRegion assembled member place named blank
    have paths : workspace.withoutBlankRegions.paths = workspace.paths := by
      simp only [Workspace.paths, Workspace.withoutBlankRegions, List.filterMap_map]
      rfl
    refine Workspace.name_of_spared (paths ▸ clear) (clear path own) ?_ blank reassembled
      (same ▸ present)
    intro relocated inside other filtered
    obtain ⟨original, _, rfl⟩ := List.mem_map.mp inside
    rw [Buffer.relocate, BufferId.namedRegion_withoutBlankRegion] at filtered
    simpa using (Option.filter_eq_some_iff.mp filtered).2
  · intro none
    rw [Workspace.sources_withoutBlankRegions (spared.mpr none)] at reassembled
    obtain rfl := Except.ok.inj (assembled.symm.trans reassembled)
    rfl

/-! ## An empty region, and one of blanks -/

/-- A sample for a region of the file that is included for everyone. -/
def regionSample (region : String) : Fragment :=
  { sharedSample with destination := some sharedFile, region := some region }

def blankInclude : Fragment :=
  { sharedInclude none "g = 1" with region := some " " }

def regionWorkspace (region : String) : Workspace where
  session := some "s1"
  buffers := [⟨⟨some sharedFile, some region⟩, "sample()", true⟩]
  files := [⟨sharedFile, "g = 1\n"⟩]

theorem forName_regionSample (region : String) :
    Workspace.forName emptyTree rootDefaults [blankInclude, regionSample region] (some "s1") =
      .ok (some (regionWorkspace region)) := by
  have included : Includes.inclusionOf emptyTree rootDefaults blankInclude =
      .ok ⟨Scope.ofSession none, sharedFile, none, "g = 1\n"⟩ := by
    have whole : blankInclude.withoutBlankRegion = sharedInclude none "g = 1" := by decide
    rw [← Includes.inclusionOf_withoutBlankRegion, whole]
    exact inclusionOf_sharedInclude none "g = 1" rootDefaults
  have collected : Includes.collect emptyTree rootDefaults [blankInclude, regionSample region] =
      .ok (Includes.ofInclusions [⟨Scope.ofSession none, sharedFile, none, "g = 1\n"⟩]) :=
    Includes.collect_eq_ok.mpr ⟨_, .cons included .nil, rfl⟩
  refine Workspace.forName_eq_some.mpr ⟨_, collected, ⟨regionSample region, by simp, rfl⟩, ?_⟩
  have own : [blankInclude, regionSample region].filter (·.session = some "s1") =
      [regionSample region] := rfl
  rw [own]
  rfl

theorem blank_region_is_none_when_empty :
    [blankInclude, regionSample ""].map Fragment.withoutBlankRegion ≠
        [blankInclude, regionSample ""] ∧
      ∃ workspace bare,
        Workspace.forName emptyTree rootDefaults [blankInclude, regionSample ""] (some "s1") =
          .ok (some workspace) ∧
        Workspace.forName emptyTree rootDefaults
            ([blankInclude, regionSample ""].map Fragment.withoutBlankRegion) (some "s1") =
          .ok (some bare) ∧
        bare.sources emptyTree = workspace.sources emptyTree := by
  have built := forName_regionSample ""
  obtain ⟨bare, rebuilt, same, _⟩ :=
    (blank_region_is_none_iff emptyTree rootDefaults [blankInclude, regionSample ""]).2 _ _ built
  refine ⟨by decide, _, bare, built, rebuilt, same ?_⟩
  intro fragment member _ blank
  obtain ⟨region, given, filled, _⟩ := blank.blank
  rcases List.mem_cons.mp member with rfl | later
  · exact absurd blank.sample (by decide)
  · rw [List.mem_singleton.mp later] at given
    exact filled (Option.some.inj given).symm

/-- A sample in a region of blanks is a source of its own, and in none it is one with its file. -/
theorem blank_region_is_kept :
    ∃ (fragments : List Fragment) (workspace bare : Workspace) (sources others : List Source),
      Workspace.forName emptyTree rootDefaults fragments (some "s1") = .ok (some workspace) ∧
      Workspace.forName emptyTree rootDefaults (fragments.map Fragment.withoutBlankRegion)
        (some "s1") = .ok (some bare) ∧
      (workspace.sources emptyTree).outcome = .ok sources ∧
      (bare.sources emptyTree).outcome = .ok others ∧
      sources.map (·.name) = ["/docs/shared.py", "/docs/shared.py@ "] ∧
      others.map (·.name) = ["/docs/shared.py"] := by
  have built := forName_regionSample " "
  have merged : Buffer.mergeRegions (regionWorkspace " ").buffers = (regionWorkspace " ").buffers :=
    Buffer.mergeRegions_of_nodup (by decide)
  have bare : (regionWorkspace " ").withoutBlankRegions = { regionWorkspace " " with
      buffers := [⟨⟨some sharedFile, none⟩, "sample()", true⟩] } := by
    decide
  have alone : Buffer.mergeRegions [⟨⟨some sharedFile, none⟩, "sample()", true⟩] =
      [⟨⟨some sharedFile, none⟩, "sample()", true⟩] :=
    Buffer.mergeRegions_of_nodup (by decide)
  refine ⟨_, _, _, [⟨"/docs/shared.py", "g = 1\n", some sharedFile, false⟩,
      ⟨"/docs/shared.py@ ", "sample()", some sharedFile, true⟩],
    [⟨"/docs/shared.py", "g = 1\nsample()", some sharedFile, true⟩],
    built, Workspace.forName_withoutBlankRegions built, ?_, ?_, by decide, by decide⟩
  · rw [Workspace.sources, merged]
    exact Except.eq_ok_of_toOption (by decide +kernel)
  · rw [bare, Workspace.sources, alone]
    exact Except.eq_ok_of_toOption (by decide +kernel)

end DocSamples
