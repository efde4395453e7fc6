import Mathlib
import DocSamples.Proofs.Include
import DocSamples.Proofs.Path
import DocSamples.Proofs.Session
import DocSamples.Proofs.Source.Assembly
import DocSamples.Proofs.Tree

namespace DocSamples

open Text

/-! # Included files in sources

A file that is included for a session alone takes the place of one that is included
for all sessions at the same path.  Every other included text is in the source of
its path, before what samples add to it.
-/

namespace Sources

theorem keys_ofFiles (files : List IncludedFile) :
    (ofFiles files).keys = distinct (files.map (·.path.text)) := by
  induction files using List.reverseRecOn with
  | nil => rfl
  | append_singleton files file ih =>
      rw [ofFiles_append_singleton, OrderedMap.insert, OrderedMap.keys_alter, ih, List.map_append,
        List.map_singleton, distinct_append_singleton]
      simp only [mem_distinct]

theorem find?_ofFiles_path (files : List IncludedFile) (path : Path) :
    (ofFiles files).find? path.text = (files.filter (·.path = path)).getLast?.map ofFile := by
  simp only [find?_ofFiles, Path.text_injective.eq_iff]

theorem ofFiles_congr {files others : List IncludedFile}
    (paths : files.map (·.path) = others.map (·.path))
    (lasts : ∀ path, (files.filter (·.path = path)).getLast? =
      (others.filter (·.path = path)).getLast?) : ofFiles files = ofFiles others := by
  have texts : files.map (·.path.text) = others.map (·.path.text) := by
    simpa only [List.map_map, Function.comp_def] using congrArg (List.map Path.text) paths
  refine OrderedMap.eq_of_find? (keys_nodup_ofFiles files) (by simp only [keys_ofFiles, texts]) ?_
  intro name
  by_cases named : ∃ path : Path, path.text = name
  · obtain ⟨path, rfl⟩ := named
    rw [find?_ofFiles_path, find?_ofFiles_path, lasts]
  · have none (files : List IncludedFile) : files.filter (·.path.text = name) = [] :=
      List.filter_eq_nil_iff.mpr fun file _ => by simpa using fun same => named ⟨file.path, same⟩
    rw [find?_ofFiles, find?_ofFiles, none, none]

end Sources

namespace Includes

variable {inclusions before after : List Inclusion} {inclusion : Inclusion} {own : Scope}
  {session : Session} {path : Path} {text : String}

/-- The files that a session includes at a path: at most one of each scope. -/
theorem filter_files : ((Workspace.ofSession session (ofInclusions inclusions)).files.filter
    (·.path = path)) = session.scopes.flatMap fun scope =>
      if textsAt Inclusion.fileKey? ⟨scope, path⟩ inclusions = [] then []
      else [fileOf ⟨scope, path⟩ (textsAt Inclusion.fileKey? ⟨scope, path⟩ inclusions)] := by
  simp only [Workspace.ofSession, List.filter_flatMap, filter_filesIn]

end Includes

/-- An include of a session alone at the path of one that all sessions see. -/
structure Inclusion.Shadows (session : Session) (other inclusion : Inclusion) : Prop where
  own : other.scope = Scope.ofSession session.name
  apart : other.scope ≠ inclusion.scope
  path : other.path = inclusion.path
  whole : other.region = none

namespace Includes

variable {inclusions before after : List Inclusion} {inclusion : Inclusion}
  {session : Session} {path : Path} {text : String}

theorem fileKey_eq_some {key : FileKey} : inclusion.fileKey? = some key ↔
    inclusion.scope = key.scope ∧ inclusion.path = key.path ∧ inclusion.region = none := by
  cases key
  cases region : inclusion.region <;> simp [Inclusion.fileKey?, region]

theorem text_infix_fileOf (member : inclusion ∈ inclusions) {key : FileKey}
    (here : inclusion.fileKey? = some key) :
    inclusion.text.toList <:+: (fileOf key (textsAt Inclusion.fileKey? key inclusions)).content.toList := by
  rw [fileOf, String.toList_join, List.flatMap_def]
  exact List.infix_of_mem_flatten (List.mem_map_of_mem (List.mem_map_of_mem
    (List.mem_filter.mpr ⟨member, by simpa using here⟩)))

/-- A text that is not shadowed is in the file that is included last at its path. -/
theorem text_infix_of_not_shadowed (member : inclusion ∈ inclusions)
    (whole : inclusion.region = none) (visible : inclusion.scope ∈ session.scopes)
    (unshadowed : ¬ ∃ other ∈ inclusions, other.Shadows session inclusion) :
    ∃ file, ((Workspace.ofSession session (ofInclusions inclusions)).files.filter
        (·.path = inclusion.path)).getLast? = some file ∧ file.path = inclusion.path ∧
      inclusion.text.toList <:+: file.content.toList := by
  have key : inclusion.fileKey? = some ⟨inclusion.scope, inclusion.path⟩ :=
    fileKey_eq_some.mpr ⟨rfl, rfl, whole⟩
  have filled : textsAt Inclusion.fileKey? ⟨inclusion.scope, inclusion.path⟩ inclusions ≠ [] :=
    textsAt_ne_nil.mpr ⟨inclusion, member, key⟩
  refine ⟨fileOf ⟨inclusion.scope, inclusion.path⟩ _, ?_, rfl, text_infix_fileOf member key⟩
  rw [filter_files]
  rcases session.scopes_cases with ⟨scopes, _⟩ | scopes
  · have everyone : inclusion.scope = .everyone := by simpa [scopes] using visible
    simp [scopes, ← everyone, filled]
  · by_cases own : inclusion.scope = Scope.ofSession session.name
    · rw [scopes, ← own]
      simp [filled]
    · have everyone : inclusion.scope = .everyone := by simpa [scopes, own] using visible
      have nothing : textsAt Inclusion.fileKey? ⟨Scope.ofSession session.name, inclusion.path⟩
          inclusions = [] := by
        by_contra something
        obtain ⟨other, inside, place⟩ := textsAt_ne_nil.mp something
        obtain ⟨scope, path, region⟩ := fileKey_eq_some.mp place
        exact unshadowed ⟨other, inside, scope, fun same => own (same.symm.trans scope), path, region⟩
      simp [scopes, ← everyone, filled, nothing]

/-- What is in the file of a shadowed inclusion does not matter. -/
theorem ofFiles_changed_of_shadowed
    (shadowed : ∃ other ∈ before ++ inclusion :: after, other.Shadows session inclusion) :
    Sources.ofFiles (Workspace.ofSession session
        (ofInclusions (before ++ { inclusion with text } :: after))).files =
      Sources.ofFiles (Workspace.ofSession session
        (ofInclusions (before ++ inclusion :: after))).files := by
  refine Sources.ofFiles_congr ?_ fun path => ?_
  · simp only [Workspace.ofSession, List.map_flatMap, filePaths_changed]
  · obtain ⟨other, member, own, apart, place, otherWhole⟩ := shadowed
    have covered : textsAt Inclusion.fileKey? ⟨Scope.ofSession session.name, inclusion.path⟩
        (before ++ inclusion :: after) ≠ [] :=
      textsAt_ne_nil.mpr ⟨other, member, fileKey_eq_some.mpr ⟨own, place, otherWhole⟩⟩
    have same (scope : Scope) (elsewhere : scope ≠ inclusion.scope ∨ path ≠ inclusion.path) :
        textsAt Inclusion.fileKey? ⟨scope, path⟩ (before ++ { inclusion with text } :: after) =
          textsAt Inclusion.fileKey? ⟨scope, path⟩ (before ++ inclusion :: after) := by
      refine fileTexts_changed fun key => ?_
      obtain ⟨inScope, atPath, _⟩ := fileKey_eq_some.mp key
      rcases elsewhere with apart | away
      · exact apart inScope.symm
      · exact away atPath.symm
    rw [filter_files, filter_files]
    by_cases there : path = inclusion.path
    · subst there
      have last := same _ (.inl (own ▸ apart))
      rcases session.scopes_cases with ⟨scopes, global⟩ | scopes
      · simp only [scopes, ← global, List.flatMap_cons, List.flatMap_nil, last]
      · simp [scopes, last, covered]
    · simp only [same _ (.inr there)]

end Includes

namespace Assembly

variable {tree : Tree} {assembly last : Assembly} {path : Path} {part : List Char}

/-- Without buffers for its regions, a source keeps its text and gets more after it. -/
theorem text_infix_addBuffers {buffers : List Buffer}
    (unfilled : ∀ buffer ∈ buffers, buffer.isForRegion = true → buffer.id.path ≠ some path)
    (begun : ∃ source, assembly.sources.find? path.text = some source ∧ source.path = some path ∧
      part <:+: source.text.toList)
    (added : (assembly.addBuffers tree buffers).outcome = .ok last) :
    ∃ source, last.sources.find? path.text = some source ∧ source.path = some path ∧
      part <:+: source.text.toList := by
  refine addBuffers_preserves (motive := fun assembly => ∃ source,
    assembly.sources.find? path.text = some source ∧ source.path = some path ∧
      part <:+: source.text.toList) (fun buffer member assembly next first before => ?_) begun added
  obtain ⟨old, present, there, inside⟩ := before
  obtain ⟨name, source, gives, found, others, _⟩ := exists_addsTo first
  by_cases same : path.text = name
  · subst same
    rw [present] at gives
    cases gives with
    | appended =>
        exact ⟨_, found, there, inside.trans (toList_prefix_joinTexts _ _).isInfix⟩
    | framed place named target _ _ _ =>
        obtain rfl := Path.text_injective target
        exact absurd place (unfilled buffer member (by simp [Buffer.isForRegion, place, named]))
  · exact ⟨old, (others _ same).trans present, there, inside⟩

end Assembly

theorem Includes.text_infix_source {tree : Tree} {inclusions : List Inclusion}
    {inclusion : Inclusion} {session : Session} {sources : List Source}
    (member : inclusion ∈ inclusions) (whole : inclusion.region = none)
    (visible : inclusion.scope ∈ session.scopes)
    (unshadowed : ¬ ∃ other ∈ inclusions, other.Shadows session inclusion)
    (unfilled : ∀ buffer ∈ (Workspace.ofSession session (ofInclusions inclusions)).buffers,
      buffer.isForRegion = true → buffer.id.path ≠ some inclusion.path)
    (assembled : ((Workspace.ofSession session (ofInclusions inclusions)).sources tree).outcome =
      .ok sources) :
    ∃ source ∈ sources, source.path = some inclusion.path ∧
      inclusion.text.toList <:+: source.text.toList := by
  obtain ⟨last, added, rfl⟩ := Workspace.sources_eq_ok.mp assembled
  obtain ⟨file, final, there, inside⟩ :=
    text_infix_of_not_shadowed member whole visible unshadowed
  have begun : (Sources.ofFiles (Workspace.ofSession session (ofInclusions inclusions)).files).find?
      inclusion.path.text = some (Sources.ofFile file) := by
    rw [Sources.find?_ofFiles_path, final, Option.map_some]
  have mergedUnfilled : ∀ buffer ∈ Buffer.mergeRegions
      (Workspace.ofSession session (ofInclusions inclusions)).buffers,
      buffer.isForRegion = true → buffer.id.path ≠ some inclusion.path := by
    intro merged inMerged region
    obtain ⟨part, inBuffers, same⟩ := Buffer.exists_same_place inMerged
    rw [← same]
    exact unfilled part inBuffers (by simpa [Buffer.isForRegion, same] using region)
  obtain ⟨source, found, atPath, kept⟩ := Assembly.text_infix_addBuffers mergedUnfilled
    ⟨_, begun, by rw [Sources.ofFile, there], inside⟩ added
  exact ⟨source, (Assembly.mem_values_addBuffers (Sources.keys_nodup_ofFiles _) added).mpr
    ⟨_, found⟩, atPath, kept⟩

/-! ## Another text for one fragment -/

section Changed

variable {tree : Tree} {before after : List Fragment} {first last : List Inclusion}
  {fragment : Fragment} {inclusion : Inclusion} {session other : Session} {text : String}

theorem Session.exists_changed (built : session ∈ ofFragments (before ++ fragment :: after))
    (text : String) : ∃ other ∈ ofFragments (before ++ { fragment with text } :: after),
      other.name = session.name := by
  obtain ⟨member, inside, rfl⟩ := mem_ofFragments.mp built
  obtain ⟨changed, there, same⟩ : ∃ changed ∈ before ++ { fragment with text } :: after,
      changed.session = member.session := by
    rcases List.mem_append.mp inside with early | late
    · exact ⟨member, List.mem_append_left _ early, rfl⟩
    · rcases List.mem_cons.mp late with rfl | late
      · exact ⟨_, List.mem_append_right _ List.mem_cons_self, rfl⟩
      · exact ⟨member, List.mem_append_right _ (List.mem_cons_of_mem _ late), rfl⟩
  exact ⟨_, mem_ofFragments.mpr ⟨changed, there, rfl⟩, same⟩

theorem Session.editableFragments_changed (readOnly : fragment.editable = false)
    (built : session ∈ ofFragments (before ++ fragment :: after))
    (changed : other ∈ ofFragments (before ++ { fragment with text } :: after))
    (same : other.name = session.name) : other.editableFragments = session.editableFragments := by
  obtain ⟨_, _, rfl⟩ := mem_ofFragments.mp built
  obtain ⟨_, _, rfl⟩ := mem_ofFragments.mp changed
  simp only [editableFragments, List.filter_filter, List.filter_append]
  simp_all

theorem Session.scopes_congr (same : other.name = session.name) :
    other.scopes = session.scopes := by
  simp only [scopes, same]

theorem Workspace.buffers_changed (whole : inclusion.region = none)
    (editable : other.editableFragments = session.editableFragments)
    (same : other.name = session.name) :
    (ofSession other (Includes.ofInclusions (first ++ { inclusion with text } :: last))).buffers =
      (ofSession session (Includes.ofInclusions (first ++ inclusion :: last))).buffers := by
  simp only [ofSession, editable, Session.scopes_congr same, Includes.buffersIn_changed whole]

theorem Workspace.sources_changed_of_shadowed (whole : inclusion.region = none)
    (editable : other.editableFragments = session.editableFragments)
    (same : other.name = session.name)
    (shadowed : ∃ place ∈ first ++ inclusion :: last, place.Shadows session inclusion) :
    (ofSession other (Includes.ofInclusions (first ++ { inclusion with text } :: last))).sources tree =
      (ofSession session (Includes.ofInclusions (first ++ inclusion :: last))).sources tree := by
  have files (includes : Includes) :
      (ofSession other includes).files = (ofSession session includes).files := by
    simp only [ofSession, Session.scopes_congr same]
  rw [sources, sources, buffers_changed whole editable same, files,
    Includes.ofFiles_changed_of_shadowed shadowed]

end Changed

/-- The compiler gets a text in the source of a path, for the session of a name. -/
def Reaches (tree : Tree) (defaults : IncludeDefaults) (fragments : List Fragment)
    (name : Option String) (path : Path) (text : String) : Prop :=
  ∀ session ∈ Session.ofFragments fragments, session.name = name →
    ∀ includes sources, Includes.collect tree defaults fragments = .ok includes →
      ((Workspace.ofSession session includes).sources tree).outcome = .ok sources →
      ∃ source ∈ sources, source.path = some path ∧ text.toList <:+: source.text.toList

theorem include_reaches_iff_not_shadowed {tree : Tree} {defaults : IncludeDefaults}
    {before after : List Fragment} {fragment : Fragment} {session : Session}
    {inclusion : Inclusion} {includes : Includes} {sources : List Source}
    (built : session ∈ Session.ofFragments (before ++ fragment :: after))
    (readOnly : fragment.editable = false)
    (wholeFile : ∀ region ∈ fragment.region, isBlankText region = true)
    (included : Includes.inclusionOf tree defaults fragment = .ok inclusion)
    (visible : inclusion.scope ∈ session.scopes)
    (collected : Includes.collect tree defaults (before ++ fragment :: after) = .ok includes)
    (unfilled : ∀ buffer ∈ (Workspace.ofSession session includes).buffers,
      buffer.isForRegion = true → buffer.id.path ≠ some inclusion.path)
    (assembled : ((Workspace.ofSession session includes).sources tree).outcome = .ok sources) :
    (∀ text, Reaches tree defaults (before ++ { fragment with text } :: after) session.name
      inclusion.path text) ↔
      ¬ ∃ other ∈ before ++ fragment :: after, other.editable = false ∧
        ∃ place, Includes.inclusionOf tree defaults other = .ok place ∧
          place.Shadows session inclusion := by
  obtain ⟨first, last, rfl, places, changed⟩ := Includes.collect_changed readOnly included collected
  have shadowed : (∃ other ∈ before ++ fragment :: after, other.editable = false ∧
        ∃ place, Includes.inclusionOf tree defaults other = .ok place ∧
          place.Shadows session inclusion) ↔
      ∃ place ∈ first ++ inclusion :: last, place.Shadows session inclusion := by
    simp only [places]
    constructor
    · rintro ⟨other, member, plain, place, there, shadows⟩
      exact ⟨place, ⟨other, member, plain, there⟩, shadows⟩
    · rintro ⟨place, ⟨other, member, plain, there⟩, shadows⟩
      exact ⟨other, member, plain, place, there, shadows⟩
  have whole : inclusion.region = none := by
    obtain ⟨_, region, _⟩ := Includes.inclusionOf_eq_ok included
    rw [region]
    cases named : fragment.region <;> simp_all
  rw [shadowed]
  constructor
  · intro reaches shadowing
    -- A shadowed text does not change the sources, and one that is longer than all of
    -- them is in none.
    let long := String.join (sources.map (·.text)) ++ "x"
    obtain ⟨other, built', same⟩ := Session.exists_changed built long
    have editable := Session.editableFragments_changed readOnly built built' same
    have unmoved : ((Workspace.ofSession other (Includes.ofInclusions
        (first ++ { inclusion with text := long ++ "\n" } :: last))).sources tree).outcome =
          .ok sources := by
      rw [Workspace.sources_changed_of_shadowed whole editable same shadowing, assembled]
    obtain ⟨source, member, _, inside⟩ := reaches long other built' same _ _ (changed long) unmoved
    have part : source.text.toList <:+: (String.join (sources.map (·.text))).toList := by
      rw [String.toList_join, List.flatMap_def]
      exact List.infix_of_mem_flatten (List.mem_map_of_mem (List.mem_map_of_mem member))
    have shorter : source.text.toList.length < long.toList.length := by
      have within := part.length_le
      simp only [long, String.toList_append, List.length_append]
      exact Nat.lt_of_le_of_lt within (Nat.lt_add_of_pos_right (by decide))
    exact absurd inside.length_le (by omega)
  · intro unshadowed text other built' same includes' sources' collected' assembled'
    obtain rfl := Except.ok.inj ((changed text).symm.trans collected')
    have editable := Session.editableFragments_changed readOnly built built' same
    have still : ¬ ∃ place ∈ first ++ { inclusion with text := text ++ "\n" } :: last,
        place.Shadows other { inclusion with text := text ++ "\n" } := by
      rintro ⟨place, member, own, apart, path, placeWhole⟩
      have shadows : place.Shadows session inclusion := ⟨same ▸ own, apart, path, placeWhole⟩
      rcases List.mem_append.mp member with early | late
      · exact unshadowed ⟨place, by simp [early], shadows⟩
      · rcases List.mem_cons.mp late with rfl | late
        · exact apart rfl
        · exact unshadowed ⟨place, by simp [late], shadows⟩
    have visible' : inclusion.scope ∈ other.scopes := Session.scopes_congr same ▸ visible
    have here : ({ inclusion with text := text ++ "\n" } : Inclusion) ∈
        first ++ { inclusion with text := text ++ "\n" } :: last := by simp
    obtain ⟨source, member, there, inside⟩ := Includes.text_infix_source here whole visible' still
      (by rwa [Workspace.buffers_changed whole editable same]) assembled'
    refine ⟨source, member, there, List.IsInfix.trans ?_ inside⟩
    rw [String.toList_append]
    exact (List.prefix_append _ _).isInfix

/-! ## One shared file -/

def sharedFile : Path :=
  .ofNames .root ["docs", "shared.py"]

def sharedInclude (session : Option String) (text : String) : Fragment where
  document := .ofNames .root ["guide.md"]
  line := 3
  text := text
  session := session
  editable := false
  destination := some sharedFile

def sharedSample : Fragment where
  document := .ofNames .root ["guide.md"]
  line := 9
  text := "sample()"
  session := some "s1"

theorem inclusionOf_sharedInclude (session : Option String) (text : String)
    (defaults : IncludeDefaults) :
    Includes.inclusionOf ⟨[], []⟩ defaults (sharedInclude session text) =
      .ok ⟨Scope.ofSession session, sharedFile, none, text ++ "\n"⟩ := by
  have resolved : Tree.resolve ⟨[], []⟩ sharedFile = .ok sharedFile :=
    Tree.resolve_eq_self (Tree.noLinks_of_entries_nil rfl) rfl (by decide +kernel)
  simp [Includes.inclusionOf, sharedInclude, resolved, bind, Except.bind, pure, Except.pure]

/-- What all sessions include reaches one that includes nothing of its own there. -/
theorem include_reaches_unshadowed :
    ∃ session ∈ Session.ofFragments [sharedInclude none "g = 1", sharedSample],
      ∃ includes sources, Includes.collect ⟨[], []⟩ ⟨.ofNames .root [], ".py"⟩
          [sharedInclude none "g = 1", sharedSample] = .ok includes ∧
        ((Workspace.ofSession session includes).sources ⟨[], []⟩).outcome = .ok sources ∧
        ∃ source ∈ sources, source.path = some sharedFile ∧
          "g = 1".toList <:+: source.text.toList := by
  let session : Session := ⟨some "s1", [sharedSample]⟩
  let place : Inclusion := ⟨.everyone, sharedFile, none, "g = 1\n"⟩
  have built : session ∈ Session.ofFragments ([] ++ sharedInclude none "g = 1" :: [sharedSample]) :=
    Session.mem_ofFragments.mpr ⟨sharedSample, by simp, by decide +kernel⟩
  have included := inclusionOf_sharedInclude none "g = 1" ⟨.ofNames .root [], ".py"⟩
  have collected : Includes.collect ⟨[], []⟩ ⟨.ofNames .root [], ".py"⟩
      ([] ++ sharedInclude none "g = 1" :: [sharedSample]) = .ok (Includes.ofInclusions [place]) :=
    Includes.collect_eq_ok.mpr ⟨[place], .cons included .nil, rfl⟩
  have workspace : Workspace.ofSession session (Includes.ofInclusions [place]) =
      { session := some "s1"
        buffers := [⟨{}, "sample()", true⟩]
        files := [⟨sharedFile, "g = 1\n"⟩] } := by
    decide +kernel
  have merged : Buffer.mergeRegions [⟨{}, "sample()", true⟩] = [⟨{}, "sample()", true⟩] := by cbv
  have unfilled : ∀ buffer ∈ (Workspace.ofSession session (Includes.ofInclusions [place])).buffers,
      buffer.isForRegion = true → buffer.id.path ≠ some sharedFile := by
    rw [workspace]
    decide +kernel
  have assembled : ((Workspace.ofSession session (Includes.ofInclusions [place])).sources
      ⟨[], []⟩).outcome = .ok [⟨"/docs/shared.py", "g = 1\n", some sharedFile, false⟩,
        ⟨"<sample 1>", "sample()", none, true⟩] := by
    rw [workspace, Workspace.sources, merged]
    exact Except.eq_ok_of_toOption (by decide +kernel)
  have unshadowed : ¬ ∃ other ∈ [] ++ sharedInclude none "g = 1" :: [sharedSample],
      other.editable = false ∧ ∃ place,
        Includes.inclusionOf ⟨[], []⟩ ⟨.ofNames .root [], ".py"⟩ other = .ok place ∧
          place.Shadows session ⟨.everyone, sharedFile, none, "g = 1\n"⟩ := by
    rintro ⟨other, member, readOnly, place, there, shadows⟩
    rcases List.mem_cons.mp member with rfl | sample
    · cases included.symm.trans there
      exact shadows.apart rfl
    · obtain rfl := List.mem_singleton.mp sample
      simp [sharedSample] at readOnly
  have reaches := (include_reaches_iff_not_shadowed built rfl (by simp [sharedInclude]) included
    (by decide +kernel) collected unfilled assembled).mpr unshadowed
  exact ⟨session, built, _, _, collected, assembled,
    reaches "g = 1" session built rfl _ _ collected assembled⟩

/-- What all sessions include is gone where one session includes the same file. -/
theorem include_lost_to_session_include :
    ∃ session ∈ Session.ofFragments
        [sharedInclude none "g = 1", sharedInclude (some "s1") "s = 1", sharedSample],
      ∃ includes sources, Includes.collect ⟨[], []⟩ ⟨.ofNames .root [], ".py"⟩
          [sharedInclude none "g = 1", sharedInclude (some "s1") "s = 1", sharedSample] =
            .ok includes ∧
        Scope.everyone ∈ session.scopes ∧
        (∀ buffer ∈ (Workspace.ofSession session includes).buffers,
          buffer.isForRegion = true → buffer.id.path ≠ some sharedFile) ∧
        ((Workspace.ofSession session includes).sources ⟨[], []⟩).outcome = .ok sources ∧
        ¬ ∃ source ∈ sources, source.path = some sharedFile ∧
          "g = 1".toList <:+: source.text.toList := by
  let session : Session := ⟨some "s1", [sharedInclude (some "s1") "s = 1", sharedSample]⟩
  let places : List Inclusion := [⟨.everyone, sharedFile, none, "g = 1\n"⟩,
    ⟨Scope.ofSession (some "s1"), sharedFile, none, "s = 1\n"⟩]
  have built : session ∈ Session.ofFragments
      [sharedInclude none "g = 1", sharedInclude (some "s1") "s = 1", sharedSample] :=
    Session.mem_ofFragments.mpr ⟨sharedSample, by simp, by decide +kernel⟩
  have collected : Includes.collect ⟨[], []⟩ ⟨.ofNames .root [], ".py"⟩
      [sharedInclude none "g = 1", sharedInclude (some "s1") "s = 1", sharedSample] =
        .ok (Includes.ofInclusions places) :=
    Includes.collect_eq_ok.mpr ⟨places, .cons (inclusionOf_sharedInclude _ _ _)
      (.cons (inclusionOf_sharedInclude _ _ _) .nil), rfl⟩
  have workspace : Workspace.ofSession session (Includes.ofInclusions places) =
      { session := some "s1"
        buffers := [⟨{}, "sample()", true⟩]
        files := [⟨sharedFile, "g = 1\n"⟩, ⟨sharedFile, "s = 1\n"⟩] } := by
    decide +kernel
  have merged : Buffer.mergeRegions [⟨{}, "sample()", true⟩] = [⟨{}, "sample()", true⟩] := by cbv
  have assembled : ((Workspace.ofSession session (Includes.ofInclusions places)).sources
      ⟨[], []⟩).outcome = .ok [⟨"/docs/shared.py", "s = 1\n", some sharedFile, false⟩,
        ⟨"<sample 1>", "sample()", none, true⟩] := by
    rw [workspace, Workspace.sources, merged]
    exact Except.eq_ok_of_toOption (by decide +kernel)
  refine ⟨session, built, _, _, collected, by decide +kernel, ?_, assembled,
    by decide +kernel⟩
  rw [workspace]
  decide +kernel

end DocSamples
