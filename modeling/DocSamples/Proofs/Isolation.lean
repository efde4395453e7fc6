import Mathlib
import DocSamples.Workspace.Build
import DocSamples.Proofs.Include
import DocSamples.Proofs.Lists
import DocSamples.Proofs.Run.Document
import DocSamples.Proofs.Session
import DocSamples.Proofs.Source.Includes
import DocSamples.Proofs.Tree

namespace DocSamples

open Text

/-! # Sessions apart from each other

The workspace of a session is known from its own fragments and from the includes that it
sees.  Fragments of other sessions leave it as it is; one that cannot be placed takes the
workspaces of all sessions away.
-/

namespace Includes

variable {tree : Tree} {defaults : IncludeDefaults} {fragments : List Fragment}
  {inclusions : List Inclusion} {scope : Scope}

/-- What is grouped under the keys of one scope are the inclusions in it. -/
theorem filter_entries_grouped {κ : Type} [DecidableEq κ] {key? : Inclusion → Option κ}
    {scopeOf : κ → Scope}
    (keyed : ∀ inclusion key, key? inclusion = some key → scopeOf key = inclusion.scope) :
    (grouped key? inclusions).entries.filter (fun entry => scopeOf entry.1 = scope) =
      (grouped key? (inclusions.filter (·.scope = scope))).entries := by
  have keys : (inclusions.filterMap key?).filter (fun key => scopeOf key = scope) =
      (inclusions.filter (·.scope = scope)).filterMap key? := by
    rw [List.filterMap_filter, List.filter_filterMap]
    refine List.filterMap_congr fun inclusion _ => ?_
    cases found : key? inclusion with
    | none => simp
    | some key => simp [Option.filter, keyed _ _ found]
  have texts (key : κ) (here : scopeOf key = scope) :
      textsAt key? key (inclusions.filter (·.scope = scope)) = textsAt key? key inclusions := by
    rw [textsAt, textsAt, List.filter_filter]
    congr 1
    refine List.filter_congr fun inclusion _ => ?_
    by_cases found : key? inclusion = some key
    · simp [found, ← keyed _ _ found, here]
    · simp [found]
  simp only [entries_grouped, List.filter_map, Function.comp_def, filter_distinct_comm, keys]
  refine List.map_congr_left fun key member => ?_
  obtain ⟨inclusion, inside, found⟩ := List.mem_filterMap.mp (mem_distinct.mp member)
  have here : scopeOf key = scope := by
    rw [keyed _ _ found]
    simpa using (List.mem_filter.mp inside).2
  rw [texts key here]

theorem filesIn_filter : (ofInclusions (inclusions.filter (·.scope = scope))).filesIn scope =
    (ofInclusions inclusions).filesIn scope := by
  have keyed : ∀ inclusion key, Inclusion.fileKey? inclusion = some key →
      key.scope = inclusion.scope := by
    intro inclusion key found
    cases region : inclusion.region <;> simp [Inclusion.fileKey?, region] at found
    rw [← found]
  simp only [filesIn, ofInclusions, filter_entries_grouped keyed, List.filter_filter, Bool.and_self]

theorem buffersIn_filter : (ofInclusions (inclusions.filter (·.scope = scope))).buffersIn scope =
    (ofInclusions inclusions).buffersIn scope := by
  have keyed : ∀ inclusion key, Inclusion.regionKey? inclusion = some key →
      key.scope = inclusion.scope := by
    intro inclusion key found
    obtain ⟨region, _, rfl⟩ := Option.map_eq_some_iff.mp found
    rfl
  simp only [buffersIn, ofInclusions, filter_entries_grouped keyed, List.filter_filter, Bool.and_self]

theorem fault_of_inclusionOf {fragment : Fragment} {fault : PathFault}
    (failed : inclusionOf tree defaults fragment = .error fault) : fault.IsObstruction := by
  simp only [inclusionOf] at failed
  split at failed <;> simp only [Except.bind_eq_error] at failed <;>
    rcases failed with undecided | ⟨_, _, unresolved | ⟨_, _, failed⟩⟩
  · simp at undecided
  · exact Tree.fault_of_resolve unresolved
  · simp [pure, Except.pure] at failed
  · exact Tree.fault_of_resolve undecided
  · exact Tree.fault_of_resolve unresolved
  · simp [pure, Except.pure] at failed

end Includes

/-- Fragments that a session of a name includes, its own or those for everyone. -/
def Fragment.IsSeenBy (name : Option String) (fragment : Fragment) : Prop :=
  fragment.editable = false ∧ (Scope.ofSession fragment.session = .everyone ∨
    Scope.ofSession fragment.session = Scope.ofSession name)

instance (name : Option String) (fragment : Fragment) : Decidable (fragment.IsSeenBy name) :=
  inferInstanceAs (Decidable (_ ∧ _))

/-- Two lists of fragments have the same fragments of a session, and the same that it
includes, in the same order. -/
structure AgreeFor (name : Option String) (first second : List Fragment) : Prop where
  own : first.filter (·.session = name) = second.filter (·.session = name)
  seen : first.filter (Fragment.IsSeenBy name) = second.filter (Fragment.IsSeenBy name)

/-! ## Agreement -/

namespace Includes

variable {tree : Tree} {defaults : IncludeDefaults} {name : Option String}
  {fragments first second : List Fragment} {inclusions others : List Inclusion} {scope : Scope}

/-- The fragment is placed as this inclusion. -/
def Places (tree : Tree) (defaults : IncludeDefaults) (fragment : Fragment)
    (inclusion : Inclusion) : Prop :=
  inclusionOf tree defaults fragment = .ok inclusion

theorem places_unique : Relator.RightUnique (Places tree defaults) :=
  fun _ _ _ one other => Except.ok.inj (one.symm.trans other)

/-- The inclusions in a scope are those of the fragments that are seen there. -/
theorem places_filter (seen : scope = .everyone ∨ scope = Scope.ofSession name)
    (beside : List.Forall₂ (Places tree defaults) (fragments.filter (!·.editable)) inclusions) :
    List.Forall₂ (Places tree defaults)
      ((fragments.filter (Fragment.IsSeenBy name)).filter (Scope.ofSession ·.session = scope))
      (inclusions.filter (·.scope = scope)) := by
  have there : (fragments.filter (!·.editable)).filter (Scope.ofSession ·.session = scope) =
      (fragments.filter (Fragment.IsSeenBy name)).filter (Scope.ofSession ·.session = scope) := by
    simp only [List.filter_filter]
    refine List.filter_congr fun fragment _ => ?_
    by_cases here : Scope.ofSession fragment.session = scope <;>
      simp [Fragment.IsSeenBy, here, seen]
  rw [← there]
  refine List.rel_filter (fun fragment inclusion placed => ?_) beside
  simp [(inclusionOf_eq_ok placed).1]

theorem filter_eq_of_agree (agree : AgreeFor name first second)
    (seen : scope = .everyone ∨ scope = Scope.ofSession name)
    (ofFirst : List.Forall₂ (Places tree defaults) (first.filter (!·.editable)) inclusions)
    (ofSecond : List.Forall₂ (Places tree defaults) (second.filter (!·.editable)) others) :
    inclusions.filter (·.scope = scope) = others.filter (·.scope = scope) := by
  have beside := places_filter seen ofFirst
  rw [agree.seen] at beside
  exact places_unique.forall₂ beside (places_filter seen ofSecond)

end Includes

namespace Workspace

variable {tree : Tree} {defaults : IncludeDefaults} {name : Option String}
  {fragments first second : List Fragment}

/-- The workspace of a session among the fragments of a document, if they have that session. -/
def forName (tree : Tree) (defaults : IncludeDefaults) (fragments : List Fragment)
    (name : Option String) : Except PathFault (Option Workspace) := do
  let includes ← Includes.collect tree defaults fragments
  return ((Session.ofFragments fragments).find? (·.name = name)).map (ofSession · includes)

theorem find?_ofFragments : (Session.ofFragments fragments).find? (·.name = name) =
    if fragments.filter (·.session = name) = [] then none
    else some ⟨name, fragments.filter (·.session = name)⟩ := by
  have some : name ∈ fragments.map (·.session) ↔ fragments.filter (·.session = name) ≠ [] := by
    simp [List.filter_eq_nil_iff]
  rw [Session.ofFragments_eq, List.find?_map, ← List.head?_filter]
  simp only [Function.comp_def, filter_distinct, some]
  split <;> simp_all

theorem forName_eq_ok {found : Option Workspace} :
    forName tree defaults fragments name = .ok found ↔
      ∃ includes, Includes.collect tree defaults fragments = .ok includes ∧
        found = ((Session.ofFragments fragments).find? (·.name = name)).map
          (ofSession · includes) := by
  simp only [forName, Except.bind_eq_ok]
  simp [pure, Except.pure, eq_comm]

theorem forName_eq_some {workspace : Workspace} :
    forName tree defaults fragments name = .ok (some workspace) ↔
      ∃ includes, Includes.collect tree defaults fragments = .ok includes ∧
        (∃ fragment ∈ fragments, fragment.session = name) ∧
        workspace = ofSession ⟨name, fragments.filter (·.session = name)⟩ includes := by
  have present : (∃ fragment ∈ fragments, fragment.session = name) ↔
      fragments.filter (·.session = name) ≠ [] := by
    simp [List.filter_eq_nil_iff]
  simp only [forName_eq_ok, find?_ofFragments, present]
  refine exists_congr fun includes => and_congr_right fun _ => ?_
  split <;> simp_all

/-- What is compiled for a session of a document is the workspace of its name. -/
theorem forName_of_mem_jobs {includes : Includes} {number : Nat} {workspace : Workspace}
    (collected : Includes.collect tree defaults fragments = .ok includes)
    (job : (number, workspace) ∈ RunPlan.jobs (Session.ofFragments fragments) includes) :
    forName tree defaults fragments workspace.session = .ok (some workspace) := by
  obtain ⟨session, place, _, rfl⟩ := RunPlan.mem_jobs.mp job
  obtain ⟨fragment, member, rfl⟩ := Session.mem_ofFragments.mp (List.mem_of_getElem? place)
  exact forName_eq_some.mpr ⟨includes, collected, ⟨fragment, member, rfl⟩, rfl⟩

theorem isSome_forName {found : Option Workspace}
    (built : forName tree defaults fragments name = .ok found) :
    found.isSome = true ↔ ∃ fragment ∈ fragments, fragment.session = name := by
  obtain ⟨_, _, rfl⟩ := forName_eq_ok.mp built
  rw [find?_ofFragments]
  split
  · rename_i none
    simpa [List.filter_eq_nil_iff] using none
  · rename_i some
    simpa [List.filter_eq_nil_iff] using some

theorem exists_forName_iff : (∃ found, forName tree defaults fragments name = .ok found) ↔
    ∀ fragment ∈ fragments, fragment.editable = false →
      ∃ inclusion, Includes.inclusionOf tree defaults fragment = .ok inclusion := by
  simp only [forName_eq_ok, @exists_comm (Option Workspace), exists_and_left, exists_eq, and_true,
    Includes.exists_collect_iff]

/-- The workspace of a session is known from what is included in the scopes that it sees. -/
theorem ofSession_congr {session : Session} {inclusions others : List Inclusion}
    (same : ∀ scope ∈ session.scopes,
      inclusions.filter (·.scope = scope) = others.filter (·.scope = scope)) :
    ofSession session (Includes.ofInclusions inclusions) =
      ofSession session (Includes.ofInclusions others) := by
  have buffers : session.scopes.flatMap (Includes.ofInclusions inclusions).buffersIn =
      session.scopes.flatMap (Includes.ofInclusions others).buffersIn :=
    List.flatMap_congr fun scope seen => by
      rw [← Includes.buffersIn_filter, same scope seen, Includes.buffersIn_filter]
  have files : session.scopes.flatMap (Includes.ofInclusions inclusions).filesIn =
      session.scopes.flatMap (Includes.ofInclusions others).filesIn :=
    List.flatMap_congr fun scope seen => by
      rw [← Includes.filesIn_filter, same scope seen, Includes.filesIn_filter]
  simp only [ofSession, buffers, files]

theorem seen_scopes {session : Session} (named : session.name = name) {scope : Scope}
    (seen : scope ∈ session.scopes) : scope = .everyone ∨ scope = Scope.ofSession name := by
  rcases session.scopes_cases with ⟨scopes, _⟩ | scopes <;> simp_all

theorem forName_congr (agree : AgreeFor name first second) {one other : Option Workspace}
    (ofFirst : forName tree defaults first name = .ok one)
    (ofSecond : forName tree defaults second name = .ok other) : one = other := by
  obtain ⟨_, collected, rfl⟩ := forName_eq_ok.mp ofFirst
  obtain ⟨_, recollected, rfl⟩ := forName_eq_ok.mp ofSecond
  obtain ⟨firsts, beside, rfl⟩ := Includes.collect_eq_ok.mp collected
  obtain ⟨seconds, besides, rfl⟩ := Includes.collect_eq_ok.mp recollected
  rw [find?_ofFragments, find?_ofFragments, agree.own]
  split
  · rfl
  · refine congrArg some (ofSession_congr fun scope seen => ?_)
    exact Includes.filter_eq_of_agree agree (seen_scopes rfl seen) beside besides

/-- What two names with one casefold include is the same. -/
theorem includes_of_casefold {one other : String} {ofOne ofOther : Workspace}
    (shown : isBlankText one = false) (otherShown : isBlankText other = false)
    (same : casefold one = casefold other)
    (built : forName tree defaults fragments (some one) = .ok (some ofOne))
    (otherBuilt : forName tree defaults fragments (some other) = .ok (some ofOther)) :
    ofOne.files = ofOther.files ∧
      ofOne.buffers.filter (!·.editable) = ofOther.buffers.filter (!·.editable) := by
  obtain ⟨includes, collected, _, rfl⟩ := forName_eq_some.mp built
  obtain ⟨_, recollected, _, rfl⟩ := forName_eq_some.mp otherBuilt
  obtain rfl := Except.ok.inj (collected.symm.trans recollected)
  have samples (fragments : List Fragment) :
      (fragments.map Buffer.ofFragment).filter (!·.editable) = [] := by
    simp [List.filter_eq_nil_iff, Buffer.ofFragment]
  simp [ofSession, Session.scopes, shown, otherShown, Scope.ofSession, same, samples]

/-! ## What other sessions can do -/

/-- Lists that agree for a session give it one workspace, unless a fragment of another
session cannot be placed. -/
theorem forName_of_agree {tree : Tree} {defaults : IncludeDefaults} {name : Option String}
    {first second : List Fragment} (agree : AgreeFor name first second) :
    (∀ found, forName tree defaults first name = .ok found →
      (found.isSome = true ↔ ∃ fragment ∈ first, fragment.session = name) ∧
      (forName tree defaults second name = .ok found ↔
        ∀ stranger ∈ second, stranger.editable = false → ¬ stranger.IsSeenBy name →
          ∃ inclusion, Includes.inclusionOf tree defaults stranger = .ok inclusion)) ∧
    (∀ stranger fault, Includes.inclusionOf tree defaults stranger = .error fault →
      fault.IsObstruction) ∧
    ∀ one other ofOne ofOther, isBlankText one = false → isBlankText other = false →
      casefold one = casefold other →
      forName tree defaults first (some one) = .ok (some ofOne) →
      forName tree defaults first (some other) = .ok (some ofOther) →
      ofOne.files = ofOther.files ∧
        ofOne.buffers.filter (!·.editable) = ofOther.buffers.filter (!·.editable) := by
  refine ⟨fun found built => ⟨isSome_forName built, ?_⟩, fun _ _ => Includes.fault_of_inclusionOf,
    fun one other ofOne ofOther shown otherShown same built otherBuilt =>
      includes_of_casefold shown otherShown same built otherBuilt⟩
  constructor
  · intro rebuilt stranger member readOnly _
    exact exists_forName_iff.mp ⟨found, rebuilt⟩ stranger member readOnly
  · intro placed
    have placeable : ∀ fragment ∈ second, fragment.editable = false →
        ∃ inclusion, Includes.inclusionOf tree defaults fragment = .ok inclusion := by
      intro fragment member readOnly
      by_cases seen : fragment.IsSeenBy name
      · have shared : fragment ∈ first.filter (Fragment.IsSeenBy name) := by
          rw [agree.seen]
          exact List.mem_filter.mpr ⟨member, by simpa using seen⟩
        exact exists_forName_iff.mp ⟨found, built⟩ fragment (List.mem_filter.mp shared).1 readOnly
      · exact placed fragment member readOnly seen
    obtain ⟨others, rebuilt⟩ : ∃ others, forName tree defaults second name = .ok others :=
      exists_forName_iff.mpr placeable
    rw [forName_congr agree built rebuilt, rebuilt]

end Workspace

/-! ## Crowds of fragments -/

def crowd : List Fragment :=
  [sharedSample, sharedInclude none "g = 1", sharedInclude (some "t") "t = 1",
    sharedInclude (some "T") "u = 1"]

def otherCrowd : List Fragment :=
  [sharedInclude (some "u") "v = 1", sharedSample, sharedInclude none "g = 1"]

def emptyTree : Tree := ⟨[], []⟩

def rootDefaults : IncludeDefaults := ⟨.ofNames .root [], ".py"⟩

theorem crowds_agree_on_workspace :
    (∃ workspace,
      Workspace.forName emptyTree rootDefaults crowd (some "s1") = .ok (some workspace) ∧
      Workspace.forName emptyTree rootDefaults otherCrowd (some "s1") = .ok (some workspace)) ∧
    ∃ one other,
      Workspace.forName emptyTree rootDefaults crowd (some "t") = .ok (some one) ∧
      Workspace.forName emptyTree rootDefaults crowd (some "T") = .ok (some other) ∧
      one.files = other.files := by
  have includes (session : Option String) (text : String) :
      Includes.inclusionOf emptyTree rootDefaults (sharedInclude session text) =
        .ok ⟨Scope.ofSession session, sharedFile, none, text ++ "\n"⟩ :=
    inclusionOf_sharedInclude session text rootDefaults
  have collected : ∃ includes, Includes.collect emptyTree rootDefaults crowd = .ok includes :=
    ⟨_, Includes.collect_eq_ok.mpr ⟨_, .cons (includes _ _) (.cons (includes _ _)
      (.cons (includes _ _) .nil)), rfl⟩⟩
  obtain ⟨_, collected⟩ := collected
  have built (name : String) (present : ∃ fragment ∈ crowd, fragment.session = some name) :=
    Workspace.forName_eq_some.mpr ⟨_, collected, present, rfl⟩
  have agree : AgreeFor (some "s1") crowd otherCrowd := ⟨by decide +kernel, by decide +kernel⟩
  have placed : ∀ stranger ∈ otherCrowd, stranger.editable = false →
      ¬ stranger.IsSeenBy (some "s1") →
        ∃ inclusion, Includes.inclusionOf emptyTree rootDefaults stranger = .ok inclusion := by
    simp only [otherCrowd, List.forall_mem_cons]
    exact ⟨fun _ _ => ⟨_, includes _ _⟩, by simp [sharedSample], fun _ _ => ⟨_, includes _ _⟩,
      by simp⟩
  obtain ⟨same, _, folded⟩ := @Workspace.forName_of_agree emptyTree rootDefaults _ _ _ agree
  have sample := built "s1" (by decide)
  have lower := built "t" (by decide)
  have upper := built "T" (by decide)
  exact ⟨⟨_, sample, (same _ sample).2.mpr placed⟩, _, _, lower, upper,
    (folded "t" "T" _ _ (by decide) (by decide) (by decide +kernel) lower upper).1⟩

/-- A fragment of another session whose place is a link to itself. -/
def stranger : Fragment :=
  { sharedInclude (some "b") "y = 2" with destination := none }

theorem workspace_lost_to_stranger :
    ∃ tree, AgreeFor (some "s1") [sharedSample] [sharedSample, stranger] ∧
      (∃ workspace,
        Workspace.forName tree rootDefaults [sharedSample] (some "s1") = .ok (some workspace)) ∧
      ¬ ∃ found,
        Workspace.forName tree rootDefaults [sharedSample, stranger] (some "s1") = .ok found := by
  let file : String := "generated_include_file_b.py"
  let tree : Tree := ⟨[], [([file], .link file)]⟩
  have loops : tree.IsSelfLink file :=
    ⟨by decide, by decide, by simp [tree], by simp [Tree.lookup, tree]⟩
  refine ⟨tree, ⟨by decide +kernel, by decide +kernel⟩, ?_, ?_⟩
  · exact ⟨_, Workspace.forName_eq_some.mpr
      ⟨_, Includes.collect_eq_ok.mpr ⟨[], .nil, rfl⟩, by decide, rfl⟩⟩
  · rw [Workspace.exists_forName_iff]
    intro placed
    obtain ⟨inclusion, included⟩ := placed stranger (by simp) rfl
    have child : (Path.ofNames .root []).child file = .ofNames .root [file] :=
      (Path.child_eq loops.plain.1 _).trans (by simp [Path.ofNames])
    have name : "generated_include_file_" ++ (Scope.ofSession (some "b")).name ++ ".py" = file := by
      decide +kernel
    simp [Includes.inclusionOf, stranger, sharedInclude, IncludeDefaults.destination, rootDefaults,
      name, child, Tree.resolve_selfLink loops, bind, Except.bind] at included

end DocSamples
