import Mathlib
import DocSamples.Include
import DocSamples.Workspace.Build
import DocSamples.Proofs.Attempt
import DocSamples.Proofs.Lists
import DocSamples.Proofs.OrderedMap

namespace DocSamples

open Text

/-! # What is included

The includes of a document are those of its fragments, in their order.  Each place
within a scope has the texts of all inclusions that go there, and nothing else.
-/

namespace Includes

variable {tree : Tree} {defaults : IncludeDefaults} {fragments : List Fragment}
  {inclusions : List Inclusion} {includes : Includes} {scope : Scope} {path : Path}

theorem inclusionOf_eq_ok {fragment : Fragment} {inclusion : Inclusion}
    (included : inclusionOf tree defaults fragment = .ok inclusion) :
    inclusion.scope = Scope.ofSession fragment.session ∧
      inclusion.region = fragment.region.filter (!isBlankText ·) ∧
      inclusion.text = fragment.text ++ "\n" ∧
      ∀ text, inclusionOf tree defaults { fragment with text } =
        .ok { inclusion with text := text ++ "\n" } := by
  simp only [inclusionOf] at included ⊢
  split at included <;>
  · obtain ⟨destination, placed, resolving⟩ := Except.bind_eq_ok.mp included
    obtain ⟨path, resolved, made⟩ := Except.bind_eq_ok.mp resolving
    cases made
    exact ⟨rfl, rfl, rfl, fun text => Except.bind_eq_ok.mpr ⟨destination, placed,
      Except.bind_eq_ok.mpr ⟨path, resolved, rfl⟩⟩⟩

theorem collect_eq_ok :
    collect tree defaults fragments = .ok includes ↔
      ∃ inclusions, List.Forall₂ (fun fragment inclusion =>
          inclusionOf tree defaults fragment = .ok inclusion)
        (fragments.filter (!·.editable)) inclusions ∧ ofInclusions inclusions = includes := by
  rw [← exists_congr fun inclusions => and_congr_left' Except.mapM_eq_ok]
  cases collected : (fragments.filter (!·.editable)).mapM (inclusionOf tree defaults) <;>
    simp [collect, collected, bind, Except.bind, pure, Except.pure]

theorem exists_collect_iff : (∃ includes, collect tree defaults fragments = .ok includes) ↔
    ∀ fragment ∈ fragments, fragment.editable = false →
      ∃ inclusion, inclusionOf tree defaults fragment = .ok inclusion := by
  simp only [collect_eq_ok, @exists_comm Includes, exists_and_left, exists_eq', and_true,
    exists_forall₂_iff]
  simp

theorem mem_inclusions (related : List.Forall₂ (fun fragment inclusion =>
      inclusionOf tree defaults fragment = .ok inclusion) (fragments.filter (!·.editable)) inclusions)
    (place : Inclusion) :
    place ∈ inclusions ↔ ∃ fragment ∈ fragments, fragment.editable = false ∧
      inclusionOf tree defaults fragment = .ok place := by
  constructor
  · intro member
    obtain ⟨fragment, inside, included⟩ := exists_of_mem_forall₂ related.flip member
    have ⟨here, readOnly⟩ := List.mem_filter.mp inside
    exact ⟨fragment, here, by simpa using readOnly, included⟩
  · rintro ⟨fragment, here, readOnly, included⟩
    obtain ⟨other, member, same⟩ := exists_of_mem_forall₂ related
      (List.mem_filter.mpr ⟨here, by simp [readOnly]⟩)
    cases included.symm.trans same
    exact member

/-- The texts of the inclusions with a key, in their order. -/
def textsAt {κ : Type} [DecidableEq κ] (key? : Inclusion → Option κ) (key : κ)
    (inclusions : List Inclusion) : List String :=
  (inclusions.filter fun inclusion => key? inclusion = some key).map (·.text)

theorem entries_grouped {κ : Type} [DecidableEq κ] (key? : Inclusion → Option κ) :
    (grouped key? inclusions).entries =
      (distinct (inclusions.filterMap key?)).map fun key => (key, textsAt key? key inclusions) := by
  have keys : (inclusions.filterMap fun inclusion =>
      (key? inclusion).map fun key => (key, inclusion.text)).map Prod.fst =
        inclusions.filterMap key? := by
    simp [List.map_filterMap, Function.comp_def]
  have texts (key : κ) : ((inclusions.filterMap fun inclusion =>
      (key? inclusion).map fun key => (key, inclusion.text)).filter (·.1 = key)).map Prod.snd =
        textsAt key? key inclusions := by
    clear keys
    induction inclusions with
    | nil => rfl
    | cons inclusion rest ih =>
        cases found : key? inclusion with
        | none => simpa [textsAt, found] using ih
        | some other => by_cases same : other = key <;> simpa [textsAt, found, same] using ih
  simp only [grouped, OrderedMap.entries_groupBy, List.map_map, keys]
  exact List.map_congr_left fun key _ => by simp [← texts key]

theorem textsAt_ne_nil {κ : Type} [DecidableEq κ] {key? : Inclusion → Option κ} {key : κ} :
    textsAt key? key inclusions ≠ [] ↔ ∃ inclusion ∈ inclusions, key? inclusion = some key := by
  simp [textsAt, List.filter_eq_nil_iff]

/-- A path has one file in a scope, with all texts that are included there. -/
theorem filter_filesIn : ((ofInclusions inclusions).filesIn scope).filter (·.path = path) =
    if textsAt Inclusion.fileKey? ⟨scope, path⟩ inclusions = [] then []
    else [fileOf ⟨scope, path⟩ (textsAt Inclusion.fileKey? ⟨scope, path⟩ inclusions)] := by
  have key : (fun key : FileKey => decide (key.path = path) && decide (key.scope = scope)) =
      fun key => decide (key = ⟨scope, path⟩) := by
    funext ⟨_, _⟩
    simp [and_comm]
  have present : ⟨scope, path⟩ ∈ inclusions.filterMap Inclusion.fileKey? ↔
      textsAt Inclusion.fileKey? ⟨scope, path⟩ inclusions ≠ [] := by
    rw [textsAt_ne_nil, List.mem_filterMap]
  simp only [filesIn, ofInclusions, entries_grouped, List.filter_map, List.map_map, List.filter_filter,
    Function.comp_def, fileOf, key, filter_distinct, present]
  split <;> simp_all

/-! ## One text changed -/

section Changed

variable {before after : List Inclusion} {inclusion : Inclusion} {text : String}

theorem fileTexts_changed {key : FileKey} (elsewhere : inclusion.fileKey? ≠ some key) :
    textsAt Inclusion.fileKey? key (before ++ { inclusion with text } :: after) =
      textsAt Inclusion.fileKey? key (before ++ inclusion :: after) := by
  have still : Inclusion.fileKey? { inclusion with text } = inclusion.fileKey? := rfl
  simp [textsAt, elsewhere, still]

theorem filePaths_changed :
    ((ofInclusions (before ++ { inclusion with text } :: after)).filesIn scope).map (·.path) =
      ((ofInclusions (before ++ inclusion :: after)).filesIn scope).map (·.path) := by
  have still : Inclusion.fileKey? { inclusion with text } = inclusion.fileKey? := rfl
  simp [filesIn, ofInclusions, entries_grouped, List.filter_map, Function.comp_def, fileOf,
    List.filterMap_cons, still]

theorem buffersIn_changed (whole : inclusion.region = none) :
    (ofInclusions (before ++ { inclusion with text } :: after)).buffersIn =
      (ofInclusions (before ++ inclusion :: after)).buffersIn := by
  funext scope
  simp [buffersIn, ofInclusions, grouped, Inclusion.regionKey?, whole]

/-- Another text of a fragment is another text of its inclusion, and no more. -/
theorem collect_changed {before after : List Fragment} {fragment : Fragment}
    (readOnly : fragment.editable = false)
    (included : inclusionOf tree defaults fragment = .ok inclusion)
    (collected : collect tree defaults (before ++ fragment :: after) = .ok includes) :
    ∃ first last, includes = ofInclusions (first ++ inclusion :: last) ∧
      (∀ place, place ∈ first ++ inclusion :: last ↔
        ∃ other ∈ before ++ fragment :: after, other.editable = false ∧
          inclusionOf tree defaults other = .ok place) ∧
      ∀ text, collect tree defaults (before ++ { fragment with text } :: after) =
        .ok (ofInclusions (first ++ { inclusion with text := text ++ "\n" } :: last)) := by
  obtain ⟨inclusions, related, rfl⟩ := collect_eq_ok.mp collected
  have members := mem_inclusions related
  have reading (text : String) : (before ++ { fragment with text } :: after).filter (!·.editable) =
      before.filter (!·.editable) ++ { fragment with text } :: after.filter (!·.editable) := by
    simp [readOnly]
  rw [show (before ++ fragment :: after).filter (!·.editable) = _ from reading fragment.text]
    at related
  obtain ⟨first, here, last, rfl, firsts, same, lasts⟩ :=
    split_of_forall₂_append_cons related.flip
  obtain rfl : inclusion = here := Except.ok.inj (included.symm.trans same)
  refine ⟨first, last, rfl, members, fun text => collect_eq_ok.mpr ⟨_, ?_, rfl⟩⟩
  rw [reading]
  obtain ⟨_, _, _, changed⟩ := inclusionOf_eq_ok included
  exact List.rel_append firsts.flip (.cons (changed text) lasts.flip)

end Changed

end Includes

/-- The scope of a session of its own is the last one that it sees. -/
theorem Session.scopes_cases (session : Session) :
    (session.scopes = [.everyone] ∧ Scope.ofSession session.name = .everyone) ∨
      session.scopes = [.everyone, Scope.ofSession session.name] := by
  cases named : session.name with
  | none => simp [scopes, named, Scope.ofSession]
  | some name => cases blank : isBlankText name <;> simp [scopes, named, blank, Scope.ofSession]

end DocSamples
