import Mathlib
import DocSamples.Proofs.Include
import DocSamples.Proofs.Tree

namespace DocSamples.Includes

open Text

/-! # What is collected

Read-only fragments are collected by where they go.  Each place has one entry, which stands where
the place first occurs and holds the texts of all fragments that go there, and of no others.
-/

variable {κ : Type} [DecidableEq κ] {tree : Tree} {defaults : IncludeDefaults}
  {fragments : List Fragment} {fragment : Fragment} {inclusions : List Inclusion}
  {includes : Includes} {key? : Inclusion → Option κ} {keyOf? : Fragment → Option κ}

/-- The resolved path that a fragment gives, or else that of its scope. -/
def destinationOf (tree : Tree) (defaults : IncludeDefaults) (fragment : Fragment) :
    Except PathFault Path := do
  match fragment.destination with
  | some path => tree.resolve path
  | none => tree.resolve (← defaults.destination tree (Scope.ofSession fragment.session))

/-- The file that a read-only fragment is a part of, unless it is for a region. -/
def fileKeyOf? (tree : Tree) (defaults : IncludeDefaults) (fragment : Fragment) :
    Option FileKey :=
  if fragment.editable = false ∧ fragment.region.all isBlankText = true then
    (destinationOf tree defaults fragment).toOption.map fun path =>
      ⟨Scope.ofSession fragment.session, path⟩
  else none

/-- The region that a read-only fragment is a part of. -/
def regionKeyOf? (tree : Tree) (defaults : IncludeDefaults) (fragment : Fragment) :
    Option RegionKey := do
  if fragment.editable then none
  else
    let region ← fragment.region.filter (!isBlankText ·)
    let path ← (destinationOf tree defaults fragment).toOption
    return ⟨Scope.ofSession fragment.session, path, region⟩

/-- The texts of the fragments with a key, each closed by a newline, in their order. -/
def contentAt (keyOf? : Fragment → Option κ) (key : κ) (fragments : List Fragment) : String :=
  String.join ((fragments.filter fun fragment => keyOf? fragment = some key).map (·.text ++ "\n"))

def fileEntries (includes : Includes) : List (FileKey × IncludedFile) :=
  includes.files.entries.map fun (key, texts) => (key, fileOf key texts)

def regionEntries (includes : Includes) : List (RegionKey × Buffer) :=
  includes.regions.entries.map fun (key, texts) => (key, bufferOf key texts)

/-! ## Fragments and their inclusions -/

theorem inclusionOf_eq_map (tree : Tree) (defaults : IncludeDefaults) (fragment : Fragment) :
    inclusionOf tree defaults fragment = (destinationOf tree defaults fragment).map fun path =>
      ⟨Scope.ofSession fragment.session, path, fragment.region.filter (!isBlankText ·),
        fragment.text ++ "\n"⟩ := by
  cases given : fragment.destination with
  | some path =>
      cases resolved : tree.resolve path <;>
        simp [inclusionOf, destinationOf, given, resolved, Except.map, bind, Except.bind, pure,
          Except.pure]
  | none =>
      cases chosen : defaults.destination tree (Scope.ofSession fragment.session) with
      | error fault =>
          simp [inclusionOf, destinationOf, given, chosen, Except.map, bind, Except.bind]
      | ok path =>
          cases resolved : tree.resolve path <;>
            simp [inclusionOf, destinationOf, given, chosen, resolved, Except.map, bind,
              Except.bind, pure, Except.pure]

theorem exists_inclusionOf_iff : (∃ inclusion, inclusionOf tree defaults fragment = .ok inclusion) ↔
    ∃ path, destinationOf tree defaults fragment = .ok path := by
  rw [inclusionOf_eq_map]
  cases destinationOf tree defaults fragment <;> simp [Except.map]

/-- A key of inclusions is a key of fragments if a fragment that is read-only has that of its
inclusion, and one that is editable has none. -/
structure IsKeyOf (tree : Tree) (defaults : IncludeDefaults) (key? : Inclusion → Option κ)
    (keyOf? : Fragment → Option κ) : Prop where
  editable : ∀ fragment, fragment.editable = true → keyOf? fragment = none
  readOnly : ∀ fragment inclusion, fragment.editable = false →
    inclusionOf tree defaults fragment = .ok inclusion → keyOf? fragment = key? inclusion

theorem isKeyOf_file :
    IsKeyOf tree defaults Inclusion.fileKey? (fileKeyOf? tree defaults) where
  editable fragment editable := by simp [fileKeyOf?, editable]
  readOnly fragment inclusion readOnly included := by
    rw [inclusionOf_eq_map] at included
    cases placed : destinationOf tree defaults fragment with
    | error fault => simp [placed, Except.map] at included
    | ok path =>
        simp only [placed, Except.map, Except.ok.injEq] at included
        subst inclusion
        cases region : fragment.region with
        | none => simp [fileKeyOf?, readOnly, region, placed, Inclusion.fileKey?, Except.toOption]
        | some name =>
            cases blank : isBlankText name <;>
              simp [fileKeyOf?, readOnly, region, blank, placed, Inclusion.fileKey?,
                Except.toOption, Option.filter]

theorem isKeyOf_region :
    IsKeyOf tree defaults Inclusion.regionKey? (regionKeyOf? tree defaults) where
  editable fragment editable := by simp [regionKeyOf?, editable]
  readOnly fragment inclusion readOnly included := by
    rw [inclusionOf_eq_map] at included
    cases placed : destinationOf tree defaults fragment with
    | error fault => simp [placed, Except.map] at included
    | ok path =>
        simp only [placed, Except.map, Except.ok.injEq] at included
        subst inclusion
        cases region : fragment.region.filter (!isBlankText ·) <;>
          simp [regionKeyOf?, readOnly, region, placed, Inclusion.regionKey?, Except.toOption]

omit [DecidableEq κ] in
/-- Side by side, read-only fragments and their inclusions have the same keys and texts. -/
theorem map_keyed (isKey : IsKeyOf tree defaults key? keyOf?)
    (readOnly : ∀ fragment ∈ fragments, fragment.editable = false)
    (related : List.Forall₂ (fun fragment inclusion =>
      inclusionOf tree defaults fragment = .ok inclusion) fragments inclusions) :
    inclusions.map (fun inclusion => (key? inclusion, inclusion.text)) =
      fragments.map (fun fragment => (keyOf? fragment, fragment.text ++ "\n")) := by
  induction related with
  | nil => rfl
  | @cons fragment inclusion _ _ included _ ih =>
      obtain ⟨_, _, text, _⟩ := inclusionOf_eq_ok included
      have key := isKey.readOnly fragment inclusion (readOnly fragment (by simp)) included
      rw [List.map_cons, List.map_cons, key, text,
        ih fun other member => readOnly other (by simp [member])]

section Collected

variable (isKey : IsKeyOf tree defaults key? keyOf?)
  (related : List.Forall₂ (fun fragment inclusion =>
    inclusionOf tree defaults fragment = .ok inclusion) (fragments.filter (!·.editable)) inclusions)

include isKey related

omit [DecidableEq κ] in
theorem keyed_inclusions : inclusions.map (fun inclusion => (key? inclusion, inclusion.text)) =
    (fragments.filter (!·.editable)).map fun fragment => (keyOf? fragment, fragment.text ++ "\n") :=
  map_keyed isKey (fun fragment member => by simpa using (List.mem_filter.mp member).2) related

omit [DecidableEq κ] in
theorem filterMap_inclusions : inclusions.filterMap key? = fragments.filterMap keyOf? := by
  have keys := congrArg (List.filterMap Prod.fst) (keyed_inclusions isKey related)
  simp only [List.filterMap_map, Function.comp_def] at keys
  rw [keys, List.filterMap_filter]
  refine List.filterMap_congr fun fragment _ => ?_
  cases editable : fragment.editable with
  | true => simp [isKey.editable fragment editable]
  | false => simp

theorem join_textsAt (key : κ) :
    String.join (textsAt key? key inclusions) = contentAt keyOf? key fragments := by
  have texts := congrArg (fun keyed => (keyed.filter fun item => item.1 = some key).map Prod.snd)
    (keyed_inclusions isKey related)
  simp only [List.filter_map, List.map_map, Function.comp_def, List.filter_filter] at texts
  rw [textsAt, texts, contentAt]
  congr 2
  refine List.filter_congr fun fragment _ => ?_
  cases editable : fragment.editable with
  | true => simp [isKey.editable fragment editable]
  | false => simp

end Collected

theorem keys_grouped : (grouped key? inclusions).keys = distinct (inclusions.filterMap key?) := by
  simp [OrderedMap.keys, entries_grouped, Function.comp_def]

theorem mem_grouped {key : κ} {texts : List String}
    (member : (key, texts) ∈ (grouped key? inclusions).entries) :
    texts = textsAt key? key inclusions := by
  rw [entries_grouped] at member
  obtain ⟨other, _, same⟩ := List.mem_map.mp member
  cases same
  rfl

/-- Collecting gives one entry for each place that a read-only fragment goes to, with the texts of
all that go there.  It fails only where a read-only fragment has no place. -/
theorem collect_exact (tree : Tree) (defaults : IncludeDefaults) (fragments : List Fragment) :
    ((∃ includes, collect tree defaults fragments = .ok includes) ↔
      ∀ fragment ∈ fragments, fragment.editable = false →
        ∃ path, destinationOf tree defaults fragment = .ok path) ∧
    (∀ includes, collect tree defaults fragments = .ok includes →
      InFirstOrder (fragments.filterMap (fileKeyOf? tree defaults))
        (includes.fileEntries.map Prod.fst) ∧
      InFirstOrder (fragments.filterMap (regionKeyOf? tree defaults))
        (includes.regionEntries.map Prod.fst) ∧
      (∀ key file, (key, file) ∈ includes.fileEntries →
        file = ⟨key.path, contentAt (fileKeyOf? tree defaults) key fragments⟩) ∧
      ∀ key buffer, (key, buffer) ∈ includes.regionEntries → buffer = {
        id := ⟨some key.path, some key.region⟩
        content := contentAt (regionKeyOf? tree defaults) key fragments
        editable := false }) ∧
    ∀ others : List Fragment, others.filter (!·.editable) = fragments.filter (!·.editable) →
      collect tree defaults others = collect tree defaults fragments := by
  refine ⟨?_, ?_, ?_⟩
  · simp only [exists_collect_iff, exists_inclusionOf_iff]
  · intro includes collected
    obtain ⟨inclusions, related, rfl⟩ := collect_eq_ok.mp collected
    refine ⟨?_, ?_, ?_, ?_⟩
    · rw [inFirstOrder_iff, ← filterMap_inclusions isKeyOf_file related, ← keys_grouped]
      simp [fileEntries, ofInclusions, OrderedMap.keys, Function.comp_def]
    · rw [inFirstOrder_iff, ← filterMap_inclusions isKeyOf_region related, ← keys_grouped]
      simp [regionEntries, ofInclusions, OrderedMap.keys, Function.comp_def]
    · intro key file member
      obtain ⟨⟨other, texts⟩, grouped, same⟩ := List.mem_map.mp member
      cases same
      rw [fileOf, mem_grouped grouped, join_textsAt isKeyOf_file related]
    · intro key buffer member
      obtain ⟨⟨other, texts⟩, grouped, same⟩ := List.mem_map.mp member
      cases same
      rw [bufferOf, mem_grouped grouped, join_textsAt isKeyOf_region related]
  · intro others same
    rw [collect, collect, same]

/-! ## Two scopes and a region -/

def kitFile : Path := .ofNames .root ["kit.py"]

def ownFile : Path := .ofNames .root ["generated_include_file_s1.py"]

def kitDefaults : IncludeDefaults := ⟨.ofNames .root [], ".py"⟩

def kitPart (session : Option String) (destination : Option Path) (region : Option String)
    (text : String) : Fragment where
  document := .ofNames .root ["guide.md"]
  line := 3
  text := text
  session := session
  editable := false
  destination := destination
  region := region

/-- One session is written in two ways, and a region of blanks is none. -/
def kitParts : List Fragment := [
  kitPart (some "S1") none none "s = 1",
  kitPart none (some kitFile) none "g = 1",
  { kitPart none (some kitFile) none "x = 1" with editable := true },
  kitPart none (some kitFile) (some "r") "r = 1",
  kitPart (some " ") (some kitFile) (some " ") "g = 2",
  kitPart (some "s1") none none "s = 2"]

theorem destinationOf_kitPart (session : Option String) (region : Option String) (text : String) :
    destinationOf ⟨[], []⟩ kitDefaults (kitPart session (some kitFile) region text) =
      .ok kitFile :=
  Tree.resolve_eq_self (Tree.noLinks_of_entries_nil rfl) rfl (by decide +kernel)

theorem destinationOf_ownPart {session : String}
    (named : Scope.ofSession (some session) = ⟨"s1"⟩) (text : String) :
    destinationOf ⟨[], []⟩ kitDefaults (kitPart (some session) none none text) = .ok ownFile := by
  have resolved : Tree.resolve ⟨[], []⟩ ownFile = .ok ownFile :=
    Tree.resolve_eq_self (Tree.noLinks_of_entries_nil rfl) rfl (by decide +kernel)
  have path : kitDefaults.root.child ("generated_include_file_" ++ "s1" ++ kitDefaults.suffix) =
      ownFile := by
    decide +kernel
  have chosen : kitDefaults.destination ⟨[], []⟩ ⟨"s1"⟩ = .ok ownFile := by
    rw [IncludeDefaults.destination, path, resolved]
  simp [destinationOf, kitPart, named, chosen, resolved, bind, Except.bind]

theorem scopes_kitParts : Scope.ofSession (some "S1") = ⟨"s1"⟩ ∧
    Scope.ofSession (some "s1") = ⟨"s1"⟩ ∧ Scope.ofSession none = .everyone ∧
    Scope.ofSession (some " ") = .everyone := by
  decide +kernel

theorem placed_kitParts : ∀ fragment ∈ kitParts, fragment.editable = false →
    ∃ path, destinationOf ⟨[], []⟩ kitDefaults fragment = .ok path := by
  obtain ⟨upper, lower, _⟩ := scopes_kitParts
  simp only [kitParts, List.forall_mem_cons]
  exact ⟨fun _ => ⟨_, destinationOf_ownPart upper _⟩, fun _ => ⟨_, destinationOf_kitPart ..⟩,
    by simp, fun _ => ⟨_, destinationOf_kitPart ..⟩, fun _ => ⟨_, destinationOf_kitPart ..⟩,
    fun _ => ⟨_, destinationOf_ownPart lower _⟩, by simp⟩

theorem fileKeys_kitParts : kitParts.map (fileKeyOf? ⟨[], []⟩ kitDefaults) =
    [some ⟨⟨"s1"⟩, ownFile⟩, some ⟨.everyone, kitFile⟩, none, none, some ⟨.everyone, kitFile⟩,
      some ⟨⟨"s1"⟩, ownFile⟩] := by
  have blank : isBlankText " " = true ∧ isBlankText "r" = false := by decide +kernel
  obtain ⟨upper, lower, scopes⟩ := scopes_kitParts
  simp only [kitParts, List.map_cons, List.map_nil, fileKeyOf?, destinationOf_kitPart,
    destinationOf_ownPart upper, destinationOf_ownPart lower]
  simp [kitPart, upper, lower, blank, scopes, Except.toOption]

theorem regionKeys_kitParts : kitParts.map (regionKeyOf? ⟨[], []⟩ kitDefaults) =
    [none, none, none, some ⟨.everyone, kitFile, "r"⟩, none, none] := by
  have blank : isBlankText " " = true ∧ isBlankText "r" = false := by decide +kernel
  simp only [kitParts, List.map_cons, List.map_nil, regionKeyOf?, destinationOf_kitPart]
  simp [kitPart, blank, scopes_kitParts, Except.toOption, Option.filter]

theorem mem_entries_of_keys {κ ν : Type} {entries : List (κ × ν)} {key : κ} {value : ν}
    (member : key ∈ entries.map Prod.fst)
    (values : ∀ other, (key, other) ∈ entries → other = value) : (key, value) ∈ entries := by
  obtain ⟨⟨_, other⟩, inside, rfl⟩ := List.mem_map.mp member
  rwa [values other inside] at inside

theorem collect_exact_kit : ∃ includes, collect ⟨[], []⟩ kitDefaults kitParts = .ok includes ∧
    includes.fileEntries.map Prod.fst = [⟨⟨"s1"⟩, ownFile⟩, ⟨.everyone, kitFile⟩] ∧
    (⟨⟨"s1"⟩, ownFile⟩, ⟨ownFile, "s = 1\ns = 2\n"⟩) ∈ includes.fileEntries ∧
    (⟨.everyone, kitFile⟩, ⟨kitFile, "g = 1\ng = 2\n"⟩) ∈ includes.fileEntries ∧
    (⟨.everyone, kitFile, "r"⟩, ⟨⟨some kitFile, some "r"⟩, "r = 1\n", false⟩) ∈
      includes.regionEntries := by
  obtain ⟨succeeds, exact, _⟩ := collect_exact ⟨[], []⟩ kitDefaults kitParts
  obtain ⟨includes, collected⟩ := succeeds.mpr placed_kitParts
  obtain ⟨fileOrder, regionOrder, files, regions⟩ := exact includes collected
  have keys {κ : Type} (keyOf? : Fragment → Option κ) :
      kitParts.filterMap keyOf? = (kitParts.map keyOf?).filterMap id := by
    rw [List.filterMap_map, Function.id_comp]
  have fileList := inFirstOrder_iff.mp fileOrder
  rw [keys, fileKeys_kitParts] at fileList
  have regionList := inFirstOrder_iff.mp regionOrder
  rw [keys, regionKeys_kitParts] at regionList
  have fileKeys := fileKeys_kitParts
  have regionKeys := regionKeys_kitParts
  simp only [kitParts, List.map_cons, List.map_nil, List.cons.injEq] at fileKeys regionKeys
  refine ⟨includes, collected, fileList.trans (by decide +kernel), ?_, ?_, ?_⟩
  · apply mem_entries_of_keys (by rw [fileList]; decide +kernel)
    intro file member
    rw [files _ _ member]
    simp only [contentAt, kitParts, List.filter_cons, List.filter_nil, fileKeys]
    decide +kernel
  · apply mem_entries_of_keys (by rw [fileList]; decide +kernel)
    intro file member
    rw [files _ _ member]
    simp only [contentAt, kitParts, List.filter_cons, List.filter_nil, fileKeys]
    decide +kernel
  · apply mem_entries_of_keys (by rw [regionList]; decide +kernel)
    intro buffer member
    rw [regions _ _ member]
    simp only [contentAt, kitParts, List.filter_cons, List.filter_nil, regionKeys]
    decide +kernel

end DocSamples.Includes
