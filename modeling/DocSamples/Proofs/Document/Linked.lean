import DocSamples.Proofs.Document
import DocSamples.Proofs.Options.Grammar

namespace DocSamples

open Text

/-! # Fragments without problems

A fragment has no problem exactly when its fence is written as it should be and what its
options name is there.
-/

variable {tree : Tree} {document root : Path} {values : OrderedMap OptionName String}

namespace Linkage

/-- What the options of a fence name is there and can be used. -/
structure Resolves (tree : Tree) (document : Path) (values : OrderedMap OptionName String) :
    Prop where
  editable : ∀ value, values.find? .editable = some value → IsTruth value
  project : ∀ value, values.find? .project = some value → ∃ path,
    localPath tree document value = .ok path ∧ tree.existsAt path = .ok true
  /-- A project is given as a path or as a package. -/
  oneProject : ∀ value, values.find? .project = some value → values.find? .package = none
  sourceFile : ∀ value, values.find? .sourceFile = some value → ∃ path text,
    localPath tree document value = .ok path ∧ tree.isFile path = .ok true ∧
      tree.readText path = .ok text ∧
      ∀ region, values.find? .region = some region → region ≠ "" →
        ∃ body, Region.body? text region = some body

theorem editable_problems_eq_nil_iff : (editable values).2 = [] ↔
    ∀ value, values.find? .editable = some value → IsTruth value := by
  unfold editable
  cases values.find? .editable with
  | none => simp
  | some value =>
      by_cases isTrue : value.toLower = "true"
      · simp [IsTruth, isTrue]
      · by_cases isFalse : value.toLower = "false" <;> simp [IsTruth, isTrue, isFalse]

theorem project_problems_eq_nil_iff {found : Found (Option String)}
    (projected : project tree document values = .ok found) : found.2 = [] ↔
      ∀ value, values.find? .project = some value → values.find? .package = none ∧ ∃ path,
        localPath tree document value = .ok path ∧ tree.existsAt path = .ok true := by
  rcases project_eq_ok.mp projected with
    ⟨none, rfl⟩ | ⟨value, path, there, given, leads, looked, rfl⟩
  · simp [none]
  · have alone : values.contains .package = false ↔ values.find? .package = none := by
      simp [OrderedMap.contains, OrderedMap.find?]
    cases there <;> simp [given, leads, looked, ← alone]

theorem readSource_problems_eq_nil_iff {path : Path} {region : Option String} :
    (readSource tree path region).2 = [] ↔ ∃ text, tree.readText path = .ok text ∧
      ∀ name, region = some name → name ≠ "" → ∃ body, Region.body? text name = some body := by
  unfold readSource
  cases tree.readText path with
  | error fault => simp
  | ok text =>
      cases region with
      | none => simp
      | some name =>
          by_cases empty : name = ""
          · simp [empty, Option.filter]
          · cases found : Region.body? text name <;> simp [Option.filter, empty, found]

theorem sourceFile_problems_eq_nil_iff {found : Found (Option Path × Option String)}
    (sourced : sourceFile tree document values = .ok found) : found.2 = [] ↔
      ∀ value, values.find? .sourceFile = some value → ∃ path text,
        localPath tree document value = .ok path ∧ tree.isFile path = .ok true ∧
          tree.readText path = .ok text ∧
          ∀ region, values.find? .region = some region → region ≠ "" →
            ∃ body, Region.body? text region = some body := by
  rcases sourceFile_eq_ok.mp sourced with
    ⟨none, rfl⟩ | ⟨value, path, there, given, leads, looked, rfl⟩
  · simp [none]
  · cases there <;> simp [given, leads, looked, readSource_problems_eq_nil_iff]

end Linkage

namespace Fragment

variable {line : Nat} {info body : String} {fragment : Fragment}

/-- A fragment tells whether its fence is as it should be, and has its text from the source file
or the block. -/
structure LinkedAs (tree : Tree) (document : Path) (info body : String) (fragment : Fragment) :
    Prop where
  clean : fragment.problems = [] ↔
    (∃ tokens, shellWords info = .ok tokens ∧ IsOptionList (splitLanguage tokens).2) ∧
      Linkage.Resolves tree document (FenceInfo.ofInfo info).values
  supplied : ∀ text, Linkage.Supplies tree document (FenceInfo.ofInfo info).values text →
    fragment.text = text
  own : (¬ ∃ text, Linkage.Supplies tree document (FenceInfo.ofInfo info).values text) →
    fragment.text = body

theorem problems_eq_nil_iff (linked : link tree document root line info body = .ok fragment) :
    fragment.problems = [] ↔
      (FenceInfo.ofInfo info).problems = [] ∧
        Linkage.Resolves tree document (FenceInfo.ofInfo info).values := by
  obtain ⟨projected, sourced, placed, project, source, _, rfl⟩ := link_eq_ok.mp linked
  simp only [List.map_eq_nil_iff, List.append_eq_nil_iff, Linkage.editable_problems_eq_nil_iff,
    Linkage.project_problems_eq_nil_iff project, Linkage.sourceFile_problems_eq_nil_iff source]
  constructor
  · rintro ⟨⟨⟨told, editable⟩, project⟩, source⟩
    exact ⟨told, editable, fun value given => (project value given).2,
      fun value given => (project value given).1, source⟩
  · rintro ⟨told, editable, project, oneProject, source⟩
    exact ⟨⟨⟨told, editable⟩, fun value given => ⟨oneProject value given, project value given⟩⟩,
      source⟩

theorem linkedAs_of_link (linked : link tree document root line info body = .ok fragment) :
    fragment.LinkedAs tree document info body where
  clean := by rw [problems_eq_nil_iff linked, FenceInfo.problems_ofInfo_eq_nil_iff]
  supplied := (takenFrom_of_link linked).supplied
  own := (takenFrom_of_link linked).own

end Fragment

namespace Document

/-- A fragment that is built is without problems exactly when its fence matches the grammar and
what it names can be found. -/
theorem fragments_linkedAs :
    (∀ (block : AnnotatedBlock) (fragment : Fragment),
      Fragment.link tree document root block.line block.opening.info (joinLines block.body) =
        .ok fragment →
      fragment.LinkedAs tree document block.opening.info (joinLines block.body)) ∧
    ∀ found, (fragments tree document root).outcome = .ok found →
      ∃ text, readLines tree document = .ok text ∧
        List.Forall₂ (fun block fragment =>
          fragment.LinkedAs tree document block.opening.info (joinLines block.body))
          (Block.annotated (Block.ofLines text)) found := by
  refine ⟨fun _ _ => Fragment.linkedAs_of_link, fun found built => ?_⟩
  obtain ⟨text, read, beside⟩ := fragments_eq_ok.mp built
  exact ⟨text, read, beside.imp fun _ _ => Fragment.linkedAs_of_link⟩

/-! ## A region that is there and a value that is none -/

def regionGuide : List String :=
  ["\x60\x60\x60 python --source-file loop.py --region a", "y = 2", "\x60\x60\x60",
    "\x60\x60\x60 python --editable=maybe", "\x60\x60\x60"]

def loopLines : List String := ["#region a", "x = 1", "#endregion"]

def regionTree : Tree :=
  treeOf regionGuide [(["loop.py"], .file (Utf8.encodeText (joinLines loopLines ++ "\n")))]

def regionInfo : FenceInfo where
  language := "python"
  values := ⟨[(.sourceFile, "loop.py"), (.region, "a")]⟩
  problems := []

def maybeInfo : FenceInfo where
  language := "python"
  values := ⟨[(.editable, "maybe")]⟩
  problems := []

theorem isLine_regionGuide : ∀ line ∈ regionGuide ++ loopLines, IsLine line := by
  simp [regionGuide, loopLines, IsLine, isLineEnd]

theorem readLines_regionGuide : readLines regionTree guide = .ok regionGuide :=
  readLines_guide (by simp [regionGuide])
    (fun line member => isLine_regionGuide line (List.mem_append_left _ member)) _

theorem annotated_regionGuide : Block.annotated (Block.ofLines regionGuide) =
    [⟨0, ⟨.backtick, 3, "python --source-file loop.py --region a"⟩, ["y = 2"]⟩,
      ⟨3, ⟨.backtick, 3, "python --editable=maybe"⟩, []⟩] := by
  decide +kernel

theorem ofInfo_region :
    FenceInfo.ofInfo "python --source-file loop.py --region a" = regionInfo := by
  decide +kernel

theorem ofInfo_maybe : FenceInfo.ofInfo "python --editable=maybe" = maybeInfo := by
  decide +kernel

/-- The file beside the guide is found and has the region. -/
theorem supplies_region :
    Linkage.localPath regionTree guide "loop.py" = .ok (.ofNames .root ["loop.py"]) ∧
      regionTree.isFile (.ofNames .root ["loop.py"]) = .ok true ∧
      regionTree.readText (.ofNames .root ["loop.py"]) = .ok (joinLines loopLines ++ "\n") ∧
      Region.body? (joinLines loopLines ++ "\n") "a" = some "x = 1" := by
  have plain : Tree.IsPlain "loop.py" := by decide
  have found : regionTree.lookup ["loop.py"] =
      some (.file (Utf8.encodeText (joinLines loopLines ++ "\n"))) := by
    simp [Tree.lookup, regionTree, treeOf]
  refine ⟨?_, ?_, readText_rootChild plain (by decide) (fun line member =>
    isLine_regionGuide line (List.mem_append_right _ member)) found, by decide +kernel⟩
  · rw [Linkage.localPath, join_guide plain.1]
    exact Tree.resolve_eq_self (noLinks_treeOf (by simp)) rfl
      (by simpa [Tree.names_rootChild plain.1] using plain)
  · rw [Tree.isFile, Tree.leadsTo, if_neg (by simp [Tree.hasNullByte_rootChild plain]),
      Tree.status, Tree.locate_rootChild plain (by decide) (by simp [found]), found]

theorem follows_region :
    Linkage.Follows regionTree guide (.ofNames .root []) regionInfo.values := by
  refine ⟨by simp [regionInfo, OrderedMap.find?], ?_, by simp [regionInfo, OrderedMap.find?]⟩
  rintro _ given
  obtain rfl : "loop.py" = _ := by simpa [regionInfo, OrderedMap.find?] using given
  exact (Linkage.leadsFrom_iff _).mpr ⟨_, _, supplies_region.1, supplies_region.2.1⟩

theorem fragments_linkedAs_region :
    ∃ first second,
      (fragments regionTree guide (.ofNames .root [])).outcome = .ok [first, second] ∧
        first.problems = [] ∧ first.text = "x = 1" ∧ second.problems ≠ [] := by
  obtain ⟨leads, file, source, body⟩ := supplies_region
  have linked : ∀ block ∈ Block.annotated (Block.ofLines regionGuide), ∃ fragment,
      Fragment.link regionTree guide (.ofNames .root []) block.line block.opening.info
        (joinLines block.body) = .ok fragment := by
    simp only [annotated_regionGuide, List.forall_mem_cons, Fragment.exists_link_iff, ofInfo_region,
      ofInfo_maybe]
    exact ⟨follows_region, ⟨by simp [maybeInfo, OrderedMap.find?],
      by simp [maybeInfo, OrderedMap.find?], by simp [maybeInfo, OrderedMap.find?]⟩, by simp⟩
  obtain ⟨_, beside⟩ := exists_forall₂_iff.mpr linked
  have built := fragments_eq_ok.mpr ⟨_, readLines_regionGuide, beside⟩
  obtain ⟨text, reread, both⟩ := fragments_linkedAs.2 _ built
  obtain rfl := Except.ok.inj (readLines_regionGuide.symm.trans reread)
  rw [annotated_regionGuide] at both
  obtain ⟨first, _, linkedFirst, rest, rfl⟩ := List.forall₂_cons_left_iff.mp both
  obtain ⟨second, _, linkedSecond, ⟨⟩, rfl⟩ := List.forall₂_cons_left_iff.mp rest
  obtain ⟨clean, supplied, _⟩ := linkedFirst
  rw [ofInfo_region] at clean supplied
  refine ⟨first, second, built, clean.mpr ⟨?_, ?_⟩, supplied _ ?_, fun none => ?_⟩
  · exact FenceInfo.problems_ofInfo_eq_nil_iff.mp (by rw [ofInfo_region]; rfl)
  · refine ⟨by simp [regionInfo, OrderedMap.find?], by simp [regionInfo, OrderedMap.find?],
      by simp [regionInfo, OrderedMap.find?], fun value given => ?_⟩
    obtain rfl : "loop.py" = value := by simpa [regionInfo, OrderedMap.find?] using given
    refine ⟨_, _, leads, file, source, fun region named _ => ?_⟩
    obtain rfl : "a" = region := by simpa [regionInfo, OrderedMap.find?] using named
    exact ⟨_, body⟩
  · exact ⟨"loop.py", _, _, rfl, leads, file, source, body⟩
  · have truth := (linkedSecond.clean.mp none).2.editable "maybe" (by rw [ofInfo_maybe]; rfl)
    rw [← isTruthWord_iff] at truth
    exact absurd truth (by decide +kernel)

end Document

end DocSamples
