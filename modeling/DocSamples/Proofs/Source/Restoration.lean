import Mathlib
import DocSamples.Compiler.Checker
import DocSamples.Proofs.Document
import DocSamples.Proofs.Isolation
import DocSamples.Proofs.Linkage
import DocSamples.Proofs.Region.Parts
import DocSamples.Proofs.Source.Injection
import DocSamples.Proofs.Source.Merging

namespace DocSamples

open Text

/-! # Regions taken out and put back

A body that is put back where it was taken from stands there as before, except for its blank
end: of the empty lines at the end of it only one may stay, when there is no other line.  A
sample that is a region of a file is compiled as that file, with the same exception.
-/

namespace Region

variable {text name : String} {span : Span}

def bodyLines (text : String) (span : Span) : List String :=
  ((lines text).take span.last).drop (span.first + 1)

/-- The lines of a text with the body of a region put back. -/
def restoredLines (text : String) (span : Span) : List String :=
  (keptLines text).take (span.first + 1) ++ putBack (bodyLines text span) ++
    (keptLines text).drop span.last

/-- Neither the body of a region nor the text has an empty line at its end that is not kept. -/
structure IsRestorable (text : String) (span : Span) : Prop where
  body : (bodyLines text span).tail.getLast? ≠ some ""
  ending : endsWithNewline text = true ∨ (lines text).getLast? ≠ some ""

theorem bodyLines_of_parts {parts : Parts} (whole : parts.all = keptLines text) :
    bodyLines text parts.span = parts.body := by
  obtain ⟨gap, _, split⟩ := exists_keptLines_append text
  rw [bodyLines, split, ← whole]
  exact (parts.take_drop_all gap).2.1

theorem restoredLines_of_parts {parts : Parts} (whole : parts.all = keptLines text) :
    restoredLines text parts.span = { parts with body := putBack parts.body }.all := by
  obtain ⟨above, _, below⟩ := parts.take_drop_all []
  rw [List.append_nil, whole] at above below
  rw [restoredLines, bodyLines_of_parts whole, above, below]
  simp [Parts.all]

/-- The lines of a body that is put back, with those around it, are the same as before only if
none is lost. -/
theorem restoredLines_eq_iff {parts : Parts} (whole : parts.all = keptLines text)
    (some : parts.body ≠ []) :
    restoredLines text parts.span = lines text ↔ IsRestorable text parts.span := by
  obtain ⟨gap, empty, split⟩ := exists_keptLines_append text
  have restorable : IsRestorable text parts.span ↔ putBack parts.body = parts.body ∧ gap = [] := by
    have kept : gap = [] ↔ keptLines text = lines text := by
      rw [split]
      simp
    rw [kept, keptLines_eq_lines_iff, putBack_eq_self_iff some, ← bodyLines_of_parts whole]
    exact ⟨fun both => ⟨both.body, both.ending⟩, fun ⟨body, ending⟩ => ⟨body, ending⟩⟩
  rw [restoredLines_of_parts whole, restorable, split, ← whole]
  have cancelled : { parts with body := putBack parts.body }.all = parts.all ++ gap ↔
      putBack parts.body ++ parts.closing :: parts.below =
        parts.body ++ parts.closing :: (parts.below ++ gap) := by
    simp [Parts.all]
  rw [cancelled]
  constructor
  · intro same
    have lengths := congrArg List.length same
    have shorter := length_putBack_le some
    simp only [List.length_append, List.length_cons] at lengths
    obtain rfl : gap = [] := List.eq_nil_of_length_eq_zero (by omega)
    rw [List.append_nil] at same
    exact ⟨List.append_cancel_right same, rfl⟩
  · rintro ⟨body, rfl⟩
    rw [body, List.append_nil]

theorem isLine_of_mem_body {parts : Parts} (whole : parts.all = keptLines text) :
    ∀ line ∈ parts.body, IsLine line := by
  intro line member
  have inside : line ∈ keptLines text := by simp [← whole, Parts.all, member]
  exact isLine_of_mem_keptLines inside

/-- What a text is when the body of a region has been taken out and put back. -/
theorem exists_restored (found : find? text name = some span) (some : bodyLines text span ≠ []) :
    ∃ body result, body? text name = .some body ∧ replace? text name body = .some result ∧
      lines result = restoredLines text span ∧
      (lines result = lines text ↔ IsRestorable text span) := by
  obtain ⟨parts, placed, whole, rfl⟩ := exists_parts_of_find found
  obtain ⟨result, replaced, read, _⟩ := replace_of_parts placed whole (joinLines parts.body)
  rw [lines_putBack (isLine_of_mem_body whole), ← restoredLines_of_parts whole] at read
  rw [bodyLines_of_parts whole] at some
  refine ⟨_, result, body_of_parts placed whole, replaced, read, ?_⟩
  rw [read]
  exact restoredLines_eq_iff whole some

end Region

/-! ## Samples that are regions of files -/

/-- A sample that is taken from a region of a file, and goes nowhere else. -/
structure Fragment.IsCutFrom (tree : Tree) (path : Path) (text name : String)
    (fragment : Fragment) : Prop where
  linked : ∃ document root line info block,
    Fragment.link tree document root line info block = .ok fragment
  sample : fragment.editable = true
  source : fragment.sourceFile = some path
  named : fragment.region = some name
  unplaced : fragment.destination = none
  read : tree.readText path = .ok text

/-- A fragment that is the only one of its session, which includes nothing. -/
structure Fragment.IsAlone (fragments : List Fragment) (fragment : Fragment) : Prop where
  only : fragments.filter (·.session = fragment.session) = [fragment]
  unseen : ∀ other ∈ fragments, ¬ other.IsSeenBy fragment.session

section Cut

variable {tree : Tree} {defaults : IncludeDefaults} {fragments : List Fragment}
  {fragment : Fragment} {includes : Includes} {path : Path} {text name : String}
  {span : Region.Span}

theorem Fragment.IsCutFrom.text_eq (cut : fragment.IsCutFrom tree path text name)
    (found : Region.find? text name = some span) :
    Region.body? text name = some fragment.text := by
  obtain ⟨document, root, line, info, block, linked⟩ := cut.linked
  have taken := takenFrom_of_link linked
  have file := taken.sourceFile
  rw [cut.source] at file
  obtain ⟨value, given, leads⟩ : ∃ value, (FenceInfo.ofInfo info).values.find? .sourceFile =
      some value ∧ Linkage.localPath tree document value = .ok path := by
    cases found : (FenceInfo.ofInfo info).values.find? .sourceFile with
    | none => simp [found] at file
    | some value =>
        rw [found] at file
        cases file with
        | some leads => exact ⟨value, rfl, leads⟩
  have region : ((FenceInfo.ofInfo info).values.find? .region).filter (· ≠ "") = some name := by
    rw [← taken.names.2, cut.named]
    simp [Option.filter, (Region.solid_of_find found).1]
  obtain ⟨body, cutOut⟩ : ∃ body, Region.body? text name = some body := by
    rw [Region.body?, found]
    exact ⟨_, rfl⟩
  have supplied : Linkage.Supplies tree document (FenceInfo.ofInfo info).values body := by
    refine ⟨value, path, text, given, leads, Tree.isFile_of_readText cut.read, cut.read, ?_⟩
    rw [region]
    exact cutOut
  rw [cutOut, taken.supplied body supplied]

/-- The workspace of a session that includes nothing has its samples and no files. -/
theorem Workspace.forName_of_isAlone (alone : fragment.IsAlone fragments)
    (sample : fragment.editable = true)
    (collected : Includes.collect tree defaults fragments = .ok includes) :
    ∃ workspace, forName tree defaults fragments fragment.session = .ok (some workspace) ∧
      workspace.files = [] ∧ workspace.buffers = [.ofFragment fragment] := by
  have present : fragment ∈ fragments.filter (·.session = fragment.session) := by
    rw [alone.only]
    simp
  obtain ⟨member, _⟩ := List.mem_filter.mp present
  refine ⟨_, forName_eq_some.mpr ⟨includes, collected, ⟨fragment, member, rfl⟩, rfl⟩, ?_⟩
  obtain ⟨inclusions, beside, rfl⟩ := Includes.collect_eq_ok.mp collected
  rw [alone.only]
  have empty : ofSession ⟨fragment.session, [fragment]⟩ (Includes.ofInclusions inclusions) =
      ofSession ⟨fragment.session, [fragment]⟩ (Includes.ofInclusions []) := by
    refine ofSession_congr fun scope seen => ?_
    have placed := Includes.places_filter (seen_scopes rfl seen) beside
    have none : fragments.filter (Fragment.IsSeenBy fragment.session) = [] :=
      List.filter_eq_nil_iff.mpr fun other here => by simpa using alone.unseen other here
    rw [none] at placed
    simpa using placed
  have noFiles (scope : Scope) : (Includes.ofInclusions []).filesIn scope = [] := rfl
  have noBuffers (scope : Scope) : (Includes.ofInclusions []).buffersIn scope = [] := rfl
  rw [empty]
  simp [ofSession, noFiles, noBuffers, Session.editableFragments, sample]

/-- A sample from a region of a file is compiled within that file. -/
theorem Workspace.sources_of_cut {workspace : Workspace} {result : String}
    (cut : fragment.IsCutFrom tree path text name) (filled : name ≠ "")
    (noFiles : workspace.files = []) (buffers : workspace.buffers = [.ofFragment fragment])
    (replaced : Region.replace? text name fragment.text = some result) :
    (workspace.sources tree).outcome = .ok [⟨path.text, result, some path, true⟩] := by
  have id : (Buffer.ofFragment fragment).id = ⟨some path, some name⟩ := by
    simp [Buffer.ofFragment, cut.unplaced, cut.source, cut.named]
  have place : (Buffer.ofFragment fragment).id.path = some path := by rw [id]
  have named : (Buffer.ofFragment fragment).id.namedRegion? = some name := by
    rw [id]
    simp [BufferId.namedRegion?, Option.filter, filled]
  have hosted : ((Sources.ofFiles []).hostText tree path).outcome = .ok (some text) :=
    Sources.hostText_of_file rfl cut.read
  have added := @Assembly.addBuffer_of_replace _ _ ⟨Sources.ofFiles [], 0⟩ _ _ _ _
    place named hosted replaced
  refine Workspace.sources_eq_ok.mpr
    ⟨⟨⟨[(path.text, ⟨path.text, result, some path, true⟩)]⟩, 0⟩, ?_, rfl⟩
  rw [noFiles, buffers, Buffer.mergeRegions_of_nodup (by simp)]
  exact Assembly.addBuffers_cons_eq_ok.mpr ⟨_, added, rfl⟩

end Cut

/-- A region that is taken out of a text and put back leaves the lines of the text as they were,
except for empty lines at the end of its body or of the text.  A session that is nothing but such
a region of a file is compiled as the file with these lines, so with the lines of the file itself
exactly when no empty line is lost. -/
theorem region_put_back_iff {text name : String} {span : Region.Span}
    (found : Region.find? text name = some span) (filled : Region.bodyLines text span ≠ []) :
    (∃ body result, Region.body? text name = some body ∧
      Region.replace? text name body = some result ∧
      lines result = Region.restoredLines text span ∧
      (lines result = lines text ↔ Region.IsRestorable text span)) ∧
    ∀ (tree : Tree) (defaults : IncludeDefaults) (path : Path) (fragments : List Fragment)
      (fragment : Fragment) (includes : Includes),
      fragment.IsCutFrom tree path text name → fragment.IsAlone fragments →
      Includes.collect tree defaults fragments = .ok includes →
      ∃ workspace source,
        Workspace.forName tree defaults fragments fragment.session = .ok (some workspace) ∧
        (workspace.sources tree).outcome = .ok [source] ∧
        source.name = path.text ∧ source.path = some path ∧ source.editable = true ∧
        (∀ checker : Checker, ((checker.compiler tree).compile workspace).outcome =
          .ok (Checker.resultOf ((checker source.text).map fun rejection =>
            Finding.mk source (rejection.diagnostic path.text)).toList)) ∧
        lines source.text = Region.restoredLines text span ∧
        ((∀ number : Nat, (lines source.text)[number]? = (lines text)[number]?) ↔
          Region.IsRestorable text span) := by
  refine ⟨Region.exists_restored found filled, ?_⟩
  intro tree defaults path fragments fragment includes cut alone collected
  obtain ⟨body, result, cutOut, replaced, read, restored⟩ := Region.exists_restored found filled
  obtain rfl : body = fragment.text := by
    simpa [cutOut] using cut.text_eq found
  obtain ⟨workspace, built, noFiles, buffers⟩ :=
    Workspace.forName_of_isAlone alone cut.sample collected
  have assembled := Workspace.sources_of_cut cut (Region.solid_of_find found).1 noFiles buffers
    replaced
  refine ⟨workspace, _, built, assembled, rfl, rfl, rfl, ?_, read, ?_⟩
  · intro checker
    refine Attempt.bind_eq_ok.mpr ⟨_, Attempt.mapFault_eq_ok.mpr assembled, ?_⟩
    cases refused : checker result <;> simp [Checker.finding?, refused]
  · rw [← restored]
    exact ⟨List.ext_getElem?, fun same number => by rw [same]⟩

/-! ## A body that ends with a line, and one that ends with an empty one -/

def regionHost : String := joinLines ["#region a", "x = 1", "#endregion"] ++ "\n"

def regionGuide : List String :=
  ["\x60\x60\x60 python --source-file loop.py --region a", "\x60\x60\x60"]

def regionInfo : FenceInfo where
  language := "python"
  values := ⟨[(.sourceFile, "loop.py"), (.region, "a")]⟩
  problems := []

theorem region_put_back_solid :
    Region.find? regionHost "a" = some ⟨0, 2⟩ ∧ Region.IsRestorable regionHost ⟨0, 2⟩ ∧
    ∃ tree path fragment workspace source,
      fragment.IsCutFrom tree path regionHost "a" ∧
      Workspace.forName tree rootDefaults [fragment] fragment.session = .ok (some workspace) ∧
      (workspace.sources tree).outcome = .ok [source] ∧
      ∀ number : Nat, (lines source.text)[number]? = (lines regionHost)[number]? := by
  let host : Path := .ofNames .root ["loop.py"]
  let tree : Tree :=
    Document.treeOf regionGuide [(["loop.py"], .file (Utf8.encodeText regionHost))]
  have found : Region.find? regionHost "a" = some ⟨0, 2⟩ := by decide +kernel
  have filled : Region.bodyLines regionHost ⟨0, 2⟩ ≠ [] := by decide +kernel
  have restorable : Region.IsRestorable regionHost ⟨0, 2⟩ :=
    ⟨by decide +kernel, .inl (by decide +kernel)⟩
  have plain : Tree.IsPlain "loop.py" := by decide
  have noLinks : tree.NoLinks := Document.noLinks_treeOf (by simp)
  have read : tree.readText host = .ok regionHost :=
    Document.readText_rootChild plain (by decide) (by simp [IsLine, isLineEnd])
      (by simp [tree, Tree.lookup, Document.treeOf, regionHost])
  have leads : Linkage.localPath tree Document.guide "loop.py" = .ok host := by
    rw [Linkage.localPath, Document.join_guide plain.1]
    exact Tree.resolve_eq_self noLinks rfl (by simpa [Tree.names_rootChild plain.1] using plain)
  have info : FenceInfo.ofInfo "python --source-file loop.py --region a" = regionInfo := by
    decide +kernel
  have source : Linkage.sourceFile tree Document.guide regionInfo.values =
      .ok ((some host, some "x = 1"), []) := by
    have body : Region.body? regionHost "a" = some "x = 1" := by decide +kernel
    have cutOut : Linkage.readSource tree host (some "a") = (some "x = 1", []) := by
      simp [Linkage.readSource, read, Option.filter, body]
    refine Linkage.sourceFile_eq_ok.mpr
      (.inr ⟨_, host, true, rfl, leads, Tree.isFile_of_readText read, ?_⟩)
    simp [regionInfo, OrderedMap.find?, cutOut]
  let fragment : Fragment :=
    { document := Document.guide, line := 0, language := "python", text := "x = 1"
      region := some "a", sourceFile := some host }
  have linked : Fragment.link tree Document.guide (.ofNames .root []) 0
      "python --source-file loop.py --region a" "" = .ok fragment := by
    refine Fragment.link_eq_ok.mpr ⟨(none, []), _, none, ?_, by rw [info]; exact source, ?_, ?_⟩
    · rw [info]
      exact Linkage.project_eq_ok.mpr (.inl ⟨rfl, rfl⟩)
    · rw [info]
      exact Linkage.destination_eq_ok.mpr (.inl ⟨rfl, rfl⟩)
    · rw [info]
      rfl
  have cut : fragment.IsCutFrom tree host regionHost "a" :=
    ⟨⟨_, _, _, _, _, linked⟩, rfl, rfl, rfl, rfl, read⟩
  have alone : fragment.IsAlone [fragment] :=
    ⟨by simp, by simp [Fragment.IsSeenBy, fragment]⟩
  have collected : Includes.collect tree rootDefaults [fragment] = .ok (.ofInclusions []) :=
    Includes.collect_eq_ok.mpr ⟨[], .nil, rfl⟩
  obtain ⟨workspace, compiled, built, assembled, _, _, _, _, _, same⟩ :=
    (region_put_back_iff found filled).2 tree rootDefaults host _ _ _ cut alone collected
  exact ⟨found, restorable, tree, host, fragment, workspace, compiled, cut, built, assembled,
    same.mpr restorable⟩

/-- An empty line at the end of a body is lost when the body has been put back. -/
theorem region_put_back_shorter :
    ∃ text name body result, (Region.find? text name).isSome = true ∧
      Region.body? text name = some body ∧ Region.replace? text name body = some result ∧
      lines result ≠ lines text :=
  ⟨"#region a\nx = 1\n\n#endregion\n", "a", "x = 1\n", "#region a\nx = 1\n#endregion\n",
    by decide +kernel⟩

end DocSamples
