import Mathlib
import DocSamples.Fragment.Linkage
import DocSamples.Proofs.Attempt
import DocSamples.Proofs.Tree

namespace DocSamples

open Text

/-! # What linking makes of options

A fragment is linked when the paths that its options give can be followed.  Then each
thing that is wrong with an option is a problem of the fragment, and nothing else is.
-/

namespace Linkage

variable {tree : Tree} {document root path : Path} {values : OrderedMap OptionName String}
  {info : FenceInfo}

/-- A path that a document gives leads to a path without links, which is not too long to
be looked up. -/
def LeadsFrom (tree : Tree) (document : Path) (value : String) : Prop :=
  ∃ path, localPath tree document value = .ok path ∧ tree.status path ≠ .error .nameTooLong

/-- The paths among the options can be followed.  A destination is not looked up. -/
structure Follows (tree : Tree) (document root : Path) (values : OrderedMap OptionName String) :
    Prop where
  project : ∀ value, values.find? .project = some value → LeadsFrom tree document value
  sourceFile : ∀ value, values.find? .sourceFile = some value → LeadsFrom tree document value
  destination : ∀ value, values.find? .destinationFile = some value →
    ∃ path, tree.resolve (root.join (.ofText value)) = .ok path

/-- What can be wrong with the options of a fence. -/
inductive Arises (tree : Tree) (document : Path) (info : FenceInfo) : LinkageProblem → Prop
  | option {problem} (told : problem ∈ info.problems) : Arises tree document info (.option problem)
  | invalidEditable {value} (given : info.values.find? .editable = some value)
      (notTrue : value.toLower ≠ "true") (notFalse : value.toLower ≠ "false") :
      Arises tree document info (.invalidEditable value)
  | projectAndPackage {project} (given : info.values.find? .project = some project)
      (both : info.values.contains .package = true) :
      Arises tree document info .projectAndPackage
  | projectNotFound {value path} (given : info.values.find? .project = some value)
      (leads : localPath tree document value = .ok path) (nothing : tree.existsAt path = .ok false) :
      Arises tree document info (.projectNotFound path)
  | fileNotFound {value path} (given : info.values.find? .sourceFile = some value)
      (leads : localPath tree document value = .ok path) (noFile : tree.isFile path = .ok false) :
      Arises tree document info (.fileNotFound path)
  | unreadableFile {value path fault} (given : info.values.find? .sourceFile = some value)
      (leads : localPath tree document value = .ok path) (file : tree.isFile path = .ok true)
      (unread : tree.readText path = .error fault) :
      Arises tree document info (.unreadableFile path fault)
  | regionNotFound {value path text region} (given : info.values.find? .sourceFile = some value)
      (leads : localPath tree document value = .ok path) (file : tree.isFile path = .ok true)
      (read : tree.readText path = .ok text) (named : info.values.find? .region = some region)
      (filled : region ≠ "") (absent : Region.body? text region = none) :
      Arises tree document info (.regionNotFound region path)

/-- The text that a source file gives, or a region of it. -/
def Supplies (tree : Tree) (document : Path) (values : OrderedMap OptionName String)
    (text : String) : Prop :=
  ∃ value path whole, values.find? .sourceFile = some value ∧
    localPath tree document value = .ok path ∧ tree.isFile path = .ok true ∧
    tree.readText path = .ok whole ∧
    match (values.find? .region).filter (· ≠ "") with
    | none => text = whole
    | some region => Region.body? whole region = some text

/-! ## Step by step -/

theorem project_eq_ok {found : Found (Option String)} :
    project tree document values = .ok found ↔
      (values.find? .project = none ∧ found = (values.find? .package, [])) ∨
      ∃ value path there, values.find? .project = some value ∧
        localPath tree document value = .ok path ∧ tree.existsAt path = .ok there ∧
        found = (some path.text,
          (if values.contains .package then [.projectAndPackage] else []) ++
            if there then [] else [.projectNotFound path]) := by
  unfold project
  cases given : values.find? .project with
  | none => simp [pure, Except.pure, @eq_comm _ found]
  | some value =>
      simp only [Except.bind_eq_ok]
      simp [pure, Except.pure, @eq_comm _ found]

theorem sourceFile_eq_ok {found : Found (Option Path × Option String)} :
    sourceFile tree document values = .ok found ↔
      (values.find? .sourceFile = none ∧ found = ((none, none), [])) ∨
      ∃ value path there, values.find? .sourceFile = some value ∧
        localPath tree document value = .ok path ∧ tree.isFile path = .ok there ∧
        found = if there then
            ((some path, (readSource tree path (values.find? .region)).1),
              (readSource tree path (values.find? .region)).2)
          else ((some path, none), [.fileNotFound path]) := by
  unfold sourceFile
  cases given : values.find? .sourceFile with
  | none => simp [pure, Except.pure, @eq_comm _ found]
  | some value =>
      simp only [Except.bind_eq_ok, ← apply_ite]
      simp [pure, Except.pure, @eq_comm _ found]

theorem destination_eq_ok {found : Option Path} :
    destination tree root values = .ok found ↔
      (values.find? .destinationFile = none ∧ found = none) ∨
      ∃ value path, values.find? .destinationFile = some value ∧
        tree.resolve (root.join (.ofText value)) = .ok path ∧ found = some path := by
  unfold destination
  cases given : values.find? .destinationFile with
  | none => simp [@eq_comm _ found]
  | some value =>
      cases reached : tree.resolve (root.join (.ofText value)) <;>
        simp [Except.map, reached, @eq_comm _ found]

theorem editable_eq_false : (editable values).1 = false ↔
    ∃ value, values.find? .editable = some value ∧ value.toLower = "false" := by
  unfold editable
  cases values.find? .editable with
  | none => simp
  | some value =>
      by_cases isTrue : value.toLower = "true"
      · simp [isTrue]
      · by_cases isFalse : value.toLower = "false" <;> simp [isTrue, isFalse]

/-! ## What ends a linking -/

/-- A path that leads somewhere is looked at for anything that may be there. -/
theorem leadsFrom_iff {value : String} (kind : Entry → Bool) : LeadsFrom tree document value ↔
    ∃ path there, localPath tree document value = .ok path ∧ tree.leadsTo kind path = .ok there := by
  simp only [LeadsFrom, exists_and_left]
  refine exists_congr fun path => and_congr_right fun leads => ?_
  exact (Tree.exists_leadsTo_iff (Tree.hasNullByte_of_resolve leads)).symm

theorem exists_project_iff : (∃ found, project tree document values = .ok found) ↔
    ∀ value, values.find? .project = some value → LeadsFrom tree document value := by
  have looked (value : String) : LeadsFrom tree document value ↔ ∃ path there,
      localPath tree document value = .ok path ∧ tree.existsAt path = .ok there := leadsFrom_iff _
  simp only [project_eq_ok, looked, exists_or, @exists_comm (Found _), exists_and_left, exists_eq,
    and_true]
  cases values.find? .project <;> simp

theorem exists_sourceFile_iff : (∃ found, sourceFile tree document values = .ok found) ↔
    ∀ value, values.find? .sourceFile = some value → LeadsFrom tree document value := by
  have looked (value : String) : LeadsFrom tree document value ↔ ∃ path there,
      localPath tree document value = .ok path ∧ tree.isFile path = .ok there := leadsFrom_iff _
  simp only [sourceFile_eq_ok, looked, exists_or, @exists_comm (Found _), exists_and_left, exists_eq,
    and_true]
  cases values.find? .sourceFile <;> simp

theorem exists_destination_iff : (∃ found, destination tree root values = .ok found) ↔
    ∀ value, values.find? .destinationFile = some value →
      ∃ path, tree.resolve (root.join (.ofText value)) = .ok path := by
  simp only [destination_eq_ok]
  cases given : values.find? .destinationFile <;> simp

section Faults

variable {fault : PathFault}

theorem fault_of_project (failed : project tree document values = .error fault) :
    fault.IsObstruction := by
  unfold project at failed
  cases given : values.find? .project with
  | none => simp [given, pure, Except.pure] at failed
  | some value =>
      simp only [given, Except.bind_eq_error] at failed
      rcases failed with unresolved | ⟨path, _, unseen | ⟨_, _, failed⟩⟩
      · exact Tree.fault_of_resolve unresolved
      · exact Tree.fault_of_leadsTo unseen
      · simp [pure, Except.pure] at failed

theorem fault_of_sourceFile (failed : sourceFile tree document values = .error fault) :
    fault.IsObstruction := by
  unfold sourceFile at failed
  cases given : values.find? .sourceFile with
  | none => simp [given, pure, Except.pure] at failed
  | some value =>
      simp only [given, Except.bind_eq_error] at failed
      rcases failed with unresolved | ⟨path, _, unseen | ⟨there, _, failed⟩⟩
      · exact Tree.fault_of_resolve unresolved
      · exact Tree.fault_of_leadsTo unseen
      · cases there <;> simp [pure, Except.pure] at failed

theorem fault_of_destination (failed : destination tree root values = .error fault) :
    fault.IsObstruction := by
  unfold destination at failed
  cases given : values.find? .destinationFile with
  | none => simp [given] at failed
  | some value =>
      cases reached : tree.resolve (root.join (.ofText value)) with
      | ok path => simp [given, reached, Except.map] at failed
      | error fault =>
          simp only [given, reached, Except.map, Except.error.injEq] at failed
          exact failed ▸ Tree.fault_of_resolve reached

end Faults

/-! ## What is wrong -/

variable {problem : LinkageProblem} {text : String} {region : Option String}

theorem mem_editable_problems : problem ∈ (editable values).2 ↔
    ∃ value, values.find? .editable = some value ∧ value.toLower ≠ "true" ∧
      value.toLower ≠ "false" ∧ problem = .invalidEditable value := by
  unfold editable
  cases values.find? .editable with
  | none => simp
  | some value =>
      by_cases isTrue : value.toLower = "true"
      · simp [isTrue]
      · by_cases isFalse : value.toLower = "false" <;> simp [isTrue, isFalse]

theorem mem_project_problems {found : Found (Option String)}
    (projected : project tree document values = .ok found) : problem ∈ found.2 ↔
      (∃ value, values.find? .project = some value ∧ values.contains .package = true ∧
        problem = .projectAndPackage) ∨
      ∃ value path, values.find? .project = some value ∧ localPath tree document value = .ok path ∧
        tree.existsAt path = .ok false ∧ problem = .projectNotFound path := by
  rcases project_eq_ok.mp projected with ⟨none, rfl⟩ | ⟨value, path, there, given, leads, looked, rfl⟩
  · simp [none]
  · simp only [given, List.mem_append, Option.some.injEq, exists_and_left, exists_eq_left', leads,
      Except.ok.injEq, looked]
    by_cases both : values.contains .package = true <;> cases there <;> simp [both]

theorem readSource_text : (readSource tree path region).1 = some text ↔
    ∃ whole, tree.readText path = .ok whole ∧
      match region.filter (· ≠ "") with
      | none => text = whole
      | some name => Region.body? whole name = some text := by
  unfold readSource
  cases tree.readText path with
  | error fault => simp
  | ok whole =>
      cases region.filter (· ≠ "") with
      | none => simp [eq_comm]
      | some name => cases found : Region.body? whole name <;> simp [found]

theorem mem_readSource_problems : problem ∈ (readSource tree path region).2 ↔
    (∃ fault, tree.readText path = .error fault ∧ problem = .unreadableFile path fault) ∨
    ∃ whole name, tree.readText path = .ok whole ∧ region.filter (· ≠ "") = some name ∧
      Region.body? whole name = none ∧ problem = .regionNotFound name path := by
  unfold readSource
  cases tree.readText path with
  | error fault => simp
  | ok whole =>
      cases region.filter (· ≠ "") with
      | none => simp
      | some name => cases found : Region.body? whole name <;> simp [found]

theorem mem_sourceFile_problems {found : Found (Option Path × Option String)}
    (sourced : sourceFile tree document values = .ok found) : problem ∈ found.2 ↔
      ∃ value path, values.find? .sourceFile = some value ∧
        localPath tree document value = .ok path ∧
        ((tree.isFile path = .ok false ∧ problem = .fileNotFound path) ∨
          (tree.isFile path = .ok true ∧
            problem ∈ (readSource tree path (values.find? .region)).2)) := by
  rcases sourceFile_eq_ok.mp sourced with
    ⟨none, rfl⟩ | ⟨value, path, there, given, leads, looked, rfl⟩
  · simp [none]
  · simp only [given, Option.some.injEq, exists_and_left, exists_eq_left', leads, Except.ok.injEq,
      looked]
    cases there <;> simp

theorem sourceFile_text {found : Found (Option Path × Option String)}
    (sourced : sourceFile tree document values = .ok found) :
    found.1.2 = some text ↔ Supplies tree document values text := by
  rcases sourceFile_eq_ok.mp sourced with
    ⟨none, rfl⟩ | ⟨value, path, there, given, leads, looked, rfl⟩
  · simp [Supplies, none]
  · cases there <;> simp [Supplies, given, leads, looked, readSource_text]

theorem arises_iff {info : FenceInfo} {projected : Found (Option String)}
    {sourced : Found (Option Path × Option String)}
    (project : project tree document info.values = .ok projected)
    (source : sourceFile tree document info.values = .ok sourced) :
    Arises tree document info problem ↔ problem ∈ info.problems.map LinkageProblem.option ++
      (editable info.values).2 ++ projected.2 ++ sourced.2 := by
  simp only [List.mem_append, List.mem_map, mem_editable_problems, mem_project_problems project,
    mem_sourceFile_problems source, mem_readSource_problems]
  constructor
  · intro arises
    cases arises <;> grind
  · rintro (((⟨told, member, rfl⟩ | ⟨value, given, notTrue, notFalse, rfl⟩) |
      (⟨value, given, both, rfl⟩ | ⟨value, path, given, leads, nothing, rfl⟩)) |
      ⟨value, path, given, leads, ⟨noFile, rfl⟩ | ⟨file, unused⟩⟩)
    · exact .option member
    · exact .invalidEditable given notTrue notFalse
    · exact .projectAndPackage given both
    · exact .projectNotFound given leads nothing
    · exact .fileNotFound given leads noFile
    · rcases unused with ⟨fault, unread, rfl⟩ | ⟨whole, name, read, named, absent, rfl⟩
      · exact .unreadableFile given leads file unread
      · obtain ⟨named, filled⟩ := Option.filter_eq_some_iff.mp named
        exact .regionNotFound given leads file read named (by simpa using filled) absent

end Linkage

theorem Fragment.link_eq_ok {tree : Tree} {document root : Path} {line : Nat} {info body : String}
    {fragment : Fragment} : link tree document root line info body = .ok fragment ↔
      ∃ project source destination,
        Linkage.project tree document (FenceInfo.ofInfo info).values = .ok project ∧
        Linkage.sourceFile tree document (FenceInfo.ofInfo info).values = .ok source ∧
        Linkage.destination tree root (FenceInfo.ofInfo info).values = .ok destination ∧
        fragment = {
          document, line, destination
          language := (FenceInfo.ofInfo info).language
          text := source.1.2.getD body
          session := (FenceInfo.ofInfo info).values.find? .session
          editable := (Linkage.editable (FenceInfo.ofInfo info).values).1
          project := project.1
          region := (FenceInfo.ofInfo info).values.find? .region
          sourceFile := source.1.1
          problems := ((FenceInfo.ofInfo info).problems.map LinkageProblem.option ++
            (Linkage.editable (FenceInfo.ofInfo info).values).2 ++ project.2 ++ source.2).map
              LinkageProblem.diagnostic } := by
  simp only [link, Except.bind_eq_ok]
  simp [pure, Except.pure, @eq_comm _ fragment]

namespace Fragment

variable {tree : Tree} {document root : Path} {line : Nat} {info body : String}
  {fragment : Fragment}

/-- What a fragment has from its place, its own fence and its own block. -/
structure TakenFrom (tree : Tree) (document root : Path) (line : Nat) (info : FenceInfo)
    (body : String) (fragment : Fragment) : Prop where
  place : fragment.document = document ∧ fragment.line = line
  language : fragment.language = info.language
  names : fragment.session = info.values.find? .session ∧
    fragment.region = info.values.find? .region
  readOnly : fragment.editable = false ↔
    ∃ value, info.values.find? .editable = some value ∧ value.toLower = "false"
  /-- A project that is given as a path comes before a package. -/
  project : ∃ path, Option.Rel (fun value path => Linkage.localPath tree document value = .ok path)
      (info.values.find? .project) path ∧
    fragment.project = (path.map Path.text).or (info.values.find? .package)
  sourceFile : Option.Rel (fun value path => Linkage.localPath tree document value = .ok path)
    (info.values.find? .sourceFile) fragment.sourceFile
  destination : Option.Rel (fun value path => tree.resolve (root.join (.ofText value)) = .ok path)
    (info.values.find? .destinationFile) fragment.destination
  supplied : ∀ text, Linkage.Supplies tree document info.values text → fragment.text = text
  /-- Without a source file that supplies it, the text is that of the block. -/
  own : (¬ ∃ text, Linkage.Supplies tree document info.values text) → fragment.text = body
  problems : ∀ diagnostic, diagnostic ∈ fragment.problems ↔
    ∃ problem, Linkage.Arises tree document info problem ∧ problem.diagnostic = diagnostic

theorem takenFrom_of_link (linked : link tree document root line info body = .ok fragment) :
    fragment.TakenFrom tree document root line (.ofInfo info) body := by
  obtain ⟨projected, sourced, placed, project, source, destination, rfl⟩ := link_eq_ok.mp linked
  refine ⟨⟨rfl, rfl⟩, rfl, ⟨rfl, rfl⟩, Linkage.editable_eq_false, ?_, ?_, ?_, fun text supplies => ?_,
    fun none => ?_, fun diagnostic => ?_⟩
  · rcases Linkage.project_eq_ok.mp project with
      ⟨none, rfl⟩ | ⟨value, path, _, given, leads, _, rfl⟩
    · exact ⟨.none, by rw [none]; exact .none, rfl⟩
    · exact ⟨some path, given ▸ .some leads, rfl⟩
  · rcases Linkage.sourceFile_eq_ok.mp source with
      ⟨none, rfl⟩ | ⟨value, path, there, given, leads, _, rfl⟩
    · rw [none]
      exact .none
    · cases there <;> exact given ▸ .some leads
  · rcases Linkage.destination_eq_ok.mp destination with
      ⟨none, rfl⟩ | ⟨value, path, given, leads, rfl⟩
    · rw [none]
      exact .none
    · exact given ▸ .some leads
  · rw [(Linkage.sourceFile_text source).mpr supplies, Option.getD_some]
  · have unsupplied : sourced.1.2 = Option.none := Option.eq_none_iff_forall_ne_some.mpr
      fun text supplied => none ⟨text, (Linkage.sourceFile_text source).mp supplied⟩
    rw [unsupplied, Option.getD_none]
  · simp only [List.mem_map, Linkage.arises_iff project source]

theorem fault_of_link {fault : PathFault}
    (failed : link tree document root line info body = .error fault) : fault.IsObstruction := by
  simp only [link, Except.bind_eq_error] at failed
  rcases failed with project | ⟨_, _, source | ⟨_, _, destination | ⟨_, _, failed⟩⟩⟩
  · exact Linkage.fault_of_project project
  · exact Linkage.fault_of_sourceFile source
  · exact Linkage.fault_of_destination destination
  · simp [pure, Except.pure] at failed

/-- A fragment is linked exactly when the paths of its options can be followed. -/
theorem exists_link_iff : (∃ fragment, link tree document root line info body = .ok fragment) ↔
    Linkage.Follows tree document root (FenceInfo.ofInfo info).values := by
  simp only [link_eq_ok]
  constructor
  · rintro ⟨_, projected, sourced, placed, project, source, destination, _⟩
    exact ⟨Linkage.exists_project_iff.mp ⟨_, project⟩, Linkage.exists_sourceFile_iff.mp ⟨_, source⟩,
      Linkage.exists_destination_iff.mp ⟨_, destination⟩⟩
  · rintro ⟨project, source, destination⟩
    obtain ⟨_, project⟩ := Linkage.exists_project_iff.mpr project
    obtain ⟨_, source⟩ := Linkage.exists_sourceFile_iff.mpr source
    obtain ⟨_, destination⟩ := Linkage.exists_destination_iff.mpr destination
    exact ⟨_, _, _, _, project, source, destination, rfl⟩

end Fragment

end DocSamples
