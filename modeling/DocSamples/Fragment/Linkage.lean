import DocSamples.Fragment
import DocSamples.Options
import DocSamples.Region
import DocSamples.Tree.Resolve

namespace DocSamples

/-! # Linking a fragment

The options of a fence name files and directories.  They are looked up here;
what cannot be found or used becomes a problem of the fragment.  Only a path
that cannot be resolved or inspected at all ends the linking.
-/

inductive LinkageProblem where
  | option (problem : OptionProblem)
  | invalidEditable (value : String)
  | projectAndPackage
  | projectNotFound (path : Path)
  | fileNotFound (path : Path)
  | unreadableFile (path : Path) (fault : ReadFault)
  | regionNotFound (region : String) (path : Path)
deriving DecidableEq, Repr

def LinkageProblem.message : LinkageProblem → String
  | .option problem => problem.message
  | .invalidEditable value => "Invalid value for --editable: " ++ value
  | .projectAndPackage => "Cannot specify both --project and --package"
  | .projectNotFound path => "Project not found: " ++ path.text
  | .fileNotFound path => "File not found: " ++ path.text
  | .unreadableFile path fault =>
      "Unable to read file " ++ path.text ++ ": " ++ fault.message
  | .regionNotFound region path =>
      "Region \"" ++ region ++ "\" not found in file " ++ path.text

def LinkageProblem.diagnostic (problem : LinkageProblem) : Diagnostic :=
  { message := problem.message }

namespace Linkage

/-- A value with the problems that were met on the way to it. -/
abbrev Found (α : Type) := α × List LinkageProblem

/-- A fragment is editable unless an option says otherwise. -/
def editable (values : OrderedMap OptionName String) : Found Bool :=
  match values.find? .editable with
  | none => (true, [])
  | some value =>
      if value.toLower = "true" then (true, [])
      else if value.toLower = "false" then (false, [])
      else (true, [.invalidEditable value])

/-- A path given in a document is taken from the directory of the document. -/
def localPath (tree : Tree) (document : Path) (value : String) : Except PathFault Path :=
  tree.resolve (document.parent.join (.ofText value))

/-- A project is a path that has to exist, a package any name. -/
def project (tree : Tree) (document : Path) (values : OrderedMap OptionName String) :
    Except PathFault (Found (Option String)) := do
  match values.find? .project with
  | none => return (values.find? .package, [])
  | some value =>
      let both := if values.contains .package then [.projectAndPackage] else []
      let path ← localPath tree document value
      let missing := if ← tree.existsAt path then [] else [.projectNotFound path]
      return (some path.text, both ++ missing)

/-- The text of a file or of a region of it. -/
def readSource (tree : Tree) (path : Path) (region : Option String) : Found (Option String) :=
  match tree.readText path with
  | .error fault => (none, [.unreadableFile path fault])
  | .ok text =>
      match region.filter (· ≠ "") with
      | none => (some text, [])
      | some name =>
          match Region.body? text name with
          | none => (none, [.regionNotFound name path])
          | some body => (some body, [])

/-- The source file of a fragment and the text that it gives. -/
def sourceFile (tree : Tree) (document : Path) (values : OrderedMap OptionName String) :
    Except PathFault (Found (Option Path × Option String)) := do
  match values.find? .sourceFile with
  | none => return ((none, none), [])
  | some value =>
      let path ← localPath tree document value
      if ← tree.isFile path then
        let (text, problems) := readSource tree path (values.find? .region)
        return ((some path, text), problems)
      else
        return ((some path, none), [.fileNotFound path])

/-- A destination is taken from the root of all documents. -/
def destination (tree : Tree) (root : Path) (values : OrderedMap OptionName String) :
    Except PathFault (Option Path) :=
  match values.find? .destinationFile with
  | none => .ok none
  | some value => (tree.resolve (root.join (.ofText value))).map some

end Linkage

/-- The fragment of a block whose fence opens on a line of a document.  The body
of the block counts unless a source file gives the text. -/
def Fragment.link (tree : Tree) (document root : Path) (line : Nat) (info body : String) :
    Except PathFault Fragment := do
  let read := FenceInfo.ofInfo info
  let (editable, editableProblems) := Linkage.editable read.values
  let (project, projectProblems) ← Linkage.project tree document read.values
  let ((sourceFile, sourceText), sourceProblems) ← Linkage.sourceFile tree document read.values
  let destination ← Linkage.destination tree root read.values
  return {
    document, line
    language := read.language
    text := sourceText.getD body
    session := read.values.find? .session
    editable, project, destination
    region := read.values.find? .region
    sourceFile
    problems := (read.problems.map LinkageProblem.option ++ editableProblems ++
      projectProblems ++ sourceProblems).map LinkageProblem.diagnostic }

end DocSamples
