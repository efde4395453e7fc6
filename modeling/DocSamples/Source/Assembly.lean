import DocSamples.Attempt
import DocSamples.Region
import DocSamples.Source
import DocSamples.Tree

namespace DocSamples

/-! # Assembling sources

Included files are sources as they are.  A buffer for a region is put between
the markers of the region when its file has them.  All other buffers are sources
of their own; those of one name are one source.
-/

abbrev Sources := OrderedMap String Source

namespace Sources

def ofFiles (files : List IncludedFile) : Sources :=
  files.foldl (fun sources file =>
    sources.insert file.path.text
      { name := file.path.text, text := file.content, path := some file.path }) .empty

/-- Adds the content of a buffer to the source of a name. -/
def add (sources : Sources) (name : String) (buffer : Buffer) : Sources :=
  sources.alter name fun
    | none => { name, text := buffer.content, path := buffer.id.path, editable := buffer.editable }
    | some source =>
        { source with
          text := joinTexts source.text buffer.content
          editable := source.editable || buffer.editable }

/-- The text that has the markers of a region: an assembled source, or else a file. -/
def hostText (tree : Tree) (sources : Sources) (path : Path) :
    Attempt PathFault (Option String) := do
  match sources.find? path.text with
  | some source => return some source.text
  | none =>
      if ← .ofExcept (tree.isFile path) then
        match tree.readText path with
        | .ok text => return some text
        | .error fault =>
            .note (.unreadableHost path fault)
            return none
      else return none

/-- Puts a buffer between the markers of its region, if the host has them. -/
def inject? (sources : Sources) (path : Path) (region : String) (buffer : Buffer)
    (host : Option String) : Option Sources := do
  let text ← Region.replace? (← host) region buffer.content
  return sources.alter path.text fun source =>
    { name := path.text, text, path := some path
      editable := buffer.editable || source.any (·.editable) }

end Sources

/-- Sources in the making, with the number of samples that have no file. -/
structure Assembly where
  sources : Sources
  unplaced : Nat := 0

namespace Assembly

def addBuffer (tree : Tree) (assembly : Assembly) (buffer : Buffer) :
    Attempt PathFault Assembly := do
  match buffer.id.path, buffer.id.namedRegion? with
  | none, _ =>
      let unplaced := assembly.unplaced + 1
      let name := "<sample " ++ toString unplaced ++ ">"
      return ⟨assembly.sources.add name buffer, unplaced⟩
  | some path, none =>
      return { assembly with sources := assembly.sources.add path.text buffer }
  | some path, some region =>
      let host ← assembly.sources.hostText tree path
      let sources := match assembly.sources.inject? path region buffer host with
        | some sources => sources
        | none => assembly.sources.add (path.text ++ "@" ++ region) buffer
      return { assembly with sources }

def addBuffers (tree : Tree) (assembly : Assembly) : List Buffer → Attempt PathFault Assembly
  | [] => .done assembly
  | buffer :: rest => do
      let next ← assembly.addBuffer tree buffer
      next.addBuffers tree rest

end Assembly

/-- The sources of a workspace, in the order in which they were begun. -/
def Workspace.sources (workspace : Workspace) (tree : Tree) :
    Attempt PathFault (List Source) := do
  let start : Assembly := { sources := Sources.ofFiles workspace.files }
  let assembly ← start.addBuffers tree (Buffer.mergeRegions workspace.buffers)
  return assembly.sources.values

end DocSamples
