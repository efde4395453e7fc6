import DocSamples.Path
import DocSamples.FileFault
import DocSamples.Text.Lines

namespace DocSamples

/-! # File trees

A tree holds directories, files and links by their places.  A place is the list
of names from the root on, with no link before the last name.  Looking up a
path follows links as a file system does: at most forty of them, each name at
most 255 bytes long, the whole path shorter than 4096 bytes.
-/

open Text

inductive Entry where
  | file (bytes : Utf8.Bytes)
  | directory
  | link (target : String)
deriving DecidableEq, Repr

abbrev Place := List String

structure Tree where
  /-- Where relative paths begin. -/
  current : Place
  entries : List (Place × Entry)
deriving Repr

namespace Tree

def linkLimit : Nat := 40
def nameLimit : Nat := 255
def pathLimit : Nat := 4096

/-- The entry at a place; the root is always a directory. -/
def lookup (tree : Tree) (place : Place) : Option Entry :=
  if place = [] then some .directory
  else (tree.entries.find? (·.1 == place)).map Prod.snd

/-- Puts an entry at a place, in place of what was there. -/
def set (tree : Tree) (place : Place) (entry : Entry) : Tree :=
  { tree with entries := (place, entry) :: tree.entries.filter (·.1 != place) }

/-- Where the names of a path or of a link's target begin. -/
def turn (here : Place) : Anchor → Place
  | .here => here
  | _ => []

def slashNames (text : String) : List String :=
  (Path.splitSlashes text.toList).map String.ofList

/-- What a path is looked up for: to use what is there, or to make a file there. -/
inductive Aim where
  | use
  | make
deriving DecidableEq, Repr

/-- Whether nothing but slashes is left behind a name that ends with one. -/
def isTrailing (rest : List String) : Bool :=
  !rest.isEmpty && rest.all (· == "")

/-- Follows names from a place.  The last name may be missing: then the result
is its place and no entry.  No file can be made under a name that ends with a
slash. -/
def walk (tree : Tree) (aim : Aim) (follows : Nat) (here : Place) (names : List String) :
    Except FileCause (Place × Option Entry) :=
  match names with
  | [] => .ok (here, tree.lookup here)
  | name :: rest =>
      match tree.lookup here with
      | some .directory =>
          if name = "" || name = "." then tree.walk aim follows here rest
          else if name = ".." then tree.walk aim follows here.dropLast rest
          else if aim = .make && isTrailing rest then .error .isDirectory
          else if nameLimit < name.utf8ByteSize then .error .nameTooLong
          else
            match tree.lookup (here ++ [name]) with
            | none => if rest = [] then .ok (here ++ [name], none) else .error .notFound
            | some (.link target) =>
                match follows with
                | 0 => .error .tooManyLinks
                | more + 1 =>
                    tree.walk aim more (turn here (Path.anchorOf target.toList))
                      (slashNames target ++ rest)
            | some _ => tree.walk aim follows (here ++ [name]) rest
      | _ => .error .notDirectory
termination_by (follows, names.length)

def hasNullByte (path : Path) : Bool :=
  path.text.toList.contains '\x00'

/-- The place that a path leads to, with what is there. -/
def locate (tree : Tree) (aim : Aim) (path : Path) : Except FileCause (Place × Option Entry) :=
  if pathLimit ≤ path.text.utf8ByteSize then .error .nameTooLong
  else tree.walk aim linkLimit (turn tree.current path.anchor) path.names

def status (tree : Tree) (path : Path) : Except FileCause (Place × Entry) :=
  match tree.locate .use path with
  | .ok (place, some entry) => .ok (place, entry)
  | .ok (_, none) => .error .notFound
  | .error cause => .error cause

/-- Whether a path leads to an entry of some kind.  A path that leads nowhere
does not; only a path that is too long is an error. -/
def leadsTo (tree : Tree) (kind : Entry → Bool) (path : Path) : Except PathFault Bool :=
  if hasNullByte path then .ok false
  else
    match tree.status path with
    | .ok (_, entry) => .ok (kind entry)
    | .error .notFound => .ok false
    | .error .notDirectory => .ok false
    | .error .tooManyLinks => .ok false
    | .error cause => .error (.system cause path.text)

def existsAt (tree : Tree) (path : Path) : Except PathFault Bool :=
  tree.leadsTo (fun _ => true) path

def isFile (tree : Tree) (path : Path) : Except PathFault Bool :=
  tree.leadsTo (fun entry => entry matches .file _) path

def isDirectory (tree : Tree) (path : Path) : Except PathFault Bool :=
  tree.leadsTo (fun entry => entry matches .directory) path

def readBytes (tree : Tree) (path : Path) : Except PathFault Utf8.Bytes :=
  if hasNullByte path then .error .nullByte
  else
    match tree.status path with
    | .ok (_, .file bytes) => .ok bytes
    | .ok _ => .error (.system .isDirectory path.text)
    | .error cause => .error (.system cause path.text)

/-- The text of a file, with uniform line ends. -/
def readText (tree : Tree) (path : Path) : Except ReadFault String :=
  match tree.readBytes path with
  | .error fault => .error (.path fault)
  | .ok bytes =>
      match Utf8.decode bytes with
      | .error defect => .error (.undecodable defect)
      | .ok chars => .ok (String.ofList (unifyLineEnds chars))

/-- Writes a file, creating it where the path leads if nothing is there. -/
def writeBytes (tree : Tree) (path : Path) (bytes : Utf8.Bytes) : Except PathFault Tree :=
  if hasNullByte path then .error .nullByte
  else
    match tree.locate .make path with
    | .ok (_, some .directory) => .error (.system .isDirectory path.text)
    | .ok (place, _) => .ok (tree.set place (.file bytes))
    | .error cause => .error (.system cause path.text)

def writeText (tree : Tree) (path : Path) (text : String) : Except PathFault Tree :=
  tree.writeBytes path (Utf8.encodeText text)

/-- Makes one directory, whose parent must be there. -/
def makeDirectory (tree : Tree) (path : Path) : Except FileCause Tree :=
  match path.names.getLast? with
  | none => .error .alreadyExists
  | some name =>
      match tree.status path.parent with
      | .error cause => .error cause
      | .ok (place, .directory) =>
          if name = ".." then .error .alreadyExists
          else if nameLimit < name.utf8ByteSize then .error .nameTooLong
          else
            match tree.lookup (place ++ [name]) with
            | some _ => .error .alreadyExists
            | none => .ok (tree.set (place ++ [name]) .directory)
      | .ok _ => .error .notDirectory

/-- A failure to make a directory is none when the directory is there. -/
def settle (tree : Tree) (path : Path) (cause : FileCause) : Except PathFault Tree :=
  match tree.isDirectory path with
  | .ok true => .ok tree
  | .ok false => .error (.system cause path.text)
  | .error fault => .error fault

/-- Makes a directory and those above it that are missing. -/
def makeDirectories (tree : Tree) (path : Path) : Except PathFault Tree :=
  if hasNullByte path then .error .nullByte
  else
    match tree.makeDirectory path with
    | .ok made => .ok made
    | .error .notFound =>
        if _h : path.names = [] then .error (.system .notFound path.text)
        else
          match tree.makeDirectories path.parent with
          | .error fault => .error fault
          | .ok above =>
              match above.makeDirectory path with
              | .ok made => .ok made
              | .error .notFound => .error (.system .notFound path.text)
              | .error cause => above.settle path cause
    | .error cause => tree.settle path cause
termination_by path.names.length
decreasing_by
  simp only [Path.parent, List.length_dropLast]
  have := List.length_pos_iff.mpr _h
  omega

/-- Puts an entry where a path leads, making the directories above it. -/
def plant (tree : Tree) (path : Path) (entry : Entry) : Except PathFault Tree := do
  let above ← tree.makeDirectories path.parent
  match entry with
  | .directory => above.makeDirectories path
  | .file bytes => above.writeBytes path bytes
  | .link _ =>
      match above.status path.parent with
      | .ok (place, .directory) => return above.set (place ++ [path.name]) entry
      | .ok _ => .error (.system .notDirectory path.text)
      | .error cause => .error (.system cause path.text)

/-- A tree with nothing but the directories down to the current one. -/
def empty (current : Place) : Tree where
  current := current
  entries := (List.range current.length).map fun above => (current.take (above + 1), .directory)

/-- The files that are new in a tree, or not what they were before. -/
def newFiles (before after : Tree) : List (Path × Utf8.Bytes) :=
  after.entries.filterMap fun (place, entry) =>
    match entry with
    | .file bytes =>
        if before.lookup place = some entry then none
        else some (.ofNames .root place, bytes)
    | _ => none

end Tree

end DocSamples
