import DocSamples.Tree

namespace DocSamples.Tree

/-! # Resolving paths

The resolved form of a path is absolute and without links.  Names that lead
nowhere are kept, so every path has one unless it holds a null byte or runs in
a circle of links.  Double dots are taken out by the text alone, after the links
in front of them have been followed.
-/

/-- What is still to be done: follow a name, or note where a link has led. -/
inductive Step where
  | follow (name : String)
  | arrive (link : Path)
deriving DecidableEq, Repr

inductive Resolution where
  | place (path : Path)
  /-- The path came back to a link that it was following; the text is that of the
  link and of what was left over behind it. -/
  | circle (text : String)
deriving DecidableEq, Repr

/-- Takes dots out of names by their text alone. -/
def plainPlace (place : Place) : List String → Place
  | [] => place
  | name :: rest =>
      if name = "" || name = "." then plainPlace place rest
      else if name = ".." then plainPlace place.dropLast rest
      else plainPlace (place ++ [name]) rest

/-- The place that a path without links names. -/
def placeOf (tree : Tree) (path : Path) : Place :=
  plainPlace (turn tree.current path.anchor) path.names

/-- The directory above a path: a relative path is left by double dots. -/
def above (path : Path) : Path :=
  match path.anchor, path.name with
  | .here, "" => path.child ".."
  | .here, ".." => path.child ".."
  | _, _ => path.parent

/-- The target of the link that a path without other links leads to. -/
def linkAt? (tree : Tree) (path : Path) : Option String :=
  if pathLimit ≤ path.text.utf8ByteSize then none
  else
    match tree.lookup (tree.placeOf path) with
    | some (.link target) => some target
    | _ => none

/-- Where the target of a link in a directory begins. -/
def targetStart (here : Path) (target : String) : Path :=
  match Path.anchorOf target.toList with
  | .here => here
  | _ => .ofNames .root []

/-- Two texts of paths, the second looked up from the first. -/
def joinTexts (first second : String) : String :=
  if second.startsWith "/" then second
  else if first = "" || first.endsWith "/" then first ++ second
  else first ++ "/" ++ second

/-- The names that are left of a link's target, then of that of the link in which
it stands, and so on up to the path itself. -/
def leftover : List Step → List (List String)
  | [] => [[]]
  | .arrive _ :: rest => [] :: leftover rest
  | .follow name :: rest =>
      match leftover rest with
      | [] => [[name]]
      | names :: outer => (name :: names) :: outer

/-- What a path comes to that is in a circle at a link. -/
def circleText (link : Path) (steps : List Step) : String :=
  (leftover steps).foldl (fun text names => joinTexts text ("/".intercalate names)) link.text

/-- `seen` holds the links that have been entered, `known` where those that have
been left led to.  At most `room` more are entered. -/
def resolveFrom (tree : Tree) (room : Nat) (seen : List Path) (known : List (Path × Path))
    (here : Path) (steps : List Step) : Except PathFault Resolution :=
  match steps with
  | [] => .ok (.place here)
  | .arrive link :: rest => tree.resolveFrom room seen ((link, here) :: known) here rest
  | .follow name :: rest =>
      if name = "" || name = "." then tree.resolveFrom room seen known here rest
      else if name = ".." then tree.resolveFrom room seen known (above here) rest
      else if name.toList.contains '\x00' then .error .nullByte
      else
        let next := here.child name
        match tree.linkAt? next with
        | none => tree.resolveFrom room seen known next rest
        | some target =>
            match known.lookup next with
            | some led => tree.resolveFrom room seen known led rest
            | none =>
                match room with
                | 0 => .ok (.circle (circleText next rest))
                | more + 1 =>
                    if next ∈ seen then .ok (.circle (circleText next rest))
                    else
                      tree.resolveFrom more (next :: seen) known (targetStart here target)
                        ((slashNames target).map .follow ++ .arrive next :: rest)
termination_by (room, steps.length)

/-- How many links can be entered: each once in every way to write it, of which
there are fewer than a path has bytes. -/
def linkRoom (tree : Tree) : Nat :=
  (tree.entries.filter fun (_, entry) => entry matches .link _).length * pathLimit

/-- The absolute path that a text names, without dots. -/
def absolute (tree : Tree) (text : String) : Path :=
  let anchor := Path.anchorOf text.toList
  let place := plainPlace (turn tree.current anchor) (slashNames text)
  .ofNames (if anchor = .doubleRoot then .doubleRoot else .root) place

def Resolution.toPath (tree : Tree) : Resolution → Path
  | .place path => .ofNames .root (tree.placeOf path)
  | .circle text => tree.absolute text

/-- The absolute path without links that a path stands for. -/
def resolve (tree : Tree) (path : Path) : Except PathFault Path :=
  let start : Path := if path.isAbsolute then .ofNames .root [] else .ofNames .here []
  match tree.resolveFrom tree.linkRoom [] [] start (path.names.map .follow) with
  | .error fault => .error fault
  | .ok resolution =>
      let resolved := resolution.toPath tree
      if hasNullByte resolved then .error .nullByte
      else
        match tree.status resolved with
        | .error .tooManyLinks => .error (.linkLoop resolved.text)
        | _ => .ok resolved

end DocSamples.Tree
