import DocSamples.Tree

namespace DocSamples.Tree

/-! # Listing directories -/

/-- The name of a place in a directory, if it is right in it. -/
def nameIn? (directory place : Place) : Option String :=
  match place.getLast? with
  | some name => if place.dropLast = directory then some name else none
  | none => none

/-- The names in a directory. -/
def namesIn (tree : Tree) (directory : Place) : List String :=
  tree.entries.filterMap fun (place, _) => nameIn? directory place

/-- A directory and all below it, by the names that lead from it to them.  Links
are not followed. -/
def directoriesBelow (tree : Tree) (directory : Place) : List Place :=
  [] :: tree.entries.filterMap fun (place, entry) =>
    if entry = .directory ∧ directory <+: place ∧ directory ≠ place then
      some (place.drop directory.length)
    else none

/-- The directory that a path leads to. -/
def openDirectory (tree : Tree) (path : Path) : Except PathFault Place :=
  match tree.status path with
  | .ok (place, .directory) => .ok place
  | .ok _ => .error (.system .notDirectory path.text)
  | .error cause => .error (.system cause path.text)

end DocSamples.Tree
