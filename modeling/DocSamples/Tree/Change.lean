import DocSamples.Tree

namespace DocSamples.Tree

/-! # Changing trees

Entries are taken away, moved and copied by the place they are at, with all that is
below them.  The last name of a path is not followed if it is a link.
-/

/-- Whether a place is a directory's own or below it. -/
def isWithin (directory place : Place) : Bool :=
  directory.isPrefixOf place

/-- The place that a path names, with what is there, which may be a link. -/
def locateItself (tree : Tree) (path : Path) : Except FileCause (Place × Option Entry) :=
  match path.names.getLast? with
  | none => tree.locate .use path
  | some name =>
      if name = ".." then tree.locate .use path
      else
        match tree.status path.parent with
        | .error cause => .error cause
        | .ok (above, .directory) =>
            if nameLimit < name.utf8ByteSize then .error .nameTooLong
            else .ok (above ++ [name], tree.lookup (above ++ [name]))
        | .ok _ => .error .notDirectory

/-- What a path names itself, if anything. -/
def itselfAt? (tree : Tree) (path : Path) : Option (Place × Entry) :=
  match tree.locateItself path with
  | .ok (place, some entry) => some (place, entry)
  | _ => none

/-- Takes away what is at a place and below it. -/
def remove (tree : Tree) (place : Place) : Tree :=
  { tree with entries := tree.entries.filter fun (key, _) => !isWithin place key }

/-- The entries at a place and below it, by the names that lead to them. -/
def branch (tree : Tree) (place : Place) : List (Place × Entry) :=
  (tree.entries.filter fun (key, _) => isWithin place key).map fun (key, entry) =>
    (key.drop place.length, entry)

/-- Puts entries below a place, beside those that are there. -/
def graft (tree : Tree) (place : Place) (entries : List (Place × Entry)) : Tree :=
  entries.foldr (fun (key, entry) tree =>
    match entry, tree.lookup (place ++ key) with
    | .directory, some .directory => tree
    | _, _ => tree.set (place ++ key) entry) tree

def move (tree : Tree) (source target : Place) : Tree :=
  ((tree.remove source).remove target).graft target (tree.branch source)

def copy (tree : Tree) (source target : Place) : Tree :=
  tree.graft target (tree.branch source)

/-- Whether nothing is below a place. -/
def isBare (tree : Tree) (place : Place) : Bool :=
  !tree.entries.any fun (key, _) => isWithin place key && key != place

end DocSamples.Tree
