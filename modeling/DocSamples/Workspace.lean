import DocSamples.Path

namespace DocSamples

/-! # Workspaces

A workspace is what the compiler gets for one session: the files that samples
include, and buffers for the samples themselves and for the regions that they
include.
-/

/-- Where the content of a buffer belongs: a file or a region of it, or nowhere. -/
structure BufferId where
  path : Option Path := none
  region : Option String := none
deriving DecidableEq, Repr

/-- An empty region name is as good as none. -/
def BufferId.namedRegion? (id : BufferId) : Option String :=
  id.region.filter (· ≠ "")

def BufferId.text (id : BufferId) : String :=
  let place := match id.path with
    | none => "<sample>"
    | some path => path.text
  match id.namedRegion? with
  | none => place
  | some region => place ++ "@" ++ region

structure Buffer where
  id : BufferId
  content : String
  /-- Samples are editable, included regions are not. -/
  editable : Bool := false
deriving DecidableEq, Repr

structure IncludedFile where
  path : Path
  content : String
deriving DecidableEq, Repr

structure Workspace where
  session : Option String := none
  project : Option String := none
  buffers : List Buffer := []
  files : List IncludedFile := []
deriving DecidableEq, Repr

end DocSamples
