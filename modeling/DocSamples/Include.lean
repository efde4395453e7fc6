import DocSamples.Fragment
import DocSamples.OrderedMap
import DocSamples.Text.Blank
import DocSamples.Text.Casefold
import DocSamples.Tree.Resolve
import DocSamples.Workspace

namespace DocSamples

/-! # Includes

The fragments that are not editable are merged by scope and destination.  The
scope is that of a session, compared without case, or the global one, which
all sessions see.  What goes into a region of a file is kept apart from what
makes up a whole file.
-/

open Text

structure Scope where
  name : String
deriving DecidableEq, Repr

namespace Scope

def everyone : Scope := ⟨"global"⟩

/-- A blank session has the global scope. -/
def ofSession : Option String → Scope
  | none => everyone
  | some session => if isBlankText session then everyone else ⟨casefold session⟩

end Scope

structure FileKey where
  scope : Scope
  path : Path
deriving DecidableEq, Repr

structure RegionKey where
  scope : Scope
  path : Path
  region : String
deriving DecidableEq, Repr

/-- The texts of the fragments that make up each file and each region. -/
structure Includes where
  files : OrderedMap FileKey (List String)
  regions : OrderedMap RegionKey (List String)

/-- A fragment that is included somewhere, with the place it goes to. -/
structure Inclusion where
  scope : Scope
  path : Path
  region : Option String
  text : String
deriving DecidableEq, Repr

namespace Inclusion

def fileKey? (inclusion : Inclusion) : Option FileKey :=
  match inclusion.region with
  | none => some ⟨inclusion.scope, inclusion.path⟩
  | some _ => none

def regionKey? (inclusion : Inclusion) : Option RegionKey :=
  inclusion.region.map fun region => ⟨inclusion.scope, inclusion.path, region⟩

end Inclusion

/-- Where inclusions of a document go when they do not say it themselves. -/
structure IncludeDefaults where
  root : Path
  suffix : String := ".py"
deriving DecidableEq, Repr

def IncludeDefaults.destination (defaults : IncludeDefaults) (tree : Tree) (scope : Scope) :
    Except PathFault Path :=
  tree.resolve (defaults.root.child ("generated_include_file_" ++ scope.name ++ defaults.suffix))

namespace Includes

/-- The inclusion that a fragment is; a blank region is none. -/
def inclusionOf (tree : Tree) (defaults : IncludeDefaults) (fragment : Fragment) :
    Except PathFault Inclusion := do
  let scope := Scope.ofSession fragment.session
  let path ← match fragment.destination with
    | some path => .ok path
    | none => defaults.destination tree scope
  let path ← tree.resolve path
  return ⟨scope, path, fragment.region.filter (!isBlankText ·), fragment.text ++ "\n"⟩

/-- The texts of those inclusions that have a key, grouped by it. -/
def grouped {κ : Type} [DecidableEq κ] (key? : Inclusion → Option κ)
    (inclusions : List Inclusion) : OrderedMap κ (List String) :=
  let keyed := inclusions.filterMap fun inclusion =>
    (key? inclusion).map fun key => (key, inclusion.text)
  ⟨(OrderedMap.groupBy Prod.fst keyed).entries.map fun (key, members) =>
    (key, members.map Prod.snd)⟩

def ofInclusions (inclusions : List Inclusion) : Includes where
  files := grouped Inclusion.fileKey? inclusions
  regions := grouped Inclusion.regionKey? inclusions

def collect (tree : Tree) (defaults : IncludeDefaults) (fragments : List Fragment) :
    Except PathFault Includes := do
  let inclusions ← (fragments.filter (!·.editable)).mapM (inclusionOf tree defaults)
  return ofInclusions inclusions

def fileOf (key : FileKey) (texts : List String) : IncludedFile :=
  ⟨key.path, String.join texts⟩

def bufferOf (key : RegionKey) (texts : List String) : Buffer where
  id := ⟨some key.path, some key.region⟩
  content := String.join texts

/-- The scopes in which something is included: those of files first. -/
def scopes (includes : Includes) : List Scope :=
  (OrderedMap.groupBy id
    (includes.files.keys.map (·.scope) ++ includes.regions.keys.map (·.scope))).keys

def filesIn (includes : Includes) (scope : Scope) : List IncludedFile :=
  (includes.files.entries.filter (·.1.scope = scope)).map fun (key, texts) => fileOf key texts

def buffersIn (includes : Includes) (scope : Scope) : List Buffer :=
  (includes.regions.entries.filter (·.1.scope = scope)).map fun (key, texts) =>
    bufferOf key texts

end Includes

end DocSamples
