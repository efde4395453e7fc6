import DocSamples.Attempt
import DocSamples.Session
import DocSamples.Settings
import DocSamples.Tree.Listing
import DocSamples.Tree.Resolve
import DocSamples.Wildcard

namespace DocSamples

/-! # Finding documents

A pattern is looked for in a root directory and in all directories below it.
Its parts are names, wildcards for names, double stars for any directories, and
a slash at the end for directories alone.
-/

inductive PatternPart where
  | anyDirectories
  | name (name : String)
  | wildcard (wildcard : Wildcard)
  /-- The end of a pattern that only directories match. -/
  | directory
deriving DecidableEq, Repr

inductive PatternFault where
  /-- A double star stands for whole names only. -/
  | doubleStarInName
  | absolute
deriving DecidableEq, Repr

def PatternFault.message : PatternFault → String
  | .doubleStarInName => "Invalid pattern: '**' can only be an entire path component"
  | .absolute => "Non-relative patterns are unsupported"

namespace PatternPart

def ofName (name : String) : Except PatternFault PatternPart :=
  if name = "**" then .ok .anyDirectories
  else if name.contains "**" then .error .doubleStarInName
  else if name.any fun c => c = '*' || c = '?' || c = '[' then .ok (.wildcard (.ofText name))
  else .ok (.name name)

/-- The parts of a pattern.  They begin with any directories. -/
def ofPattern (pattern : String) : Except PatternFault (List PatternPart) := do
  let path := Path.ofText pattern
  if path.isAbsolute then .error .absolute
  else
    let parts ← path.names.mapM ofName
    let ending := if pattern.endsWith "/" then [.directory] else []
    return .anyDirectories :: parts ++ ending

end PatternPart

namespace Discovery

/-- The paths that the parts of a pattern lead to from a directory. -/
def select (tree : Tree) : List PatternPart → Path → Except PathFault (List Path)
  | [], path => .ok [path]
  | .directory :: _, path => .ok [path]
  | .name name :: rest, path => do
      let next := path.child name
      let found ← if rest.isEmpty then tree.existsAt next else tree.isDirectory next
      if found then select tree rest next else .ok []
  | .wildcard wildcard :: rest, path => do
      let place ← tree.openDirectory path
      let paths := ((tree.namesIn place).filter wildcard.isMatch).map path.child
      let wanted ← if rest.isEmpty then .ok paths else paths.filterM tree.isDirectory
      return (← wanted.mapM (select tree rest)).flatten
  | .anyDirectories :: rest, path => do
      let place ← tree.openDirectory path
      let starts := (tree.directoriesBelow place).map fun names =>
        path.join (.ofNames .here names)
      return (← starts.mapM (select tree rest)).flatten

/-- Whether a path goes through a directory below the root that is passed over. -/
def isExcluded (documents : DocumentSettings) (path : Path) : Bool :=
  let directories := (path.names.drop documents.root.names.length).dropLast
  let excludes := documents.excludes.map Wildcard.ofText
  directories.any fun directory => excludes.any fun exclude => exclude.isMatch directory

/-- The documents among some paths, without links. -/
def documentsAmong (tree : Tree) (documents : DocumentSettings) (paths : List Path) :
    Except PathFault (List Path) := do
  let files ← paths.filterM tree.isFile
  (files.filter (!isExcluded documents ·)).mapM tree.resolve

inductive DiscoveryFault where
  | pattern (fault : PatternFault)
  | path (fault : PathFault)
deriving DecidableEq, Repr

/-- The documents that one pattern finds. -/
def documentsFor (tree : Tree) (documents : DocumentSettings) (pattern : String) :
    Except DiscoveryFault (List Path) := do
  let parts ← (PatternPart.ofPattern pattern).mapError .pattern
  let paths ← (select tree parts documents.root).mapError .path
  (documentsAmong tree documents paths).mapError .path

/-- Each path once, in order. -/
def sortDistinct (paths : List Path) : List Path :=
  (distinct paths).mergeSort fun first second => !decide (second < first)

/-- All documents under the root, in order. -/
def documents (tree : Tree) (settings : DocumentSettings) :
    Attempt DiscoveryFault (List Path) := do
  if ← .ofExcept ((tree.isDirectory settings.root).mapError .path) then
    let found ← .ofExcept (settings.patterns.mapM (documentsFor tree settings))
    return sortDistinct found.flatten
  else
    .note (.missingRoot settings.root)
    return []

end Discovery

end DocSamples
