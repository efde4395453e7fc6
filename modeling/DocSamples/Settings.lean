import DocSamples.Path

namespace DocSamples

/-! # Settings

What a run is told to do: where documents are, how sessions are compiled, and
what is reported.
-/

structure DocumentSettings where
  root : Path := .ofText "."
  patterns : List String := ["*.md"]
  /-- Directories whose name matches one of these are passed over. -/
  excludes : List String := [".git", "node_modules", "venv", ".venv", "__pycache__"]
  includeSuffix : String := ".py"
deriving DecidableEq, Repr

inductive CompilerKind where
  | python
  | command
deriving DecidableEq, Repr

namespace CompilerKind

def all : List CompilerKind := [.python, .command]

def name : CompilerKind → String
  | .python => "python"
  | .command => "command"

def ofName? (name : String) : Option CompilerKind :=
  all.find? (·.name == name)

end CompilerKind

structure CompilerSettings where
  kind : CompilerKind := .python
  command : List String := []
  /-- How many seconds the compile of a session may take. -/
  timeout : Int := 60
deriving DecidableEq, Repr

structure ReportSettings where
  jsonPath : Option Path := none
  color : Bool := true
deriving DecidableEq, Repr

structure Settings where
  documents : DocumentSettings := {}
  compiler : CompilerSettings := {}
  report : ReportSettings := {}
  parallel : Bool := false
  /-- How many sessions are compiled at a time when they are compiled in parallel. -/
  maxConcurrency : Int := 4
deriving DecidableEq, Repr

end DocSamples
