import DocSamples.Settings.Fields
import DocSamples.Settings.Load

namespace DocSamples.Settings

/-! # Settings from the command line

Without a file the arguments make up the settings.  With one they override what
the file says.
-/

/-- The name of a compiler in any case. -/
def kindOfName (name : String) : Except SettingsFault CompilerKind :=
  match CompilerKind.ofName? name.toLower with
  | some kind => .ok kind
  | none => .error (.unknownCompiler name)

/-- Compiler settings with a timeout that is checked. -/
def compilerOf (kind : CompilerKind) (command : List String) (timeout : Int) :
    Except SettingsFault CompilerSettings :=
  match (Fields.positive timeout).inside (.field "timeout") with
  | .valid timeout => .ok { kind, command, timeout }
  | .invalid complaints => .error (.refused complaints)

structure Arguments where
  root : Path := .ofText "."
  compiler : String := "python"
  command : List String := []
  timeout : Int := 60
  jsonPath : Option Path := none
  color : Bool := true
  parallel : Bool := false
  patterns : Option (List String) := none
  excludes : Option (List String) := none
  maxConcurrency : Option Int := none
deriving Repr

def ofArguments (arguments : Arguments) : Except SettingsFault Settings := do
  let kind ← kindOfName arguments.compiler
  let compiler ← compilerOf kind arguments.command arguments.timeout
  checkCommand compiler
  let fallback : Settings := {}
  let concurrency := arguments.maxConcurrency.getD fallback.maxConcurrency
  match (Fields.atLeastOne concurrency).inside (.field "max_concurrency") with
  | .invalid complaints => .error (.refusedArguments complaints)
  | .valid maxConcurrency =>
      return {
        documents :=
          { root := arguments.root
            patterns := arguments.patterns.getD fallback.documents.patterns
            excludes := arguments.excludes.getD fallback.documents.excludes }
        compiler
        report := { jsonPath := arguments.jsonPath, color := arguments.color }
        parallel := arguments.parallel
        maxConcurrency }

/-- What is to be different from the settings of a file. -/
structure Overrides where
  root : Option Path := none
  jsonPath : Option Path := none
  color : Option Bool := none
  parallel : Option Bool := none
  compiler : Option String := none
  command : Option (List String) := none
  timeout : Option Int := none
deriving Repr

namespace Overrides

def changesCompiler (overrides : Overrides) : Bool :=
  overrides.compiler.isSome || overrides.command.isSome || overrides.timeout.isSome

/-- The compiler settings with what is to be different. -/
def compilerFrom (overrides : Overrides) (current : CompilerSettings) :
    Except SettingsFault CompilerSettings := do
  let kind ← match overrides.compiler with
    | some name => kindOfName name
    | none => .ok current.kind
  compilerOf kind (overrides.command.getD current.command)
    (overrides.timeout.getD current.timeout)

/-- The other settings with what is to be different. -/
def applyRest (overrides : Overrides) (settings : Settings) : Settings :=
  { settings with
    documents :=
      { settings.documents with root := overrides.root.getD settings.documents.root }
    report :=
      { jsonPath := overrides.jsonPath.or settings.report.jsonPath
        color := overrides.color.getD settings.report.color }
    parallel := overrides.parallel.getD settings.parallel }

/-- Overrides settings.  After a failure the settings are those that were reached. -/
def apply (overrides : Overrides) (settings : Settings) :
    Settings × Except SettingsFault Unit :=
  if overrides.changesCompiler then
    match overrides.compilerFrom settings.compiler with
    | .error fault => (settings, .error fault)
    | .ok compiler =>
        let changed := { settings with compiler }
        match checkCommand compiler with
        | .error fault => (changed, .error fault)
        | .ok () => (overrides.applyRest changed, .ok ())
  else (overrides.applyRest settings, .ok ())

end Overrides

end DocSamples.Settings
