import DocSamples.Compiler.Checker
import DocSamples.Compiler.Command
import DocSamples.OrderedMap
import DocSamples.Settings

namespace DocSamples

/-! # Compiler services

Which compiler a run uses follows from its settings.  A registry knows how to
make a compiler service for each kind that the settings can name.
-/

/-- What a compiler works on and with. -/
structure Workbench where
  tree : Tree
  checker : Checker
  launcher : Launcher
  /-- Where the files of commands are written. -/
  directory : Path

inductive Service where
  | checker
  | command (command : Command)

namespace Service

def name : Service → String
  | .checker => "python"
  | .command _ => "command"

def compiler (service : Service) (bench : Workbench) : Compiler :=
  match service with
  | .checker => bench.checker.compiler bench.tree
  | .command chosen => chosen.compiler bench.launcher bench.tree bench.directory

end Service

abbrev Factory := Settings → Except CompilerFault Service

/-- How a service of each kind is made from settings. -/
def Factory.standard : CompilerKind → Factory
  | .python, _ => .ok .checker
  | .command, settings =>
      (Command.of settings.compiler.command settings.compiler.timeout
        settings.documents.includeSuffix).map .command

abbrev Registry := OrderedMap CompilerKind Factory

inductive RegistryFault where
  | unsupported (kind : CompilerKind) (supported : List CompilerKind)
  | compiler (fault : CompilerFault)
deriving DecidableEq, Repr

def RegistryFault.message : RegistryFault → String
  | .unsupported kind supported =>
      "Unsupported compiler: CompilerKind." ++ kind.name.toUpper ++ ". Supported compilers: [" ++
        ", ".intercalate (supported.map fun kind => "'" ++ kind.name ++ "'") ++ "]"
  | .compiler fault => fault.message

namespace Registry

/-- The registry of all kinds. -/
def standard : Registry :=
  ⟨CompilerKind.all.map fun kind => (kind, Factory.standard kind)⟩

def service (registry : Registry) (settings : Settings) : Except RegistryFault Service :=
  match registry.find? settings.compiler.kind with
  | none => .error (.unsupported settings.compiler.kind registry.keys)
  | some factory => (factory settings).mapError .compiler

end Registry

end DocSamples
