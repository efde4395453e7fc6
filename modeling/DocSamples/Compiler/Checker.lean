import DocSamples.Compiler
import DocSamples.Source.Assembly

namespace DocSamples

/-! # Compiling with a checker

A checker decides about one source text at a time; nothing is run.
-/

/-- Why a checker refuses a text. -/
inductive Rejection where
  | malformed (message : String) (line column : Option Int)
  /-- The text as a whole cannot be looked at. -/
  | unsuitable (message : String)
deriving DecidableEq, Repr

abbrev Checker := String → Option Rejection

/-- A position is shown when its line is known; a column that is not known is zero. -/
def Rejection.diagnostic (rejection : Rejection) (name : String) : Diagnostic :=
  match rejection with
  | .malformed message none _ => { message, location := some name }
  | .malformed message (some line) column =>
      { message
        location := some
          (name ++ "(" ++ toString line ++ "," ++ toString (column.getD 0) ++ ")") }
  | .unsuitable message => { message, location := some name }

namespace Checker

def finding? (checker : Checker) (source : Source) : Option Finding :=
  (checker source.text).map fun rejection => ⟨source, rejection.diagnostic source.name⟩

def resultOf (findings : List Finding) : CompileResult where
  succeeded := findings.isEmpty
  diagnostics := Finding.aboutSamples findings
  projectDiagnostics := Finding.aboutProject findings

/-- The compiler that checks every source of a workspace. -/
def compiler (checker : Checker) (tree : Tree) : Compiler where
  name := "python"
  compile workspace := do
    let sources ← (workspace.sources tree).mapFault .ofPath
    return resultOf (sources.filterMap checker.finding?)

end Checker

end DocSamples
