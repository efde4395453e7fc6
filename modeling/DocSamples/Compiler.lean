import DocSamples.Attempt
import DocSamples.Diagnostic
import DocSamples.Source

namespace DocSamples

/-! # Compilers

A compiler answers about one workspace at a time.  What it finds in a source
that a sample went into is about the sample, all else is about the project.
-/

structure CompileResult where
  succeeded : Bool
  diagnostics : List Diagnostic := []
  projectDiagnostics : List Diagnostic := []
deriving DecidableEq, Repr

structure Compiler where
  name : String
  compile : Workspace → Attempt CompileFault CompileResult

/-- A diagnostic with the source that it is about. -/
structure Finding where
  source : Source
  diagnostic : Diagnostic
deriving DecidableEq, Repr

namespace Finding

def aboutSamples (findings : List Finding) : List Diagnostic :=
  (findings.filter (·.source.editable)).map (·.diagnostic)

def aboutProject (findings : List Finding) : List Diagnostic :=
  (findings.filter (!·.source.editable)).map (·.diagnostic)

end Finding

end DocSamples
