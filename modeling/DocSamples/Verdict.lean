import DocSamples.Compiler

namespace DocSamples

/-! # Verdicts

An error in the project comes before everything else: then nothing can be said
about the samples.
-/

inductive VerdictKind where
  | ok
  | projectFailed
  | samplesFailed
deriving DecidableEq, Repr

def VerdictKind.name : VerdictKind → String
  | .ok => "ok"
  | .projectFailed => "project_failed"
  | .samplesFailed => "samples_failed"

structure Verdict where
  kind : VerdictKind
  project : Option String := none
  diagnostics : List Diagnostic := []
deriving DecidableEq, Repr

namespace Verdict

def isOk (verdict : Verdict) : Bool :=
  verdict.kind = .ok

def ofResult (project : Option String) (result : CompileResult) : Verdict :=
  match result.projectDiagnostics.filter (·.severity = .error) with
  | [] =>
      if result.succeeded then { kind := .ok, project }
      else { kind := .samplesFailed, project, diagnostics := result.diagnostics }
  | errors => { kind := .projectFailed, project, diagnostics := errors }

/-- A compiler that gives no answer counts as a failure of the project. -/
def ofFault (project : Option String) (fault : CompilerFault) : Verdict :=
  { kind := .projectFailed, project, diagnostics := [{ message := fault.message }] }

end Verdict

/-- Submits a workspace to a compiler. -/
def Compiler.verify (compiler : Compiler) (workspace : Workspace) :
    Attempt Breakdown Verdict := do
  .note (.submitted workspace)
  match ← (compiler.compile workspace).settled with
  | .ok result => return .ofResult workspace.project result
  | .error (.compiler fault) =>
      .note (.compilerFailed workspace.session fault)
      return .ofFault workspace.project fault
  | .error (.breakdown cause) => .fail cause

end DocSamples
