import DocSamples.Compiler.Service
import DocSamples.Discovery
import DocSamples.Document
import DocSamples.Pool
import DocSamples.Report.Summary
import DocSamples.Workspace.Build

namespace DocSamples

/-! # Runs

A run finds the documents, compiles the sessions of each, and reports.  Documents
are reported in order, and so are the sessions of a document, also when they are
compiled in parallel.
-/

inductive RunFault where
  | discovery (fault : Discovery.DiscoveryFault)
  | path (fault : PathFault)
  | breakdown (cause : Breakdown)
  | registry (fault : RegistryFault)
  | summary (fault : Report.SummaryFault)
deriving DecidableEq, Repr

def Discovery.DiscoveryFault.message : DiscoveryFault → String
  | .pattern fault => fault.message
  | .path fault => fault.message

def RunFault.message : RunFault → String
  | .discovery fault => fault.message
  | .path fault => fault.message
  | .breakdown cause => cause.message
  | .registry fault => fault.message
  | .summary fault => fault.message

/-- What a run is made of. -/
structure RunPlan where
  tree : Tree
  settings : Settings
  /-- The root directory without links. -/
  root : Path
  compiler : Compiler

/-- What has come of a run. -/
structure RunResult where
  outcomes : List DocumentOutcome
  lines : List ReportLine
  exitCode : Int
  /-- The files after the run. -/
  tree : Tree

namespace RunResult

def successCode : Int := 0
def failureCode : Int := 1
def noInputCode : Int := -1

def succeeded (result : RunResult) : Bool :=
  result.exitCode = successCode

/-- No document was found. -/
def isNoInput (result : RunResult) : Bool :=
  result.exitCode = noInputCode

end RunResult

namespace RunPlan

/-- The workspaces to compile, each with the number of its session. -/
def jobs (sessions : List Session) (includes : Includes) : List (Nat × Workspace) :=
  (sessions.zipIdx.filter (·.1.isCompilable)).map fun (session, number) =>
    (number, Workspace.ofSession session includes)

/-- How the workspaces of a document are compiled: what comes of each, under its
number. -/
abbrev Compiling := Path → List (Nat × Workspace) → List (Nat × Attempt Breakdown Verdict)

def oneByOne (plan : RunPlan) : Compiling := fun _ jobs =>
  jobs.map fun (number, workspace) => (number, plan.compiler.verify workspace)

def sideBySide (plan : RunPlan) : Compiling := fun _ jobs =>
  Pool.answers plan.settings.maxConcurrency.toNat plan.compiler.verify jobs

/-- The way of compiling that the settings ask for. -/
def compiling (plan : RunPlan) : Compiling :=
  if plan.settings.parallel then plan.sideBySide else plan.oneByOne

/-- The verdicts on the workspaces of a document, each under its number. -/
def verdicts (compiling : Compiling) (document : Path) (jobs : List (Nat × Workspace)) :
    Attempt Breakdown (List (Nat × Verdict)) :=
  Attempt.each (fun (number, attempt) => do return (number, ← attempt))
    (compiling document jobs)

def outcomeOf (document : Path) (sessions : List Session) (verdicts : List (Nat × Verdict)) :
    DocumentOutcome where
  document := document
  sessions := sessions.zipIdx.map fun (session, number) =>
    { session, verdict := verdicts.lookup number }

def includeDefaults (plan : RunPlan) : IncludeDefaults :=
  ⟨plan.root, plan.settings.documents.includeSuffix⟩

/-- Compiles the sessions of one document. -/
def verifyDocument (plan : RunPlan) (compiling : Compiling) (document : Path) :
    Attempt Breakdown DocumentOutcome := do
  match ← (Document.fragments plan.tree document plan.root).settled with
  | .error (.path fault) => .fail (.path fault)
  | .error (.unreadable document fault) =>
      .note (.unreadableDocument document fault)
      return { document, error := some (unreadableDocumentText document fault) }
  | .ok fragments =>
      let sessions := Session.ofFragments fragments
      let includes ← .ofExcept
        ((Includes.collect plan.tree plan.includeDefaults fragments).mapError .path)
      let verdicts ← verdicts compiling document (jobs sessions includes)
      return outcomeOf document sessions verdicts

/-- Writes the summary if the settings ask for one. -/
def writeSummary (plan : RunPlan) (outcomes : List DocumentOutcome) (exitCode : Int) :
    Except Report.SummaryFault Tree :=
  match plan.settings.report.jsonPath with
  | none => .ok plan.tree
  | some path => Report.writeSummary plan.tree path outcomes exitCode

/-- A run that compiles in the given way. -/
def runBy (plan : RunPlan) (compiling : Compiling) : Attempt RunFault RunResult := do
  let documents ← (Discovery.documents plan.tree plan.settings.documents).mapFault .discovery
  if documents.isEmpty then
    .note (.noDocuments plan.root)
    let report := Report.ofNoInput plan.root
    return {
      outcomes := []
      lines := report.lines
      exitCode := RunResult.noInputCode
      tree := plan.tree }
  else
    let outcomes ← (Attempt.each (plan.verifyDocument compiling) documents).mapFault .breakdown
    let report := Report.concat (outcomes.map Report.ofDocument)
    let exitCode := if report.failed then RunResult.failureCode else RunResult.successCode
    let tree ← .ofExcept ((plan.writeSummary outcomes exitCode).mapError .summary)
    return { outcomes, lines := report.lines, exitCode, tree }

def run (plan : RunPlan) : Attempt RunFault RunResult :=
  plan.runBy plan.compiling

/-- The plan for some settings and a given compiler. -/
def ofCompiler (tree : Tree) (compiler : Compiler) (settings : Settings) :
    Except RunFault RunPlan := do
  let root ← (tree.resolve settings.documents.root).mapError .path
  return { tree, settings, root, compiler }

/-- The plan for some settings with the compiler that they ask for. -/
def ofSettings (bench : Workbench) (registry : Registry) (settings : Settings) :
    Except RunFault RunPlan := do
  let root ← (bench.tree.resolve settings.documents.root).mapError .path
  let service ← (registry.service settings).mapError .registry
  return { tree := bench.tree, settings, root, compiler := service.compiler bench }

end RunPlan

end DocSamples
