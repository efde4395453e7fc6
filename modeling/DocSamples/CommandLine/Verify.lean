import DocSamples.CommandLine.Choice

namespace DocSamples.VerifyRequest

/-! # The command that verifies samples

No fault escapes this command: wrong settings and all other faults are told.
-/

/-- The run that the request asks for. -/
def attempt (request : VerifyRequest) (bench : Workbench) :
    Attempt CommandFault (Settings × RunResult) := do
  let settings ← .ofExcept (request.settings bench.tree)
  let plan ← .ofExcept ((RunPlan.ofSettings bench .standard settings).mapError .run)
  let result ← plan.run.mapFault .run
  return (settings, result)

/-- Tells of a fault; a verbose request wants its trace too. -/
def endingOfFault (request : VerifyRequest) (tree : Tree) (fault : CommandFault) : Ending :=
  if fault.isConfiguration then .ofConfigurationFault fault tree
  else
    { exitCode := RunResult.failureCode
      shown := .fault "Error" fault.message :: if request.verbose then [.trace] else []
      tree }

/-- Shows the report.  That there is nothing to verify is an error. -/
def endingOfResult (settings : Settings) (result : RunResult) : Ending :=
  let channel : Channel := if result.isNoInput then .errors else .output
  { exitCode := result.exitCode
    shown := result.lines.map (.ofLine channel settings.report.color)
    tree := result.tree }

def run (request : VerifyRequest) (bench : Workbench) : Ending :=
  let attempt := request.attempt bench
  let ending := match attempt.outcome with
    | .error fault => request.endingOfFault bench.tree fault
    | .ok (settings, result) => endingOfResult settings result
  ending.after [] attempt.events

end DocSamples.VerifyRequest
