import DocSamples.CommandLine.Init
import DocSamples.CommandLine.Sessions
import DocSamples.CommandLine.Verify

namespace DocSamples.CommandLine

/-! # Running a command line -/

/-- Runs the command that some words ask for, with a text to answer its
questions from. -/
def run (bench : Workbench) (words : List String) (input : String) : Ending :=
  match Request.ofWords words with
  | .error _ => .silent Ending.usageCode bench.tree
  | .ok .help => .silent RunResult.successCode bench.tree
  | .ok (.verify request) => request.run bench
  | .ok (.sessions request) => request.run bench.tree
  | .ok (.init request) => request.run bench.tree input

end DocSamples.CommandLine
