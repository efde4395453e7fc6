import DocSamples.FileFault

namespace DocSamples

/-! # Faults of compilers

Why a compiler itself gave no answer about a workspace.
-/

inductive CompilerFault where
  | noCommand
  | notStarted (program : String) (fault : PathFault)
  | timedOut (seconds : Int)
  /-- A compiler gives a reason of its own. -/
  | reported (message : String)
deriving DecidableEq, Repr

def CompilerFault.message : CompilerFault → String
  | .noCommand => "A compiler command is required"
  | .notStarted program fault =>
      "Could not start compiler '" ++ program ++ "': " ++ fault.message
  | .timedOut seconds => "Compiler timed out after " ++ toString seconds ++ " seconds"
  | .reported message => message

/-- What ends a whole run when a workspace is compiled. -/
inductive Breakdown where
  | path (fault : PathFault)
  /-- A limit of time that is beyond all binary numbers. -/
  | farLimit
  /-- A command that comes to no words, so that no program is named. -/
  | noWords
deriving DecidableEq, Repr

def Breakdown.message : Breakdown → String
  | .path fault => fault.message
  | .farLimit => "int too large to convert to float"
  | .noWords =>
      "create_subprocess_exec() missing 1 required positional argument: 'program'"

/-- How a compile can end without a result: as a fault of the compiler, which is
reported for its session, or in a way that ends the run. -/
inductive CompileFault where
  | compiler (fault : CompilerFault)
  | breakdown (cause : Breakdown)
deriving DecidableEq, Repr

def CompileFault.ofPath (fault : PathFault) : CompileFault :=
  .breakdown (.path fault)

end DocSamples
