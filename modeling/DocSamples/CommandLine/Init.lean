import DocSamples.CommandLine.Ending
import DocSamples.CommandLine.Request
import DocSamples.Settings.Write
import DocSamples.Text.Lines

namespace DocSamples.InitRequest

/-! # The command that writes default settings

A file that is there already is written over only after a question, which is
asked until there is an answer.
-/

open Text

inductive Answer where
  | yes
  | no
  /-- The input ended before an answer. -/
  | missing
deriving DecidableEq, Repr

/-- The answer that a line gives, if it gives one.  An empty line means no. -/
def answer? (line : String) : Option Answer :=
  match (trim line).toLower with
  | "y" | "yes" => some .yes
  | "n" | "no" | "" => some .no
  | _ => none

/-- The answer of the first line that gives one. -/
def answerIn (lines : List String) : Answer :=
  (lines.findSome? answer?).getD .missing

/-- The lines of an input. -/
def inputLines (input : String) : List String :=
  let lines := (String.ofList (unifyLineEnds input.toList)).splitOn "\n"
  if lines.getLast? = some "" then lines.dropLast else lines

def write (request : InitRequest) (tree : Tree) : Ending :=
  match Settings.writeDefault tree (.ofText request.output) with
  | .error fault => .ofFault (.run (.path fault)) tree
  | .ok written =>
      { exitCode := RunResult.successCode
        shown := [.marked .output
          (Markup.styled "green" "✓" ++ " Generated configuration file: " ++ request.output)]
        tree := written }

def cancelled (tree : Tree) : Ending where
  exitCode := RunResult.failureCode
  shown := [.marked .output (Markup.styled "yellow" "Cancelled.")]
  tree := tree

def run (request : InitRequest) (tree : Tree) (input : String) : Ending :=
  match tree.existsAt (.ofText request.output) with
  | .error fault => .ofFault (.run (.path fault)) tree
  | .ok false => request.write tree
  | .ok true =>
      match answerIn (inputLines input) with
      | .yes => request.write tree
      | .no => cancelled tree
      | .missing => .silent RunResult.failureCode tree

end DocSamples.InitRequest
