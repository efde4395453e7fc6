import DocSamples.CommandLine.Ending
import DocSamples.CommandLine.Request
import DocSamples.Settings.Choice

namespace DocSamples

/-! # Settings of a request

An empty value of a switch is as good as none, except for the name of a
compiler next to a file of settings.
-/

open Text

def nonEmpty (text : Option String) : Option String :=
  text.filter (· ≠ "")

namespace VerifyRequest

/-- The words of the compiler's command. -/
def commandWords (request : VerifyRequest) : Except CommandFault (Option (List String)) :=
  match nonEmpty request.command with
  | none => .ok none
  | some line => ((shellWords line).map some).mapError .words

def reportPath (request : VerifyRequest) : Option Path :=
  (nonEmpty request.jsonReport).map .ofText

/-- What the request changes in the settings of a file. -/
def overrides (request : VerifyRequest) (words : Option (List String)) : Settings.Overrides where
  root := (nonEmpty request.root).map .ofText
  jsonPath := request.reportPath
  color := if request.color then none else some false
  parallel := request.parallel
  compiler := request.compiler
  command := words
  timeout := request.timeout

/-- What the request says where there is no file. -/
def arguments (request : VerifyRequest) (words : Option (List String)) : Settings.Arguments :=
  let fallback : Settings.Arguments := {}
  { root := ((nonEmpty request.root).map Path.ofText).getD fallback.root
    compiler := (nonEmpty request.compiler).getD fallback.compiler
    command := words.getD fallback.command
    timeout := request.timeout.getD fallback.timeout
    jsonPath := request.reportPath
    color := request.color
    parallel := request.parallel.getD fallback.parallel }

def settings (request : VerifyRequest) (tree : Tree) : Except CommandFault Settings :=
  match nonEmpty request.config with
  | some config => do
      let loaded ← (Settings.load tree (.ofText config)).mapError .settings
      let words ← request.commandWords
      let (settings, outcome) := (request.overrides words).apply loaded
      (outcome.mapError .settings).map fun () => settings
  | none => do
      let words ← request.commandWords
      (Settings.ofArguments (request.arguments words)).mapError .settings

end VerifyRequest

/-- The sessions of a root are listed with the settings with which it is verified. -/
def SessionsRequest.settings (request : SessionsRequest) (tree : Tree) :
    Except CommandFault Settings :=
  VerifyRequest.settings { root := request.root, config := request.config } tree

end DocSamples
