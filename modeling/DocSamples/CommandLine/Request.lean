import DocSamples.CommandLine
import DocSamples.Text.Integer

namespace DocSamples

/-! # Requests

A command line asks for one of three commands or for help.  Help is given
whenever the words can be read at all, also where what they say is wrong.
-/

open Text

structure VerifyRequest where
  root : Option String := none
  config : Option String := none
  compiler : Option String := none
  command : Option String := none
  timeout : Option Int := none
  parallel : Option Bool := none
  jsonReport : Option String := none
  color : Bool := true
  verbose : Bool := false
deriving DecidableEq, Repr

structure SessionsRequest where
  root : Option String := none
  config : Option String := none
deriving DecidableEq, Repr

structure InitRequest where
  output : String := "./sampleverify.yaml"
deriving DecidableEq, Repr

inductive Request where
  | help
  | verify (request : VerifyRequest)
  | sessions (request : SessionsRequest)
  | init (request : InitRequest)
deriving DecidableEq, Repr

namespace Request

/-- At most one operand is taken. -/
def singleOperand (arguments : List Argument) : Except UsageFault (Option String) :=
  match Argument.operands arguments with
  | [] => .ok none
  | [text] => .ok (some text)
  | _ :: extra :: _ => .error (.extraOperand extra)

def integerValue (switch : Switch) (arguments : List Argument) :
    Except UsageFault (Option Int) :=
  match Argument.value? switch arguments with
  | none => .ok none
  | some text =>
      match Text.integer text with
      | .ok value => .ok (some value)
      | .error _ => .error (.notInteger text)

def verifySwitches : List Switch := [
  .config, .compiler, .command, .timeout, .parallel, .sequential, .jsonReport, .noColor,
  .verbose, .help]

def ofVerifyArguments (arguments : List Argument) : Except UsageFault Request := do
  let timeout ← integerValue .timeout arguments
  let root ← singleOperand arguments
  return .verify {
    root
    config := Argument.value? .config arguments
    compiler := Argument.value? .compiler arguments
    command := Argument.value? .command arguments
    timeout
    parallel := (Argument.lastFlag? [.parallel, .sequential] arguments).map (· == .parallel)
    jsonReport := Argument.value? .jsonReport arguments
    color := !Argument.isGiven .noColor arguments
    verbose := Argument.isGiven .verbose arguments }

def sessionsSwitches : List Switch := [.config, .verbose, .help]

def ofSessionsArguments (arguments : List Argument) : Except UsageFault Request := do
  let root ← singleOperand arguments
  return .sessions { root, config := Argument.value? .config arguments }

def initSwitches : List Switch := [.output, .help]

def ofInitArguments (arguments : List Argument) : Except UsageFault Request :=
  let fallback : InitRequest := {}
  match Argument.operands arguments with
  | [] => .ok (.init { output := (Argument.value? .output arguments).getD fallback.output })
  | text :: _ => .error (.extraOperand text)

/-- Reads the words of a command, unless they ask for help. -/
def ofCommand (known : List Switch) (read : List Argument → Except UsageFault Request)
    (words : List String) : Except UsageFault Request := do
  let arguments ← Argument.ofWords known words
  if Argument.isGiven .help arguments then return .help else read arguments

/-- Whether nothing but requests for help is in front of the command. -/
def asksForHelp (words : List String) : Bool :=
  let rest := words.dropWhile (· == Switch.help.longName)
  rest.length < words.length &&
    match rest with
    | [] => true
    | word :: _ => word = Argument.endOfSwitches || !Argument.isDashed word

/-- Reads the name of a command and its words. -/
def ofNamed : List String → Except UsageFault Request
  | [] => .error .noCommand
  | name :: words =>
      match name with
      | "verify" => ofCommand verifySwitches ofVerifyArguments words
      | "sessions" => ofCommand sessionsSwitches ofSessionsArguments words
      | "init" => ofCommand initSwitches ofInitArguments words
      | _ => if asksForHelp (name :: words) then .ok .help else .error (.unknownCommand name)

def ofWords (words : List String) : Except UsageFault Request :=
  if asksForHelp words then .ok .help
  else if words.head? = some Argument.endOfSwitches then ofNamed words.tail
  else ofNamed words

end Request

end DocSamples
