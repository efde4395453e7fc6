namespace DocSamples

/-! # Command lines

The words after the name of a command are switches and operands.  A switch has
long names of two dashes and short ones of one dash and a letter; short ones
may be put together.  A value follows its switch, after an equals sign, at once
after the letter or as the next word, whatever that looks like.
-/

inductive Switch where
  | config
  | compiler
  | command
  | timeout
  | parallel
  | sequential
  | jsonReport
  | noColor
  | verbose
  | output
  | help
deriving DecidableEq, Repr

namespace Switch

def longName : Switch → String
  | .config => "--config"
  | .compiler => "--compiler"
  | .command => "--command"
  | .timeout => "--timeout"
  | .parallel => "--parallel"
  | .sequential => "--sequential"
  | .jsonReport => "--json-report"
  | .noColor => "--no-color"
  | .verbose => "--verbose"
  | .output => "--output"
  | .help => "--help"

def letter? : Switch → Option Char
  | .config => some 'c'
  | .verbose => some 'v'
  | .output => some 'o'
  | _ => none

def takesValue : Switch → Bool
  | .parallel | .sequential | .noColor | .verbose | .help => false
  | _ => true

end Switch

inductive UsageFault where
  | noCommand
  | unknownCommand (name : String)
  | unknownSwitch (word : String)
  | missingValue (switch : Switch)
  | unexpectedValue (switch : Switch)
  | notInteger (text : String)
  | extraOperand (text : String)
deriving DecidableEq, Repr

inductive Argument where
  | flag (switch : Switch)
  | value (switch : Switch) (text : String)
  | operand (text : String)
deriving DecidableEq, Repr

namespace Argument

/-- What one word holds: its arguments, and the switch that waits for a value. -/
structure Reading where
  arguments : List Argument := []
  waiting : Option Switch := none
deriving DecidableEq, Repr

/-- Reads the letters after a dash. -/
def ofLetters (known : List Switch) : List Char → Except UsageFault Reading
  | [] => .ok {}
  | c :: rest =>
      match known.find? fun switch => switch.letter? = some c with
      | none => .error (.unknownSwitch (String.ofList ['-', c]))
      | some switch =>
          if switch.takesValue then
            if rest.isEmpty then .ok { waiting := some switch }
            else .ok { arguments := [.value switch (String.ofList rest)] }
          else do
            let reading ← ofLetters known rest
            return { reading with arguments := .flag switch :: reading.arguments }

/-- The name of a word and the value after its equals sign. -/
def splitWord (word : String) : String × Option String :=
  let chars := word.toList
  let name := String.ofList (chars.takeWhile (· != '='))
  match chars.dropWhile (· != '=') with
  | [] => (name, none)
  | _ :: rest => (name, some (String.ofList rest))

/-- Reads a word that begins with a dash. -/
def ofWord (known : List Switch) (word : String) : Except UsageFault Reading :=
  let (name, given) := splitWord word
  match known.find? fun switch => switch.longName = name, given with
  | some switch, some text =>
      if switch.takesValue then .ok { arguments := [.value switch text] }
      else .error (.unexpectedValue switch)
  | some switch, none =>
      if switch.takesValue then .ok { waiting := some switch }
      else .ok { arguments := [.flag switch] }
  | none, _ =>
      if word.startsWith "--" then .error (.unknownSwitch word)
      else ofLetters known (word.toList.drop 1)

/-- The word after which there are operands alone. -/
def endOfSwitches : String := "--"

def isDashed (word : String) : Bool :=
  word.startsWith "-" && word ≠ "-"

/-- Reads the words of a command that knows some switches. -/
def ofWords (known : List Switch) : List String → Except UsageFault (List Argument)
  | [] => .ok []
  | word :: rest =>
      if word = endOfSwitches then .ok (rest.map .operand)
      else if isDashed word then do
        let reading ← ofWord known word
        match reading.waiting, rest with
        | none, rest => return reading.arguments ++ (← ofWords known rest)
        | some switch, [] => .error (.missingValue switch)
        | some switch, text :: more =>
            return reading.arguments ++ .value switch text :: (← ofWords known more)
      else return .operand word :: (← ofWords known rest)

/-- The last value that is given for a switch. -/
def value? (switch : Switch) (arguments : List Argument) : Option String :=
  arguments.reverse.findSome? fun argument =>
    match argument with
    | .value given text => if given = switch then some text else none
    | _ => none

/-- The last of some flags that is given. -/
def lastFlag? (switches : List Switch) (arguments : List Argument) : Option Switch :=
  arguments.reverse.findSome? fun argument =>
    match argument with
    | .flag given => if switches.contains given then some given else none
    | _ => none

def isGiven (switch : Switch) (arguments : List Argument) : Bool :=
  (lastFlag? [switch] arguments).isSome

def operands (arguments : List Argument) : List String :=
  arguments.filterMap fun argument =>
    match argument with
    | .operand text => some text
    | _ => none

end Argument

end DocSamples
