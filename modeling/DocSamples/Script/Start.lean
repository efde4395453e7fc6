import DocSamples.Script.Column

namespace DocSamples.Script

/-! # Starting programs

Some programs start others: a reader of scripts, and those that make commands of an
input or limit the time.
-/

open Text

/-! ## Readers of scripts -/

/-- How another reader of scripts is called. -/
structure ShellCall where
  modes : Modes := {}
  isText : Bool := false
  isInput : Bool := false
  words : List String

/-- Reads the options of a reader of scripts. -/
def readShellOptions (call : ShellCall) : List String → Except String ShellCall
  | [] => .ok { call with words := [] }
  | word :: rest =>
      let isOn := word.startsWith "-"
      if word = "--" || word = "-" then .ok { call with words := rest }
      else if !(isOn || word.startsWith "+") then .ok { call with words := word :: rest }
      else if word = "-o" || word = "+o" then
        match rest with
        | [] => .ok { call with words := [] }
        | name :: more =>
            match namedModes.lookup name with
            | some letter =>
                readShellOptions
                  { call with modes := (switchMode? isOn letter call.modes).getD call.modes } more
            | none => .error ("-o " ++ name)
      else
        let letters := word.toList.tail
        match switchModes isOn (letters.filter (· != 'c')) call.modes with
        | .error letter => .error (String.ofList [word.toList.headD '-', letter])
        | .ok modes =>
            readShellOptions { call with
              modes
              isText := call.isText || letters.contains 'c'
              isInput := call.isInput || letters.contains 's' } rest

/-! ## Commands made of an input -/

/-- The words in an input, which may stand between quotes, each with whether it ends its
line. -/
def inputWords (fuel : Nat) (current : Option (List Char)) (chars : List Char) :
    Except String (List (String × Bool)) :=
  let done (endsLine : Bool) : List (String × Bool) :=
    (current.map fun word => (String.ofList word.reverse, endsLine)).toList
  match fuel, chars with
  | 0, _ => .ok (done true)
  | _, [] => .ok (done true)
  | fuel + 1, c :: rest =>
      if c = '\n' || isSpace c then
        (inputWords fuel none rest).map (done (c = '\n') ++ ·)
      else if c = '\x27' || c = '\x22' then
        let inside := rest.takeWhile fun d => d != c && d != '\n'
        match rest.drop inside.length with
        | [] | '\n' :: _ =>
            .error ("unmatched " ++ (if c = '\x27' then "single" else "double") ++
              " quote; by default quotes are special to xargs unless you use the -0 option")
        | _ :: more => inputWords fuel (some (inside.reverse ++ current.getD [])) more
      else if c = '\x5c' then
        match rest with
        | d :: more => inputWords fuel (some (d :: current.getD [])) more
        | [] => .ok (done true)
      else inputWords fuel (some (c :: current.getD [])) rest

/-- Words in groups of lines, of each of which the last word is known. -/
def lineGroups (size fuel : Nat) (words : List (String × Bool)) : List (List String) :=
  let takeLine (words : List (String × Bool)) : List (String × Bool) :=
    let open' := words.takeWhile (!·.2)
    words.take (open'.length + 1)
  let rec takeLines (count : Nat) (words : List (String × Bool)) : List (String × Bool) :=
    match count with
    | 0 => []
    | count + 1 => takeLine words ++ takeLines count (words.drop (takeLine words).length)
  match fuel, words with
  | 0, _ => []
  | _, [] => []
  | fuel + 1, _ =>
      let group := takeLines size words
      group.map Prod.fst :: lineGroups size fuel (words.drop group.length)

def groupsOf (size fuel : Nat) (words : List String) : List (List String) :=
  match fuel, words with
  | 0, _ => []
  | _, [] => []
  | fuel + 1, _ => words.take size :: groupsOf size fuel (words.drop size)

def xargsTable : OptionTable where
  flags := "0rtpxi"
  valued := "nIdLPsa"
  names := [("null", '0'), ("no-run-if-empty", 'r'), ("max-args", 'n'), ("delimiter", 'd'),
    ("max-lines", 'L'), ("max-procs", 'P'), ("verbose", 't'), ("replace", 'I'),
    ("arg-file", 'a')]
  stopsAtOperand := true

/-- The commands that are made of an input: all its words behind some others, some of
them at a time, or each line in place of a mark. -/
def commandsFor (arguments : Arguments) (input : Utf8.Bytes) :
    Except String (List (List String)) := do
  let chars := charsOf input
  let base := if arguments.operands.isEmpty then ["echo"] else arguments.operands
  let mark? := if arguments.has 'i' then some "\x7b\x7d" else arguments.value? 'I'
  match mark? with
  | some mark =>
      let lines := (byteLines input).map fun line =>
        String.ofList ((charsOf line).dropWhile isSpace)
      return (lines.filter (· != "")).map fun line =>
        base.map fun word => line.intercalate (word.splitOn mark)
  | none =>
      let words ←
        if arguments.has '0' then
          .ok (((splitAtMark 0 input).map fun part => String.ofList (charsOf part)).filter
            (· != "") |>.map fun word => (word, true))
        else match arguments.value? 'd' with
          | some mark =>
              let text := String.ofList chars
              let parts := text.splitOn (if mark = "\\n" then "\n" else mark)
              .ok ((if parts.getLast? = some "" then parts.dropLast else parts).map
                fun word => (word, true))
          | none => inputWords (chars.length + 1) none chars
      let size (letter : Char) : Option Nat :=
        ((arguments.value? letter).bind Sum.digits?).map (·.max 1)
      if words.isEmpty then return if arguments.has 'r' then [] else [base]
      else
        let groups := match size 'L', size 'n' with
          | some lines, _ => lineGroups lines (words.length + 1) words
          | none, some count => groupsOf count (words.length + 1) (words.map Prod.fst)
          | none, none => [words.map Prod.fst]
        return groups.map (base ++ ·)

/-! ## Limits of time -/

def timeoutTable : OptionTable where
  flags := "fpv"
  valued := "ks"
  names := [("foreground", 'f'), ("kill-after", 'k'), ("preserve-status", 'p'), ("signal", 's'),
    ("verbose", 'v')]
  stopsAtOperand := true

end DocSamples.Script
