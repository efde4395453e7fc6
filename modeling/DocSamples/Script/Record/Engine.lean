import DocSamples.Script.Input
import DocSamples.Script.Pattern.Grammar
import DocSamples.Script.Record.Token
import DocSamples.Script.Record.Value

namespace DocSamples.Script.Record

/-! # Engines

An engine goes through a record program.  It holds the record and its fields, what the
variables stand for, and what has been opened.
-/

open Text

/-! ## Parts of texts -/

def isBlank (c : Char) : Bool :=
  c = ' ' || c = '\t' || c = '\n'

/-- The words of a text. -/
def wordsOf (chars : List Char) : List (List Char) :=
  (chars.foldr (fun c (words, isInWord) =>
    if isBlank c then (words, false)
    else match words, isInWord with
      | word :: rest, true => ((c :: word) :: rest, true)
      | words, _ => ([c] :: words, true)) (([] : List (List Char)), false)).1

/-- The parts of a text between those that a pattern fits.  `fuel` bounds the parts. -/
def partsBetween (pattern : Pattern) (fuel : Nat) (before after : List Char) :
    List (List Char) :=
  match fuel with
  | 0 => [after]
  | fuel + 1 =>
      match pattern.find? false before after with
      | none => [after]
      | some found =>
          let lead := after.take (after.length - found.start.after.length)
          if found.text.isEmpty then
            match found.last.after with
            | [] => [after]
            | c :: rest =>
                match partsBetween pattern fuel (c :: found.last.before) rest with
                | part :: more => (lead ++ c :: part) :: more
                | [] => [lead ++ [c]]
          else lead :: partsBetween pattern fuel found.last.before found.last.after

/-- The characters of a class up to its bracket, with their escapes resolved, and what
follows.  `fuel` bounds them. -/
def classPart (fuel : Nat) (isFirst : Bool) (chars : List Char) :
    Option (List Char × List Char) :=
  match fuel, chars with
  | 0, _ => none
  | _, [] => none
  | fuel + 1, '\x5c' :: rest =>
      let (c, after) := (escaped? rest).getD (rest.headD '\x5c', rest.tail)
      -- A hyphen that stands for itself is a range of its own.
      let item := if c = '-' then ['-', '-', '-'] else [c]
      (classPart fuel false after).map fun (part, left) => (item ++ part, left)
  | fuel + 1, '[' :: ':' :: rest =>
      let name := rest.takeWhile Char.isAlpha
      (classPart fuel false (rest.drop (name.length + 2))).map fun (part, left) =>
        (['[', ':'] ++ name ++ [':', ']'] ++ part, left)
  | fuel + 1, c :: rest =>
      if c = ']' && !isFirst then some ([], rest)
      else (classPart fuel false rest).map fun (part, left) => (c :: part, left)

/-- The text of a pattern in which a backslash stands only before signs.  In a class a
bracket stands first and a backslash last.  `fuel` bounds the characters. -/
def plainPattern (fuel : Nat) (chars : List Char) : List Char :=
  match fuel, chars with
  | 0, _ => []
  | _, [] => []
  | fuel + 1, '\x5c' :: rest =>
      match escaped? rest, rest with
      | some (c, after), _ => sign c ++ plainPattern fuel after
      | none, c :: after => sign c ++ plainPattern fuel after
      | none, [] => ['\x5c', '\x5c']
  | fuel + 1, '[' :: rest =>
      let (lead, body) := match rest with
        | '^' :: body => (['[', '^'], body)
        | _ => (['['], rest)
      match classPart (body.length + 1) true body with
      | none => '[' :: plainPattern fuel rest
      | some (part, after) =>
          let isNamed := (String.ofList part).contains "[:"
          let moved (c : Char) : List Char := if part.contains c && !isNamed then [c] else []
          let kept := if isNamed then part else part.filter fun c => c != ']' && c != '\x5c'
          lead ++ moved ']' ++ kept ++ moved '\x5c' ++ [']'] ++ plainPattern fuel after
  | fuel + 1, c :: rest => c :: plainPattern fuel rest
where
  /-- A character that stands for itself. -/
  sign (c : Char) : List Char :=
    if ".[]()*+?\x7b\x7d|^$\x5c/".contains c then ['\x5c', c] else [c]

/-- The pattern that a text describes. -/
def patternOf (text : String) : Except String Pattern :=
  let chars := text.toList
  let dialect : Pattern.Dialect :=
    { isExtended := true, hasControls := true, checksRanges := false }
  (Pattern.read dialect (plainPattern (chars.length + 1) chars)).map (·.pattern)

/-- The parts that a separator divides a text into. -/
def separate (separator : String) (text : String) : List String :=
  let chars := text.toList
  if chars.isEmpty then []
  else
    match separator.toList with
    | [' '] => (wordsOf chars).map String.ofList
    | [] => chars.map String.singleton
    | [c] => text.splitOn (String.singleton c)
    | _ =>
        match patternOf separator with
        | .ok pattern =>
            (partsBetween pattern (chars.length + 1) [] chars).map String.ofList
        | .error _ => [text]

/-- The first record of an input and what follows it. -/
def takeRecord (separator : String) (chars : List Char) : Option (List Char × List Char) :=
  match separator.toList with
  | [] =>
      let start := chars.dropWhile (· == '\n')
      if start.isEmpty then none
      else
        let (record, rest) := paragraph start
        some (record, rest.dropWhile (· == '\n'))
  | [c] =>
      if chars.isEmpty then none
      else some (chars.takeWhile (· != c), (chars.dropWhile (· != c)).drop 1)
  | _ =>
      if chars.isEmpty then none
      else
        match patternOf separator with
        | .error _ => some (chars, [])
        | .ok pattern =>
            match pattern.find? false [] chars with
            | none => some (chars, [])
            | some found =>
                if found.text.isEmpty then some (chars, [])
                else some (chars.take (chars.length - found.start.after.length),
                  found.last.after)
where
  /-- The lines up to an empty one. -/
  paragraph : List Char → List Char × List Char
    | '\n' :: '\n' :: rest => ([], rest)
    | ['\n'] => ([], [])
    | c :: rest =>
        let (record, after) := paragraph rest
        (c :: record, after)
    | [] => ([], [])

/-- The text that replaces a match; an ampersand stands for the match. -/
def replacementOf (found : List Char) : List Char → List Char
  | '\x5c' :: '&' :: rest => '&' :: replacementOf found rest
  | '\x5c' :: '\x5c' :: rest => '\x5c' :: replacementOf found rest
  | '&' :: rest => found ++ replacementOf found rest
  | c :: rest => c :: replacementOf found rest
  | [] => []

/-- A text in which matches are replaced, and how many are.  An empty match does not
count right behind another one.  `fuel` bounds the matches. -/
def replace (pattern : Pattern) (replacement : List Char) (isGlobal : Bool) (fuel : Nat)
    (isBehind : Bool) (before after : List Char) : List Char × Nat :=
  match fuel with
  | 0 => (after, 0)
  | fuel + 1 =>
      match pattern.find? false before after with
      | none => (after, 0)
      | some found =>
          let lead := after.take (after.length - found.start.after.length)
          let isEmpty := found.text.isEmpty
          let counts := !(isEmpty && isBehind && lead.isEmpty)
          let shown := if counts then lead ++ replacementOf found.text replacement else lead
          let count := if counts then 1 else 0
          if counts && !isGlobal then (shown ++ found.last.after, 1)
          else
            match isEmpty, found.last.after with
            | true, [] => (shown, count)
            | true, c :: rest =>
                let (more, further) :=
                  replace pattern replacement isGlobal fuel false (c :: found.last.before) rest
                (shown ++ c :: more, count + further)
            | false, rest =>
                let (more, further) :=
                  replace pattern replacement isGlobal fuel true found.last.before rest
                (shown ++ more, count + further)

/-! ## States -/

/-- What a name stands for. -/
inductive Cell where
  | value (value : Value)
  | array (key : String)

/-- What interrupts a program. -/
inductive Signal where
  | nextRecord
  | nextFile
  | exit
  | leaveLoop
  | nextTurn
  | result (value : Value)
  | failed (message : String)
  | endless

structure Engine where
  machine : Machine
  /-- Runs a script on a machine, with a name of the one who reads it. -/
  shell : String → String → Machine → Machine
  program : Program
  globals : OrderedMap String Cell := .empty
  /-- The names that belong to the function that is being run. -/
  locals : List (String × Cell) := []
  arrays : OrderedMap String (OrderedMap String Value) := .empty
  arrayCount : Nat := 0
  record : String := ""
  fields : List String := []
  /-- What has been written and not been shown yet. -/
  output : Utf8.Bytes := []
  /-- The commands that are written to, with their inputs. -/
  commands : List (String × Utf8.Bytes) := []
  /-- The files that are written to, with what has not been saved yet. -/
  files : List (String × Utf8.Bytes) := []
  /-- What is left of the files and commands that are read. -/
  readers : List (String × List Char) := []
  /-- What is left of the file whose records are gone through. -/
  rest : Option (List Char) := none
  /-- The number of the next operand, and whether any has been a file. -/
  operand : Nat := 1
  hasRead : Bool := false
  /-- The rules whose ranges are open. -/
  ranges : List Nat := []
  status : Nat := 0
  signal : Option Signal := none

abbrev Step := StateM Engine

/-- A text in plain characters, as files and scripts are named. -/
def plainText (text : String) : String :=
  String.ofList (charsOf (toBytes text))

namespace Engine

def fail (message : String) : Step Unit :=
  modify fun engine =>
    if engine.signal.isSome then engine else { engine with signal := some (.failed message) }

def isInterrupted : Step Bool := do
  return (← get).signal.isSome

/-! ## Names -/

def cell? (engine : Engine) (name : String) : Option Cell :=
  (engine.locals.lookup name).or (engine.globals.find? name)

def valueOf (engine : Engine) (name : String) : Value :=
  match engine.cell? name with
  | some (.value value) => value
  | _ => .unset

def format (engine : Engine) : String :=
  (engine.valueOf "CONVFMT").toText "%.6g"

def textOf (engine : Engine) (name : String) : String :=
  (engine.valueOf name).toText "%.6g"

def bindCell (engine : Engine) (name : String) (cell : Cell) : Engine :=
  if engine.locals.any (·.1 == name) then
    { engine with locals := engine.locals.map fun (key, old) =>
        if key = name then (key, cell) else (key, old) }
  else { engine with globals := engine.globals.insert name cell }

def bind (engine : Engine) (name : String) (value : Value) : Engine :=
  engine.bindCell name (.value value)

/-- The key of the array of a name, which is made if the name stands for nothing. -/
def arrayKey (engine : Engine) (name : String) : String × Engine :=
  match engine.locals.lookup name with
  | some (.array key) => (key, engine)
  | some (.value _) =>
      let key := "#" ++ toString engine.arrayCount
      (key, { engine with arrayCount := engine.arrayCount + 1 }.bindCell name (.array key))
  | none =>
      match engine.globals.find? name with
      | some (.array key) => (key, engine)
      | _ => (name, engine)

def arrayAt (engine : Engine) (key : String) : OrderedMap String Value :=
  (engine.arrays.find? key).getD .empty

def setArray (engine : Engine) (key : String) (array : OrderedMap String Value) : Engine :=
  { engine with arrays := engine.arrays.insert key array }

/-- A number that scatters texts. -/
def scatter (text : String) : Nat :=
  text.toList.foldl (fun sum c => Nat.xor sum c.toNat * 16777619 % Nat.pow 2 32) 2166136261

/-- How many places some keys are scattered over. -/
def placeCount (fuel size : Nat) (places : Nat) : Nat :=
  match fuel with
  | 0 => places
  | fuel + 1 => if 12 * places < size then placeCount fuel size (2 * places) else places

/-- Keys in the order in which they are gone through: by their places, and the latest
first where they share one. -/
def scattered (keys : List String) : List String :=
  let places := placeCount keys.length keys.length 64
  keys.reverse.mergeSort fun first second =>
    decide (scatter first % places ≤ scatter second % places)

/-- What a name stands for where it is given to a function: an array unless it has a
value. -/
def given (engine : Engine) (name : String) : Cell × Engine :=
  match engine.cell? name with
  | some (.value .unset) | none =>
      let (key, after) := engine.arrayKey name
      (.array key, after)
  | some cell => (cell, engine)

/-! ## Records -/

/-- The fields of a text as the separators stand. -/
def fieldsOf (engine : Engine) (text : String) : List String :=
  let separator := engine.textOf "FS"
  if engine.textOf "RS" = "" && separator != " " then
    (text.splitOn "\n").flatMap (separate separator)
  else separate separator text

def setRecord (engine : Engine) (text : String) : Engine :=
  let fields := engine.fieldsOf text
  { engine with record := text, fields }.bind "NF" (.ofNat fields.length)

/-- Puts fields together to a record. -/
def setFields (engine : Engine) (fields : List String) : Engine :=
  { engine with record := (engine.textOf "OFS").intercalate fields, fields }.bind "NF"
    (.ofNat fields.length)

def fieldAt (engine : Engine) (index : Nat) : Value :=
  if index = 0 then .ofInput engine.record
  else match engine.fields[index - 1]? with
    | some text => .ofInput text
    | none => .unset

def resize (fields : List String) (count : Nat) : List String :=
  fields.take count ++ List.replicate (count - fields.length) ""

def setField (engine : Engine) (index : Nat) (text : String) : Engine :=
  if index = 0 then engine.setRecord text
  else
    engine.setFields ((resize engine.fields (engine.fields.length.max index)).set (index - 1) text)

/-- Gives a variable a value; the number of fields changes the record. -/
def assign (engine : Engine) (name : String) (value : Value) : Engine :=
  if name = "NF" then engine.setFields (resize engine.fields (wholePart value.toNumber).toNat)
  else engine.bind name value

/-! ## Output -/

/-- Saves what has been written to files. -/
def save (engine : Engine) : Engine :=
  engine.files.foldl (fun engine (name, bytes) =>
    let machine := engine.machine
    let path := machine.pathOf (plainText name)
    match machine.tree.writeBytes path (machine.bytesAt path ++ bytes) with
    | .ok tree =>
        { engine with machine := { machine with tree }, files := engine.files ++ [(name, [])] }
    | .error _ => engine) { engine with files := [] }

/-- Shows and saves what has been written. -/
def flush (engine : Engine) : Engine :=
  let saved := engine.save
  { saved with machine := saved.machine.write saved.output, output := [] }

/-- Runs a command that has been written to, and tells its status. -/
def runCommand (engine : Engine) (command : String) (input : Utf8.Bytes) : Engine :=
  let machine := engine.machine
  let after := engine.shell "/bin/sh" (plainText command)
    { machine with input, inputIsFile := false }
  { engine with
    machine := { after with input := machine.input, inputIsFile := machine.inputIsFile } }

/-- Writes to a file, which is made anew when it is first written to. -/
def writeFile (engine : Engine) (name : String) (appends : Bool) (bytes : Utf8.Bytes) : Engine :=
  if name = "/dev/stdout" || name = "-" then { engine with output := engine.output ++ bytes }
  else if name = "/dev/stderr" then
    { engine with machine := engine.machine.writeTo engine.machine.errors bytes }
  else if name = "/dev/null" then engine
  else if engine.files.any (·.1 == name) then
    { engine with files := engine.files.map fun (key, old) =>
        if key = name then (key, old ++ bytes) else (key, old) }
  else
    let path := engine.machine.pathOf (plainText name)
    let before := if appends then engine.machine.bytesAt path else []
    match engine.machine.tree.writeBytes path before with
    | .ok tree =>
        { engine with
          machine := { engine.machine with tree }
          files := engine.files ++ [(name, bytes)] }
    | .error (.system cause _) =>
        { engine with signal := some (.failed
          ("cannot open \x22" ++ name ++ "\x22 for output (" ++ cause.words ++ ")")) }
    | .error _ => engine

/-- Writes to a command, before whose start everything is shown. -/
def writeCommand (engine : Engine) (command : String) (bytes : Utf8.Bytes) : Engine :=
  match engine.commands.lookup command with
  | some before =>
      { engine with commands := engine.commands.map fun (name, old) =>
          if name = command then (name, before ++ bytes) else (name, old) }
  | none => { engine.flush with commands := engine.commands ++ [(command, bytes)] }

/-- Closes a file or a command.  A command that is written to is run, and its status
is told. -/
def close (engine : Engine) (name : String) : Int × Engine :=
  match engine.commands.lookup name with
  | some input =>
      let ran := engine.runCommand name input
      (ran.machine.status, { ran with commands := ran.commands.filter (·.1 != name) })
  | none =>
      let isOpen := engine.files.any (·.1 == name) || engine.readers.any (·.1 == name)
      let saved := if engine.files.any (·.1 == name) then engine.save else engine
      (if isOpen then 0 else -1, { saved with
        files := saved.files.filter (·.1 != name)
        readers := saved.readers.filter (·.1 != name) })

/-- Runs the commands that are still written to, and shows what is left. -/
def closeAll (engine : Engine) : Engine :=
  let ran := engine.commands.foldl (fun engine (text, input) =>
    engine.runCommand text input) engine.save
  { ran with commands := [] }.flush

/-! ## Input -/

def charsOfBytes (bytes : Utf8.Bytes) : List Char :=
  (ofBytes bytes).toList

/-- What a command shows. -/
def outputOf (engine : Engine) (command : String) : List Char × Engine :=
  let shown := engine.flush
  let machine := shown.machine
  let inner := shown.shell "/bin/sh" (plainText command)
    { machine with output := .capture, captured := [] }
  (charsOfBytes inner.captured,
    { shown with machine := { inner with output := machine.output, captured := machine.captured } })

/-- The next record of a file or a command, which is opened if it has not been.  What
cannot be opened is told by nothing. -/
def takeFrom (engine : Engine) (name : String) (isCommand : Bool) :
    Option (Option String) × Engine :=
  let (chars, opened) : Option (List Char) × Engine :=
    match engine.readers.lookup name with
    | some chars => (some chars, engine)
    | none =>
        if isCommand then
          let (chars, after) := engine.outputOf name
          (some chars, after)
        else
          match (sourceOf engine.machine (plainText name)).content with
          | .ok bytes => (some (charsOfBytes bytes), engine)
          | .error _ => (none, engine)
  match chars with
  | none => (none, engine)
  | some chars =>
      let keep (rest : List Char) : Engine :=
        { opened with readers := (name, rest) :: opened.readers.filter (·.1 != name) }
      match takeRecord (engine.textOf "RS") chars with
      | none => (some none, keep [])
      | some (record, rest) => (some (some (String.ofList record)), keep rest)

/-- The operand with a number. -/
def operandAt (engine : Engine) (index : Nat) : String :=
  (((engine.arrayAt "ARGV").find? (toString index)).getD .unset).toText "%.6g"

/-- An operand that gives a variable a value. -/
def settingOf? (operand : String) : Option (String × String) :=
  let chars := operand.toList
  let name := chars.takeWhile fun c => c.isAlphanum || c = '_'
  match chars.drop name.length with
  | '=' :: value =>
      if name.head?.any fun c => c.isAlpha || c = '_' then
        some (String.ofList name, String.ofList value)
      else none
  | _ => none

/-- A text whose escapes have been given their meaning. -/
def unescaped (text : String) : String :=
  ofBytes (unescape true text.toList).1

/-- Opens the next file that is named.  `fuel` bounds the operands. -/
def openNext (fuel : Nat) (engine : Engine) : Engine :=
  let openInput (engine : Engine) : Engine :=
    { engine with
      rest := some (charsOfBytes engine.machine.input)
      machine := { engine.machine with input := [] }
      hasRead := true }.bind "FILENAME" (.text "-")
  match fuel with
  | 0 => engine
  | fuel + 1 =>
      if (wholePart (engine.valueOf "ARGC").toNumber).toNat ≤ engine.operand then
        if engine.hasRead then engine else openInput engine
      else
        let operand := engine.operandAt engine.operand
        let passed := { engine with operand := engine.operand + 1 }
        if operand = "" then openNext fuel passed
        else
          match settingOf? operand with
          | some (name, value) =>
              openNext fuel (passed.assign name (.ofInput (unescaped value)))
          | none =>
              let named := (passed.bind "FILENAME" (.text operand)).bind "FNR" (.number 0.0)
              if operand = "-" then openInput named
              else
                match (sourceOf engine.machine (plainText operand)).content with
                | .ok bytes => { named with rest := some (charsOfBytes bytes), hasRead := true }
                | .error .isDirectory =>
                    { named with signal := some (.failed "read error (Is a directory)") }
                | .error cause =>
                    { named with signal := some (.failed
                        ("cannot open \x22" ++ operand ++ "\x22 (" ++ cause.words ++ ")")) }

/-- The next record of the files that are gone through.  `fuel` bounds the files. -/
def takeMain (fuel : Nat) (engine : Engine) : Option String × Engine :=
  match fuel with
  | 0 => (none, engine)
  | fuel + 1 =>
      match engine.rest with
      | some chars =>
          match takeRecord (engine.textOf "RS") chars with
          | some (record, rest) =>
              let count (name : String) (engine : Engine) : Engine :=
                engine.bind name (.number ((engine.valueOf name).toNumber + 1.0))
              (some (String.ofList record),
                count "NR" (count "FNR" { engine with rest := some rest }))
          | none => takeMain fuel { engine with rest := none }
      | none =>
          let size := (wholePart (engine.valueOf "ARGC").toNumber).toNat
          let opened := engine.openNext (size + 1)
          if opened.rest.isSome then takeMain fuel opened else (none, opened)

/-- The next record of the files that are gone through. -/
def nextRecord (engine : Engine) : Option String × Engine :=
  engine.takeMain (2 * (wholePart (engine.valueOf "ARGC").toNumber).toNat + 4)

end Engine

end DocSamples.Script.Record
