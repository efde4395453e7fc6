import DocSamples.Script.Record.Engine

namespace DocSamples.Script.Record

/-! # Running record programs

Steps are bounded by fuel; a program that needs more has no end.
-/

open Text

/-- The pattern that an expression stands for where one is asked for. -/
def readPattern (text : String) : Step (Option Pattern) := do
  match patternOf text with
  | .ok pattern => return some pattern
  | .error fault => do
      Engine.fail ("regular expression compile failed (" ++ fault ++ ")\n" ++ text)
      return none

/-- Where a pattern fits first in a text: the place, or zero, and the length. -/
def firstMatch (pattern : Pattern) (text : String) : Nat × Int :=
  let chars := text.toList
  match pattern.find? false [] chars with
  | none => (0, -1)
  | some found => (chars.length - found.start.after.length + 1, found.text.length)

/-- A part of a text, given by its first character and its length. -/
def partOf (text : String) (start : Float) (size : Option Float) : String :=
  let first := wholePart start
  let last := match size with
    | some size => wholePart (start + size)
    | none => (text.length : Int) + 1
  let from' := max first 1
  if last ≤ from' then ""
  else String.ofList ((text.toList.drop (from' - 1).toNat).take (last - from').toNat)

def upperText (text : String) : String :=
  String.ofList (text.toList.map fun c => if c.toNat < 128 then c.toUpper else c)

def lowerText (text : String) : String :=
  String.ofList (text.toList.map fun c => if c.toNat < 128 then c.toLower else c)

/-- Where a part begins in a text, or zero. -/
def indexOf (text part : String) : Nat :=
  let rec place (index : Nat) : List Char → Nat
    | [] => if part = "" then index else 0
    | c :: rest => if part.toList.isPrefixOf (c :: rest) then index else place (index + 1) rest
  if text = "" then 0 else place 1 text.toList

mutual

/-- The value of an expression. -/
def evaluate (fuel : Nat) (expression : Expression) : Step Value :=
  match fuel with
  | 0 => do
      modify fun engine => { engine with signal := some .endless }
      return .unset
  | fuel + 1 =>
      match expression with
      | .number text => return .number (((readNumber text).map Prod.fst).getD 0.0)
      | .text text => return .text text
      | .pattern text => do
          match ← readPattern text with
          | some pattern => return .ofBool (pattern.isIn false (← get).record.toList)
          | none => return .unset
      | .place place => readPlace fuel place
      | .group items => do
          let values ← evaluateAll fuel items
          return values.getLast?.getD .unset
      | .assigned target operator value => do
          match operator with
          | none => do
              let result ← evaluate fuel value
              writePlace fuel target result
              return result
          | some operator => do
              let change ← evaluate fuel value
              let old ← readPlace fuel target
              let result := Value.number (Value.calculate operator old.toNumber change.toNumber)
              writePlace fuel target result
              return result
      | .stepped target isUp isBefore => do
          let old := (← readPlace fuel target).toNumber
          let changed := if isUp then old + 1.0 else old - 1.0
          writePlace fuel target (.number changed)
          return .number (if isBefore then changed else old)
      | .negated inner => do return .ofBool !(← evaluate fuel inner).isTrue
      | .negative inner => do return .number (-(← evaluate fuel inner).toNumber)
      | .positive inner => do return .number (← evaluate fuel inner).toNumber
      | .combined .join left right => do
          let first ← textAt fuel left
          let second ← textAt fuel right
          return .text (first ++ second)
      | .combined .fits left right => do return .ofBool (← fits fuel left right)
      | .combined .misfits left right => do return .ofBool !(← fits fuel left right)
      | .combined operator left right => do
          let first ← evaluate fuel left
          let second ← evaluate fuel right
          if [Operator.less, .atMost, .equal, .unequal, .greater, .atLeast].contains operator then
            return .ofBool (first.compares operator (← get).format second)
          else return .number (Value.calculate operator first.toNumber second.toNumber)
      | .both left right => do
          if (← evaluate fuel left).isTrue then return .ofBool (← evaluate fuel right).isTrue
          else return .ofBool false
      | .either left right => do
          if (← evaluate fuel left).isTrue then return .ofBool true
          else return .ofBool (← evaluate fuel right).isTrue
      | .choice condition whenTrue whenFalse => do
          if (← evaluate fuel condition).isTrue then evaluate fuel whenTrue
          else evaluate fuel whenFalse
      | .contains array keys => do
          let key ← keyOf fuel keys
          let (name, after) := (← get).arrayKey array
          set after
          return .ofBool ((after.arrayAt name).contains key)
      | .call name arguments => callFunction fuel name arguments
      | .builtin name arguments => callBuiltin fuel name arguments
      | .record target => do
          let (record, after) := (← get).nextRecord
          set after
          match record with
          | none => return .ofNat 0
          | some text => do
              match target with
              | none => modify (·.setRecord text)
              | some place => writePlace fuel place (.ofInput text)
              return .ofNat 1
      | .recordOfFile file target => do readFrom fuel (← textAt fuel file) false target
      | .recordOfCommand source target => do readFrom fuel (← textAt fuel source) true target

def evaluateAll (fuel : Nat) (items : List Expression) : Step (List Value) :=
  match fuel with
  | 0 => return []
  | fuel + 1 =>
      match items with
      | [] => return []
      | item :: rest => do
          let value ← evaluate fuel item
          return value :: (← evaluateAll fuel rest)

/-- The text of an expression's value. -/
def textAt (fuel : Nat) (expression : Expression) : Step String :=
  match fuel with
  | 0 => return ""
  | fuel + 1 => do
      let value ← evaluate fuel expression
      return value.toText (← get).format

/-- The key that some values make. -/
def keyOf (fuel : Nat) (keys : List Expression) : Step String :=
  match fuel with
  | 0 => return ""
  | fuel + 1 => do
      let values ← evaluateAll fuel keys
      let engine ← get
      return (engine.textOf "SUBSEP").intercalate (values.map (·.toText engine.format))

/-- Whether a text fits a pattern, which may be given as a text. -/
def fits (fuel : Nat) (left right : Expression) : Step Bool :=
  match fuel with
  | 0 => return false
  | fuel + 1 => do
      let text ← textAt fuel left
      match ← patternAt fuel right with
      | some pattern => return pattern.isIn false text.toList
      | none => return false

def patternAt (fuel : Nat) (expression : Expression) : Step (Option Pattern) :=
  match fuel with
  | 0 => return none
  | fuel + 1 =>
      match expression with
      | .pattern text => readPattern text
      | _ => do readPattern (← textAt fuel expression)

/-- The index of a field. -/
def fieldIndex (fuel : Nat) (index : Expression) : Step Nat :=
  match fuel with
  | 0 => return 0
  | fuel + 1 => do
      let number := wholePart (← evaluate fuel index).toNumber
      if number < 0 then
        Engine.fail ("run time error: negative field index $" ++ toString number)
      return number.toNat

def readPlace (fuel : Nat) (place : Place) : Step Value :=
  match fuel with
  | 0 => return .unset
  | fuel + 1 =>
      match place with
      | .named name => do return (← get).valueOf name
      | .field index => do
          let number ← fieldIndex fuel index
          return (← get).fieldAt number
      | .element array keys => do
          let key ← keyOf fuel keys
          let (name, after) := (← get).arrayKey array
          let values := after.arrayAt name
          match values.find? key with
          | some value => do
              set after
              return value
          | none => do
              set (after.setArray name (values.insert key .unset))
              return .unset

def writePlace (fuel : Nat) (place : Place) (value : Value) : Step Unit :=
  match fuel with
  | 0 => return
  | fuel + 1 =>
      match place with
      | .named name => modify (·.assign name value)
      | .field index => do
          let number ← fieldIndex fuel index
          modify fun engine => engine.setField number (value.toText engine.format)
      | .element array keys => do
          let key ← keyOf fuel keys
          modify fun engine =>
            let (name, after) := engine.arrayKey array
            after.setArray name ((after.arrayAt name).insert key value)

/-- Reads a record of a file or a command. -/
def readFrom (fuel : Nat) (name : String) (isCommand : Bool) (target : Option Place) :
    Step Value :=
  match fuel with
  | 0 => return .unset
  | fuel + 1 => do
      let (record, after) := (← get).takeFrom name isCommand
      set after
      match record with
      | none => return .number (-1.0)
      | some none => return .ofNat 0
      | some (some text) => do
          match target with
          | none => modify (·.setRecord text)
          | some place => writePlace fuel place (.ofInput text)
          return .ofNat 1

/-- What the parameters of a function stand for. -/
def giveAll (fuel : Nat) (parameters : List String) (arguments : List Expression) :
    Step (List (String × Cell)) :=
  match fuel with
  | 0 => return []
  | fuel + 1 =>
      match parameters, arguments with
      | [], _ => return []
      | parameter :: rest, [] => do
          return (parameter, .value .unset) :: (← giveAll fuel rest [])
      | parameter :: rest, argument :: others => do
          let cell ← match argument with
            | .place (.named name) => do
                let (cell, after) := (← get).given name
                set after
                pure cell
            | _ => do pure (.value (← evaluate fuel argument))
          return (parameter, cell) :: (← giveAll fuel rest others)

/-- Runs a function of the program. -/
def callFunction (fuel : Nat) (name : String) (arguments : List Expression) : Step Value :=
  match fuel with
  | 0 => return .unset
  | fuel + 1 => do
      match (← get).program.functions.lookup name with
      | none => return .unset
      | some function => do
          let cells ← giveAll fuel function.parameters arguments
          let before := (← get).locals
          modify fun engine => { engine with locals := cells }
          execute fuel function.body
          let after ← get
          set { after with locals := before }
          match after.signal with
          | some (.result value) => do
              modify fun engine => { engine with signal := none }
              return value
          | _ => return .unset

/-- Runs a function of the system. -/
def callBuiltin (fuel : Nat) (name : String) (arguments : List Expression) : Step Value :=
  match fuel with
  | 0 => return .unset
  | fuel + 1 => do
      let number (index : Nat) : Step Float := do
        match arguments[index]? with
        | some argument => return (← evaluate fuel argument).toNumber
        | none => return 0.0
      let text (index : Nat) : Step String := do
        match arguments[index]? with
        | some argument => textAt fuel argument
        | none => return (← get).record
      let calculated (work : Float → Float) : Step Value := do return .number (work (← number 0))
      match name, arguments with
      | "length", [.place (.named given)] => do
          let engine ← get
          match engine.cell? given, engine.arrays.find? given with
          | some (.array key), _ => return .ofNat (engine.arrayAt key).entries.length
          | none, some array => return .ofNat array.entries.length
          | _, _ => return .ofNat (← text 0).length
      | "length", _ => do return .ofNat (← text 0).length
      | "substr", _ => do
          let whole ← text 0
          let start ← number 1
          let size ← if arguments.length = 3 then some <$> number 2 else pure none
          return .text (partOf whole start size)
      | "index", _ => do
          let whole ← text 0
          return .ofNat (indexOf whole (← text 1))
      | "tolower", _ => do return .text (lowerText (← text 0))
      | "toupper", _ => do return .text (upperText (← text 0))
      | "int", _ => calculated truncated
      | "sqrt", _ => calculated Float.sqrt
      | "exp", _ => calculated Float.exp
      | "log", _ => calculated Float.log
      | "sin", _ => calculated Float.sin
      | "cos", _ => calculated Float.cos
      | "atan2", _ => do
          let first ← number 0
          return .number (Float.atan2 first (← number 1))
      | "sprintf", _ => do
          let values ← evaluateAll fuel arguments
          return .text (← formatted values)
      | "split", source :: .place (.named array) :: separators => do
          let whole ← textAt fuel source
          let parts ← match separators with
            | [.pattern pattern] => do
                match ← readPattern pattern with
                | some pattern =>
                    if whole = "" then pure []
                    else pure ((partsBetween pattern (whole.length + 1) [] whole.toList).map
                      String.ofList)
                | none => pure []
            | [separator] => do pure (separate (← textAt fuel separator) whole)
            | _ => do pure (separate ((← get).textOf "FS") whole)
          modify fun engine =>
            let (key, after) := engine.arrayKey array
            after.setArray key ⟨parts.zipIdx.map fun (part, index) =>
              (toString (index + 1), .ofInput part)⟩
          return .ofNat parts.length
      | "match", [whole, pattern] => do
          let whole ← textAt fuel whole
          match ← patternAt fuel pattern with
          | none => return .unset
          | some pattern => do
              let (place, size) := firstMatch pattern whole
              modify fun engine =>
                (engine.bind "RSTART" (.ofNat place)).bind "RLENGTH" (.number (numberOfInt size))
              return .ofNat place
      | "sub", _ => replaceIn fuel false arguments
      | "gsub", _ => replaceIn fuel true arguments
      | "system", _ => do
          let script ← text 0
          let shown := (← get).flush
          let ran := shown.shell "sh" (plainText script) shown.machine
          set { shown with machine := ran }
          return .ofNat ran.status
      | "close", _ => do
          let (status, after) := (← get).close (← text 0)
          set after
          return .number (numberOfInt status)
      | "fflush", _ => do
          modify (·.flush)
          return .ofNat 0
      | _, _ => return .ofNat 0

/-- Fills a format, the first of some values, with the others. -/
def formatted (values : List Value) : Step String := do
  let engine ← get
  let format := (values.headD .unset).toText engine.format
  match filled? format values.tail (·.toText engine.format) with
  | some text => return text
  | none => do
      let file := (engine.textOf "FILENAME")
      Engine.fail ("run time error: not enough arguments passed to printf(\x22" ++ format ++
        "\x22)\n\tFILENAME=\x22" ++ file ++ "\x22 FNR=" ++ engine.textOf "FNR" ++ " NR=" ++
        engine.textOf "NR")
      return ""

/-- Replaces one match or all in a place. -/
def replaceIn (fuel : Nat) (isGlobal : Bool) (arguments : List Expression) : Step Value :=
  match fuel with
  | 0 => return .unset
  | fuel + 1 =>
      match arguments with
      | pattern :: replacement :: targets => do
          match ← patternAt fuel pattern with
          | none => return .unset
          | some pattern => do
              let replacement ← textAt fuel replacement
              let whole ← match targets with
                | [target] => textAt fuel target
                | _ => do pure (← get).record
              let (text, count) :=
                replace pattern replacement.toList isGlobal (2 * whole.length + 3) false []
                  whole.toList
              if 0 < count then
                match targets with
                | [.place place] => writePlace fuel place (.text (String.ofList text))
                | [] => modify (·.setRecord (String.ofList text))
                | _ => pure ()
              return .ofNat count
      | _ => return .unset

/-- Carries out a statement, unless something has been interrupted. -/
def execute (fuel : Nat) (statement : Statement) : Step Unit :=
  match fuel with
  | 0 => modify fun engine => { engine with signal := some .endless }
  | fuel + 1 => do
      if (← Engine.isInterrupted) then return
      let signal (signal : Signal) : Step Unit :=
        modify fun engine =>
          if engine.signal.isSome then engine else { engine with signal := some signal }
      match statement with
      | .nothing => return
      | .evaluate value => do
          let _ ← evaluate fuel value
      | .print items target => do
          let values ← evaluateAll fuel items
          let engine ← get
          let shown := if items.isEmpty then engine.record
            else (engine.textOf "OFS").intercalate (values.map (·.toText (engine.textOf "OFMT")))
          emit fuel (shown ++ engine.textOf "ORS") target
      | .format items target => do
          let values ← evaluateAll fuel items
          emit fuel (← formatted values) target
      | .sequence first second => do
          execute fuel first
          execute fuel second
      | .choice condition whenTrue whenFalse => do
          if (← evaluate fuel condition).isTrue then execute fuel whenTrue
          else execute fuel whenFalse
      | .turns condition body => executeTurns fuel true (some condition) .nothing body
      | .turnsAfter body condition => executeTurns fuel false (some condition) .nothing body
      | .loop first condition step body => do
          execute fuel first
          executeTurns fuel true condition step body
      | .each name array body => do
          let (key, after) := (← get).arrayKey array
          set after
          executeEach fuel name (Engine.scattered (after.arrayAt key).keys) body
      | .leaveLoop => signal .leaveLoop
      | .nextTurn => signal .nextTurn
      | .nextRecord => signal .nextRecord
      | .nextFile => signal .nextFile
      | .exit value => do
          match value with
          | some value => do
              let status := (wholePart (← evaluate fuel value).toNumber % 256).toNat
              modify fun engine => { engine with status }
          | none => pure ()
          signal .exit
      | .result value => do
          match value with
          | some value => do
              let result ← evaluate fuel value
              signal (.result result)
          | none => signal (.result .unset)
      | .erase array keys => do
          match keys with
          | some keys => do
              let key ← keyOf fuel keys
              modify fun engine =>
                let (name, after) := engine.arrayKey array
                after.setArray name
                  ⟨(after.arrayAt name).entries.filter fun (old, _) => old != key⟩
          | none =>
              modify fun engine =>
                let (name, after) := engine.arrayKey array
                after.setArray name .empty

/-- Writes a text. -/
def emit (fuel : Nat) (text : String) (target : Option Target) : Step Unit :=
  match fuel with
  | 0 => return
  | fuel + 1 => do
      let bytes := toBytes text
      match target with
      | none =>
          if !(← Engine.isInterrupted) then
            modify fun engine => { engine with output := engine.output ++ bytes }
      | some (.file name appends) => do
          let name ← textAt fuel name
          modify (·.writeFile name appends bytes)
      | some (.command name) => do
          let name ← textAt fuel name
          modify (·.writeCommand name bytes)

/-- Takes turns; the condition may be tested after the first of them. -/
def executeTurns (fuel : Nat) (isTested : Bool) (condition : Option Expression)
    (step body : Statement) : Step Unit :=
  match fuel with
  | 0 => modify fun engine => { engine with signal := some .endless }
  | fuel + 1 => do
      let goesOn ← match isTested, condition with
        | true, some condition => do pure (← evaluate fuel condition).isTrue
        | _, _ => pure true
      if goesOn && !(← Engine.isInterrupted) then
        execute fuel body
        match (← get).signal with
        | none => do
            execute fuel step
            executeTurns fuel true condition step body
        | some .nextTurn => do
            modify fun engine => { engine with signal := none }
            execute fuel step
            executeTurns fuel true condition step body
        | some .leaveLoop => modify fun engine => { engine with signal := none }
        | some _ => return

def executeEach (fuel : Nat) (name : String) (keys : List String) (body : Statement) :
    Step Unit :=
  match fuel with
  | 0 => modify fun engine => { engine with signal := some .endless }
  | fuel + 1 =>
      match keys with
      | [] => return
      | key :: rest => do
          modify (·.assign name (.ofInput key))
          execute fuel body
          match (← get).signal with
          | none => executeEach fuel name rest body
          | some .nextTurn => do
              modify fun engine => { engine with signal := none }
              executeEach fuel name rest body
          | some .leaveLoop => modify fun engine => { engine with signal := none }
          | some _ => return

end

/-! ## Rules -/

/-- Runs the rules for the record. -/
def runRules (fuel : Nat) (rules : List (Nat × Rule)) : Step Unit :=
  match rules with
  | [] => return
  | (index, rule) :: rest => do
      if (← Engine.isInterrupted) then return
      let isMeant ← match rule.scope with
        | .always => pure true
        | .when condition => do pure (← evaluate fuel condition).isTrue
        | .range first last => do
            let isOpen ← if (← get).ranges.contains index then pure true
              else do pure (← evaluate fuel first).isTrue
            if isOpen then
              let isOver := (← evaluate fuel last).isTrue
              modify fun engine =>
                let others := engine.ranges.filter (· != index)
                { engine with ranges := if isOver then others else index :: others }
            pure isOpen
        | _ => pure false
      if isMeant then execute fuel rule.action
      runRules fuel rest

/-- Runs the rules for all records that are left. -/
def runRecords (fuel : Nat) (rules : List (Nat × Rule)) : Step Unit :=
  match fuel with
  | 0 => modify fun engine => { engine with signal := some .endless }
  | fuel + 1 => do
      if (← Engine.isInterrupted) then return
      let (record, after) := (← get).nextRecord
      set after
      match record with
      | none => return
      | some text => do
          modify (·.setRecord text)
          runRules fuel rules
          match (← get).signal with
          | some .nextRecord => modify fun engine => { engine with signal := none }
          | some .nextFile =>
              modify fun engine => { engine with signal := none, rest := none }
          | _ => pure ()
          runRecords fuel rules

/-- Runs the actions of the rules with a scope, one after the other. -/
def runActions (fuel : Nat) (isStart : Bool) (rules : List Rule) : Step Unit :=
  match rules with
  | [] => return
  | rule :: rest => do
      let isMeant := match rule.scope with
        | .start => isStart
        | .last => !isStart
        | _ => false
      if isMeant then execute fuel rule.action
      runActions fuel isStart rest

/-- Runs a program from its start to its end. -/
def Program.run (fuel : Nat) : Step Unit := do
  let rules := (← get).program.rules
  let main := (rules.zipIdx.map fun (rule, index) => (index, rule)).filter fun (_, rule) =>
    !(rule.scope matches .start) && !(rule.scope matches .last)
  let hasLast := rules.any fun rule => rule.scope matches .last
  runActions fuel true rules
  if !main.isEmpty || hasLast then runRecords fuel main
  match (← get).signal with
  | none => runActions fuel false rules
  | some .exit => do
      modify fun engine => { engine with signal := none }
      runActions fuel false rules
  | _ => return

end DocSamples.Script.Record
