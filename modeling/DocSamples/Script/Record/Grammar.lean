import DocSamples.Script.Record.Token

namespace DocSamples.Script.Record

/-! # Reading record programs

Operators have levels; those of a higher level bind tighter.  The last of the tokens
tells where the program stops.
-/

/-- What is read from tokens. -/
abbrev Parse := StateT (List PlacedToken) (Except Fault)

/-- The next token. -/
def next : Parse PlacedToken := do
  return (← get).headD ⟨.stop, 1⟩

def pass : Parse Unit :=
  modify List.tail

/-- Passes over a token if it is the next one. -/
def accept (token : Token) : Parse Bool := do
  if (← next).token = token then
    pass
    return true
  else return false

def acceptSymbol (text : String) : Parse Bool :=
  accept (.symbol text)

def refuse {α : Type} : Parse α := do
  let found ← next
  if found.token = .symbol ")" then throw (.extra found.line ")")
  else throw (.unexpected found)

/-- Passes over a symbol that has to stand here. -/
def expect (text : String) : Parse Unit := do
  if !(← acceptSymbol text) then
    if text = ")" then throw (.missing ")" (← next)) else throw (.unexpected (← next))

/-- Passes over ends of lines. -/
def passLines : Parse Unit :=
  modify (·.dropWhile (·.token == .lineEnd))

/-- Passes over ends of lines and semicolons. -/
def passEnds : Parse Unit :=
  modify (·.dropWhile fun placed => placed.token == .lineEnd || placed.token == .symbol ";")

/-! ## Expressions -/

/-- The operators from the loosest to the tightest, but for those of their own kind. -/
def operatorAt? (level : Nat) : Token → Option Operator
  | .symbol text =>
      (match level with
        | 4 => [("~", Operator.fits), ("!~", .misfits)]
        | 5 => [("<", .less), ("<=", .atMost), ("==", .equal), ("!=", .unequal),
            (">=", .atLeast), (">", .greater)]
        | 7 => [("+", .add), ("-", .subtract)]
        | 8 => [("*", .multiply), ("/", .divide), ("%", .remainder)]
        | _ => []).lookup text
  | _ => none

/-- The operator that changes a place before it keeps the result. -/
def assignment? : Token → Option (Option Operator)
  | .symbol text =>
      [("=", none), ("+=", some Operator.add), ("-=", some .subtract), ("*=", some .multiply),
        ("/=", some .divide), ("%=", some .remainder), ("^=", some .power)].lookup text
  | _ => none

/-- Whether a token begins a value that stands right behind another one. -/
def beginsValue : Token → Bool
  | .number _ | .text _ | .pattern _ | .name _ | .function _ | .builtin _ => true
  | .symbol text => ["$", "(", "++", "--"].contains text
  | _ => false

/-- How many values a function of the system takes. -/
def operandRange : String → Nat × Nat
  | "length" => (0, 1)
  | "substr" => (2, 3)
  | "index" => (2, 2)
  | "split" => (2, 3)
  | "sub" => (2, 3)
  | "gsub" => (2, 3)
  | "match" => (2, 2)
  | "sprintf" => (1, 255)
  | "atan2" => (2, 2)
  | "rand" => (0, 0)
  | "srand" => (0, 1)
  | "fflush" => (0, 1)
  | _ => (1, 1)

/-- The keys that an expression before the word for containment gives. -/
def keysOf : Expression → List Expression
  | .group items => items
  | item => [item]

mutual

/-- Reads an expression of operators of a level, or a higher one.  Where something is
printed, a sign for a file is no comparison. -/
def readLevel (fuel : Nat) (isPrinted : Bool) (level : Nat) : Parse Expression :=
  match fuel with
  | 0 => refuse
  | fuel + 1 =>
      match level with
      | 0 => do
          let condition ← readLevel fuel isPrinted 1
          if ← acceptSymbol "?" then
            passLines
            let whenTrue ← readLevel fuel isPrinted 0
            passLines
            expect ":"
            passLines
            let whenFalse ← readLevel fuel isPrinted 0
            return .choice condition whenTrue whenFalse
          else return condition
      | 9 => do
          if ← acceptSymbol "!" then return .negated (← readLevel fuel isPrinted 9)
          else if ← acceptSymbol "-" then return .negative (← readLevel fuel isPrinted 9)
          else if ← acceptSymbol "+" then return .positive (← readLevel fuel isPrinted 9)
          else readLevel fuel isPrinted 10
      | 10 => do
          let base ← readLevel fuel isPrinted 11
          if ← acceptSymbol "^" then
            return .combined .power base (← readLevel fuel isPrinted 9)
          else return base
      | 11 => do
          let value ← readValue fuel
          match value with
          | .place target =>
              match assignment? (← next).token with
              | some operator => do
                  pass
                  passLines
                  return .assigned target operator (← readLevel fuel isPrinted 0)
              | none =>
                  if ← acceptSymbol "++" then return .stepped target true false
                  else if ← acceptSymbol "--" then return .stepped target false false
                  else follow fuel isPrinted 11 value
          | _ => follow fuel isPrinted 11 value
      | level => do
          let left ← readLevel fuel isPrinted (level + 1)
          follow fuel isPrinted level left

/-- Reads the operators of a level behind a value. -/
def follow (fuel : Nat) (isPrinted : Bool) (level : Nat) (left : Expression) :
    Parse Expression :=
  match fuel with
  | 0 => refuse
  | fuel + 1 => do
      let token := (← next).token
      match level with
      | 1 =>
          if ← acceptSymbol "||" then
            passLines
            let right ← readLevel fuel isPrinted 2
            follow fuel isPrinted level (.either left right)
          else return left
      | 2 =>
          if ← acceptSymbol "&&" then
            passLines
            let right ← readLevel fuel isPrinted 3
            follow fuel isPrinted level (.both left right)
          else return left
      | 3 =>
          if ← accept (.keyword "in") then
            match (← next).token with
            | .name array => do
                pass
                follow fuel isPrinted level (.contains array (keysOf left))
            | _ => refuse
          else return left
      | 6 =>
          if beginsValue token then
            let right ← readLevel fuel isPrinted 7
            follow fuel isPrinted level (.combined .join left right)
          else return left
      | 11 =>
          let isRead := ((← get)[1]?.map (·.token)) = some (.keyword "getline")
          if token = .symbol "|" && isRead then
            pass
            pass
            let target ← readTarget fuel
            follow fuel isPrinted level (.recordOfCommand left target)
          else return left
      | _ =>
          match operatorAt? level token with
          | none => return left
          | some operator =>
              if isPrinted && operator = .greater then return left
              else if isPrinted && operator = .atLeast then
                throw (.unexpected { ← next with token := .symbol "=" })
              else
                pass
                let right ← readLevel fuel isPrinted (level + 1)
                if level = 5 then return .combined operator left right
                else follow fuel isPrinted level (.combined operator left right)

/-- Reads a place that a record is kept in, if there is one. -/
def readTarget (fuel : Nat) : Parse (Option Place) :=
  match fuel with
  | 0 => refuse
  | fuel + 1 => do
      let isPlace := match (← next).token with
        | .name _ => true
        | .symbol "$" => true
        | _ => false
      if isPlace then
        match ← readValue fuel with
        | .place target => return some target
        | _ => refuse
      else return none

/-- Reads a value without operators behind it. -/
def readValue (fuel : Nat) : Parse Expression :=
  match fuel with
  | 0 => refuse
  | fuel + 1 => do
      let found ← next
      let stepped (isUp : Bool) : Parse Expression := do
        pass
        match ← readValue fuel with
        | .place target => return .stepped target isUp true
        | _ => refuse
      match found.token with
      | .number text => do
          pass
          return .number text
      | .text text => do
          pass
          return .text text
      | .pattern text => do
          pass
          return .pattern text
      | .symbol "(" => do
          pass
          match ← readItems fuel ")" with
          | [] => refuse
          | [item] => return item
          | items => return .group items
      | .symbol "$" => do
          pass
          if ← acceptSymbol "-" then
            return .place (.field (.negative (← readValue fuel)))
          else
            let index ← readValue fuel
            -- The number of fields is counted on before it is used.
            match index with
            | .place (.named "NF") =>
                if ← acceptSymbol "++" then
                  return .place (.field (.stepped (.named "NF") true false))
                else if ← acceptSymbol "--" then
                  return .place (.field (.stepped (.named "NF") false false))
                else return .place (.field index)
            | _ => return .place (.field index)
      | .symbol "++" => stepped true
      | .symbol "--" => stepped false
      | .symbol "-" => do
          pass
          return .negative (← readValue fuel)
      | .symbol "!" => do
          pass
          return .negated (← readValue fuel)
      | .name name => do
          pass
          if ← acceptSymbol "[" then return .place (.element name (← readItems fuel "]"))
          else return .place (.named name)
      | .function name => do
          pass
          expect "("
          return .call name (← readItems fuel ")")
      | .builtin name => do
          pass
          let items ← if ← acceptSymbol "(" then readItems fuel ")" else pure []
          let (least, most) := operandRange name
          if items.length < least || most < items.length then throw (.operands found.line name)
          return .builtin name items
      | .keyword "getline" => do
          pass
          let target ← readTarget fuel
          if ← acceptSymbol "<" then
            let file ← readValue fuel
            return .recordOfFile file target
          else return .record target
      | _ => refuse

/-- Reads values up to a bracket. -/
def readItems (fuel : Nat) (bracket : String) : Parse (List Expression) :=
  match fuel with
  | 0 => refuse
  | fuel + 1 => do
      passLines
      if ← acceptSymbol bracket then return []
      else
        let first ← readLevel fuel false 0
        passLines
        if ← acceptSymbol "," then return first :: (← readItems fuel bracket)
        else
          expect bracket
          return [first]

end

/-- Reads values that are to be printed. -/
def readPrinted (fuel : Nat) : Parse (List Expression) :=
  match fuel with
  | 0 => refuse
  | fuel + 1 => do
      let first ← readLevel fuel true 0
      if ← acceptSymbol "," then
        passLines
        return first :: (← readPrinted fuel)
      else return [first]

/-! ## Statements -/

/-- Passes over the end of a statement. -/
def readEnd : Parse Unit := do
  let found ← next
  match found.token with
  | .symbol ";" | .lineEnd => do
      pass
      passLines
  | .symbol "\x7d" | .stop => return
  | _ => refuse

def endsStatement : Token → Bool
  | .symbol text => [";", "\x7d", ">", ">>", "|"].contains text
  | .lineEnd | .stop => true
  | _ => false

/-- Reads what is printed, and where to. -/
def readOutput (fuel : Nat) : Parse (List Expression × Option Target) := do
  let items ← if endsStatement (← next).token then pure [] else readPrinted fuel
  let flat := match items with
    | [.group inner] => inner
    | _ => items
  if ← acceptSymbol ">" then return (flat, some (.file (← readLevel fuel true 0) false))
  else if ← acceptSymbol ">>" then return (flat, some (.file (← readLevel fuel true 0) true))
  else if ← acceptSymbol "|" then return (flat, some (.command (← readLevel fuel true 0)))
  else return (flat, none)

/-- Reads a statement that other statements may stand beside in a loop's head. -/
def readSimple (fuel : Nat) : Parse Statement := do
  match (← next).token with
  | .keyword "print" => do
      pass
      let (items, target) ← readOutput fuel
      return .print items target
  | .keyword "printf" => do
      pass
      let (items, target) ← readOutput fuel
      if items.isEmpty then refuse
      return .format items target
  | .keyword "delete" => do
      pass
      match (← next).token with
      | .name array => do
          pass
          if ← acceptSymbol "[" then return .erase array (some (← readItems fuel "]"))
          else return .erase array none
      | _ => refuse
  | _ => return .evaluate (← readLevel fuel false 0)

/-- Reads a value that may be left out. -/
def readOptional (fuel : Nat) : Parse (Option Expression) := do
  if endsStatement (← next).token then return none
  else return some (← readLevel fuel false 0)

mutual

/-- Reads a statement with its end. -/
def readStatement (fuel : Nat) : Parse Statement :=
  match fuel with
  | 0 => refuse
  | fuel + 1 => do
      let found ← next
      let ended (statement : Statement) : Parse Statement := do
        readEnd
        return statement
      match found.token with
      | .symbol "\x7b" => do
          pass
          let body ← readStatements fuel
          passLines
          return body
      | .symbol ";" => do
          pass
          passLines
          return .nothing
      | .keyword "if" => do
          pass
          expect "("
          let condition ← readLevel fuel false 0
          expect ")"
          passLines
          let whenTrue ← readStatement fuel
          let kept ← get
          passEnds
          if ← accept (.keyword "else") then
            passLines
            return .choice condition whenTrue (← readStatement fuel)
          else
            set kept
            return .choice condition whenTrue .nothing
      | .keyword "while" => do
          pass
          expect "("
          let condition ← readLevel fuel false 0
          expect ")"
          if ← acceptSymbol ";" then
            passLines
            return .turns condition .nothing
          else
            passLines
            return .turns condition (← readStatement fuel)
      | .keyword "do" => do
          pass
          passLines
          let body ← readStatement fuel
          passEnds
          if !(← accept (.keyword "while")) then refuse
          expect "("
          let condition ← readLevel fuel false 0
          expect ")"
          ended (.turnsAfter body condition)
      | .keyword "for" => do
          pass
          readLoop fuel
      | .keyword "break" => do
          pass
          ended .leaveLoop
      | .keyword "continue" => do
          pass
          ended .nextTurn
      | .keyword "next" => do
          pass
          ended .nextRecord
      | .keyword "nextfile" => do
          pass
          ended .nextFile
      | .keyword "exit" => do
          pass
          ended (.exit (← readOptional fuel))
      | .keyword "return" => do
          pass
          ended (.result (← readOptional fuel))
      | _ => do ended (← readSimple fuel)

/-- Reads a loop behind its keyword. -/
def readLoop (fuel : Nat) : Parse Statement :=
  match fuel with
  | 0 => refuse
  | fuel + 1 => do
      expect "("
      let ahead : List Token := ((← get).take 4).map fun placed => placed.token
      match ahead with
      | [.name name, .keyword "in", .name array, .symbol ")"] => do
          modify (·.drop 4)
          passLines
          return .each name array (← readStatement fuel)
      | _ => do
          let first ← if (← next).token = .symbol ";" then pure .nothing else readSimple fuel
          expect ";"
          passLines
          let condition ← readOptional fuel
          expect ";"
          passLines
          let step ← if (← next).token = .symbol ")" then pure .nothing else readSimple fuel
          expect ")"
          if ← acceptSymbol ";" then
            passLines
            return .loop first condition step .nothing
          else
            passLines
            return .loop first condition step (← readStatement fuel)

/-- Reads statements up to a closing brace. -/
def readStatements (fuel : Nat) : Parse Statement :=
  match fuel with
  | 0 => refuse
  | fuel + 1 => do
      passEnds
      let found ← next
      if ← acceptSymbol "\x7d" then return .nothing
      else if found.token = .stop then throw (.missing "\x7d" found)
      else
        let first ← readStatement fuel
        return .sequence first (← readStatements fuel)

end

/-! ## Programs -/

def readAction (fuel : Nat) : Parse Statement := do
  expect "\x7b"
  readStatements fuel

/-- Reads the names of parameters up to their parenthesis. -/
def readParameters (fuel : Nat) : Parse (List String) :=
  match fuel with
  | 0 => refuse
  | fuel + 1 => do
      passLines
      match (← next).token with
      | .symbol ")" => do
          pass
          return []
      | .name name => do
          pass
          passLines
          if ← acceptSymbol "," then return name :: (← readParameters fuel)
          else
            expect ")"
            return [name]
      | _ => refuse

def readFunction (fuel : Nat) : Parse (String × Function) := do
  let name ← match (← next).token with
    | .name name | .function name => do
        pass
        pure name
    | _ => refuse
  expect "("
  let parameters ← readParameters fuel
  passLines
  let body ← readAction fuel
  return (name, ⟨parameters, body⟩)

/-- Reads a rule that begins with a pattern, or has none. -/
def readRule (fuel : Nat) : Parse Rule := do
  if (← next).token = .symbol "\x7b" then return ⟨.always, ← readAction fuel⟩
  else
    let first ← readLevel fuel false 0
    let scope ← if ← acceptSymbol "," then do
        passLines
        pure (Scope.range first (← readLevel fuel false 0))
      else pure (Scope.when first)
    if (← next).token = .symbol "\x7b" then return ⟨scope, ← readAction fuel⟩
    else
      readEnd
      return ⟨scope, .print [] none⟩

/-- Reads rules and functions up to the stop. -/
def readProgram (fuel : Nat) : Parse Program :=
  match fuel with
  | 0 => refuse
  | fuel + 1 => do
      passEnds
      let found ← next
      let withRule (rule : Rule) : Parse Program := do
        let more ← readProgram fuel
        return { more with rules := rule :: more.rules }
      match found.token with
      | .stop => return {}
      | .symbol "\x7d" => throw (.extra found.line "\x7d")
      | .keyword "BEGIN" => do
          pass
          withRule ⟨.start, ← readAction fuel⟩
      | .keyword "END" => do
          pass
          withRule ⟨.last, ← readAction fuel⟩
      | .keyword "function" => do
          pass
          let function ← readFunction fuel
          let more ← readProgram fuel
          return { more with functions := function :: more.functions }
      | _ => do withRule (← readRule fuel)

/-- The functions that a program calls and does not have. -/
def undefinedFunctions (program : Program) (tokens : List PlacedToken) : List String :=
  tokens.filterMap fun placed =>
    match placed.token with
    | .function name =>
        if program.functions.any (·.1 == name) then none else some name
    | _ => none

/-- How many braces are open behind some tokens. -/
def openBraces (tokens : List PlacedToken) : Int :=
  tokens.foldl (fun count placed =>
    if placed.token = .symbol "\x7b" then count + 1
    else if placed.token = .symbol "\x7d" then count - 1 else count) 0

/-- The program that a text describes, or all that is wrong with it. -/
def Program.read (text : String) : Except (List Fault) Program := do
  let tokens ← (tokensOf text).mapError fun fault => [fault]
  let last := tokens.getLast?.getD ⟨.stop, 1⟩
  match (readProgram (16 * tokens.length + 64)).run tokens with
  | .error fault =>
      let isAtEnd := match fault with
        | .unexpected near => near.token = .lineEnd && near.line + 1 = last.line
        | _ => false
      if isAtEnd && 0 < openBraces tokens then throw [fault, .missing "\x7d" last]
      else throw [fault]
  | .ok (program, _) =>
      match undefinedFunctions program tokens with
      | [] => return program
      | names => throw (names.map (.undefined last.line ·))

end DocSamples.Script.Record
