import DocSamples.Script.Token

namespace DocSamples.Script

/-! # Sums

Expressions over integers of 64 bits, with the usual precedence of their operators.
What is true is one, what is false is zero.  An expression may give values to
variables.
-/

inductive SumToken where
  | number (value : Int)
  | name (name : String)
  | sign (text : String)
deriving DecidableEq, Repr

namespace Sum

def limit : Int := Nat.pow 2 63

/-- A number in the range of 64 bits, around which counting goes on at the other end. -/
def wrap (value : Int) : Int :=
  (value + limit) % (2 * limit) - limit

/-- A number, or the nearest one in the range. -/
def clamp (value : Int) : Int :=
  if limit ≤ value then limit - 1 else if value < -limit then -limit else value

def digitValue (c : Char) : Nat :=
  if c.isDigit then c.toNat - '0'.toNat else c.toLower.toNat - 'a'.toNat + 10

def isHexDigit (c : Char) : Bool :=
  c.isDigit || (decide ('a' ≤ c.toLower) && decide (c.toLower ≤ 'f'))

/-- The number at the beginning of a text, whose base is told by zeros in front. -/
def leadingNumber (chars : List Char) : Nat × List Char :=
  let read (base : Nat) (isDigit : Char → Bool) (chars : List Char) : Nat × List Char :=
    ((chars.takeWhile isDigit).foldl (fun value c => value * base + digitValue c) 0,
      chars.dropWhile isDigit)
  match chars with
  | '0' :: mark :: c :: rest =>
      if mark.toLower = 'x' && isHexDigit c then read 16 isHexDigit (c :: rest)
      else read 8 (fun c => decide ('0' ≤ c) && decide (c ≤ '7')) chars
  | '0' :: _ => read 8 (fun c => decide ('0' ≤ c) && decide (c ≤ '7')) chars
  | _ => read 10 Char.isDigit chars

/-- The integer that a whole text stands for; a text of nothing stands for none. -/
def integerOf? (text : String) : Option Int :=
  let chars := (text.toList.dropWhile isSpace).reverse.dropWhile isSpace |>.reverse
  let (isNegative, digits) := match chars with
    | '-' :: rest => (true, rest)
    | '+' :: rest => (false, rest)
    | _ => (false, chars)
  if digits.head?.any Char.isDigit then
    match leadingNumber digits with
    | (number, []) => some (clamp (if isNegative then -number else number))
    | _ => none
  else none

/-! ## Decimal numbers -/

/-- The number that a text of digits stands for. -/
def digits? (text : String) : Option Nat :=
  let chars := text.toList
  if chars.isEmpty || !chars.all Char.isDigit then none
  else some (chars.foldl (fun value c => value * 10 + digitValue c) 0)

/-- The integer that a word stands for, which may have blanks around it. -/
def decimal? (text : String) : Option Int := do
  let isBlank (c : Char) : Bool := c = ' ' || decide ('\t' ≤ c ∧ c ≤ '\r')
  let chars := ((text.toList.dropWhile isBlank).reverse.dropWhile isBlank).reverse
  let value : Int ← match chars with
    | '-' :: rest => (digits? (String.ofList rest)).map fun number => -(number : Int)
    | '+' :: rest => (digits? (String.ofList rest)).map fun number => (number : Int)
    | _ => (digits? (String.ofList chars)).map fun number => (number : Int)
  if clamp value = value then some value else none

/-- The number of things that a word stands for. -/
def count? (text : String) : Option Nat := do
  let value ← decimal? text
  if 0 ≤ value ∧ value < Nat.pow 2 31 then some value.toNat else none

/-! ## Tokens -/

def signs : List String :=
  ["<<=", ">>=", "||", "&&", "==", "!=", "<=", ">=", "<<", ">>", "+=", "-=", "*=", "/=", "%=",
    "&=", "^=", "|=", "=", "<", ">", "+", "-", "*", "/", "%", "(", ")", "!", "~", "&", "^", "|",
    "?", ":"]

/-- The tokens of an expression; one that cannot be read is a sign of no meaning.
`fuel` bounds its characters. -/
def tokensOf (fuel : Nat) (chars : List Char) : List SumToken :=
  match fuel, chars with
  | 0, _ => []
  | _, [] => []
  | fuel + 1, c :: rest =>
      if c = ' ' || c = '\t' || c = '\n' then tokensOf fuel rest
      else if c.isDigit then
        let (value, more) := leadingNumber chars
        .number (clamp value) :: tokensOf fuel more
      else if isNameStart c then
        .name (String.ofList (chars.takeWhile isNameChar)) ::
          tokensOf fuel (chars.dropWhile isNameChar)
      else
        match signs.find? fun text => text.toList.isPrefixOf chars with
        | some text => .sign text :: tokensOf fuel (chars.drop text.length)
        | none => .sign (String.singleton c) :: tokensOf fuel rest

/-- How strongly an operator binds. -/
def strength? (sign : String) : Option Nat :=
  [("||", 1), ("&&", 2), ("|", 3), ("^", 4), ("&", 5), ("==", 6), ("!=", 6), ("<=", 7), (">=", 7),
    ("<", 7), (">", 7), ("<<", 8), (">>", 8), ("+", 9), ("-", 9), ("*", 10), ("/", 10),
    ("%", 10)].lookup sign

def ofTruth (truth : Bool) : Int :=
  if truth then 1 else 0

inductive Fault where
  | expecting (what : String)
  | divisionByZero
  /-- The value of a variable is no number. -/
  | noNumber (text : String)
deriving DecidableEq, Repr

/-- What is told of a fault in an expression. -/
def Fault.message (expression : String) : Fault → String
  | .expecting what =>
      "arithmetic expression: expecting " ++ what ++ ": \x22" ++ expression ++ "\x22"
  | .divisionByZero => "arithmetic expression: division by zero: \x22" ++ expression ++ "\x22"
  | .noNumber text => "Illegal number: " ++ text

/-- Works on the bits of two numbers. -/
def onBits (work : Nat → Nat → Nat) (first second : Int) : Int :=
  let bits (value : Int) : Nat := (value % (2 * limit)).toNat
  wrap (work (bits first) (bits second))

/-- Division goes toward zero, and by zero not at all. -/
def result (sign : String) (first second : Int) : Except Fault Int :=
  match sign with
  | "||" => .ok (ofTruth (first != 0 || second != 0))
  | "&&" => .ok (ofTruth (first != 0 && second != 0))
  | "|" => .ok (onBits Nat.lor first second)
  | "^" => .ok (onBits Nat.xor first second)
  | "&" => .ok (onBits Nat.land first second)
  | "==" => .ok (ofTruth (first == second))
  | "!=" => .ok (ofTruth (first != second))
  | "<=" => .ok (ofTruth (decide (first ≤ second)))
  | ">=" => .ok (ofTruth (decide (second ≤ first)))
  | "<" => .ok (ofTruth (decide (first < second)))
  | ">" => .ok (ofTruth (decide (second < first)))
  | "<<" => .ok (wrap (first * Nat.pow 2 (second % 64).toNat))
  | ">>" => .ok (first.fdiv (Nat.pow 2 (second % 64).toNat))
  | "+" => .ok (wrap (first + second))
  | "-" => .ok (wrap (first - second))
  | "*" => .ok (wrap (first * second))
  | "/" => if second = 0 then .error .divisionByZero else .ok (wrap (first.tdiv second))
  | "%" => if second = 0 then .error .divisionByZero else .ok (first.tmod second)
  | _ => .error (.expecting "EOF")

/-- The variables that have been given values, latest first. -/
abbrev Memory := List (String × Int)

/-- An expression in the course of its evaluation. -/
structure State where
  value : Int
  memory : Memory
  rest : List SumToken

/-- The value of a variable, which may have been given in the expression itself. -/
def lookUp (given : String → String) (memory : Memory) (name : String) : Except Fault Int :=
  match memory.lookup name with
  | some value => .ok value
  | none =>
      let text := given name
      if text = "" then .ok 0
      else
        match integerOf? text with
        | some value => .ok value
        | none => .error (.noNumber text)

/-- The operator of a sign that assigns; the plain one has none. -/
def assigning? (sign : String) : Option (Option String) :=
  [("=", none), ("+=", some "+"), ("-=", some "-"), ("*=", some "*"), ("/=", some "/"),
    ("%=", some "%"), ("<<=", some "<<"), (">>=", some ">>"), ("&=", some "&"), ("^=", some "^"),
    ("|=", some "|")].lookup sign

mutual

/-- Reads an expression.  What is not live has no effect and cannot fail to divide. -/
def whole (fuel : Nat) (given : String → String) (live : Bool) (memory : Memory)
    (tokens : List SumToken) : Except Fault State :=
  match fuel with
  | 0 => .error (.expecting "primary")
  | fuel + 1 =>
      match tokens with
      | .name name :: .sign sign :: rest =>
          match assigning? sign with
          | none => choice fuel given live memory tokens
          | some operator => do
              let after ← whole fuel given live memory rest
              if !live then return after
              else
                let value ← match operator with
                  | none => pure after.value
                  | some operator => do
                      result operator (← lookUp given after.memory name) after.value
                return { after with value, memory := (name, value) :: after.memory }
      | _ => choice fuel given live memory tokens

/-- Reads a condition with what is chosen by it. -/
def choice (fuel : Nat) (given : String → String) (live : Bool) (memory : Memory)
    (tokens : List SumToken) : Except Fault State :=
  match fuel with
  | 0 => .error (.expecting "primary")
  | fuel + 1 => do
      let condition ← climb fuel 1 given live memory tokens
      match condition.rest with
      | .sign "?" :: rest =>
          let isTrue := condition.value != 0
          let first ← whole fuel given (live && isTrue) condition.memory rest
          match first.rest with
          | .sign ":" :: rest =>
              let second ← choice fuel given (live && !isTrue) first.memory rest
              return { second with value := if isTrue then first.value else second.value }
          | _ => throw (.expecting "':'")
      | _ => return condition

/-- Reads what binds at least as strongly as `least`. -/
def climb (fuel least : Nat) (given : String → String) (live : Bool) (memory : Memory)
    (tokens : List SumToken) : Except Fault State :=
  match fuel with
  | 0 => .error (.expecting "primary")
  | fuel + 1 => do
      extend fuel least given live (← operand fuel given live memory tokens)

/-- Applies the operators behind a first operand. -/
def extend (fuel least : Nat) (given : String → String) (live : Bool) (first : State) :
    Except Fault State :=
  match fuel with
  | 0 => .error (.expecting "primary")
  | fuel + 1 =>
      match first.rest with
      | .sign sign :: rest =>
          match strength? sign with
          | none => .ok first
          | some strength =>
              if strength < least then .ok first
              else do
                let decided :=
                  (sign = "||" && first.value != 0) || (sign = "&&" && first.value = 0)
                let second ←
                  climb fuel (strength + 1) given (live && !decided) first.memory rest
                let value ← if live then result sign first.value second.value else pure 0
                extend fuel least given live { second with value }
      | _ => .ok first

def operand (fuel : Nat) (given : String → String) (live : Bool) (memory : Memory)
    (tokens : List SumToken) : Except Fault State :=
  match fuel with
  | 0 => .error (.expecting "primary")
  | fuel + 1 =>
      match tokens with
      | .number value :: rest => .ok { value, memory, rest }
      | .name name :: rest => do
          let value ← if live then lookUp given memory name else pure 0
          return { value, memory, rest }
      | .sign "-" :: rest => do
          let inner ← operand fuel given live memory rest
          return { inner with value := wrap (-inner.value) }
      | .sign "+" :: rest => operand fuel given live memory rest
      | .sign "!" :: rest => do
          let inner ← operand fuel given live memory rest
          return { inner with value := ofTruth (inner.value == 0) }
      | .sign "~" :: rest => do
          let inner ← operand fuel given live memory rest
          return { inner with value := -inner.value - 1 }
      | .sign "(" :: rest => do
          let inner ← whole fuel given live memory rest
          match inner.rest with
          | .sign ")" :: rest => return { inner with rest }
          | _ => throw (.expecting "')'")
      | _ => .error (.expecting "primary")

end

/-- The value of an expression, in which names have values, and the values that it
gives to names, latest first. -/
def evaluate (given : String → String) (expression : List Char) :
    Except Fault (Int × Memory) := do
  let tokens := tokensOf (expression.length + 1) expression
  let last ← whole (8 * tokens.length + 8) given true [] tokens
  if last.rest.isEmpty then return (last.value, last.memory) else throw (.expecting "EOF")

end Sum

end DocSamples.Script
