import DocSamples.Script.Format
import DocSamples.Script.Pattern
import DocSamples.Script.Record

namespace DocSamples.Script.Record

/-! # Tokens of record programs

Whether a slash divides or begins a pattern depends on what stands before it.
-/

inductive Token where
  | number (text : String)
  | text (text : String)
  | pattern (text : String)
  | name (name : String)
  /-- A name with its parenthesis right behind it. -/
  | function (name : String)
  | builtin (name : String)
  | keyword (word : String)
  | symbol (text : String)
  | lineEnd
  | stop
deriving DecidableEq, Repr

/-- How a token is shown. -/
def Token.shown : Token → String
  | .number shown | .name shown | .function shown | .builtin shown | .keyword shown
  | .symbol shown => shown
  | .text inner => "\x22" ++ inner ++ "\x22"
  | .pattern inner => "/" ++ inner ++ "/"
  | .lineEnd => "end of line"
  | .stop => "end of file"

structure PlacedToken where
  token : Token
  line : Nat
deriving DecidableEq, Repr

inductive Fault where
  | unexpected (token : PlacedToken)
  | character (line : Nat) (c : Char)
  | runaway (line : Nat) (kind text : String)
  | missing (bracket : String) (near : PlacedToken)
  | extra (line : Nat) (bracket : String)
  | undefined (line : Nat) (name : String)
  | operands (line : Nat) (name : String)
deriving DecidableEq, Repr

def Fault.message (fault : Fault) : String :=
  let placed (line : Nat) (text : String) : String := "line " ++ toString line ++ ": " ++ text
  match fault with
  | .unexpected near => placed near.line ("syntax error at or near " ++ near.token.shown)
  | .character line c =>
      toString line ++ ": unexpected character \x27" ++ String.singleton c ++ "\x27"
  | .runaway line kind text => placed line ("runaway " ++ kind ++ " " ++ text ++ " ...")
  | .missing bracket near =>
      placed near.line ("missing " ++ bracket ++ " near " ++ near.token.shown)
  | .extra line bracket => placed line ("extra \x27" ++ bracket ++ "\x27")
  | .undefined line name => placed line ("function " ++ name ++ " never defined")
  | .operands line name => placed line ("wrong number of arguments in call to " ++ name)

def recordKeywords : List String :=
  ["BEGIN", "END", "if", "else", "while", "for", "do", "break", "continue", "next", "nextfile",
    "exit", "return", "delete", "in", "getline", "print", "printf", "function"]

def builtinNames : List String :=
  ["length", "substr", "index", "split", "sub", "gsub", "match", "sprintf", "sin", "cos", "atan2",
    "exp", "log", "sqrt", "int", "rand", "srand", "tolower", "toupper", "system", "close", "fflush"]

def symbols : List String :=
  ["||", "&&", "==", "<=", ">=", "!=", "++", "--", "+=", "-=", "*=", "/=", "%=", "^=", "!~", ">>",
    "\x7b", "\x7d", "(", ")", "[", "]", ";", ",", "+", "-", "*", "/", "%", "^", "!", "<", ">", "|",
    "?", ":", "~", "$", "="]

/-- The value of a hexadecimal digit. -/
def hexValue? (c : Char) : Option Nat :=
  if c.isDigit then some (c.toNat - '0'.toNat)
  else if decide ('a' ≤ c.toLower) && decide (c.toLower ≤ 'f') then
    some (c.toLower.toNat - 'a'.toNat + 10)
  else none

/-- The character that letters or digits behind a backslash stand for, and what follows
them. -/
def escaped? (chars : List Char) : Option (Char × List Char) :=
  let octal := (chars.takeWhile isOctal).take 3
  if !octal.isEmpty then some (Char.ofNat (octalValue octal % 256), chars.drop octal.length)
  else
    match chars with
    | [] => none
    | c :: rest =>
        let hex := (rest.take 2).takeWhile fun digit => (hexValue? digit).isSome
        if c = 'x' && !hex.isEmpty then
          some (Char.ofNat ((hex.filterMap hexValue?).foldl
            (fun value digit => value * 16 + digit) 0), rest.drop hex.length)
        else if c = 'b' then some ('\x08', rest)
        else (Pattern.control? c).map fun control => (control, rest)

/-- The text up to a quote, in which a backslash gives characters their meaning, and
what follows the quote. -/
def quotedPart (fuel : Nat) (chars : List Char) : Option (List Char × List Char) :=
  match fuel, chars with
  | 0, _ => none
  | _, [] => none
  | _, '\n' :: _ => none
  | _, '\x22' :: rest => some ([], rest)
  | fuel + 1, '\x5c' :: '\n' :: rest => quotedPart fuel rest
  | fuel + 1, '\x5c' :: c :: rest =>
      let (piece, after) : List Char × List Char :=
        match escaped? (c :: rest) with
        | some (control, after) => ([control], after)
        | none => if c = '\x22' || c = '\x5c' then ([c], rest) else (['\x5c', c], rest)
      (quotedPart fuel after).map fun (text, left) => (piece ++ text, left)
  | fuel + 1, c :: rest => (quotedPart fuel rest).map fun (text, left) => (c :: text, left)

/-- The text up to a slash, and what follows it.  A slash after a backslash stands for
itself, and one between brackets too. -/
def patternPart (inBrackets : Bool) : List Char → Option (List Char × List Char)
  | [] => none
  | '\n' :: _ => none
  | '\x5c' :: '/' :: rest =>
      (patternPart inBrackets rest).map fun (text, left) => ('/' :: text, left)
  | '\x5c' :: c :: rest =>
      (patternPart inBrackets rest).map fun (text, left) => ('\x5c' :: c :: text, left)
  | c :: rest =>
      if c = '/' && !inBrackets then some ([], rest)
      else
        let inside := if inBrackets then c != ']' else c = '['
        (patternPart inside rest).map fun (text, left) => (c :: text, left)

/-- The number at the start of a text, and what follows it. -/
def numberPart (chars : List Char) : List Char × List Char :=
  let whole := chars.takeWhile Char.isDigit
  let rest := chars.dropWhile Char.isDigit
  let (fraction, rest) := match rest with
    | '.' :: more => ('.' :: more.takeWhile Char.isDigit, more.dropWhile Char.isDigit)
    | _ => ([], rest)
  let (power, rest) := match rest with
    | c :: more =>
        let (sign, digits) := match more with
          | '+' :: digits => (['+'], digits)
          | '-' :: digits => (['-'], digits)
          | _ => ([], more)
        if (c = 'e' || c = 'E') && digits.head?.any Char.isDigit then
          (c :: sign ++ digits.takeWhile Char.isDigit, digits.dropWhile Char.isDigit)
        else ([], rest)
    | [] => ([], [])
  (whole ++ fraction ++ power, rest)

/-- Whether a slash behind a token divides. -/
def Token.endsValue : Token → Bool
  | .number _ | .text _ | .pattern _ | .name _ | .builtin _ => true
  | .symbol shown => [")", "]", "++", "--", "$"].contains shown
  | _ => false

def isNameStart (c : Char) : Bool :=
  c.isAlpha || c = '_'

def isNamePart (c : Char) : Bool :=
  c.isAlphanum || c = '_'

/-- The tokens of a program.  `fuel` bounds its characters. -/
def readTokens (fuel line : Nat) (isAfterValue : Bool) (chars : List Char) :
    Except Fault (List PlacedToken) :=
  match fuel, chars with
  | 0, _ => .ok [⟨.stop, line⟩]
  | _, [] => .ok [⟨.stop, line⟩]
  | fuel + 1, c :: rest =>
      let add (token : Token) (rest : List Char) (lines : Nat) :
          Except Fault (List PlacedToken) := do
        let more ← readTokens fuel (line + lines) token.endsValue rest
        return ⟨token, line⟩ :: more
      if c = ' ' || c = '\t' || c = '\r' then readTokens fuel line isAfterValue rest
      else if c = '\n' then add .lineEnd rest 1
      else if c = '#' then readTokens fuel line isAfterValue (rest.dropWhile (· != '\n'))
      else if c = '\x5c' && rest.head? = some '\n' then
        readTokens fuel (line + 1) isAfterValue rest.tail
      else if c = '\x22' then
        match quotedPart (rest.length + 2) rest with
        | some (text, after) => add (.text (String.ofList text)) after 0
        | none => .error (.runaway line "string constant"
            (String.ofList (c :: rest.takeWhile (· != '\n'))))
      else if c = '/' && !isAfterValue then
        match patternPart false rest with
        | some (text, after) => add (.pattern (String.ofList text)) after 0
        | none => .error (.runaway line "regular expression"
            (String.ofList (c :: rest.takeWhile (· != '\n'))))
      else if c.isDigit || (c = '.' && rest.head?.any Char.isDigit) then
        let (text, after) := numberPart chars
        add (.number (String.ofList text)) after 0
      else if isNameStart c then
        let name := String.ofList (chars.takeWhile isNamePart)
        let after := chars.dropWhile isNamePart
        if recordKeywords.contains name then add (.keyword name) after 0
        else if builtinNames.contains name then add (.builtin name) after 0
        else if after.head? = some '(' then add (.function name) after 0
        else add (.name name) after 0
      else
        match symbols.find? fun symbol => chars.take symbol.length = symbol.toList with
        | some symbol => add (.symbol symbol) (chars.drop symbol.length) 0
        | none => .error (.character line c)

/-- The tokens of a program, whose last line has an end. -/
def tokensOf (text : String) : Except Fault (List PlacedToken) :=
  let chars := text.toList ++ ['\n']
  readTokens (chars.length + 1) 1 false chars

end DocSamples.Script.Record
