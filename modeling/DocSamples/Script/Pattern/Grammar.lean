import DocSamples.Script.Pattern

namespace DocSamples.Script.Pattern

/-! # How patterns are written

Signs have their meaning bare or behind a backslash, which depends on the way of
writing.
-/

/-- A way of writing patterns. -/
structure Dialect where
  /-- The signs for groups, choices and repetitions are bare. -/
  isExtended : Bool
  /-- Signs without their other half are characters, and a repetition of nothing is told
  of and left out. -/
  isLenient : Bool := false
  /-- Letters behind a backslash may stand for control characters. -/
  hasControls : Bool := false
  /-- There is a letter for digits, and groups need not be counted. -/
  isRich : Bool := false
  /-- A range has to begin before it ends. -/
  checksRanges : Bool := true

/-! ## Classes -/

/-- The fault of a class that has no end. -/
def openClass : String := "Unmatched [, [^, [:, [., or [="

/-- The part of a class that a bracket inside of it begins: a class with a name, or one
character. -/
def readInner (chars : List Char) : Except String (Option (List (Char × Char) × List Char)) :=
  match chars with
  | ':' :: rest =>
      let name := rest.takeWhile Char.isAlpha
      match rest.drop name.length with
      | ':' :: ']' :: after =>
          match namedRanges? (String.ofList name) with
          | some ranges => .ok (some (ranges, after))
          | none => .error "Invalid character class name"
      | _ => .ok none
  | '.' :: c :: '.' :: ']' :: after | '=' :: c :: '=' :: ']' :: after =>
      .ok (some ([(c, c)], after))
  | _ => .ok none

/-- Reads the ranges of a class up to its bracket.  A bracket at the very beginning
does not close it.  `fuel` bounds the characters. -/
def readRanges (dialect : Dialect) (fuel : Nat) (isFirst : Bool) (chars : List Char) :
    Except String (List (Char × Char) × List Char) :=
  match fuel, chars with
  | 0, _ => .error openClass
  | _, [] => .error (if isFirst then "Invalid regular expression" else openClass)
  | fuel + 1, c :: rest => do
      if c = ']' && !isFirst then return ([], rest)
      let goOn (ranges : List (Char × Char)) (rest : List Char) := do
        let (more, after) ← readRanges dialect fuel false rest
        return (ranges ++ more, after)
      let inner ← if c = '[' then readInner rest else pure none
      let escaped? := match rest with
        | d :: _ => if c = '\x5c' && dialect.hasControls then control? d else none
        | [] => none
      let low := escaped?.getD c
      let rest := if escaped?.isSome then rest.tail else rest
      match inner, rest with
      | some (ranges, after), _ => goOn ranges after
      | none, '-' :: high :: after =>
          if high = ']' then goOn [(low, low)] rest
          else if high < low && dialect.checksRanges then throw "Invalid range end"
          else goOn [(low, high)] after
      | none, _ => goOn [(low, low)] rest

/-- Whether some characters are a class with a name that lacks its outer brackets. -/
def isBareName (chars : List Char) : Bool :=
  let inside := chars.takeWhile (· != ']')
  decide (3 ≤ inside.length) && inside.head? = some ':' && inside.getLast? = some ':'

/-- Reads a class behind its opening bracket. -/
def readClass (dialect : Dialect) (chars : List Char) : Except String (CharClass × List Char) := do
  let negated := chars.head? = some '^'
  let body := if negated then chars.tail else chars
  if dialect.isLenient && isBareName chars then
    throw "character class syntax is [[:space:]], not [:space:]"
  let (ranges, after) ← readRanges dialect (2 * body.length + 2) true body
  return (⟨negated, ranges⟩, after)

/-! ## Signs -/

/-- A sign that a pattern is written with.  Whether it needs a backslash in front
depends on the way of writing. -/
inductive Sign where
  /-- The group is counted or not. -/
  | opening (isCounted : Bool)
  | closing
  | either
  | star
  | plus
  | optional
  | bound
  | char (c : Char)
  | class (charClass : CharClass)
  | again (number : Nat)
  | place (pattern : Pattern)
  | start
  | last
deriving DecidableEq, Repr

/-- How a sign of repetition is written, if it is one. -/
def Sign.turnText? : Sign → Option String
  | .star => some "*"
  | .plus => some "+"
  | .optional => some "?"
  | .bound => some "\x7b...\x7d"
  | _ => none

def bareSigns : List (Char × Sign) :=
  [('(', .opening true), (')', .closing), ('|', .either), ('+', .plus), ('?', .optional),
    ('\x7b', .bound)]

/-- The meaning of a letter behind a backslash. -/
def escapedSign (dialect : Dialect) (c : Char) : Sign :=
  let places : List (Char × Sign) :=
    [('w', .class ⟨false, wordRanges⟩), ('W', .class ⟨true, wordRanges⟩),
      ('s', .class ⟨false, [('\t', '\r'), (' ', ' ')]⟩),
      ('S', .class ⟨true, [('\t', '\r'), (' ', ' ')]⟩),
      ('<', .place .wordStart), ('>', .place .wordEnd), ('B', .place .insideWord),
      ('b', .place (.choice .wordStart .wordEnd)), ('\x60', .place .lineStart),
      ('\x27', .place .lineEnd)]
  let digits : List (Char × Sign) :=
    [('d', .class ⟨false, [('0', '9')]⟩), ('D', .class ⟨true, [('0', '9')]⟩)]
  match places.lookup c, if dialect.isRich then digits.lookup c else none with
  | some sign, _ | none, some sign => sign
  | none, none =>
      if c.isDigit && c != '0' then .again (c.toNat - '0'.toNat)
      else .char (if dialect.hasControls || dialect.isRich then (control? c).getD c else c)

/-- Reads the sign at the beginning of a text. -/
def readSign (dialect : Dialect) : List Char → Except String (Sign × List Char)
  | [] => .error "Trailing backslash"
  | ['\x5c'] => .error "Trailing backslash"
  | '\x5c' :: c :: rest =>
      match dialect.isExtended, bareSigns.lookup c with
      | false, some sign => .ok (sign, rest)
      | true, some _ => .ok (.char c, rest)
      | _, none => .ok (escapedSign dialect c, rest)
  | '[' :: rest => (readClass dialect rest).map fun (charClass, after) => (.class charClass, after)
  | '*' :: rest => .ok (.star, rest)
  | '.' :: rest => .ok (.class anyChar, rest)
  | '^' :: rest => .ok (.start, rest)
  | '$' :: rest => .ok (.last, rest)
  | '(' :: '?' :: ':' :: rest =>
      .ok (if dialect.isRich then (.opening false, rest)
        else if dialect.isExtended then (.opening true, '?' :: ':' :: rest)
        else (.char '(', '?' :: ':' :: rest))
  | c :: rest =>
      match dialect.isExtended, bareSigns.lookup c with
      | true, some sign => .ok (sign, rest)
      | _, _ => .ok (.char c, rest)

/-- The limits of a repetition. -/
structure Bound where
  least : Nat
  most : Option Nat

/-- How often something may be repeated. -/
def mostTurns : Nat := 32767

/-- Reads the limits of a repetition behind their opening brace.  None are read of what
a lenient reader takes for characters. -/
def readBound (dialect : Dialect) (chars : List Char) :
    Except String (Option (Bound × List Char)) :=
  let number (digits : List Char) : Nat := (String.ofList digits).toNat?.getD 0
  let first := chars.takeWhile Char.isDigit
  let rest := chars.dropWhile Char.isDigit
  let (bound, rest) : Bound × List Char := match rest with
    | ',' :: more =>
        let second := more.takeWhile Char.isDigit
        (⟨number first, if second.isEmpty then none else some (number second)⟩,
          more.dropWhile Char.isDigit)
    | _ => (⟨number first, some (number first)⟩, rest)
  let after? := match dialect.isExtended, rest with
    | true, '\x7d' :: after => some after
    | false, '\x5c' :: '\x7d' :: after => some after
    | _, _ => none
  match after? with
  | none =>
      if dialect.isLenient && dialect.isExtended then .ok none
      else .error (if rest.isEmpty then "Unmatched \\\x7b" else "Invalid content of \\\x7b\\\x7d")
  | some after =>
      if bound.most.any (· < bound.least) then .error "Invalid content of \\\x7b\\\x7d"
      else if mostTurns < (bound.most.getD bound.least) then .error "Regular expression too big"
      else .ok (some (bound, after))

/-! ## Patterns -/

/-- A pattern in the course of its reading: what is left, and how many groups have
been opened. -/
structure Reader where
  pattern : Pattern
  rest : List Char
  groups : Nat

/-- Applies the signs of repetition behind a pattern.  `fuel` bounds them. -/
def readTurns (dialect : Dialect) (fuel : Nat) (pattern : Pattern) (chars : List Char) :
    Except String (Pattern × List Char) :=
  match fuel, chars with
  | 0, _ => .ok (pattern, chars)
  | _, [] => .ok (pattern, [])
  | fuel + 1, _ =>
      match readSign dialect chars with
      | .ok (.star, rest) => readTurns dialect fuel (.repeated pattern 0 none) rest
      | .ok (.plus, rest) => readTurns dialect fuel (.repeated pattern 1 none) rest
      | .ok (.optional, rest) => readTurns dialect fuel (.repeated pattern 0 (some 1)) rest
      | .ok (.bound, rest) => do
          match ← readBound dialect rest with
          | some (bound, rest) =>
              readTurns dialect fuel (.repeated pattern bound.least bound.most) rest
          | none => return (pattern, chars)
      | _ => .ok (pattern, chars)

/-- Whether a sequence ends where some characters are left. -/
def endsSequence (dialect : Dialect) (chars : List Char) : Bool :=
  match chars with
  | [] => true
  | _ =>
      match readSign dialect chars with
      | .ok (.closing, _) => true
      | .ok (.either, _) => true
      | _ => false

mutual

/-- Reads sequences of which one is to fit. -/
def readChoice (fuel : Nat) (dialect : Dialect) (groups depth : Nat) (chars : List Char) :
    Except String Reader :=
  match fuel with
  | 0 => .error "Regular expression too big"
  | fuel + 1 => do
      let first ← readSequence fuel dialect groups depth true chars
      match first.rest with
      | [] => return first
      | _ =>
          match ← readSign dialect first.rest with
          | (.either, rest) =>
              let second ← readChoice fuel dialect first.groups depth rest
              return { second with pattern := .choice first.pattern second.pattern }
          | _ => return first

/-- Reads what is to fit one after the other.  At its start there is nothing to
repeat. -/
def readSequence (fuel : Nat) (dialect : Dialect) (groups depth : Nat) (isStart : Bool)
    (chars : List Char) : Except String Reader :=
  match fuel, chars with
  | 0, _ => .error "Regular expression too big"
  | _, [] => .ok ⟨.nothing, [], groups⟩
  | fuel + 1, _ :: _ => do
      let (sign, rest) ← readSign dialect chars
      let follow (reader : Reader) : Except String Reader := do
        let (pattern, rest) ←
          readTurns dialect (reader.rest.length + 1) reader.pattern reader.rest
        let more ← readSequence fuel dialect reader.groups depth false rest
        return { more with pattern := .sequence pattern more.pattern }
      let place (pattern : Pattern) : Except String Reader := do
        let more ← readSequence fuel dialect groups depth true rest
        return { more with pattern := .sequence pattern more.pattern }
      match sign with
      | .closing =>
          if depth != 0 then return ⟨.nothing, chars, groups⟩
          else if dialect.isLenient && dialect.isExtended then follow ⟨ofChar ')', rest, groups⟩
          else throw "Unmatched ) or \\)"
      | .either => return ⟨.nothing, chars, groups⟩
      | .opening isCounted =>
          let number := if isCounted then groups + 1 else groups
          let inner ← readChoice fuel dialect number (depth + 1) rest
          match inner.rest with
          | [] => throw "Unmatched ( or \\("
          | _ =>
              let (_, after) ← readSign dialect inner.rest
              follow ⟨if isCounted then .group number inner.pattern else inner.pattern, after,
                inner.groups⟩
      | .star | .plus | .optional =>
          let literal := if sign = .plus then '+' else if sign = .optional then '?' else '*'
          if !dialect.isExtended then follow ⟨ofChar literal, rest, groups⟩
          else if dialect.isLenient && isStart then
            readSequence fuel dialect groups depth true rest
          else if isStart then throw "Invalid preceding regular expression"
          else follow ⟨ofChar literal, rest, groups⟩
      | .bound =>
          match ← readBound dialect rest with
          | none => follow ⟨ofChar '\x7b', rest, groups⟩
          | some (_, after) =>
              if dialect.isLenient && isStart && dialect.isExtended then
                readSequence fuel dialect groups depth true after
              else throw "Invalid preceding regular expression"
      | .char c => follow ⟨ofChar c, rest, groups⟩
      | .class charClass => follow ⟨.char charClass, rest, groups⟩
      | .again number =>
          if groups < number then throw "Invalid back reference"
          else follow ⟨.again number, rest, groups⟩
      | .place pattern => follow ⟨pattern, rest, groups⟩
      | .start =>
          if dialect.isExtended || isStart then place .lineStart
          else follow ⟨ofChar '^', rest, groups⟩
      | .last =>
          if dialect.isExtended || endsSequence dialect rest then
            follow ⟨.lineEnd, rest, groups⟩
          else follow ⟨ofChar '$', rest, groups⟩

end

/-- A pattern and how many groups it has. -/
structure Compiled where
  pattern : Pattern
  groups : Nat

/-- The pattern that a text describes. -/
def read (dialect : Dialect) (text : List Char) : Except String Compiled := do
  let reader ← readChoice (4 * text.length + 4) dialect 0 0 text
  return ⟨reader.pattern, reader.groups⟩

/-- The signs of repetition that stand where there is nothing to repeat.  `fuel` bounds
the signs. -/
def idleTurns (dialect : Dialect) (fuel : Nat) (isStart : Bool) (chars : List Char) :
    List String :=
  match fuel, chars with
  | 0, _ | _, [] => []
  | fuel + 1, _ =>
      match readSign dialect chars with
      | .error _ => []
      | .ok (.opening _, rest) | .ok (.either, rest) | .ok (.start, rest) =>
          idleTurns dialect fuel true rest
      | .ok (sign, rest) =>
          let isTurn := match sign with
            | .bound => ((readBound dialect rest).toOption.bind id).isSome
            | _ => sign.turnText?.isSome
          if isStart && isTurn then
            sign.turnText?.toList ++ idleTurns dialect fuel true rest
          else idleTurns dialect fuel false rest

end DocSamples.Script.Pattern
