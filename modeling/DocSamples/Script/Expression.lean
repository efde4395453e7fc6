import DocSamples.Script.Input
import DocSamples.Script.Pattern.Grammar

namespace DocSamples.Script

/-! # Expressions in words

An expression whose operators and operands are words of their own has a value, which
is a text.  A text of digits counts as a number.
-/

namespace Expression

inductive Fault where
  | noWords
  | notNumber
  | divisionByZero
  | missing (before : String)
  | unclosed (before : String)
  | notClosing (word : String)
  | unexpectedClosing
  | unexpected (word : String)
  | pattern (text : String)
deriving DecidableEq, Repr

def Fault.message : Fault → String
  | .noWords => "missing operand\nTry 'expr --help' for more information."
  | .notNumber => "non-integer argument"
  | .divisionByZero => "division by zero"
  | .missing before => "syntax error: missing argument after ‘" ++ before ++ "’"
  | .unclosed before => "syntax error: expecting ')' after ‘" ++ before ++ "’"
  | .notClosing word => "syntax error: expecting ')' instead of ‘" ++ word ++ "’"
  | .unexpectedClosing => "syntax error: unexpected ')'"
  | .unexpected word => "syntax error: unexpected argument ‘" ++ word ++ "’"
  | .pattern text => text

/-- The number that a text is. -/
def number? (text : String) : Option Int :=
  let digits (chars : List Char) : Option Nat :=
    if chars.isEmpty || chars.any (!·.isDigit) then none else (String.ofList chars).toNat?
  match text.toList with
  | '-' :: rest => (digits rest).map fun value => -(value : Int)
  | chars => (digits chars).map fun value => (value : Int)

/-- Whether a text counts as nothing: it is empty or zero. -/
def isNothing (text : String) : Bool :=
  text = "" || number? text = some 0

/-- What a pattern fits at the start of a text: what its first group has matched, or how
many characters. -/
def matched (text pattern : String) : Except Fault String :=
  match Pattern.read { isExtended := false } pattern.toList with
  | .error fault => .error (.pattern fault)
  | .ok compiled =>
      let found := Pattern.furthest? (compiled.pattern.ends false ⟨[], text.toList, []⟩)
      if compiled.groups = 0 then
        let size := match found with
          | some spot => text.length - spot.after.length
          | none => 0
        .ok (toString size)
      else .ok (String.ofList ((found.bind fun spot => spot.groups.lookup 1).getD []))

/-- The place of the first character of a text that is one of some characters; zero if
there is none. -/
def firstIndex (text chars : String) : Nat :=
  let before := text.toList.takeWhile fun c => !chars.contains c
  if before.length = text.length then 0 else before.length + 1

/-- A part of a text, given by its place and its length. -/
def part (text start size : String) : String :=
  match number? start, number? size with
  | some start, some size =>
      if start ≤ 0 || size ≤ 0 then ""
      else String.ofList ((text.toList.drop (start.toNat - 1)).take size.toNat)
  | _, _ => ""

/-- The operators from the loosest to the tightest. -/
def operators : List (List String) :=
  [["|"], ["&"], ["<", "<=", "=", "==", "!=", ">=", ">"], ["+", "-"], ["*", "/", "%"], [":"]]

/-- How two texts compare: as numbers if both are, or else by their characters. -/
def order (left right : String) : Ordering :=
  match number? left, number? right with
  | some left, some right => compare left right
  | _, _ => compare left right

def compared (operator : String) (ordering : Ordering) : Bool :=
  match operator with
  | "<" => ordering.isLT
  | "<=" => ordering.isLE
  | ">" => ordering.isGT
  | ">=" => ordering.isGE
  | "!=" => ordering.isNe
  | _ => ordering.isEq

def calculated (operator : String) (left right : Int) : Except Fault Int :=
  match operator with
  | "+" => .ok (left + right)
  | "-" => .ok (left - right)
  | "*" => .ok (left * right)
  | "/" => if right = 0 then .error .divisionByZero else .ok (left.tdiv right)
  | _ => if right = 0 then .error .divisionByZero else .ok (left.tmod right)

/-- The value of an operator between two texts. -/
def combine (operator left right : String) : Except Fault String :=
  match operator with
  | "|" =>
      .ok (if !isNothing left then left else if isNothing right then "0" else right)
  | "&" => .ok (if isNothing left || isNothing right then "0" else left)
  | ":" => matched left right
  | _ =>
      if ["+", "-", "*", "/", "%"].contains operator then
        match number? left, number? right with
        | some left, some right => (calculated operator left right).map toString
        | _, _ => .error .notNumber
      else .ok (if compared operator (order left right) then "1" else "0")

/-- The words that are left, and the one before them. -/
structure Place where
  before : String := ""
  rest : List String
deriving DecidableEq, Repr

mutual

/-- Reads an expression of operators that bind as tightly as a level, or tighter.  What
does not matter is not calculated. -/
def evaluate (fuel level : Nat) (matters : Bool) (place : Place) :
    Except Fault (String × Place) :=
  match fuel with
  | 0 => .error .noWords
  | fuel + 1 =>
      if operators.length ≤ level then readCall fuel matters place
      else do
        let (left, after) ← evaluate fuel (level + 1) matters place
        follow fuel level matters left after

/-- Reads the operators of a level behind a value. -/
def follow (fuel level : Nat) (matters : Bool) (left : String) (place : Place) :
    Except Fault (String × Place) :=
  match fuel, place.rest with
  | 0, _ => .error .noWords
  | _, [] => .ok (left, place)
  | fuel + 1, operator :: rest =>
      if (operators[level]?.getD []).contains operator then do
        let rightMatters := match operator with
          | "|" => matters && isNothing left
          | "&" => matters && !isNothing left
          | _ => matters
        let (right, after) ← evaluate fuel (level + 1) rightMatters ⟨operator, rest⟩
        let value ← if matters then combine operator left right else pure ""
        follow fuel level matters value after
      else .ok (left, place)

/-- Reads a named operation with its operands, or a plain value. -/
def readCall (fuel : Nat) (matters : Bool) (place : Place) : Except Fault (String × Place) :=
  match fuel with
  | 0 => .error .noWords
  | fuel + 1 =>
      let operand (place : Place) := readCall fuel matters place
      match place.rest with
      | [] => .error (.missing place.before)
      | "+" :: [] => .error (.missing "+")
      | "+" :: word :: rest => .ok (word, ⟨word, rest⟩)
      | "length" :: rest => do
          let (text, after) ← operand ⟨"length", rest⟩
          return (toString text.length, after)
      | "match" :: rest => do
          let (text, next) ← operand ⟨"match", rest⟩
          let (pattern, after) ← operand next
          return (← if matters then matched text pattern else pure "", after)
      | "index" :: rest => do
          let (text, next) ← operand ⟨"index", rest⟩
          let (chars, after) ← operand next
          return (toString (firstIndex text chars), after)
      | "substr" :: rest => do
          let (text, next) ← operand ⟨"substr", rest⟩
          let (start, next) ← operand next
          let (size, after) ← operand next
          return (part text start size, after)
      | "(" :: rest => do
          let (value, after) ← evaluate fuel 0 matters ⟨"(", rest⟩
          match after.rest with
          | [] => .error (.unclosed after.before)
          | ")" :: rest => return (value, ⟨")", rest⟩)
          | word :: _ => .error (.notClosing word)
      | ")" :: _ => .error .unexpectedClosing
      | word :: rest => .ok (word, ⟨word, rest⟩)

end

/-- The value of an expression. -/
def value (words : List String) : Except Fault String := do
  if words.isEmpty then throw .noWords
  let (value, after) ← evaluate (16 * (words.length + 2)) 0 true { rest := words }
  match after.rest with
  | [] => return value
  | word :: _ => throw (.unexpected word)

end Expression

/-- Shows the value of an expression, and tells whether it counts as nothing. -/
def expr (call : Call) (machine : Machine) : Machine :=
  let words := if call.arguments.head? = some "--" then call.arguments.tail else call.arguments
  match Expression.value words with
  | .ok value =>
      (machine.say (value ++ "\n")).leave (if Expression.isNothing value then 1 else 0)
  | .error fault => machine.complain 2 ("expr: " ++ fault.message)

end DocSamples.Script
