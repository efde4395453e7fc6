import DocSamples.Script.Machine
import DocSamples.Script.Sum
import DocSamples.Tree.Change

namespace DocSamples.Script

/-! # Tests

Questions about files, texts and numbers, which are joined by signs for "not", "and"
and "or".
-/

inductive TestSign where
  | unary (sign : String)
  | binary (sign : String)
  | not
  | both
  | either
  | opening
  | closing
deriving DecidableEq, Repr

namespace TestSign

def unaries : List String :=
  ["-r", "-w", "-x", "-e", "-f", "-d", "-c", "-b", "-p", "-u", "-g", "-k", "-s", "-t", "-z", "-n",
    "-h", "-O", "-G", "-L", "-S"]

def binaries : List String :=
  ["=", "!=", "<", ">", "-eq", "-ne", "-ge", "-gt", "-le", "-lt", "-nt", "-ot", "-ef"]

def ofWord? (word : String) : Option TestSign :=
  if unaries.contains word then some (.unary word)
  else if binaries.contains word then some (.binary word)
  else [("!", not), ("-a", both), ("-o", either), ("(", opening), (")", closing)].lookup word

/-- Whether the second word makes an operand of the first one: there is none, or it is
a sign between two operands. -/
def makesOperand : List String → Bool
  | _ :: second :: _ :: _ => ((ofWord? second) matches some (.binary _))
  | [_, _] => false
  | _ => true

/-- The sign that some words begin with. -/
def leading? (words : List String) : Option TestSign :=
  match words with
  | [] => none
  | word :: rest =>
      match ofWord? word with
      | some (.unary sign) => if makesOperand words then none else some (.unary sign)
      | some .opening => if rest.isEmpty then none else some .opening
      | other => other

end TestSign

namespace Test

/-- What is true of some words, and the words from the last one used on. -/
abbrev Outcome := Except String (Bool × List String)

/-- A whole number in a test. -/
def integerOrFault (text : String) : Except String Int :=
  match Sum.decimal? text with
  | some value => .ok value
  | none => .error ("Illegal number: " ++ text)

def isLink (machine : Machine) (path : Path) : Bool :=
  (machine.tree.itselfAt? path).any fun (_, entry) => entry matches .link _

/-- A question about what is under a name. -/
def ofFile (machine : Machine) (sign name : String) : Bool :=
  let path := machine.pathOf name
  let found (answer : Except PathFault Bool) : Bool := name != "" && answer.toOption.getD false
  match sign with
  | "-f" => found (machine.tree.isFile path)
  | "-d" => found (machine.tree.isDirectory path)
  | "-x" => found (machine.tree.isDirectory path) || machine.mayRun path
  | "-s" =>
      found (machine.tree.isDirectory path) ||
        (found (machine.tree.isFile path) && !(machine.bytesAt path).isEmpty)
  | "-e" | "-r" | "-w" | "-O" | "-G" => found (machine.tree.existsAt path)
  | "-h" | "-L" => isLink machine path
  | _ => false

def isSameFile (machine : Machine) (first second : String) : Bool :=
  match machine.tree.status (machine.pathOf first), machine.tree.status (machine.pathOf second) with
  | .ok (one, _), .ok (other, _) => one == other
  | _, _ => false

/-- A comparison of two operands. -/
def compare (machine : Machine) (sign first second : String) : Except String Bool :=
  let numbers (holds : Int → Int → Bool) : Except String Bool := do
    return holds (← integerOrFault first) (← integerOrFault second)
  match sign with
  | "=" => .ok (first == second)
  | "!=" => .ok (first != second)
  | "<" => .ok (decide (first < second))
  | ">" => .ok (decide (second < first))
  | "-eq" => numbers fun one other => one == other
  | "-ne" => numbers fun one other => one != other
  | "-lt" => numbers fun one other => decide (one < other)
  | "-le" => numbers fun one other => decide (one ≤ other)
  | "-gt" => numbers fun one other => decide (other < one)
  | "-ge" => numbers fun one other => decide (other ≤ one)
  | "-ef" => .ok (isSameFile machine first second)
  | _ => .ok false

mutual

/-- Reads tests one of which is to hold.  `fuel` bounds the signs. -/
def anyOf (fuel : Nat) (machine : Machine) (sign : Option TestSign) (words : List String) :
    Outcome :=
  match fuel with
  | 0 => .error "too many arguments"
  | fuel + 1 => do
      let (holds, rest) ← allOf fuel machine sign words
      if TestSign.leading? rest.tail = some .either then
        let next := rest.drop 2
        let (more, rest) ← anyOf fuel machine (TestSign.leading? next) next
        return (holds || more, rest)
      else return (holds, rest)

/-- Reads tests all of which are to hold. -/
def allOf (fuel : Nat) (machine : Machine) (sign : Option TestSign) (words : List String) :
    Outcome :=
  match fuel with
  | 0 => .error "too many arguments"
  | fuel + 1 => do
      let (holds, rest) ← negated fuel machine sign words
      if TestSign.leading? rest.tail = some .both then
        let next := rest.drop 2
        let (more, rest) ← allOf fuel machine (TestSign.leading? next) next
        return (holds && more, rest)
      else return (holds, rest)

def negated (fuel : Nat) (machine : Machine) (sign : Option TestSign) (words : List String) :
    Outcome :=
  match fuel with
  | 0 => .error "too many arguments"
  | fuel + 1 =>
      if sign = some .not then do
        let next := words.tail
        if next.isEmpty then return (true, words)
        else
          let (holds, rest) ← negated fuel machine (TestSign.leading? next) next
          return (!holds, rest)
      else single fuel machine sign words

/-- Reads one test.  A word alone holds if it is not empty. -/
def single (fuel : Nat) (machine : Machine) (sign : Option TestSign) (words : List String) :
    Outcome :=
  match fuel with
  | 0 => .error "too many arguments"
  | fuel + 1 =>
      match sign, words with
      | some .opening, _ :: rest =>
          if TestSign.leading? rest = some .closing then .ok (false, rest)
          else do
            let (holds, after) ← anyOf fuel machine (TestSign.leading? rest) rest
            if TestSign.leading? after.tail = some .closing then return (holds, after.tail)
            else throw "closing paren expected"
      | some (.unary sign), _ :: rest =>
          match rest with
          | [] => .error (sign ++ ": argument expected")
          | operand :: _ =>
              if sign = "-z" then .ok (operand == "", rest)
              else if sign = "-n" then .ok (operand != "", rest)
              else .ok (ofFile machine sign operand, rest)
      | _, first :: next :: rest =>
          match TestSign.leading? (next :: rest) with
          | some (.binary sign) =>
              match rest with
              | [] => .error (sign ++ ": argument expected")
              | second :: _ => (compare machine sign first second).map fun holds => (holds, rest)
          | _ => .ok (first != "", words)
      | none, [first] => .ok (first != "", words)
      | some _, [first] => .ok (first != "", words)
      | _, [] => .ok (false, [])

end

/-- Whether some words hold. -/
def holds (machine : Machine) (words : List String) : Except String Bool := do
  let isComparison := match words with
    | [_, sign, _] => ((TestSign.ofWord? sign) matches some (.binary _))
    | _ => false
  let words :=
    if !isComparison && (words.length = 3 || words.length = 4) && words.head? = some "(" &&
        words.getLast? = some ")" then words.tail.dropLast
    else words
  if words.isEmpty then return false
  else
    let sign := if isComparison then none else TestSign.leading? words
    let (truth, rest) ← anyOf (8 * words.length + 8) machine sign words
    match rest with
    | last :: _ :: _ => throw (last ++ ": unexpected operator")
    | _ => return truth

end Test

/-- Leaves whether some words hold. -/
def test (name : String) (line : Nat) (words : List String) (machine : Machine) : Machine :=
  match Test.holds machine words with
  | .ok truth => machine.leave (if truth then 0 else 1)
  | .error fault => machine.complainAt line 2 (name ++ ": " ++ fault)

/-- A test between brackets. -/
def bracketTest (line : Nat) (words : List String) (machine : Machine) : Machine :=
  if words.getLast? = some "]" then test "[" line words.dropLast machine
  else machine.complainAt line 2 "[: missing ]"

end DocSamples.Script
