namespace DocSamples.Script.Record

/-! # Record programs

A record program is gone through for each record of an input.  It consists of rules,
which are actions with the records they are for, and of functions.  Its texts are made
of characters that stand for one byte each.
-/

inductive Operator where
  | add
  | subtract
  | multiply
  | divide
  | remainder
  | power
  | join
  | less
  | atMost
  | equal
  | unequal
  | greater
  | atLeast
  | fits
  | misfits
deriving DecidableEq, Repr

mutual

/-- What stands for a value. -/
inductive Expression where
  | number (text : String)
  | text (text : String)
  /-- Whether a pattern fits the record, or the pattern itself where one is asked for. -/
  | pattern (text : String)
  | place (place : Place)
  /-- Values side by side, as in a list between parentheses. -/
  | group (items : List Expression)
  | assigned (target : Place) (operator : Option Operator) (value : Expression)
  /-- A place whose number is changed by one; the value is that before or after it. -/
  | stepped (target : Place) (isUp isBefore : Bool)
  | negated (inner : Expression)
  | negative (inner : Expression)
  | positive (inner : Expression)
  | combined (operator : Operator) (left right : Expression)
  | both (left right : Expression)
  | either (left right : Expression)
  | choice (condition whenTrue whenFalse : Expression)
  | contains (array : String) (keys : List Expression)
  | call (name : String) (arguments : List Expression)
  | builtin (name : String) (arguments : List Expression)
  | record (target : Option Place)
  | recordOfFile (file : Expression) (target : Option Place)
  | recordOfCommand (command : Expression) (target : Option Place)

/-- Where a value is kept. -/
inductive Place where
  | named (name : String)
  | element (array : String) (keys : List Expression)
  | field (index : Expression)

end

/-- Where what is printed goes. -/
inductive Target where
  | file (name : Expression) (appends : Bool)
  | command (command : Expression)

inductive Statement where
  | nothing
  | evaluate (value : Expression)
  | print (items : List Expression) (target : Option Target)
  | format (items : List Expression) (target : Option Target)
  | sequence (first second : Statement)
  | choice (condition : Expression) (whenTrue whenFalse : Statement)
  | turns (condition : Expression) (body : Statement)
  | turnsAfter (body : Statement) (condition : Expression)
  | loop (first : Statement) (condition : Option Expression) (step body : Statement)
  | each (name array : String) (body : Statement)
  | leaveLoop
  | nextTurn
  | nextRecord
  | nextFile
  | exit (status : Option Expression)
  | result (value : Option Expression)
  | erase (array : String) (keys : Option (List Expression))

/-- What an action is for. -/
inductive Scope where
  | start
  | last
  | always
  | when (condition : Expression)
  /-- From a record that fits up to another one. -/
  | range (first last : Expression)

structure Rule where
  scope : Scope
  action : Statement

structure Function where
  parameters : List String
  body : Statement

structure Program where
  rules : List Rule := []
  functions : List (String × Function) := []

/-! ## Texts of bytes -/

/-- The text whose characters are some bytes. -/
def ofBytes (bytes : List UInt8) : String :=
  String.ofList (bytes.map fun byte => Char.ofNat byte.toNat)

def toBytes (text : String) : List UInt8 :=
  text.toList.map fun c => UInt8.ofNat c.toNat

end DocSamples.Script.Record
