import DocSamples.Script.Pattern.Grammar

namespace DocSamples.Script.Edit

/-! # Edits

An edit is a list of commands that is gone through for each line of an input.  A
command is for all lines, or for those it selects.
-/

/-- A pattern with whether it ignores case; without one it is the last one used. -/
structure Finder where
  pattern : Option Pattern
  ignoresCase : Bool := false
deriving DecidableEq, Repr

inductive Address where
  | line (number : Nat)
  | last
  | fits (finder : Finder)
  /-- A first line and each so many lines after it. -/
  | every (first step : Nat)
deriving DecidableEq, Repr

/-- Where a range of lines ends. -/
inductive RangeEnd where
  | address (address : Address)
  /-- So many lines after the first one. -/
  | more (count : Nat)
  /-- The next line whose number is a multiple. -/
  | multiple (divisor : Nat)
deriving DecidableEq, Repr

structure Selector where
  first : Option Address := none
  last : Option RangeEnd := none
  isNegated : Bool := false
deriving DecidableEq, Repr

/-- How the letters of a replacement are changed. -/
inductive LetterCase where
  | upper
  | lower
  | plain
deriving DecidableEq, Repr

inductive ReplacePart where
  | char (c : Char)
  /-- What a group has matched; the whole match has the number zero. -/
  | group (number : Nat)
  /-- How all letters from here on are changed. -/
  | letters (letterCase : LetterCase)
  /-- How the next letter is changed. -/
  | nextLetter (letterCase : LetterCase)
deriving DecidableEq, Repr

structure Substitution where
  finder : Finder
  replacement : List ReplacePart
  isGlobal : Bool := false
  /-- The number of the first match that is replaced. -/
  number : Nat := 1
  prints : Bool := false
  file : Option String := none
deriving DecidableEq, Repr

inductive Verb where
  /-- The commands up to the closing brace are for the selected lines. -/
  | opening
  | closing
  | substitute (substitution : Substitution)
  | exchange (pairs : List (Char × Char))
  | print
  | printFirst
  | delete
  | deleteFirst
  | next
  | appendNext
  | hold
  | holdMore
  | get
  | getMore
  | swap
  | quit (status : Nat) (isSilent : Bool)
  | number
  | fileName
  /-- Shows all characters of the line, perhaps in lines of some width. -/
  | list (width : Option Nat)
  | append (text : String)
  | insert (text : String)
  | change (text : String)
  | label (name : String)
  /-- Goes on at a label, or at the end; perhaps only after a replacement, or without
  one. -/
  | jump (name : String) (replaced : Option Bool)
  | readFile (name : String)
  | writeFile (name : String)
  | clear
deriving DecidableEq, Repr

structure Command where
  selector : Selector
  verb : Verb
deriving DecidableEq, Repr

end DocSamples.Script.Edit
