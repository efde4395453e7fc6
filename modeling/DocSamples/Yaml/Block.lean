import DocSamples.Yaml.Cursor

namespace DocSamples.Yaml

/-! # Block scalars

A block scalar is written below its mark, line by line, as far as the lines are
indented.  A folded one turns single line breaks between lines into blanks.
-/

/-- What a block scalar's mark says about the lines below it. -/
structure BlockHeader where
  /-- Whether the line breaks at the end are all kept, or not even one. -/
  keeps : Option Bool := none
  /-- How much the lines are indented, if it is said. -/
  increment : Option Nat := none
deriving DecidableEq, Repr

/-- The end of a line that holds no more than a comment. -/
def Cursor.endLine (cursor : Cursor) : Except Fault Cursor := do
  let blanks := cursor.skipWhile (· == ' ')
  blanks.see 1
  let after := if blanks.peek = some '#' then blanks.skipWhile (!isBreak ·) else blanks
  after.see 1
  match after.peek with
  | none => return after
  | some c => if isBreak c then return after.next else .error .malformed

def keepsOf? : Option Char → Option Bool
  | some '+' => some true
  | some '-' => some false
  | _ => none

def incrementOf? : Option Char → Option Nat
  | some c => if c.isDigit then some (c.toNat - '0'.toNat) else none
  | none => none

/-- Reads the sign and the digit behind a mark, in either order. -/
def scanHeader (cursor : Cursor) : Except Fault (BlockHeader × Cursor) := do
  cursor.see 1
  let first := cursor.peek
  if (keepsOf? first).isNone && (incrementOf? first).isNone then return ({}, cursor)
  else if incrementOf? first = some 0 then .error .malformed
  else
    let after := cursor.next
    after.see 1
    let second := after.peek
    if (keepsOf? first).isSome then
      match incrementOf? second with
      | none => return ({ keeps := keepsOf? first }, after)
      | some 0 => .error .malformed
      | increment => return ({ keeps := keepsOf? first, increment }, after.next)
    else
      let increment := incrementOf? first
      match keepsOf? second with
      | none => return ({ increment }, after)
      | keeps => return ({ keeps, increment }, after.next)

/-- The empty lines in front of a block scalar, and its indentation. -/
def findIndent (fuel most : Nat) (cursor : Cursor) : Except Fault (List Char × Nat × Cursor) :=
  match fuel with
  | 0 => .error .malformed
  | fuel + 1 => do
      cursor.see 1
      match cursor.peek with
      | none => return ([], most, cursor)
      | some c =>
          if c = ' ' then findIndent fuel (max most cursor.next.column) cursor.next
          else if isBreak c then
            let (breaks, indent, last) ← findIndent fuel most cursor.next
            return (breakText c :: breaks, indent, last)
          else return ([], most, cursor)

/-- The empty lines between lines of a block scalar. -/
def blockBreaks (fuel indent : Nat) (cursor : Cursor) : Except Fault (List Char × Cursor) :=
  match fuel with
  | 0 => .error .malformed
  | fuel + 1 => do
      let spaces := (cursor.rest.takeWhile (· == ' ')).length
      let after := cursor.forward (min spaces (indent - cursor.column))
      after.see 1
      match after.peek with
      | none => return ([], after)
      | some c =>
          if isBreak c then
            let (breaks, last) ← blockBreaks fuel indent after.next
            return (breakText c :: breaks, last)
          else return ([], after)

/-- The lines of a block scalar, with the line breaks behind the last one apart. -/
structure BlockLines where
  text : List Char
  lastBreak : List Char
  breaks : List Char
  cursor : Cursor

def isInside (indent : Nat) (cursor : Cursor) : Bool :=
  cursor.column = indent && cursor.peek.isSome

def beginsBlank (cursor : Cursor) : Bool :=
  cursor.peek = some ' ' || cursor.peek = some '\t'

def scanLines (fuel : Nat) (isFolded : Bool) (indent : Nat) (breaks : List Char)
    (cursor : Cursor) : Except Fault BlockLines :=
  match fuel with
  | 0 => .error .malformed
  | fuel + 1 => do
      if isInside indent cursor then
        let line := cursor.rest.takeWhile (!isBreak ·)
        let after := cursor.forward line.length
        after.see 1
        let lastBreak := (after.peek.map breakText).toList
        let (between, next) ← blockBreaks (cursor.rest.length + 1) indent after.next
        let text := breaks ++ line
        if isInside indent next then
          let folds := isFolded && lastBreak = ['\n'] && !beginsBlank cursor && !beginsBlank next
          let joint := if !folds then lastBreak else if between.isEmpty then [' '] else []
          let more ← scanLines fuel isFolded indent between next
          return { more with text := text ++ joint ++ more.text }
        else return ⟨text, lastBreak, between, next⟩
      else return ⟨[], [], breaks, cursor⟩

/-- Reads a block scalar from its mark on, in a block at some indentation. -/
def scanBlock (isFolded : Bool) (outer : Option Nat) (cursor : Cursor) :
    Except Fault (List Char × Cursor) := do
  let (header, after) ← scanHeader cursor.next
  if !endsField after.peek then after.refuse 1
  else
    let start ← after.endLine
    let least := match outer with
      | none => 1
      | some column => column + 1
    let fuel := start.rest.length + 2
    let (breaks, indent, first) ← match header.increment with
      | none => do
          let (breaks, found, first) ← findIndent fuel 0 start
          pure (breaks, max least found, first)
      | some increment => do
          let indent := least + increment - 1
          let (breaks, first) ← blockBreaks fuel indent start
          pure (breaks, indent, first)
    let lines ← scanLines fuel isFolded indent breaks first
    let ending := if header.keeps = some false then [] else lines.lastBreak
    let more := if header.keeps = some true then lines.breaks else []
    return (lines.text ++ ending ++ more, lines.cursor)

end DocSamples.Yaml
