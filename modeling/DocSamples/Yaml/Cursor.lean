import DocSamples.Yaml.Source

namespace DocSamples.Yaml

/-! # Cursors

A cursor stands in a text: it knows what follows, and on which line and in which
column that is.  Whoever looks at more characters than follow meets the fault
behind them, if there is one.
-/

def byteOrderMark : Char := '\uFEFF'

/-- The characters that end a line of YAML. -/
def isBreak (c : Char) : Bool :=
  c = '\n' || c = '\r' || c = '\u0085' || c = '\u2028' || c = '\u2029'

/-- What a line break becomes inside a scalar. -/
def breakText (c : Char) : Char :=
  if c = '\u2028' || c = '\u2029' then c else '\n'

structure Cursor where
  rest : List Char
  index : Nat := 0
  line : Nat := 0
  column : Nat := 0
  beyond : Option Fault := none
deriving DecidableEq, Repr

namespace Cursor

def peek (cursor : Cursor) : Option Char := cursor.rest.head?

def next (cursor : Cursor) : Cursor :=
  match cursor.rest with
  | [] => cursor
  | c :: rest =>
      let index := cursor.index + 1
      if isBreak c then { cursor with rest, index, line := cursor.line + 1, column := 0 }
      else if c = byteOrderMark then { cursor with rest, index }
      else { cursor with rest, index, column := cursor.column + 1 }

def forward (cursor : Cursor) : Nat → Cursor
  | 0 => cursor
  | count + 1 => cursor.next.forward count

/-- Passes over the characters that have a property. -/
def skipWhile (cursor : Cursor) (property : Char → Bool) : Cursor :=
  cursor.forward (cursor.rest.takeWhile property).length

/-- The start of a text, behind a byte order mark. -/
def ofSource (source : Source) : Cursor :=
  let start : Cursor := { rest := source.chars, beyond := source.beyond }
  if start.peek = some byteOrderMark then start.next else start

/-- Looks at so many characters, or up to the end of the text. -/
def see (cursor : Cursor) (count : Nat) : Except Fault Unit :=
  match cursor.beyond with
  | none => .ok ()
  | some fault => if (cursor.rest.drop (count - 1)).isEmpty then .error fault else .ok ()

/-- Finds that the text is no YAML after a look at so many characters. -/
def refuse {α : Type} (cursor : Cursor) (count : Nat) : Except Fault α := do
  cursor.see count
  .error .malformed

end Cursor

/-- Whether nothing, a blank or a line break follows. -/
def isGap (next : Option Char) : Bool :=
  match next with
  | none => true
  | some c => c = ' ' || c = '\t' || isBreak c

/-- Whether nothing, a space or a line break follows. -/
def endsField (next : Option Char) : Bool :=
  isGap next && next != some '\t'

/-- Whether a text begins with a mark of three characters. -/
def startsWithThree (mark : Char) (chars : List Char) : Bool :=
  [mark, mark, mark].isPrefixOf chars

/-- Whether a mark of three characters stands alone here. -/
def Cursor.atMark (cursor : Cursor) (mark : Char) : Except Fault Bool := do
  cursor.see 3
  if startsWithThree mark cursor.rest then
    cursor.see 4
    return isGap (cursor.rest.drop 3).head?
  else return false

/-- Whether a document ends or begins here. -/
def Cursor.atSeparator (cursor : Cursor) : Except Fault Bool := do
  return (← cursor.atMark '-') || (← cursor.atMark '.')

end DocSamples.Yaml
