import DocSamples.Text.Blank
import DocSamples.Text.Letter
import DocSamples.Text.Lines

namespace DocSamples

/-! # Named regions

A comment line `#region name` or `// region name` opens a region of a text, and
`#endregion` closes the region that was opened last.  Regions nest like
brackets.
-/

open Text

/-- What a line says about regions. -/
inductive Marker where
  | opening (name : String)
  | closing
deriving DecidableEq, Repr

namespace Marker

/-- What follows the comment sign of a comment line, without blanks. -/
def comment? (line : List Char) : Option (List Char) :=
  match dropBlanks line with
  | '#' :: rest => some (dropBlanks rest)
  | '/' :: '/' :: rest => some (dropBlanks rest)
  | _ => none

def afterWord? (word : String) (chars : List Char) : Option (List Char) :=
  if word.toList.isPrefixOf chars then some (chars.drop word.toList.length) else none

/-- The name of a region is one word between blanks, alone on the rest of the line. -/
def name? (chars : List Char) : Option String :=
  match chars with
  | [] => none
  | c :: _ =>
      if isBlank c then
        match trimChars chars with
        | [] => none
        | name => if name.any isBlank then none else some (String.ofList name)
      else none

/-- The rest of a closing line is free, but it must not continue the word. -/
def endsWord (chars : List Char) : Bool :=
  match chars with
  | [] => true
  | c :: _ => !isWordChar c

def ofLine? (line : String) : Option Marker := do
  let text ← comment? line.toList
  match afterWord? "region" text with
  | some rest => (name? rest).map .opening
  | none =>
      let rest ← afterWord? "endregion" text
      if endsWord rest then some .closing else none

end Marker

namespace Region

/-- The lines of the two markers of a region. -/
structure Span where
  first : Nat
  last : Nat
deriving DecidableEq, Repr

/-- The line that closes the region in which `depth` more have been opened. -/
def closingLine? (depth : Nat) : List (Option Marker) → Option Nat
  | [] => none
  | none :: rest => (closingLine? depth rest).map (· + 1)
  | some (.opening _) :: rest => (closingLine? (depth + 1) rest).map (· + 1)
  | some .closing :: rest =>
      match depth with
      | 0 => some 0
      | outer + 1 => (closingLine? outer rest).map (· + 1)

/-- The first region of a name, from its opening line to the line that closes it. -/
def spanOf? (name : String) : List (Option Marker) → Option Span
  | [] => none
  | marker :: rest =>
      if marker = some (.opening name) then
        (closingLine? 0 rest).map fun closing => ⟨0, closing + 1⟩
      else
        (spanOf? name rest).map fun span => ⟨span.first + 1, span.last + 1⟩

def find? (text name : String) : Option Span :=
  spanOf? name ((lines text).map Marker.ofLine?)

/-- The lines between the markers. -/
def body? (text name : String) : Option String :=
  (find? text name).map fun span =>
    joinLines (((lines text).take span.last).drop (span.first + 1))

/-- The text with another body between the markers.  Line feeds at the end of
the body are dropped; one at the end of the text is kept. -/
def replace? (text name body : String) : Option String :=
  (find? text name).map fun span =>
    let all := lines text
    let joined := joinLines
      (all.take (span.first + 1) ++ [dropEndNewlines body] ++ all.drop span.last)
    if endsWithNewline text then joined ++ "\n" else joined

end Region

end DocSamples
