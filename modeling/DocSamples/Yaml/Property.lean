import DocSamples.Yaml.Block
import DocSamples.Yaml.Scalar
import DocSamples.Yaml.Scan

namespace DocSamples.Yaml

/-! # Properties of nodes

Names and tags in front of nodes, and the directives that say what tags stand for.
-/

/-- What a tag is written as: a handle, which a directive may have given a meaning,
and what follows it. -/
structure TagText where
  handle : Option (List Char)
  suffix : List Char
deriving DecidableEq, Repr

inductive Directive where
  | version (major : Nat)
  /-- What a handle of tags stands for. -/
  | handle (handle meaning : List Char)
  | other
deriving DecidableEq, Repr

/-- The characters of handles and of names. -/
def isNameChar (c : Char) : Bool :=
  c.isAlphanum || c = '-' || c = '_'

def isUriChar (c : Char) : Bool :=
  c.isAlphanum || "-;/?:@&=+$,_.!~*'()[]%".toList.contains c

/-- What may follow a name. -/
def endsName (next : Option Char) : Bool :=
  isGap next || next.any "?:,]\x7d%@\x60".toList.contains

/-- The name behind the mark at the cursor. -/
def scanName (cursor : Cursor) : Except Fault (List Char × Cursor) := do
  let start := cursor.next
  let name := start.rest.takeWhile isNameChar
  let after := start.forward name.length
  after.see 1
  if name.isEmpty || !endsName after.peek then .error .malformed else return (name, after)

/-- The handle of a tag: a word between two marks, or a mark alone before a space. -/
def scanHandle (cursor : Cursor) : Except Fault (List Char × Cursor) := do
  cursor.see 1
  if cursor.peek ≠ some '!' then .error .malformed
  else
    cursor.see 2
    let start := cursor.next
    if start.peek = some ' ' then return (['!'], start)
    else
      let name := start.rest.takeWhile isNameChar
      let after := start.forward name.length
      after.see 1
      if after.peek = some '!' then return ('!' :: name ++ ['!'], after.next)
      else .error .malformed

/-- The bytes that are written as a percent sign and two digits each. -/
def scanEscapes (fuel : Nat) (cursor : Cursor) : Except Fault (Text.Utf8.Bytes × Cursor) :=
  match fuel with
  | 0 => .error .malformed
  | fuel + 1 => do
      cursor.see 1
      if cursor.peek = some '%' then
        let digits := ((cursor.rest.drop 1).take 2).takeWhile fun c => (hexValue? c).isSome
        cursor.see (digits.length + 2)
        match digits.filterMap hexValue? with
        | [high, low] =>
            let (bytes, last) ← scanEscapes fuel (cursor.forward 3)
            return (.ofNat (high * 16 + low) :: bytes, last)
        | _ => .error .malformed
      else return ([], cursor)

/-- The characters of a tag's suffix or of what a handle stands for. -/
def scanUri (fuel : Nat) (cursor : Cursor) : Except Fault (List Char × Cursor) :=
  match fuel with
  | 0 => .error .malformed
  | fuel + 1 => do
      cursor.see 1
      match cursor.peek with
      | none => return ([], cursor)
      | some c =>
          if c = '%' then
            let (bytes, after) ← scanEscapes (cursor.rest.length + 1) cursor
            match Text.Utf8.decode bytes with
            | .error _ => .error .malformed
            | .ok chars =>
                let (more, last) ← scanUri fuel after
                return (chars ++ more, last)
          else if isUriChar c then
            let (more, last) ← scanUri fuel cursor.next
            return (c :: more, last)
          else return ([], cursor)

def scanSuffix (cursor : Cursor) : Except Fault (List Char × Cursor) := do
  let (chars, after) ← scanUri (cursor.rest.length + 1) cursor
  if chars.isEmpty then .error .malformed else return (chars, after)

/-- Whether a second mark follows before the end of a word. -/
def hasHandle (cursor : Cursor) : Except Fault Bool := do
  let word := cursor.rest.takeWhile fun c => c != '!' && !endsField (some c)
  cursor.see (word.length + 1)
  return (cursor.rest.drop word.length).head? = some '!'

/-- A tag between angle brackets, one that is a mark alone, or one with a handle. -/
def scanTag (cursor : Cursor) : Except Fault (TagText × Cursor) := do
  cursor.see 2
  let start := cursor.next
  let (tag, after) ←
    if start.peek = some '<' then do
      let (suffix, after) ← scanSuffix start.next
      if after.peek = some '>' then pure (⟨none, suffix⟩, after.next) else .error .malformed
    else if isGap start.peek then pure (⟨none, ['!']⟩, start)
    else do
      let (handle, after) ←
        if ← hasHandle start then scanHandle cursor else pure (['!'], start)
      let (suffix, last) ← scanSuffix after
      pure (⟨some handle, suffix⟩, last)
  after.see 1
  if endsField after.peek then return (tag, after) else .error .malformed

/-! ## Directives -/

def skipSpaces (cursor : Cursor) : Cursor :=
  cursor.skipWhile (· == ' ')

/-- The digits of a version's number. -/
def scanNumber (cursor : Cursor) : Except Fault (Nat × Cursor) := do
  let digits := cursor.rest.takeWhile Char.isDigit
  let after := cursor.forward digits.length
  after.see 1
  if digits.isEmpty then .error .malformed else return ((← Meaning.decimal digits), after)

def scanVersion (cursor : Cursor) : Except Fault (Directive × Cursor) := do
  let (major, point) ← scanNumber (skipSpaces cursor)
  if point.peek ≠ some '.' then .error .malformed
  else
    let (_, last) ← scanNumber point.next
    if endsField last.peek then return (.version major, last) else .error .malformed

def scanTagDirective (cursor : Cursor) : Except Fault (Directive × Cursor) := do
  let (handle, after) ← scanHandle (skipSpaces cursor)
  after.see 1
  if after.peek ≠ some ' ' then .error .malformed
  else
    let (meaning, last) ← scanSuffix (skipSpaces after)
    if endsField last.peek then return (.handle handle meaning, last) else .error .malformed

/-- Reads a directive to the end of its line. -/
def scanDirective (cursor : Cursor) : Except Fault (Directive × Cursor) := do
  let start := cursor.next
  let name := start.rest.takeWhile isNameChar
  let after := start.forward name.length
  after.see 1
  if name.isEmpty || !endsField after.peek then .error .malformed
  else
    let (directive, last) ←
      if name = ['Y', 'A', 'M', 'L'] then scanVersion after
      else if name = ['T', 'A', 'G'] then scanTagDirective after
      else pure (.other, after.skipWhile (!isBreak ·))
    return (directive, ← last.endLine)

end DocSamples.Yaml
