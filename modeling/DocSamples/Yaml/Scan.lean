import DocSamples.Yaml.Cursor

namespace DocSamples.Yaml

/-! # Scalars in text

How the text of a plain or quoted scalar is read: single line breaks become
blanks, further ones are kept, and double quotes allow escapes.
-/

/-! ## Quoted scalars -/

/-- What a letter after a backslash stands for. -/
def escapeOf? : Char → Option Char
  | '0' => some '\x00'
  | 'a' => some '\x07'
  | 'b' => some '\x08'
  | 't' => some '\t'
  | '\t' => some '\t'
  | 'n' => some '\n'
  | 'v' => some '\x0b'
  | 'f' => some '\x0c'
  | 'r' => some '\r'
  | 'e' => some '\x1b'
  | ' ' => some ' '
  | '\x22' => some '\x22'
  | '\x5c' => some '\x5c'
  | '/' => some '/'
  | 'N' => some '\u0085'
  | '_' => some '\u00a0'
  | 'L' => some '\u2028'
  | 'P' => some '\u2029'
  | _ => none

/-- How many hexadecimal digits follow a letter after a backslash. -/
def escapeWidth? : Char → Option Nat
  | 'x' => some 2
  | 'u' => some 4
  | 'U' => some 8
  | _ => none

def hexValue? (c : Char) : Option Nat :=
  if '0' ≤ c ∧ c ≤ '9' then some (c.toNat - '0'.toNat)
  else if 'a' ≤ c ∧ c ≤ 'f' then some (c.toNat - 'a'.toNat + 10)
  else if 'A' ≤ c ∧ c ≤ 'F' then some (c.toNat - 'A'.toNat + 10)
  else none

def hexNumber? (chars : List Char) : Option Nat :=
  chars.foldlM (fun value c => (hexValue? c).map (value * 16 + ·)) 0

/-- The line breaks that follow each other, with the blanks between them left out. -/
def scanBreaks (fuel : Nat) (cursor : Cursor) : Except Fault (List Char × Cursor) :=
  match fuel with
  | 0 => .error .malformed
  | fuel + 1 => do
      if ← cursor.atSeparator then .error .malformed
      else
        let after := cursor.skipWhile fun c => c = ' ' || c = '\t'
        after.see 1
        match after.peek with
        | some c =>
            if isBreak c then
              let (breaks, rest) ← scanBreaks fuel after.next
              return (breakText c :: breaks, rest)
            else return ([], after)
        | none => return ([], after)

/-- The text for a first line break and those after it. -/
def foldBreaks (first : Char) (more : List Char) : List Char :=
  if breakText first ≠ '\n' then breakText first :: more
  else if more.isEmpty then [' ']
  else more

/-- The character that hexadecimal digits name, of which there are so many behind
a backslash and a letter. -/
def scanCode (width : Nat) (cursor : Cursor) : Except Fault Char :=
  let digits := ((cursor.rest.drop 2).take width).takeWhile fun c => (hexValue? c).isSome
  match hexNumber? digits with
  | none => .error .malformed
  | some code => do
      if digits.length < width then cursor.refuse (digits.length + 3)
      else if 0x110000 ≤ code then
        cursor.see (width + 2)
        .error (.noCharacter code)
      else return Char.ofNat code

/-- What a backslash in double quotes stands for, and what follows it. -/
def scanEscape (fuel : Nat) (cursor : Cursor) : Except Fault (List Char × Cursor) := do
  cursor.see 2
  match (cursor.rest.drop 1).head? with
  | none => .error .malformed
  | some letter =>
      match escapeOf? letter, escapeWidth? letter with
      | some character, _ => return ([character], cursor.forward 2)
      | none, some width =>
          let character ← scanCode width cursor
          return ([character], cursor.forward (width + 2))
      | none, none =>
          if isBreak letter then scanBreaks fuel (cursor.forward 2) else .error .malformed

/-- The characters of a quoted scalar up to its closing quote. -/
def scanQuoted (fuel : Nat) (isDouble : Bool) (cursor : Cursor) :
    Except Fault (List Char × Cursor) :=
  match fuel with
  | 0 => .error .malformed
  | fuel + 1 => do
      let continueWith (chars : List Char) (cursor : Cursor) :
          Except Fault (List Char × Cursor) := do
        let (text, rest) ← scanQuoted fuel isDouble cursor
        return (chars ++ text, rest)
      cursor.see 1
      match cursor.rest with
      | [] => .error .malformed
      | c :: rest =>
          if c = ' ' || c = '\t' then
            let blanks := cursor.rest.takeWhile fun c => c = ' ' || c = '\t'
            let after := cursor.forward blanks.length
            if after.peek.any isBreak then scanQuoted fuel isDouble after
            else continueWith blanks after
          else if isBreak c then
            let (more, after) ← scanBreaks (fuel + 1) cursor.next
            continueWith (foldBreaks c more) after
          else if isDouble then
            if c = '\x22' then return ([], cursor.next)
            else if c = '\x5c' then
              let (chars, after) ← scanEscape (fuel + 1) cursor
              continueWith chars after
            else continueWith [c] cursor.next
          else if c = '\x27' then
            cursor.see 2
            if rest.head? = some '\x27' then continueWith ['\x27'] (cursor.forward 2)
            else return ([], cursor.next)
          else continueWith [c] cursor.next

/-! ## Plain scalars -/

def isFlowMark (c : Char) : Bool :=
  c = ',' || c = '[' || c = ']' || c = '\x7b' || c = '\x7d'

/-- Whether a plain scalar cannot go on with a character, given the one after it. -/
def endsPlain (inFlow : Bool) (c : Char) (next : Option Char) : Bool :=
  isGap (some c) ||
    (c = ':' && (isGap next || inFlow && next.any isFlowMark)) ||
    (inFlow && (c = '?' || isFlowMark c))

/-- The characters of a plain scalar up to a blank or its end. -/
def plainRun (inFlow : Bool) : List Char → List Char
  | [] => []
  | c :: rest => if endsPlain inFlow c rest.head? then [] else c :: plainRun inFlow rest

/-- A run of a plain scalar from the cursor on. -/
def scanRun (inFlow : Bool) (cursor : Cursor) : Except Fault (List Char) := do
  let run := plainRun inFlow cursor.rest
  cursor.see (run.length + 1)
  if (cursor.rest.drop run.length).head? = some ':' then cursor.see (run.length + 2)
  return run

/-- What stands between two runs of a plain scalar. -/
structure PlainGap where
  text : List Char
  brokeLine : Bool
  cursor : Cursor

/-- The line breaks after the first.  At a separator of documents there are none
that count. -/
def plainBreaks (fuel : Nat) (cursor : Cursor) : Except Fault (Option (List Char) × Cursor) :=
  match fuel with
  | 0 => .ok (some [], cursor)
  | fuel + 1 => do
      cursor.see 1
      match cursor.peek with
      | some c =>
          if c = ' ' then plainBreaks fuel cursor.next
          else if isBreak c then
            let after := cursor.next
            if ← after.atSeparator then return (none, after)
            else
              let (breaks, last) ← plainBreaks fuel after
              return (breaks.map (breakText c :: ·), last)
          else return (some [], cursor)
      | none => return (some [], cursor)

def plainGap (cursor : Cursor) : Except Fault PlainGap := do
  let blanks := cursor.rest.takeWhile (· == ' ')
  let after := cursor.forward blanks.length
  after.see 1
  match after.peek with
  | some c =>
      if isBreak c then
        let below := after.next
        if ← below.atSeparator then return ⟨[], true, below⟩
        else
          match ← plainBreaks (below.rest.length + 1) below with
          | (none, last) => return ⟨[], true, last⟩
          | (some more, last) => return ⟨foldBreaks c more, true, last⟩
      else return ⟨blanks, false, after⟩
  | none => return ⟨blanks, false, after⟩

/-- A plain scalar as it has been read. -/
structure PlainScalar where
  text : List Char
  /-- Whether the last gap, which may follow the text, went over a line's end. -/
  brokeLine : Bool
  cursor : Cursor

/-- Reads a plain scalar, which goes on over lines that are indented enough. -/
def scanPlain (fuel : Nat) (inFlow : Bool) (indent : Nat) (cursor : Cursor) :
    Except Fault PlainScalar :=
  match fuel with
  | 0 => .error .malformed
  | fuel + 1 => do
      let run ← scanRun inFlow cursor
      let gap ← plainGap (cursor.forward run.length)
      if gap.text.isEmpty || gap.cursor.peek == some '#' ||
          (!inFlow && decide (gap.cursor.column < indent)) then
        return ⟨run, gap.brokeLine, gap.cursor⟩
      else
        let following ← scanRun inFlow gap.cursor
        if following.isEmpty then return ⟨run, gap.brokeLine, gap.cursor⟩
        else
          let more ← scanPlain fuel inFlow indent gap.cursor
          return ⟨run ++ gap.text ++ more.text, more.brokeLine, more.cursor⟩

end DocSamples.Yaml
