import DocSamples.Yaml.Property

namespace DocSamples.Yaml

/-! # Tokens

The tokens of a text show its structure: indentation becomes tokens for the
beginning and end of blocks.  That a scalar or a flow collection is a key is seen
only at the colon behind it, so places where a key may have begun are kept
until then, and the tokens from the first of them on are not known before.
-/

inductive Token where
  | documentStart
  | documentEnd
  | sequenceStart
  | mappingStart
  | blockEnd
  | flowSequenceStart
  | flowSequenceEnd
  | flowMappingStart
  | flowMappingEnd
  | flowEntry
  | entry
  | key
  | value
  | scalar (text : List Char) (isPlain : Bool)
  | directive (directive : Directive)
  | anchor (name : List Char)
  | reference (name : List Char)
  | tag (tag : TagText)
  /-- The text is at fault before another token is known. -/
  | broken (fault : Fault)
deriving DecidableEq, Repr

/-- A place where a key may have begun: the number of tokens before it, and where
it stands.  A required key has to be followed by its colon. -/
structure PendingKey where
  level : Nat
  number : Nat
  required : Bool
  index : Nat
  line : Nat
  column : Nat
deriving DecidableEq, Repr

/-- A key is on one line and not longer than this. -/
def keyLimit : Nat := 1024

structure Scanner where
  cursor : Cursor
  /-- The tokens so far, last one first. -/
  reversed : List Token := []
  flowLevel : Nat := 0
  /-- The column of the innermost block, and of those around it; outside of all
  blocks there is none. -/
  indent : Option Nat := none
  outer : List (Option Nat) := []
  keyAllowed : Bool := true
  pending : List PendingKey := []

namespace Scanner

def push (scanner : Scanner) (token : Token) : Scanner :=
  { scanner with reversed := token :: scanner.reversed }

/-- Puts a token behind the first `number` ones. -/
def insert (scanner : Scanner) (number : Nat) (token : Token) : Scanner :=
  let later := scanner.reversed.length - number
  { scanner with
    reversed := scanner.reversed.take later ++ token :: scanner.reversed.drop later }

def inFlow (scanner : Scanner) : Bool :=
  scanner.flowLevel != 0

/-- Whether the innermost block begins before a column. -/
def isBefore (indent : Option Nat) (column : Nat) : Bool :=
  match indent with
  | none => true
  | some own => decide (own < column)

/-- Whether the innermost block begins after a column; `none` is left of all. -/
def isAfter (indent column : Option Nat) : Bool :=
  match indent, column with
  | none, _ => false
  | some _, none => true
  | some own, some column => decide (column < own)

/-- Passes over blanks, comments and line ends. -/
def skipGaps (fuel : Nat) (scanner : Scanner) : Scanner :=
  match fuel with
  | 0 => scanner
  | fuel + 1 =>
      let blanks := scanner.cursor.skipWhile (· == ' ')
      let after :=
        if blanks.peek = some '#' then blanks.skipWhile fun c => !isBreak c else blanks
      if after.peek.any isBreak then
        skipGaps fuel
          { scanner with
            cursor := after.next
            keyAllowed := scanner.keyAllowed || !scanner.inFlow }
      else { scanner with cursor := after }

/-- Forgets the keys that have become too long. -/
def dropStaleKeys (scanner : Scanner) : Except Fault Scanner :=
  let isStale (key : PendingKey) : Bool :=
    key.line != scanner.cursor.line || decide (key.index + keyLimit < scanner.cursor.index)
  if scanner.pending.any fun key => isStale key && key.required then .error .malformed
  else .ok { scanner with pending := scanner.pending.filter (!isStale ·) }

/-- Ends the blocks that begin after a column. -/
def unwindTo (column : Option Nat) (scanner : Scanner) : List (Option Nat) → Scanner
  | [] => { scanner with outer := [] }
  | before :: outer =>
      if isAfter scanner.indent column then
        unwindTo column { (scanner.push .blockEnd) with indent := before } outer
      else { scanner with outer := before :: outer }

def unwind (scanner : Scanner) (column : Option Nat) : Scanner :=
  if scanner.inFlow then scanner else unwindTo column scanner scanner.outer

/-- Begins a block at a column, if the innermost one begins before it.  Its token
is put behind the first `number` ones. -/
def beginBlock (scanner : Scanner) (column number : Nat) (token : Token) : Scanner :=
  if isBefore scanner.indent column then
    { (scanner.insert number token) with
      indent := some column, outer := scanner.indent :: scanner.outer }
  else scanner

def beginBlockHere (scanner : Scanner) (token : Token) : Scanner :=
  scanner.beginBlock scanner.cursor.column scanner.reversed.length token

/-- Forgets the key that may have begun on the present level. -/
def dropKey (scanner : Scanner) : Except Fault Scanner :=
  if scanner.pending.any fun key => key.level == scanner.flowLevel && key.required then
    .error .malformed
  else
    .ok { scanner with pending := scanner.pending.filter (·.level != scanner.flowLevel) }

/-- Notes that a key may begin here. -/
def noteKey (scanner : Scanner) : Except Fault Scanner := do
  if scanner.keyAllowed then
    let cleared ← scanner.dropKey
    let key : PendingKey := {
      level := scanner.flowLevel
      number := scanner.reversed.length
      required := !scanner.inFlow && scanner.indent == some scanner.cursor.column
      index := scanner.cursor.index
      line := scanner.cursor.line
      column := scanner.cursor.column }
    return { cleared with pending := key :: cleared.pending }
  else return scanner

def allow (scanner : Scanner) (keyAllowed : Bool) : Scanner :=
  { scanner with keyAllowed }

def advance (scanner : Scanner) (count : Nat) : Scanner :=
  { scanner with cursor := scanner.cursor.forward count }

def separator (scanner : Scanner) (token : Token) : Except Fault Scanner := do
  let cleared ← (scanner.unwind none).dropKey
  return ((cleared.allow false).advance 3).push token

def openFlow (scanner : Scanner) (token : Token) : Except Fault Scanner := do
  let noted ← scanner.noteKey
  return (({ noted with flowLevel := noted.flowLevel + 1 }.allow true).advance 1).push token

def closeFlow (scanner : Scanner) (token : Token) : Except Fault Scanner := do
  let cleared ← scanner.dropKey
  if scanner.inFlow then
    return (({ cleared with flowLevel := cleared.flowLevel - 1 }.allow false).advance 1).push token
  else cleared.cursor.refuse 2

def flowEntry (scanner : Scanner) : Except Fault Scanner := do
  let cleared ← scanner.dropKey
  return ((cleared.allow true).advance 1).push .flowEntry

/-- Begins a block of a kind where none is open yet; a flow has no blocks. -/
def beginIfBlock (scanner : Scanner) (token : Token) : Except Fault Scanner :=
  if scanner.inFlow then .ok scanner
  else if scanner.keyAllowed then .ok (scanner.beginBlockHere token)
  else .error .malformed

def blockEntry (scanner : Scanner) : Except Fault Scanner := do
  let cleared ← (← scanner.beginIfBlock .sequenceStart).dropKey
  return ((cleared.allow true).advance 1).push .entry

def explicitKey (scanner : Scanner) : Except Fault Scanner := do
  let cleared ← (← scanner.beginIfBlock .mappingStart).dropKey
  return ((cleared.allow (!scanner.inFlow)).advance 1).push .key

/-- A colon: the key before it gets its token where it has begun. -/
def valueMark (scanner : Scanner) : Except Fault Scanner := do
  match scanner.pending.find? (·.level == scanner.flowLevel) with
  | some key =>
      let found :=
        { scanner with pending := scanner.pending.filter (·.level != scanner.flowLevel) }
      let keyed := found.insert key.number .key
      let begun :=
        if scanner.inFlow then keyed else keyed.beginBlock key.column key.number .mappingStart
      return ((begun.allow false).advance 1).push .value
  | none =>
      let cleared ← (← scanner.beginIfBlock .mappingStart).dropKey
      return ((cleared.allow (!scanner.inFlow)).advance 1).push .value

def quotedScalar (scanner : Scanner) (isDouble : Bool) : Except Fault Scanner := do
  let noted ← scanner.noteKey
  let start := noted.cursor.next
  let (text, cursor) ← scanQuoted (start.rest.length + 1) isDouble start
  return ({ noted with cursor }.allow false).push (.scalar text false)

def plainScalar (scanner : Scanner) : Except Fault Scanner := do
  let noted ← scanner.noteKey
  let indent := match noted.indent with
    | none => 0
    | some column => column + 1
  let plain ← scanPlain (noted.cursor.rest.length + 1) noted.inFlow indent noted.cursor
  return ({ noted with cursor := plain.cursor }.allow plain.brokeLine).push
    (.scalar plain.text true)

def blockScalar (scanner : Scanner) (isFolded : Bool) : Except Fault Scanner := do
  let cleared ← scanner.dropKey
  let (text, cursor) ← scanBlock isFolded cleared.indent cleared.cursor
  return ({ cleared with cursor }.allow true).push (.scalar text false)

/-- Reads what stands in front of a node or for one. -/
def property {α : Type} (scanner : Scanner) (scan : Cursor → Except Fault (α × Cursor))
    (token : α → Token) : Except Fault Scanner := do
  let noted ← scanner.noteKey
  let (found, cursor) ← scan noted.cursor
  return ({ noted with cursor }.allow false).push (token found)

def directive (scanner : Scanner) : Except Fault Scanner := do
  let cleared ← (scanner.unwind none).dropKey
  let (found, cursor) ← scanDirective cleared.cursor
  return ({ cleared with cursor }.allow false).push (.directive found)

/-- The characters that no plain scalar begins with. -/
def isIndicator (c : Char) : Bool :=
  "-?:,[]\x7b\x7d#&*!|>\x27\x22%@\x60".toList.contains c

/-- What begins with a sign that may also begin a plain scalar, and otherwise a
plain scalar. -/
def signOrPlain (scanner : Scanner) (c : Char) : Except Fault Scanner := do
  let next := (scanner.cursor.rest.drop 1).head?
  if isIndicator c || isGap (some c) then scanner.cursor.see 2
  if c = '-' && isGap next then scanner.blockEntry
  else if c = '?' && isGap next then scanner.explicitKey
  else if c = ':' && isGap next then scanner.valueMark
  else if isGap (some c) then .error .malformed
  else if !isIndicator c then scanner.plainScalar
  else if !isGap next && (c = '-' || (!scanner.inFlow && (c = '?' || c = ':'))) then
    scanner.plainScalar
  else .error .malformed

/-- Reads the token at the cursor, which stands before a character. -/
def token (scanner : Scanner) (c : Char) : Except Fault Scanner :=
  if c = '[' then scanner.openFlow .flowSequenceStart
  else if c = '\x7b' then scanner.openFlow .flowMappingStart
  else if c = ']' then scanner.closeFlow .flowSequenceEnd
  else if c = '\x7d' then scanner.closeFlow .flowMappingEnd
  else if c = ',' then scanner.flowEntry
  else if c = '?' && scanner.inFlow then scanner.explicitKey
  else if c = ':' && scanner.inFlow then scanner.valueMark
  else if c = '*' then scanner.property scanName .reference
  else if c = '&' then scanner.property scanName .anchor
  else if c = '!' then scanner.property scanTag .tag
  else if c = '|' && !scanner.inFlow then scanner.blockScalar false
  else if c = '>' && !scanner.inFlow then scanner.blockScalar true
  else if c = '\x27' then scanner.quotedScalar false
  else if c = '\x22' then scanner.quotedScalar true
  else scanner.signOrPlain c

/-- Reads a token that may stand only at the start of a line, or else any other. -/
def tokenAtLineStart (scanner : Scanner) (c : Char) : Except Fault Scanner := do
  if c = '%' then scanner.directive
  else if c = '-' then
    if ← scanner.cursor.atMark '-' then scanner.separator .documentStart else scanner.token c
  else if c = '.' then
    if ← scanner.cursor.atMark '.' then scanner.separator .documentEnd else scanner.token c
  else scanner.token c

/-- Reads one more token, or finds that the text is at its end. -/
def fetch (scanner : Scanner) : Except Fault (Scanner × Bool) := do
  let passed := scanner.skipGaps (scanner.cursor.rest.length + 1)
  passed.cursor.see 1
  let here ← passed.dropStaleKeys
  let unwound := here.unwind (some here.cursor.column)
  match unwound.cursor.peek with
  | none => return ((← (unwound.unwind none).dropKey), true)
  | some c =>
      let next ←
        if unwound.cursor.column = 0 then unwound.tokenAtLineStart c else unwound.token c
      next.cursor.see 1
      return ((← next.dropStaleKeys), false)

/-- How many tokens are known: nothing can be put in front of one of them. -/
def known (scanner : Scanner) : Nat :=
  scanner.pending.foldl (fun least key => min least key.number) scanner.reversed.length

/-- Reads all tokens, or those that are known before the text is found at fault. -/
def run (fuel : Nat) (scanner : Scanner) : List Token :=
  match fuel with
  | 0 => [.broken .malformed]
  | fuel + 1 =>
      match scanner.fetch with
      | .error fault => scanner.reversed.reverse.take scanner.known ++ [.broken fault]
      | .ok (next, atEnd) => if atEnd then next.reversed.reverse else run fuel next

end Scanner

/-- The tokens of a text. -/
def tokens (source : Source) : List Token :=
  Scanner.run (source.chars.length + 2) { cursor := .ofSource source }

end DocSamples.Yaml
