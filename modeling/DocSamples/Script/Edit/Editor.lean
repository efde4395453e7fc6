import DocSamples.Script.Edit
import DocSamples.Text.Utf8

namespace DocSamples.Script.Edit

/-! # Editors

An editor goes through the commands of an edit for each line.  It holds the line it
works on and a second text, and it collects what is written.
-/

open Text

/-- A line of what is edited. -/
structure SourceLine where
  text : List Char
  hasEnd : Bool := true
  /-- The name of the file that it stands in. -/
  file : String := "-"
deriving DecidableEq, Repr

/-- A text in the hands of an editor, and whether a line end belongs to it. -/
structure Space where
  text : List Char := []
  hasEnd : Bool := true
deriving DecidableEq, Repr

/-- The last line of a range that is open. -/
inductive OpenRange where
  | upTo (number : Nat)
  | fits (address : Address)
deriving DecidableEq, Repr

structure NumberedCommand where
  index : Nat
  command : Command
deriving DecidableEq, Repr

/-- How an edit is carried out. -/
structure Plan where
  commands : List NumberedCommand
  isSilent : Bool := false
  /-- The character at the end of lines. -/
  mark : Char := '\n'
  /-- How wide the lines are in which all characters are to be seen. -/
  width : Nat := 70
  /-- The bytes of the files that an edit may read. -/
  read : String → Utf8.Bytes

structure Editor where
  pattern : Space := {}
  hold : Space := {}
  rest : List SourceLine := []
  number : Nat := 0
  file : String := "-"
  output : Utf8.Bytes := []
  /-- Whether a line end has to be written before anything else. -/
  owesEnd : Bool := false
  /-- What is written at the end of the line's turn. -/
  queued : List Utf8.Bytes := []
  hasReplaced : Bool := false
  ranges : List (Nat × OpenRange) := []
  lastPattern : Option Pattern := none
  /-- What has been written to files, by their names. -/
  files : List (String × Utf8.Bytes) := []

namespace Editor

/-! ## Writing -/

/-- Writes the line end that is owed. -/
def payEnd (plan : Plan) (editor : Editor) : Editor :=
  if editor.owesEnd then
    { editor with output := editor.output ++ Utf8.encode [plan.mark], owesEnd := false }
  else editor

def write (plan : Plan) (bytes : Utf8.Bytes) (editor : Editor) : Editor :=
  let paid := editor.payEnd plan
  { paid with output := paid.output ++ bytes }

/-- Writes a text as a line; the end of a last line that has none is owed. -/
def writeLine (plan : Plan) (text : List Char) (editor : Editor) : Editor :=
  let end' := if editor.pattern.hasEnd then [plan.mark] else []
  { editor.write plan (Utf8.encode (text ++ end')) with owesEnd := !editor.pattern.hasEnd }

def writeTo (plan : Plan) (name : String) (text : List Char) (editor : Editor) : Editor :=
  if name = "/dev/stdout" then editor.writeLine plan text
  else
    let before := (editor.files.lookup name).getD []
    let added := before ++ Utf8.encode (text ++ [plan.mark])
    { editor with files := (name, added) :: editor.files.filter (·.1 != name) }

/-- Writes what is due at the end of a line's turn. -/
def flush (plan : Plan) (editor : Editor) : Editor :=
  if editor.queued.isEmpty then editor
  else { editor.write plan editor.queued.flatten with queued := [] }

def octalByte (byte : UInt8) : List Char :=
  let digit (weight : Nat) : Char := Char.ofNat ('0'.toNat + byte.toNat / weight % 8)
  ['\x5c', digit 64, digit 8, digit 1]

/-- A character as it is shown where all are to be seen. -/
def visible (c : Char) : List Char :=
  let letters : List (Char × Char) :=
    [('\x5c', '\x5c'), ('\x07', 'a'), ('\x08', 'b'), ('\x0c', 'f'), ('\n', 'n'), ('\r', 'r'),
      ('\t', 't'), ('\x0b', 'v')]
  match letters.lookup c with
  | some letter => ['\x5c', letter]
  | none =>
      if decide (' ' ≤ c) && decide (c ≤ '~') then [c]
      else (Utf8.encode [c]).flatMap octalByte

/-- A text as it is shown, in lines of some width that end in a backslash but for the
last one.  Without a width it is one line. -/
def visibleText (width : Nat) (chars : List Char) : List Char :=
  let (shown, _) := (chars.map visible).foldl (fun (shown, taken) piece =>
    if 0 < width && width ≤ taken + piece.length then
      (shown ++ ['\x5c', '\n'] ++ piece, piece.length)
    else (shown ++ piece, taken + piece.length)) (([] : List Char), 0)
  shown ++ ['$', '\n']

/-! ## Lines -/

def isAtLast (editor : Editor) : Bool := editor.rest.isEmpty

/-- Takes the next line, behind what is already held if there is something to keep. -/
def take? (plan : Plan) (keeps : Bool) (editor : Editor) : Option Editor :=
  match editor.rest with
  | [] => none
  | line :: rest =>
      let flushed := editor.flush plan
      let text := if keeps then flushed.pattern.text ++ plan.mark :: line.text else line.text
      some { flushed with
        pattern := ⟨text, line.hasEnd⟩
        rest
        number := editor.number + 1
        file := line.file
        hasReplaced := false }

/-! ## Selecting lines -/

/-- The pattern of a finder, and the editor that remembers it. -/
def patternOf (finder : Finder) (editor : Editor) : Option Pattern × Editor :=
  match finder.pattern with
  | some pattern => (some pattern, { editor with lastPattern := some pattern })
  | none => (editor.lastPattern, editor)

def isAt (address : Address) (editor : Editor) : Bool × Editor :=
  match address with
  | .line number => (editor.number = number, editor)
  | .last => (editor.isAtLast, editor)
  | .every first step =>
      (if step = 0 then editor.number = first
        else decide (first ≤ editor.number) && (editor.number - first) % step = 0, editor)
  | .fits finder =>
      let (pattern, after) := editor.patternOf finder
      (pattern.any fun pattern => pattern.isIn finder.ignoresCase editor.pattern.text, after)

/-- The range that opens at the line, unless it is of this line alone. -/
def opened? (last : RangeEnd) (editor : Editor) : Option OpenRange :=
  let upTo (number : Nat) : Option OpenRange :=
    if number ≤ editor.number then none else some (.upTo number)
  match last with
  | .address (.line number) => upTo number
  | .address address => some (.fits address)
  | .more count => upTo (editor.number + count)
  | .multiple divisor =>
      if divisor = 0 then none
      else upTo ((editor.number + divisor - 1) / divisor * divisor)

def closeRange (index : Nat) (editor : Editor) : Editor :=
  { editor with ranges := editor.ranges.filter (·.1 != index) }

def openRange (index : Nat) (range : OpenRange) (editor : Editor) : Editor :=
  { editor with ranges := (index, range) :: editor.ranges }

def hasOpenRange (index : Nat) (editor : Editor) : Bool :=
  (editor.ranges.lookup index).isSome

/-- Whether a range has the line, with what is known of the range after it. -/
def isInRange (index : Nat) (first : Address) (last : RangeEnd) (editor : Editor) :
    Bool × Editor :=
  match editor.ranges.lookup index with
  | some (.upTo number) =>
      (decide (editor.number ≤ number),
        if number ≤ editor.number then editor.closeRange index else editor)
  | some (.fits address) =>
      let (isOver, after) := editor.isAt address
      (true, if isOver then after.closeRange index else after)
  | none =>
      let (isFirst, after) := editor.isAt first
      match isFirst, after.opened? last with
      | true, some range => (true, after.openRange index range)
      | _, _ => (isFirst, after)

/-- Whether a command is for the line. -/
def selects (numbered : NumberedCommand) (editor : Editor) : Bool × Editor :=
  let selector := numbered.command.selector
  let (isMeant, after) : Bool × Editor :=
    match selector.first, selector.last with
    | none, _ => (true, editor)
    | some first, none => editor.isAt first
    | some first, some last => editor.isInRange numbered.index first last
  (isMeant != selector.isNegated, after)

/-! ## Replacing -/

/-- How letters are changed: all from some place on, and the next one. -/
structure Lettering where
  all : LetterCase := .plain
  next : Option LetterCase := none

def changeLetter (letterCase : LetterCase) (c : Char) : Char :=
  match letterCase with
  | .upper => c.toUpper
  | .lower => c.toLower
  | .plain => c

def Lettering.apply (lettering : Lettering) : List Char → List Char × Lettering
  | [] => ([], lettering)
  | c :: rest =>
      let first := changeLetter (lettering.next.getD lettering.all) c
      (first :: rest.map (changeLetter lettering.all), { lettering with next := none })

/-- The text that replaces a match. -/
def replacementText (found : Pattern.Match) (lettering : Lettering) :
    List ReplacePart → List Char
  | [] => []
  | part :: rest =>
      match part with
      | .letters letterCase => replacementText found { lettering with all := letterCase } rest
      | .nextLetter letterCase =>
          replacementText found { lettering with next := some letterCase } rest
      | .char c =>
          let (text, after) := lettering.apply [c]
          text ++ replacementText found after rest
      | .group 0 =>
          let (text, after) := lettering.apply found.text
          text ++ replacementText found after rest
      | .group number =>
          let (text, after) := lettering.apply ((found.last.groups.lookup number).getD [])
          text ++ replacementText found after rest

/-- A text with matches replaced from a place on: the one that `countdown` leads to,
and all after it if they are meant.  An empty match does not count right behind another
one.  Without a replacement there is none.  `fuel` bounds the matches. -/
def replaced? (pattern : Pattern) (substitution : Substitution) (fuel countdown : Nat)
    (isBehind : Bool) (before after : List Char) : Option (List Char) :=
  match fuel with
  | 0 => none
  | fuel + 1 => do
      let found ← pattern.find? substitution.finder.ignoresCase before after
      let start := found.start
      let lead := after.take (after.length - start.after.length)
      if found.text.isEmpty && isBehind && lead.isEmpty then
        match after with
        | [] => none
        | c :: rest =>
            let more ← replaced? pattern substitution fuel countdown false (c :: before) rest
            return c :: more
      else
        let further (isDone : Bool) (text : List Char) : Option (List Char) :=
          let next := match found.last.after with
            | c :: rest =>
                if found.text.isEmpty then
                  (replaced? pattern substitution fuel (countdown - 1) false
                    (c :: found.last.before) rest).map (c :: ·)
                else
                  replaced? pattern substitution fuel (countdown - 1) true found.last.before
                    found.last.after
            | [] =>
                if found.text.isEmpty then none
                else replaced? pattern substitution fuel (countdown - 1) true found.last.before []
          match next with
          | some more => some (text ++ more)
          | none => if isDone then some (text ++ found.last.after) else none
        if 1 < countdown then further false (lead ++ found.text)
        else
          let text := lead ++ replacementText found {} substitution.replacement
          if substitution.isGlobal then further true text
          else return text ++ found.last.after

/-- Carries out a substitution. -/
def substitute (plan : Plan) (substitution : Substitution) (editor : Editor) : Editor :=
  let (pattern, known) := editor.patternOf substitution.finder
  let text := known.pattern.text
  let result := pattern.bind fun pattern =>
    replaced? pattern substitution (2 * text.length + 3) substitution.number false [] text
  match result with
  | none => known
  | some text =>
      let changed := { known with
        pattern := { known.pattern with text }
        hasReplaced := true }
      let printed := if substitution.prints then changed.writeLine plan text else changed
      match substitution.file with
      | some name => printed.writeTo plan name text
      | none => printed

/-! ## Commands -/

/-- The part of a text before the first line end. -/
def firstPart (plan : Plan) (text : List Char) : List Char :=
  text.takeWhile (· != plan.mark)

/-- Carries out a command after which the next one follows. -/
def apply (plan : Plan) (verb : Verb) (editor : Editor) : Editor :=
  let pattern := editor.pattern
  let hold := editor.hold
  let joined (first second : Space) : Space :=
    { second with text := first.text ++ plan.mark :: second.text }
  match verb with
  | .substitute substitution => editor.substitute plan substitution
  | .exchange pairs =>
      { editor with
        pattern := { pattern with text := pattern.text.map fun c => (pairs.lookup c).getD c } }
  | .print => editor.writeLine plan pattern.text
  | .printFirst =>
      let text := firstPart plan pattern.text
      editor.write plan (Utf8.encode (text ++ [plan.mark]))
  | .hold => { editor with hold := pattern }
  | .holdMore => { editor with hold := joined hold pattern }
  | .get => { editor with pattern := hold }
  | .getMore => { editor with pattern := joined pattern hold }
  | .swap => { editor with pattern := hold, hold := pattern }
  | .number => editor.write plan (Utf8.encodeText (toString editor.number ++ "\n"))
  | .fileName => editor.write plan (Utf8.encodeText (editor.file ++ "\n"))
  | .list width =>
      editor.write plan (Utf8.encode (visibleText (width.getD plan.width) pattern.text))
  | .append text =>
      { editor with queued := editor.queued ++ [Utf8.encodeText (text ++ "\n")] }
  | .insert text => editor.write plan (Utf8.encodeText (text ++ "\n"))
  | .readFile name => { editor with queued := editor.queued ++ [plan.read name] }
  | .writeFile name => editor.writeTo plan name pattern.text
  | .clear => { editor with pattern := { pattern with text := [] } }
  | _ => editor

/-- How the commands for a line have ended. -/
inductive Flow where
  | finished
  /-- The line is not printed. -/
  | deleted
  /-- The commands are gone through again with what is left of the line. -/
  | again
  | quit (status : Nat) (isSilent : Bool)
  | endless
deriving DecidableEq, Repr

/-- The commands behind the brace that closes a block. -/
def behindBlock (depth : Nat) : List NumberedCommand → List NumberedCommand
  | [] => []
  | numbered :: rest =>
      match numbered.command.verb with
      | .opening => behindBlock (depth + 1) rest
      | .closing => if depth = 0 then rest else behindBlock (depth - 1) rest
      | _ => behindBlock depth rest

/-- The commands behind a label; without a name none. -/
def behindLabel (name : String) : List NumberedCommand → List NumberedCommand
  | [] => []
  | numbered :: rest =>
      if name != "" && numbered.command.verb = .label name then rest else behindLabel name rest

/-- Goes through commands for the line.  `fuel` bounds the commands. -/
def follow (plan : Plan) (fuel : Nat) (commands : List NumberedCommand) (editor : Editor) :
    Editor × Flow :=
  match fuel, commands with
  | 0, _ => (editor, .endless)
  | _, [] => (editor, .finished)
  | fuel + 1, numbered :: rest =>
      let (isMeant, editor) := editor.selects numbered
      match isMeant, numbered.command.verb with
      | false, .opening => follow plan fuel (behindBlock 0 rest) editor
      | false, _ => follow plan fuel rest editor
      | true, .jump name none => follow plan fuel (behindLabel name plan.commands) editor
      | true, .jump name (some whenReplaced) =>
          let after := { editor with hasReplaced := false }
          if editor.hasReplaced = whenReplaced then
            follow plan fuel (behindLabel name plan.commands) after
          else follow plan fuel rest after
      | true, .delete => (editor, .deleted)
      | true, .deleteFirst =>
          if editor.pattern.text.contains plan.mark then
            let left := (editor.pattern.text.dropWhile (· != plan.mark)).tail
            ({ editor with pattern := { editor.pattern with text := left } }, .again)
          else (editor, .deleted)
      | true, .change text =>
          if editor.hasOpenRange numbered.index then (editor, .deleted)
          else (editor.write plan (Utf8.encodeText (text ++ "\n")), .deleted)
      | true, .quit status isSilent => (editor, .quit status isSilent)
      | true, .next =>
          let shown := if plan.isSilent || editor.isAtLast then editor
            else editor.writeLine plan editor.pattern.text
          match shown.take? plan false with
          | some taken => follow plan fuel rest taken
          | none => (editor, .finished)
      | true, .appendNext =>
          match editor.take? plan true with
          | some taken => follow plan fuel rest taken
          | none => (editor, .finished)
      | true, verb => follow plan fuel rest (editor.apply plan verb)

/-- How an edit has ended. -/
inductive Outcome where
  | finished (status : Nat)
  | endless
deriving DecidableEq, Repr

/-- Goes through the commands for the line, and for all lines after it.  `fuel` bounds
the turns, `steps` the commands of each. -/
def turns (plan : Plan) (steps fuel : Nat) (editor : Editor) : Editor × Outcome :=
  match fuel with
  | 0 => (editor, .endless)
  | fuel + 1 =>
      let (after, flow) := editor.follow plan steps plan.commands
      let shown := if plan.isSilent then after else after.writeLine plan after.pattern.text
      let goOn (editor : Editor) : Editor × Outcome :=
        match editor.take? plan false with
        | some taken => turns plan steps fuel taken
        | none => (editor.flush plan, .finished 0)
      match flow with
      | .finished => goOn shown
      | .deleted => goOn after
      | .again => turns plan steps fuel (after.flush plan)
      | .quit status isSilent =>
          if isSilent then (after, .finished status) else (shown.flush plan, .finished status)
      | .endless => (after, .endless)

/-- The ranges that are open before the first line. -/
def firstRanges (commands : List NumberedCommand) : List (Nat × OpenRange) :=
  commands.filterMap fun numbered =>
    match numbered.command.selector.first, numbered.command.selector.last with
    | some (.line 0), some (.address address) => some (numbered.index, .fits address)
    | _, _ => none

/-- Edits some lines. -/
def run (plan : Plan) (lines : List SourceLine) (before : Editor) : Editor × Outcome :=
  let size := lines.foldl (fun size line => size + line.text.length + 1) 1
  let limit := 20000 + 16 * size
  let editor : Editor := {
    rest := lines
    output := before.output
    owesEnd := before.owesEnd
    ranges := firstRanges plan.commands
    files := before.files }
  match editor.take? plan false with
  | some taken => taken.turns plan (limit + 64 * plan.commands.length) limit
  | none => (editor, .finished 0)

end Editor

end DocSamples.Script.Edit
