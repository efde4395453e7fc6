import DocSamples.Script.Edit

namespace DocSamples.Script.Edit

/-! # Reading edits

An edit is read command by command.  A fault is placed by how many characters have
been read.
-/

/-- What is wrong with an edit, and how many characters are left behind it.  Without a
number it is wrong as a whole. -/
structure Fault where
  left : Option Nat
  text : String
deriving DecidableEq, Repr

def faultAt {α : Type} (rest : List Char) (text : String) : Except Fault α :=
  .error ⟨some rest.length, text⟩

def isBlankChar (c : Char) : Bool :=
  c = ' ' || c = '\t' || c = '\n' || c = '\r'

def numberIn (chars : List Char) : Nat :=
  (String.ofList (chars.takeWhile Char.isDigit)).toNat?.getD 0

/-- Where an edit is wrong, and the status that this leaves. -/
structure Refusal where
  status : Nat
  text : String
deriving DecidableEq, Repr

/-! ## Texts between marks -/

/-- The text up to a mark, and what follows the mark.  A mark after a backslash stands
for itself, and one between brackets does not count where brackets do.  `fuel` bounds
the characters. -/
def splitMark (mark : Char) (hasBrackets inBrackets : Bool) (fuel : Nat) :
    List Char → Option (List Char × List Char)
  | [] => none
  | c :: rest =>
      match fuel with
      | 0 => none
      | fuel + 1 =>
          let add (taken : List Char) (inBrackets : Bool) (rest : List Char) :=
            (splitMark mark hasBrackets inBrackets fuel rest).map fun (text, after) =>
              (taken ++ text, after)
          if inBrackets then add [c] (c != ']') rest
          else if c = mark then some ([], rest)
          else if c = '\x5c' then
            match rest with
            | [] => none
            | d :: more =>
                if d = mark then add (if mark = 'n' then ['\x5c', d] else [d]) false more
                else if d = '\n' && hasBrackets then add ['\n'] false more
                else add [c, d] false more
          else if c = '[' && hasBrackets then
            match rest with
            | '^' :: ']' :: more => add [c, '^', ']'] true more
            | ']' :: more => add [c, ']'] true more
            | _ => add [c] true rest
          else add [c] false rest

/-- The value of digits of a base at the start of a text, so many at most, and what
follows them. -/
def readDigits (base most : Nat) (chars : List Char) : Option (Nat × List Char) :=
  let digits := (chars.take most).takeWhile fun c => (digitValue? base c).isSome
  if digits.isEmpty then none
  else
    some ((digits.filterMap (digitValue? base)).foldl (fun value digit => value * base + digit) 0,
      chars.drop digits.length)
where
  digitValue? (base : Nat) (c : Char) : Option Nat :=
    let value := if c.isDigit then c.toNat - '0'.toNat else c.toLower.toNat - 'a'.toNat + 10
    if c.isAlphanum && decide (value < base) then some value else none

/-- The character that is given by its number behind a backslash, and what follows. -/
def numberedChar? : List Char → Option (Char × List Char)
  | 'x' :: rest => (readDigits 16 2 rest).map fun (value, after) => (Char.ofNat value, after)
  | 'o' :: rest => (readDigits 8 3 rest).map fun (value, after) => (Char.ofNat value, after)
  | 'd' :: rest => (readDigits 10 3 rest).map fun (value, after) => (Char.ofNat value, after)
  | 'c' :: c :: rest => some (Char.ofNat (Nat.xor c.toUpper.toNat 64), rest)
  | _ => none

/-- A text with characters in place of their numbers.  `fuel` bounds them. -/
def withNumbered (fuel : Nat) (chars : List Char) : List Char :=
  match fuel, chars with
  | 0, _ => chars
  | _, [] => []
  | fuel + 1, '\x5c' :: rest =>
      match numberedChar? rest, rest with
      | some (c, after), _ => c :: withNumbered fuel after
      | none, c :: more => '\x5c' :: c :: withNumbered fuel more
      | none, [] => ['\x5c']
  | fuel + 1, c :: rest => c :: withNumbered fuel rest

/-- What replaces a match.  `fuel` bounds the parts. -/
def readReplacement (fuel : Nat) (chars : List Char) : List ReplacePart :=
  match fuel, chars with
  | 0, _ => []
  | _, [] => []
  | fuel + 1, '\x5c' :: c :: rest =>
      let part : ReplacePart :=
        if c.isDigit then .group (c.toNat - '0'.toNat)
        else
          match c with
          | 'U' => .letters .upper
          | 'L' => .letters .lower
          | 'E' => .letters .plain
          | 'u' => .nextLetter .upper
          | 'l' => .nextLetter .lower
          | _ => .char ((Pattern.control? c).getD c)
      match numberedChar? (c :: rest) with
      | some (numbered, after) => .char numbered :: readReplacement fuel after
      | none => part :: readReplacement fuel rest
  | fuel + 1, '&' :: rest => .group 0 :: readReplacement fuel rest
  | fuel + 1, c :: rest => .char c :: readReplacement fuel rest

/-- The characters of a list in which a backslash takes the meaning of the next one. -/
def plainChars : List Char → List Char
  | '\x5c' :: c :: rest =>
      (if c = '\x5c' then ['\x5c'] else match Pattern.control? c with
        | some control => [control]
        | none => ['\x5c', c]) ++ plainChars rest
  | c :: rest => c :: plainChars rest
  | [] => []

/-! ## Addresses -/

/-- Whether a sign of repetition stands where nothing can be repeated. -/
def startsWithTurns : List Char → Bool
  | '^' :: rest => startsWithTurns rest
  | '(' :: rest => startsWithTurns rest
  | c :: _ => ['*', '+', '?', '\x7b'].contains c
  | [] => false

/-- The finder of a text; a text of nothing stands for the last pattern. -/
def readFinder (isExtended ignoresCase : Bool) (text rest : List Char) :
    Except Fault (Finder × Nat) :=
  if text.isEmpty then .ok (⟨none, ignoresCase⟩, 9)
  else if isExtended && startsWithTurns text then
    faultAt rest "Invalid preceding regular expression"
  else
    match Pattern.read { isExtended, hasControls := true } (withNumbered text.length text) with
    | .ok compiled => .ok (⟨some compiled.pattern, ignoresCase⟩, compiled.groups)
    | .error fault => faultAt rest fault

/-- Reads a pattern that is an address, up to its mark. -/
def readPatternAddress (isExtended : Bool) (mark : Char) (chars : List Char) :
    Except Fault (Address × List Char) :=
  match splitMark mark true false (chars.length + 1) chars with
  | none => faultAt [] "unterminated address regex"
  | some (text, rest) => do
      let ignoresCase := rest.head? = some 'I'
      let rest := if ignoresCase then rest.tail else rest
      let (finder, _) ← readFinder isExtended ignoresCase text rest
      return (.fits finder, rest)

/-- Reads an address, if there is one. -/
def readAddress (isExtended : Bool) (chars : List Char) :
    Except Fault (Option Address × List Char) :=
  match chars with
  | '$' :: rest => .ok (some .last, rest)
  | '/' :: rest => do
      let (address, rest) ← readPatternAddress isExtended '/' rest
      return (some address, rest)
  | '\x5c' :: mark :: rest => do
      let (address, rest) ← readPatternAddress isExtended mark rest
      return (some address, rest)
  | c :: rest =>
      if c = '+' || c = '~' then
        faultAt rest.tail "invalid usage of +N or ~N as first address"
      else if c.isDigit then
        let first := numberIn chars
        match chars.dropWhile Char.isDigit with
        | '~' :: rest => .ok (some (.every first (numberIn rest)), rest.dropWhile Char.isDigit)
        | rest => .ok (some (.line first), rest)
      else .ok (none, chars)
  | [] => .ok (none, [])

/-- Reads the end of a range. -/
def readRangeEnd (isExtended : Bool) (chars : List Char) :
    Except Fault (RangeEnd × List Char) :=
  match chars with
  | '+' :: rest => .ok (.more (numberIn rest), rest.dropWhile Char.isDigit)
  | '~' :: rest => .ok (.multiple (numberIn rest), rest.dropWhile Char.isDigit)
  | _ => do
      match ← readAddress isExtended chars with
      | (some address, rest) => return (.address address, rest)
      | (none, rest) => faultAt rest.tail "unexpected \x60,'"

/-- Reads which lines a command is for. -/
def readSelector (isExtended : Bool) (chars : List Char) :
    Except Fault (Selector × List Char) := do
  let (first, rest) ← readAddress isExtended chars
  let rest := rest.dropWhile isBlankChar
  let (last, rest) ← match first, rest with
    | some _, ',' :: rest => do
        let (last, rest) ← readRangeEnd isExtended (rest.dropWhile isBlankChar)
        pure (some last, rest)
    | _, _ => pure (none, rest)
  let rest := rest.dropWhile isBlankChar
  let startsEarly := match first, last with
    | some (.line 0), some (.address (.fits _)) => false
    | some (.line 0), _ => true
    | _, _ => false
  if startsEarly then faultAt rest.tail "invalid usage of line address 0"
  match rest with
  | '!' :: rest =>
      let rest := rest.dropWhile isBlankChar
      if rest.head? = some '!' then faultAt rest.tail "multiple \x60!'s"
      else return (⟨first, last, true⟩, rest)
  | _ => return (⟨first, last, false⟩, rest)

/-! ## Commands -/

/-- Reads the letters behind a substitution. -/
def readFlags (fuel : Nat) (substitution : Substitution) (ignoresCase hasNumber : Bool)
    (chars : List Char) : Except Fault (Substitution × Bool × List Char) :=
  match fuel, chars with
  | 0, _ => .ok (substitution, ignoresCase, chars)
  | _, [] => .ok (substitution, ignoresCase, [])
  | fuel + 1, c :: rest =>
      match c with
      | 'g' =>
          if substitution.isGlobal then faultAt rest "multiple \x60g' options to \x60s' command"
          else readFlags fuel { substitution with isGlobal := true } ignoresCase hasNumber rest
      | 'p' =>
          if substitution.prints then faultAt rest "multiple \x60p' options to \x60s' command"
          else readFlags fuel { substitution with prints := true } ignoresCase hasNumber rest
      | 'i' => readFlags fuel substitution true hasNumber rest
      | 'I' => readFlags fuel substitution true hasNumber rest
      | 'm' => readFlags fuel substitution ignoresCase hasNumber rest
      | 'M' => readFlags fuel substitution ignoresCase hasNumber rest
      | 'w' =>
          let name := (rest.dropWhile isSpace).takeWhile (· != '\n')
          .ok ({ substitution with file := some (String.ofList name) }, ignoresCase,
            rest.dropWhile (· != '\n'))
      | _ =>
          if c.isDigit then
            if hasNumber then
              faultAt rest "multiple number options to \x60s' command"
            else if numberIn chars = 0 then
              faultAt rest "number option to \x60s' command may not be zero"
            else
              readFlags fuel { substitution with number := numberIn chars } ignoresCase true
                (chars.dropWhile Char.isDigit)
          else if c = ' ' then readFlags fuel substitution ignoresCase hasNumber rest
          else if isBlankChar c || c = ';' || c = '\x7d' || c = '#' then
            .ok (substitution, ignoresCase, chars)
          else faultAt rest "unknown option to \x60s'"

def readSubstitution (isExtended : Bool) (chars : List Char) :
    Except Fault (Verb × List Char) :=
  match chars with
  | [] => faultAt [] "unterminated \x60s' command"
  | mark :: rest =>
      let parts := do
        let (pattern, rest) ← splitMark mark true false (rest.length + 1) rest
        let (replacement, rest) ← splitMark mark false false (rest.length + 1) rest
        return (pattern, replacement, rest)
      match parts with
      | none => faultAt [] "unterminated \x60s' command"
      | some (pattern, replacement, rest) => do
          let plain : Substitution :=
            { finder := ⟨none, false⟩
              replacement := readReplacement (replacement.length + 1) replacement }
          let (flagged, ignoresCase, rest) ← readFlags (rest.length + 1) plain false false rest
          let (finder, groups) ← readFinder isExtended ignoresCase pattern rest
          let wrong? (part : ReplacePart) : Option Nat :=
            match part with
            | .group number => if groups < number then some number else none
            | _ => none
          match flagged.replacement.findSome? wrong? with
          | some number =>
              faultAt rest ("invalid reference \\" ++ toString number ++
                " on \x60s' command's RHS")
          | none => return (.substitute { flagged with finder }, rest)

def readExchange (chars : List Char) : Except Fault (Verb × List Char) :=
  match chars with
  | [] => faultAt [] "unterminated \x60y' command"
  | mark :: rest =>
      let parts := do
        let (sources, rest) ← splitMark mark false false (rest.length + 1) rest
        let (targets, rest) ← splitMark mark false false (rest.length + 1) rest
        return (plainChars (withNumbered sources.length sources),
          plainChars (withNumbered targets.length targets), rest)
      match parts with
      | none => faultAt [] "unterminated \x60y' command"
      | some (sources, targets, rest) =>
          if sources.length != targets.length then
            faultAt rest "strings for \x60y' command are different lengths"
          else .ok (.exchange (sources.zip targets), rest)

/-- Reads lines of text; a backslash at the end of one joins it to the next. -/
def readTextLines : List Char → List Char × List Char
  | [] => ([], [])
  | ['\x5c'] => ([], [])
  | '\x5c' :: c :: rest =>
      let (text, after) := readTextLines rest
      ((if c = '\n' then c else (Pattern.control? c).getD c) :: text, after)
  | '\n' :: rest => ([], rest)
  | c :: rest =>
      let (text, after) := readTextLines rest
      (c :: text, after)

/-- Reads the text of a command that adds one. -/
def readText (chars : List Char) : Except Fault (String × List Char) :=
  let start := chars.dropWhile isSpace
  match start with
  | [] => faultAt [] "expected \\ after \x60a', \x60c' or \x60i'"
  | '\x5c' :: rest =>
      let body := match rest.dropWhile isSpace with
        | '\n' :: more => more
        | _ => rest
      if rest.isEmpty then faultAt [] "expected \\ after \x60a', \x60c' or \x60i'"
      else
        let (text, after) := readTextLines body
        .ok (String.ofList text, after)
  | _ =>
      let (text, after) := readTextLines start
      .ok (String.ofList text, after)

/-- Reads a name up to a mark that ends it. -/
def readName (ends : Char → Bool) (chars : List Char) : String × List Char :=
  let start := chars.dropWhile isSpace
  (String.ofList (start.takeWhile (!ends ·)), start.dropWhile (!ends ·))

def readLabel (chars : List Char) : String × List Char :=
  readName (fun c => isBlankChar c || c = ';' || c = '\x7d') chars

/-- The verbs that are a letter alone. -/
def bareVerbs : List (Char × Verb) :=
  [('p', .print), ('P', .printFirst), ('d', .delete), ('D', .deleteFirst), ('n', .next),
    ('N', .appendNext), ('h', .hold), ('H', .holdMore), ('g', .get), ('G', .getMore), ('x', .swap),
    ('=', .number), ('z', .clear), ('F', .fileName)]

/-- Reads the name of a file. -/
def readFileName (chars : List Char) : Except Fault (String × List Char) :=
  let (name, after) := readName (· = '\n') chars
  if name = "" then faultAt after "missing filename in r/R/w/W commands" else .ok (name, after)

/-- Reads a verb for some lines.  The rest tells whether the end of the command has been
read. -/
def readVerb (isExtended : Bool) (selector : Selector) (chars : List Char) :
    Except Fault (Verb × List Char × Bool) :=
  match chars with
  | [] => faultAt [] "missing command"
  | c :: rest =>
      let withText (make : String → Verb) : Except Fault (Verb × List Char × Bool) := do
        let (text, rest) ← readText rest
        return (make text, rest, true)
      let withName (make : String → Verb) : Verb × List Char × Bool :=
        let (name, rest) := readLabel rest
        (make name, rest, false)
      let withFile (make : String → Verb) : Except Fault (Verb × List Char × Bool) := do
        let (name, rest) ← readFileName rest
        return (make name, rest, false)
      let quitting (isSilent : Bool) : Except Fault (Verb × List Char × Bool) :=
        let digits := rest.dropWhile isSpace
        if selector.last.isSome then faultAt rest "command only uses one address"
        else .ok (.quit (numberIn digits) isSilent, digits.dropWhile Char.isDigit, false)
      match c with
      | '\x7b' => .ok (.opening, rest, true)
      | '\x7d' => .ok (.closing, rest, false)
      | 's' => do
          let (verb, rest) ← readSubstitution isExtended rest
          return (verb, rest, false)
      | 'y' => do
          let (verb, rest) ← readExchange rest
          return (verb, rest, false)
      | 'a' => withText .append
      | 'i' => withText .insert
      | 'c' => withText .change
      | ':' =>
          let (name, after) := readLabel rest
          if selector.first.isSome then faultAt rest ": doesn't want any addresses"
          else if name = "" then faultAt rest "\":\" lacks a label"
          else .ok (.label name, after, true)
      | 'b' => .ok (withName (.jump · none))
      | 't' => .ok (withName (.jump · (some true)))
      | 'T' => .ok (withName (.jump · (some false)))
      | 'r' => withFile .readFile
      | 'w' => withFile .writeFile
      | 'l' =>
          let digits := rest.dropWhile isSpace
          let width := if digits.head?.any Char.isDigit then some (numberIn digits) else none
          .ok (.list width, digits.dropWhile Char.isDigit, false)
      | 'q' => quitting false
      | 'Q' => quitting true
      | '#' => faultAt rest "comments don't accept any addresses"
      | _ =>
          match bareVerbs.lookup c with
          | some verb => .ok (verb, rest, false)
          | none => faultAt rest ("unknown command: \x60" ++ String.singleton c ++ "'")

/-- Reads what ends a command. -/
def readEnd (chars : List Char) : Except Fault (List Char) :=
  match chars.dropWhile isSpace with
  | [] => .ok []
  | c :: rest =>
      if c = ';' || c = '\n' then .ok rest
      else if c = '\x7d' || c = '#' then .ok (c :: rest)
      else faultAt rest "extra characters after command"

/-- Reads commands; `depth` is how many braces are open, `fuel` bounds the commands. -/
def readCommands (fuel : Nat) (isExtended : Bool) (depth : Nat) (chars : List Char) :
    Except Fault (List Command) :=
  match fuel with
  | 0 => .ok []
  | fuel + 1 =>
      match chars.dropWhile fun c => isBlankChar c || c = ';' with
      | [] =>
          if depth = 0 then .ok [] else .error ⟨none, "unmatched \x60\x7b'"⟩
      | '#' :: rest => readCommands fuel isExtended depth (rest.dropWhile (· != '\n'))
      | start => do
          let (selector, rest) ← readSelector isExtended start
          let (verb, rest, isOver) ← readVerb isExtended selector rest
          if verb = .closing && depth = 0 then faultAt rest "unexpected \x60\x7d'"
          else
            let depth' := if verb = .opening then depth + 1
              else if verb = .closing then depth - 1 else depth
            let after ← if isOver then pure rest else readEnd rest
            return ⟨selector, verb⟩ :: (← readCommands fuel isExtended depth' after)

/-- The label that a jump asks for and that is not there. -/
def missingLabel? (commands : List Command) : Option String :=
  let labels := commands.filterMap fun command =>
    match command.verb with
    | .label name => some name
    | _ => none
  commands.findSome? fun command =>
    match command.verb with
    | .jump name _ => if name = "" || labels.contains name then none else some name
    | _ => none

/-- The finders of a command in the order in which they are used. -/
def findersOf (command : Command) : List Finder :=
  let first := match command.selector.first with
    | some (.fits finder) => [finder]
    | _ => []
  let last := match command.selector.last with
    | some (.address (.fits finder)) => [finder]
    | _ => []
  let own := match command.verb with
    | .substitute substitution => [substitution.finder]
    | _ => []
  first ++ last ++ own

/-- Reads an edit, and tells what is wrong with it. -/
def read (isExtended : Bool) (text : String) : Except Refusal (List Command) :=
  let chars := text.toList
  let placed (place : Nat) (text : String) : Refusal :=
    ⟨1, "-e expression #1, char " ++ toString place ++ ": " ++ text⟩
  match readCommands (chars.length + 1) isExtended 0 chars with
  | .error fault => .error (placed ((fault.left.map (chars.length - ·)).getD 0) fault.text)
  | .ok commands =>
      match missingLabel? commands, (commands.flatMap findersOf).head? with
      | some name, _ => .error ⟨4, "can't find label for jump to \x60" ++ name ++ "'"⟩
      | none, some ⟨none, _⟩ => .error (placed 0 "no previous regular expression")
      | none, _ => .ok commands

end DocSamples.Script.Edit
