import DocSamples.Script.Files
import DocSamples.Script.Pattern.Grammar

namespace DocSamples.Script

/-! # Searching lines

Lines are chosen by patterns and shown with their numbers, or counted.
-/

open Text

/-- Letters that cannot be typed stand for options that have only longer names. -/
def grepTable : OptionTable where
  flags := "cvinowxqlLHhsrREFGPyazbITUZ0123456789\x01"
  valued := "emABCfdD\x02\x03\x04\x05\x06"
  names := [("count", 'c'), ("invert-match", 'v'), ("ignore-case", 'i'), ("line-number", 'n'),
    ("only-matching", 'o'), ("word-regexp", 'w'), ("line-regexp", 'x'), ("quiet", 'q'),
    ("silent", 'q'), ("files-with-matches", 'l'), ("files-without-match", 'L'),
    ("with-filename", 'H'), ("no-filename", 'h'), ("no-messages", 's'), ("recursive", 'r'),
    ("dereference-recursive", 'R'), ("extended-regexp", 'E'), ("fixed-strings", 'F'),
    ("basic-regexp", 'G'), ("perl-regexp", 'P'), ("regexp", 'e'), ("file", 'f'),
    ("max-count", 'm'), ("after-context", 'A'), ("before-context", 'B'), ("context", 'C'),
    ("byte-offset", 'b'), ("initial-tab", 'T'), ("null", 'Z'), ("null-data", 'z'), ("text", 'a'),
    ("directories", 'd'), ("devices", 'D'), ("color", '\x01'), ("colour", '\x01'),
    ("line-buffered", '\x01'), ("no-ignore-case", '\x01'), ("include", '\x02'),
    ("exclude", '\x03'), ("exclude-dir", '\x04'), ("binary-files", '\x05'), ("label", '\x06')]

/-- What lines are searched for, and how they are shown. -/
structure Search where
  pattern : Pattern
  arguments : Arguments
  isNamed : Bool

/-- A line of a source. -/
structure Candidate where
  bytes : Utf8.Bytes
  number : Nat
  /-- How many bytes of the source are in front of it. -/
  offset : Nat
  isChosen : Bool

namespace Search

/-! ## Patterns -/

/-- The way the patterns are written. -/
def dialectOf (kind : Option Char) (arguments : Arguments) : Pattern.Dialect where
  isExtended := kind = some 'E' || arguments.has 'E' || arguments.has 'P'
  isLenient := true
  isRich := arguments.has 'P'

/-- The pattern that fits nothing. -/
def never : Pattern := .char ⟨false, []⟩

/-- The pattern that any of some texts describes. -/
def patternOf (arguments : Arguments) (dialect : Pattern.Dialect) (isFixed : Bool)
    (texts : List String) : Except String Pattern := do
  let patterns ← texts.mapM fun text =>
    if isFixed then .ok (Pattern.ofLiteral text.toList)
    else (Pattern.read dialect text.toList).map (·.pattern)
  let any := match patterns with
    | [] => never
    | first :: rest => rest.foldl Pattern.choice first
  if arguments.has 'x' then return .sequence .lineStart (.sequence any .lineEnd)
  else if arguments.has 'w' then return .sequence .freeBefore (.sequence any .freeAfter)
  else return any

/-- What is told of signs of repetition that repeat nothing. -/
def warnings (dialect : Pattern.Dialect) (texts : List String) : String :=
  if dialect.isExtended && !dialect.isRich then
    String.join ((texts.flatMap fun text =>
      Pattern.idleTurns dialect (text.length + 1) true text.toList).map fun sign =>
        "grep: warning: " ++ sign ++ " at start of expression\n")
  else ""

/-- The context that is asked for by a bare number, which is the last of a row of
digits. -/
def bareContext (arguments : Arguments) : Option String :=
  let digits := (arguments.options.map Prod.fst).filter Char.isDigit
  if digits.isEmpty then none else some (String.ofList digits)

/-- A number among the arguments that cannot be used. -/
def numberFault? (arguments : Arguments) : Option String :=
  let contexts := ['A', 'B', 'C'].flatMap arguments.values
  let isCount (text : String) : Bool := (Sum.decimal? text).isSome
  match contexts.find? fun text => !((Sum.decimal? text).any (0 ≤ ·)) with
  | some text => some (text ++ ": invalid context length argument")
  | none => if (arguments.values 'm').all isCount then none else some "invalid max count"

/-! ## Choosing -/

def has (search : Search) : Char → Bool := search.arguments.has

def ignoresCase (search : Search) : Bool := search.has 'i' || search.has 'y'

/-- Whether a line is chosen. -/
def chooses (search : Search) (line : Utf8.Bytes) : Bool :=
  search.pattern.isIn search.ignoresCase (charsOf line) != search.has 'v'

/-- Whether some bytes are taken for something other than text. -/
def isBinary (search : Search) (bytes : Utf8.Bytes) : Bool :=
  bytes.contains 0 && !search.has 'a' && !search.has 'z' &&
    search.arguments.value? '\x05' != some "text"

/-- Lines of which no more are chosen than are wanted. -/
def upTo (most : Option Nat) : List Candidate → List Candidate
  | [] => []
  | line :: rest =>
      if !line.isChosen then line :: upTo most rest
      else if most = some 0 then { line with isChosen := false } :: upTo most rest
      else line :: upTo (most.map (· - 1)) rest

/-- How many lines are wanted, if there is a limit. -/
def most? (search : Search) : Option Nat :=
  ((search.arguments.value? 'm').bind Sum.decimal?).bind fun number =>
    if number < 0 then none else some number.toNat

/-- The lines of a source.  Zero bytes end lines of what is not text. -/
def linesOf (search : Search) (bytes : Utf8.Bytes) : List Candidate :=
  let isLeftOut := (search.has 'I' || search.arguments.value? '\x05' = some "without-match") &&
    search.isBinary bytes
  let ended := if search.isBinary bytes then bytes.map fun byte => if byte = 0 then 10 else byte
    else bytes
  let lines := if isLeftOut || search.most? = some 0 then []
    else recordsOf (search.has 'z') ended
  upTo search.most?
    (lines.foldl (fun (lines, number, offset) bytes =>
      (⟨bytes, number, offset, search.chooses bytes⟩ :: lines, number + 1,
        offset + bytes.length + 1)) (([] : List Candidate), 1, 0)).1.reverse

/-- Whether a line of a source is chosen. -/
def choosesAny (search : Search) (source : Source) : Bool :=
  match source.content with
  | .ok bytes => (search.linesOf bytes).any (·.isChosen)
  | .error _ => false

/-! ## Showing -/

/-- The parts of a line that fit, from a spot on, and how many bytes of the line are in
front of each.  `fuel` bounds them. -/
def parts (search : Search) (fuel : Nat) (before after : List Char) :
    List (Nat × List Char) :=
  match fuel with
  | 0 => []
  | fuel + 1 =>
      match search.pattern.find? search.ignoresCase before after with
      | none => []
      | some found =>
          if found.text.isEmpty then
            match found.last.after with
            | [] => []
            | c :: rest => search.parts fuel (c :: found.last.before) rest
          else
            ((Utf8.encode found.start.before).length, found.text) ::
              search.parts fuel found.last.before found.last.after

/-- How many lines around a chosen one are shown. -/
def around (search : Search) (letter : Char) : Nat :=
  (((search.arguments.value? letter).or
    ((search.arguments.value? 'C').or (bareContext search.arguments))).bind Sum.digits?).getD 0

/-- Whether lines around chosen ones are asked for. -/
def hasContext (search : Search) : Bool :=
  ['A', 'B', 'C'].any search.has || (bareContext search.arguments).isSome

/-- The name of a source as it is shown. -/
def nameOf (search : Search) (source : Source) : String :=
  if source.name = "-" then (search.arguments.value? '\x06').getD "(standard input)"
  else source.name

/-- The name of a source with the mark behind it. -/
def namedLead (search : Search) (source : Source) (mark : String) : String :=
  search.nameOf source ++ (if search.has 'Z' then "\x00" else mark)

/-- How wide numbers are where they are aligned, which is as wide as the length of the
source. -/
def numberWidth (search : Search) (source : Source) : Nat :=
  match source.content with
  | .ok bytes =>
      if source.name = "-" then 20
      else (toString (bytes.length + if search.has 'n' then 1 else 0)).length
  | .error _ => 0

/-- What stands in front of something that is shown. -/
def lead (search : Search) (source : Source) (number offset : Nat) (mark : String) : String :=
  let place (isShown : Bool) (number : Nat) : String :=
    if isShown then
      padLeft (if search.has 'T' then search.numberWidth source else 0) (toString number) ++ mark
    else ""
  let lead := (if search.isNamed then search.namedLead source mark else "") ++
    place (search.has 'n') number ++ place (search.has 'b') offset
  if search.has 'T' && lead != "" then lead ++ "\t" else lead

/-- What is shown of one line, as pieces with the bytes that have to be text. -/
def pieces (search : Search) (source : Source) (line : Candidate) :
    List (String × Utf8.Bytes) :=
  if search.has 'o' then
    if search.has 'v' || !line.isChosen then []
    else (search.parts (line.bytes.length + 1) [] (charsOf line.bytes)).map fun (ahead, part) =>
      (search.lead source line.number (line.offset + ahead) ":", Utf8.encode part)
  else
    [(search.lead source line.number line.offset (if line.isChosen then ":" else "-"),
      line.bytes)]

/-- Whether some bytes are a text. -/
def isText (bytes : Utf8.Bytes) : Bool :=
  (Utf8.decode bytes).toOption.isSome

/-- What is shown of some lines of a source, with a sign between groups of them that
are not next to each other, and whether a line is not text, with which it ends. -/
def shownLines (search : Search) (source : Source) (hasShown : Bool)
    (lines : List Candidate) : Utf8.Bytes × Bool :=
  let numbers := (lines.filter (·.isChosen)).map (·.number)
  let wanted := lines.filter fun line =>
    numbers.any fun chosen =>
      decide (chosen ≤ line.number + search.around 'B') &&
        decide (line.number ≤ chosen + search.around 'A')
  let rows := wanted.zip (none :: wanted.map fun line => some line.number)
  let mark : UInt8 := if search.has 'z' then 0 else 10
  let isTextual := search.has 'a' || search.arguments.value? '\x05' = some "text"
  let shown := rows.flatMap fun (line, previous) =>
    let isApart := match previous with
      | some number => number + 1 != line.number
      | none => hasShown
    let gap := if search.hasContext && isApart then
        [(("--\n" : String), (none : Option Utf8.Bytes))]
      else []
    gap ++ (search.pieces source line).map fun (lead, bytes) => (lead, some bytes)
  let isSound (piece : String × Option Utf8.Bytes) : Bool :=
    isTextual || piece.2.all isText
  ((shown.takeWhile isSound).flatMap fun (lead, bytes) =>
    Utf8.encodeText lead ++ (bytes.map (· ++ [mark])).getD [], !shown.all isSound)

/-- Shows what is wanted of a source. -/
def tell (search : Search) (hasShown : Bool) (source : Source) (bytes : Utf8.Bytes)
    (machine : Machine) : Machine :=
  let lines := search.linesOf bytes
  let isAny := lines.any (·.isChosen)
  let isListed := if search.has 'l' then isAny else !isAny
  let binary (machine : Machine) : Machine :=
    machine.complain machine.status ("grep: " ++ search.nameOf source ++ ": binary file matches")
  if search.has 'q' then machine
  else if search.has 'l' || search.has 'L' then
    if isListed then machine.say (search.namedLead source "\n") else machine
  else if search.has 'c' then
    machine.say ((if search.isNamed then search.namedLead source ":" else "") ++
      toString (lines.filter (·.isChosen)).length ++ "\n")
  else if search.isBinary bytes then if isAny then binary machine else machine
  else
    let (shown, isBroken) := search.shownLines source hasShown lines
    let told := machine.write shown
    if isBroken then binary told else told

end Search

/-! ## Files -/

/-- Whether a name is left out by wildcards, of which the last one that it fits
decides.  One that fits none is left out where the first tells what to take. -/
def isLeftOut (takes : Option Char) (leaves : Char) (arguments : Arguments) (name : String) :
    Bool :=
  let given := arguments.options.filter fun (letter, _) =>
    some letter = takes || letter = leaves
  let fits (pattern : String) : Bool :=
    Field.isMatch (Field.wildcard (Field.ofText false pattern)) name
  match given.reverse.find? fun (_, pattern) => fits pattern with
  | some (letter, _) => letter = leaves
  | none => given.head?.any fun (letter, _) => some letter = takes

/-- The names of the files at a place and below it.  `fuel` bounds the depth. -/
def filesBelow (arguments : Arguments) (tree : Tree) (fuel : Nat) (name : String)
    (place : Place) : List String :=
  match fuel, tree.lookup place with
  | _, some (.file _) =>
      if isLeftOut (some '\x02') '\x03' arguments (baseName name) then [] else [name]
  | fuel + 1, some .directory =>
      if isLeftOut none '\x04' arguments (baseName name) then []
      else
        (sortNames (tree.namesIn place)).flatMap fun child =>
          filesBelow arguments tree fuel (if name = "" then child else nameBelow name child)
            (place ++ [child])
  | _, _ => []

/-- The files that are searched for a name: all below a directory where that is
wanted. -/
def searchedNames (arguments : Arguments) (machine : Machine) (names : List String) :
    List String :=
  let isDeep := arguments.has 'r' || arguments.has 'R' || arguments.value? 'd' = some "recurse"
  let isSkipped (name : String) : Bool :=
    arguments.value? 'd' = some "skip" && isDirectoryUnder machine name
  let below (shown name : String) : List String :=
    match entryUnder machine name with
    | .ok (place, _) =>
        filesBelow arguments machine.tree (machine.tree.entries.length + 1) shown place
    | .error _ => [name]
  if isDeep then
    if names.isEmpty then below "" "." else names.flatMap fun name => below name name
  else names.filter fun name =>
    name = "-" || !(isSkipped name || isLeftOut (some '\x02') '\x03' arguments (baseName name))

/-- Searches some sources for a pattern. -/
def searchSources (search : Search) (machine : Machine) (sources : List Source) : Machine :=
  let anyChosen := sources.any search.choosesAny
  let read := if search.has 'q' then sources.takeWhile (!search.choosesAny ·) else sources
  let begun := machine.leave (if anyChosen then 0 else 1)
  let told := (read.foldl (fun (machine, hasShown) source =>
    let after := match source.content with
      | .ok bytes => search.tell hasShown source bytes machine
      | .error cause =>
          if search.has 's' then machine.leave 2
          else machine.complain 2 ("grep: " ++ source.name ++ ": " ++ cause.words)
    (after, hasShown || search.choosesAny source)) (begun, false)).1
  if anyChosen && search.has 'q' then told.leave 0 else told

/-- Shows the lines that a pattern is in; it fails where there are none. -/
def grep (kind : Option Char) (call : Call) (machine : Machine) : Machine :=
  let usage := "Usage: grep [OPTION]... PATTERNS [FILE]...\n" ++ advice "grep"
  let refuse (text : String) : Machine := machine.complain 2 ("grep: " ++ text)
  match grepTable.read call.arguments with
  | .error fault => refuse (fault.message ++ "\n" ++ usage)
  | .ok arguments =>
      let given := arguments.values 'e'
      let isFromFile := arguments.has 'f'
      let fromFile := (arguments.value? 'f').map (sourceOf machine)
      let (texts, names) := match given, isFromFile, arguments.operands with
        | [], false, pattern :: names => ([pattern], names)
        | _, _, names => (given, names)
      match Search.numberFault? arguments, fromFile with
      | some fault, _ => refuse fault
      | none, some ⟨name, .error cause⟩ => refuse (name ++ ": " ++ cause.words)
      | none, _ =>
          let listed := match fromFile with
            | some ⟨_, .ok bytes⟩ => (byteLines bytes).map fun line => String.ofList (charsOf line)
            | _ => []
          let all := texts.flatMap (·.splitOn "\n") ++ listed
          if given.isEmpty && !isFromFile && arguments.operands.isEmpty then
            machine.complain 2 usage
          else
            let isFixed := kind = some 'F' || arguments.has 'F'
            let dialect := Search.dialectOf kind arguments
            let warnings := if isFixed then "" else Search.warnings dialect all
            let warned := machine.writeTo machine.errors (Utf8.encodeText warnings)
            match Search.patternOf arguments dialect isFixed all with
            | .error fault => warned.complain 2 ("grep: " ++ fault)
            | .ok pattern =>
                let isDeep := arguments.has 'r' || arguments.has 'R' ||
                  arguments.value? 'd' = some "recurse"
                let searched := searchedNames arguments machine names
                let isInput := names.isEmpty && !isDeep
                let sources := if searched.isEmpty && !isInput then []
                  else sourcesOf machine searched
                let search : Search := {
                  pattern
                  arguments
                  isNamed := (arguments.has 'H' || 1 < names.length || isDeep) &&
                    !arguments.has 'h' }
                let found := searchSources search warned sources
                if isInput then consume [] found else consume ("" :: searched) found

end DocSamples.Script
