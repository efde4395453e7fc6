import DocSamples.Script.Token
import DocSamples.Wildcard

namespace DocSamples.Script

/-! # Patterns

A pattern describes parts of a line.  Of the parts that fit, the one that begins
first is taken, and of those that begin there the longest.
-/

inductive Pattern where
  | nothing
  | char (charClass : CharClass)
  | sequence (first second : Pattern)
  | choice (first second : Pattern)
  /-- At least so many times, and at most so many if there is a limit. -/
  | repeated (inner : Pattern) (least : Nat) (most : Option Nat)
  | group (number : Nat) (inner : Pattern)
  /-- What a group has matched, once more. -/
  | again (number : Nat)
  | lineStart
  | lineEnd
  /-- The place where a word begins or ends. -/
  | wordStart
  | wordEnd
  | insideWord
  /-- No character of a word is before, or after. -/
  | freeBefore
  | freeAfter
deriving DecidableEq, Repr

/-- A place in a line: the characters before it, nearest first, and those after it,
with what groups have matched so far, latest first. -/
structure Spot where
  before : List Char
  after : List Char
  groups : List (Nat × List Char) := []
deriving DecidableEq, Repr

namespace Pattern

def anyChar : CharClass := ⟨true, []⟩

def ofChar (c : Char) : Pattern := .char ⟨false, [(c, c)]⟩

/-- A text that stands for itself. -/
def ofLiteral (chars : List Char) : Pattern :=
  chars.foldr (fun c rest => .sequence (ofChar c) rest) .nothing

def isWordChar (c : Char) : Bool :=
  c.isAlphanum || c = '_'

/-! ## Matching -/

def accepts (ignoresCase : Bool) (charClass : CharClass) (c : Char) : Bool :=
  if ignoresCase then charClass.contains c.toLower || charClass.contains c.toUpper
  else charClass.contains c

/-- The spot behind some characters, if they follow. -/
def pass? (ignoresCase : Bool) (spot : Spot) : List Char → Option Spot
  | [] => some spot
  | c :: rest =>
      match spot.after with
      | d :: after =>
          if c = d || (ignoresCase && c.toLower = d.toLower) then
            pass? ignoresCase { spot with before := d :: spot.before, after } rest
          else none
      | [] => none

/-- Leaves out spots that are as far along with the same groups as an earlier one. -/
def distinct (spots : List Spot) : List Spot :=
  spots.foldl (fun kept spot =>
    if kept.any fun other =>
        other.after.length == spot.after.length && other.groups == spot.groups then kept
    else kept ++ [spot]) []

/-- The spots after steps that are taken again and again, the furthest first.  A step
that gets nowhere is taken only if it has to be.  `fuel` bounds the steps. -/
def turns (step : Spot → List Spot) (fuel least : Nat) (most : Option Nat) (spot : Spot) :
    List Spot :=
  match fuel with
  | 0 => if least = 0 then [spot] else []
  | fuel + 1 =>
      let further :=
        if most = some 0 then []
        else (step spot).flatMap fun next =>
          if least = 0 && next.after.length = spot.after.length then []
          else turns step fuel (least - 1) (most.map (· - 1)) next
      if least = 0 then further ++ [spot] else further

/-- The spots that a pattern leads to, the preferred ones first. -/
def ends (ignoresCase : Bool) (pattern : Pattern) (spot : Spot) : List Spot :=
  let wordBefore := spot.before.head?.any isWordChar
  let wordAfter := spot.after.head?.any isWordChar
  match pattern with
  | .nothing => [spot]
  | .char charClass =>
      match spot.after with
      | c :: after =>
          if accepts ignoresCase charClass c then
            [{ spot with before := c :: spot.before, after }]
          else []
      | [] => []
  | .sequence first second =>
      distinct ((first.ends ignoresCase spot).flatMap (second.ends ignoresCase))
  | .choice first second =>
      distinct (first.ends ignoresCase spot ++ second.ends ignoresCase spot)
  | .repeated inner least most =>
      distinct (turns (inner.ends ignoresCase) (spot.after.length + least + 1) least most spot)
  | .group number inner =>
      (inner.ends ignoresCase spot).map fun next =>
        let matched := spot.after.take (spot.after.length - next.after.length)
        { next with groups := (number, matched) :: next.groups.filter (·.1 != number) }
  | .again number => (pass? ignoresCase spot ((spot.groups.lookup number).getD [])).toList
  | .lineStart => if spot.before.isEmpty then [spot] else []
  | .lineEnd => if spot.after.isEmpty then [spot] else []
  | .wordStart => if wordAfter && !wordBefore then [spot] else []
  | .wordEnd => if wordBefore && !wordAfter then [spot] else []
  | .insideWord => if wordBefore == wordAfter then [spot] else []
  | .freeBefore => if wordBefore then [] else [spot]
  | .freeAfter => if wordAfter then [] else [spot]

/-- The longest of some spots, the first one of those as far. -/
def furthest? (spots : List Spot) : Option Spot :=
  spots.foldl (fun best spot =>
    match best with
    | none => some spot
    | some other => if spot.after.length < other.after.length then some spot else best) none

/-- A part of a line that a pattern fits. -/
structure Match where
  /-- Where the part begins. -/
  start : Spot
  /-- Where it ends. -/
  last : Spot

def Match.text (found : Match) : List Char :=
  found.start.after.take (found.start.after.length - found.last.after.length)

/-- The part of a line from a spot on that a pattern fits. -/
def find? (pattern : Pattern) (ignoresCase : Bool) (before after : List Char) : Option Match :=
  let spot : Spot := { before, after }
  match furthest? (pattern.ends ignoresCase spot) with
  | some last => some ⟨spot, last⟩
  | none =>
      match after with
      | [] => none
      | c :: rest => pattern.find? ignoresCase (c :: before) rest

/-- Whether a pattern fits a part of a line. -/
def isIn (pattern : Pattern) (ignoresCase : Bool) (line : List Char) : Bool :=
  (pattern.find? ignoresCase [] line).isSome

/-! ## Classes of characters -/

/-- The ranges of a class with a name. -/
def namedRanges? (name : String) : Option (List (Char × Char)) :=
  let digits := [('0', '9')]
  let upper := [('A', 'Z')]
  let lower := [('a', 'z')]
  let white := [('\t', '\r'), (' ', ' ')]
  [("digit", digits), ("upper", upper), ("lower", lower), ("alpha", upper ++ lower),
    ("alnum", digits ++ upper ++ lower), ("space", white), ("blank", [('\t', '\t'), (' ', ' ')]),
    ("punct", [('!', '/'), (':', '@'), ('[', '\x60'), ('\x7b', '~')]),
    ("xdigit", digits ++ [('A', 'F'), ('a', 'f')]), ("cntrl", [('\x00', '\x1f'), ('\x7f', '\x7f')]),
    ("print", [(' ', '~')]), ("graph", [('!', '~')])].lookup name

def wordRanges : List (Char × Char) :=
  [('0', '9'), ('A', 'Z'), ('a', 'z'), ('_', '_')]

/-- The control character that a letter after a backslash stands for. -/
def control? (c : Char) : Option Char :=
  [('n', '\n'), ('t', '\t'), ('r', '\r'), ('f', '\x0c'), ('v', '\x0b'), ('a', '\x07')].lookup c

end Pattern

end DocSamples.Script
