import DocSamples.Script
import DocSamples.Script.Machine
import DocSamples.Script.Pattern

namespace DocSamples.Script

/-! # Fields

Words become fields: texts whose quoted characters are known.  Fields are made of
words by splitting at blanks, and of wildcards by the names of files.
-/

open Text

/-- A text, each of its characters with whether it was quoted. -/
abbrev Field := List (Char × Bool)

namespace Field

def text (field : Field) : String :=
  String.ofList (field.map Prod.fst)

def ofText (isQuoted : Bool) (text : String) : Field :=
  text.toList.map fun c => (c, isQuoted)

def isWild (c : Char) : Bool :=
  c = '*' || c = '?' || c = '['

def hasWildcards (field : Field) : Bool :=
  field.any fun (c, isQuoted) => isWild c && !isQuoted

/-! ## Wildcards

A field is a wildcard of bytes.  A backslash takes the meaning of what follows it, as
quotes do.
-/

/-- The bytes of a field, written as characters. -/
def bytes (field : Field) : Field :=
  field.flatMap fun (c, isQuoted) =>
    (Utf8.encode [c]).map fun byte => (Char.ofNat byte.toNat, isQuoted)

/-- Takes backslashes away that stand without quotes, and quotes what follows them. -/
def quoteEscaped : Field → Field
  | ('\x5c', false) :: (c, _) :: rest => (c, true) :: quoteEscaped rest
  | part :: rest => part :: quoteEscaped rest
  | [] => []

/-- The ranges of a named class at the beginning of some bytes, and what follows it. -/
def namedClass? (bytes : Field) : Option (List (Char × Char) × Field) := do
  let name := bytes.takeWhile fun (c, isQuoted) => c.isAlpha && !isQuoted
  let ranges ← Pattern.namedRanges? (String.ofList (name.map Prod.fst))
  match bytes.drop name.length with
  | (':', false) :: (']', false) :: rest => some (ranges, rest)
  | _ => none

/-- Reads the ranges of a class up to its bracket; a bracket at the very beginning does
not close it.  `fuel` bounds the bytes. -/
def readClass (fuel : Nat) (isFirst : Bool) (bytes : Field) :
    Option (List (Char × Char) × Field) :=
  match fuel, bytes with
  | 0, _ => none
  | _, [] => none
  | fuel + 1, (c, isQuoted) :: rest =>
      let goOn (ranges : List (Char × Char)) (rest : Field) :=
        (readClass fuel false rest).map fun (more, after) => (ranges ++ more, after)
      let named := match rest with
        | (':', false) :: inner => if c = '[' && !isQuoted then namedClass? inner else none
        | _ => none
      if c = ']' && !isQuoted && !isFirst then some ([], rest)
      else
        match named, rest with
        | some (ranges, after), _ => goOn ranges after
        | none, ('-', false) :: (high, isHighQuoted) :: after =>
            if high = ']' && !isHighQuoted then goOn [(c, c)] rest else goOn [(c, high)] after
        | none, _ => goOn [(c, c)] rest

/-- The class whose opening bracket has been read, and what follows it. -/
def charClass? (bytes : Field) : Option (CharClass × Field) :=
  let negated := bytes.head? = some ('!', false)
  let inner := if negated then bytes.tail else bytes
  (readClass (inner.length + 1) true inner).map fun (ranges, after) => (⟨negated, ranges⟩, after)

/-- Reads the wildcard that some bytes are.  `fuel` bounds them. -/
def wildcardOf (fuel : Nat) (bytes : Field) : Wildcard :=
  match fuel, bytes with
  | 0, _ => []
  | _, [] => []
  | fuel + 1, (c, isQuoted) :: rest =>
      if isQuoted then .char c :: wildcardOf fuel rest
      else if c = '*' then .anyText :: wildcardOf fuel rest
      else if c = '?' then .anyChar :: wildcardOf fuel rest
      else if c = '[' then
        match charClass? rest with
        | some (charClass, after) => .oneOf charClass :: wildcardOf fuel after
        | none => .char c :: wildcardOf fuel rest
      else .char c :: wildcardOf fuel rest

/-- The wildcard of a field, in which quoted characters stand for themselves. -/
def wildcard (field : Field) : Wildcard :=
  let bytes := field.bytes.quoteEscaped
  wildcardOf (bytes.length + 1) bytes

/-- Whether a text matches the wildcard of a field, byte by byte. -/
def isMatch (wildcard : Wildcard) (text : String) : Bool :=
  wildcard.isMatch (String.ofList ((ofText true text).bytes.map Prod.fst))

/-! ## Files -/

/-- The parts of a field between slashes. -/
def splitSlashes : Field → List Field
  | [] => [[]]
  | (c, isQuoted) :: rest =>
      if c = '/' then [] :: splitSlashes rest
      else match splitSlashes rest with
        | [] => [[(c, isQuoted)]]
        | part :: more => ((c, isQuoted) :: part) :: more

def sortTexts (items : List String) : List String :=
  items.mergeSort fun first second => decide (first ≤ second)

/-- The names in a directory that a wildcard stands for; a hidden name has to be
asked for by its dot. -/
def namesFor (machine : Machine) (directory : String) (field : Field) : List String :=
  match machine.tree.status (machine.pathOf directory) with
  | .ok (place, .directory) =>
      let wanted := field.wildcard
      let asksForHidden := field.quoteEscaped.text.startsWith "."
      let names := if asksForHidden then "." :: ".." :: machine.tree.namesIn place
        else machine.tree.namesIn place
      sortTexts (names.filter fun name =>
        (!name.startsWith "." || asksForHidden) && isMatch wanted name)
  | _ => []

/-- The files that the parts of a field lead to. -/
def filesFrom (machine : Machine) (above : String) : List Field → List String
  | [] => [above]
  | part :: rest =>
      let names := if part.hasWildcards then namesFor machine above part
        else [part.quoteEscaped.text]
      let next := names.map (above ++ ·)
      let found := next.filter fun name =>
        if rest.isEmpty then (machine.tree.existsAt (machine.pathOf name)).toOption.getD false
        else
          name = "" || (machine.tree.isDirectory (machine.pathOf name)).toOption.getD false
      found.flatMap fun name => filesFrom machine (if rest.isEmpty then name else name ++ "/") rest

/-- A field with wildcards stands for files, if it leads to any. -/
def expand (machine : Machine) (field : Field) : List String :=
  if field.hasWildcards then
    match filesFrom machine "" field.splitSlashes with
    | [] => [field.text]
    | files => files
  else [field.text]

end Field

/-- Fields in the making: those that are finished and the one that has begun. -/
structure Fields where
  finished : List Field := []
  current : Option Field := none

namespace Fields

def append (fields : Fields) (more : Field) : Fields :=
  { fields with current := some (fields.current.getD [] ++ more) }

def close (fields : Fields) : Fields :=
  { finished := fields.finished ++ fields.current.toList }

/-- Each text begins a field of its own, but the first continues the one before it. -/
def appendAll (fields : Fields) (isQuoted : Bool) : List String → Fields
  | [] => fields
  | [text] => fields.append (.ofText isQuoted text)
  | text :: rest => (fields.append (.ofText isQuoted text)).close.appendAll isQuoted rest

def isWhite (c : Char) : Bool :=
  c = ' ' || c = '\t' || c = '\n'

/-- Splits a text without quotes at separators.  Blanks that are separators join with
each other and with one other separator; any other separator ends a field, even an
empty one.  `afterBlank` tells whether a blank has ended the last field. -/
def split (fields : Fields) (separators : List Char) (afterBlank : Bool) : List Char → Fields
  | [] => fields
  | c :: rest =>
      if !separators.contains c then
        (fields.append [(c, false)]).split separators false rest
      else if isWhite c then
        fields.close.split separators (afterBlank || fields.current.isSome) rest
      else if fields.current.isSome || !afterBlank then
        (fields.append []).close.split separators false rest
      else fields.split separators false rest

def appendSplit (fields : Fields) (separators : List Char) (text : String) : Fields :=
  fields.split separators false text.toList

end Fields

/-! ## Forms of values -/

/-- What is left of a text when the part at its front that matches is taken away. -/
def dropMatch (wildcard : Wildcard) (longest : Bool) (chars : List Char) : List Char :=
  let sizes := List.range (chars.length + 1)
  let fits (size : Nat) : Bool := Field.isMatch wildcard (String.ofList (chars.take size))
  match (if longest then sizes.reverse else sizes).find? fits with
  | some size => chars.drop size
  | none => chars

/-- What is left of a text when the part at its back that matches is taken away. -/
def dropBackMatch (wildcard : Wildcard) (longest : Bool) (chars : List Char) : List Char :=
  let sizes := List.range (chars.length + 1)
  let fits (size : Nat) : Bool := Field.isMatch wildcard (String.ofList (chars.drop size))
  match (if longest then sizes else sizes.reverse).find? fits with
  | some size => chars.take size
  | none => chars

end DocSamples.Script
