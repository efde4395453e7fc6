import DocSamples.Yaml.Scalar
import DocSamples.Yaml.Token

namespace DocSamples.Yaml

/-! # Printing

Values as lines of YAML, one entry a line, with two spaces for each mapping
inside of another.  Lists inside of mappings are not indented.
-/

/-- Whether a text can be written without quotes: then it is read as one plain
scalar that means this text. -/
def readsPlain (text : List Char) : Bool :=
  match tokens (.ofTexts [text] none), Meaning.ofPlain text with
  | [.scalar read true], .ok (.value (.text _)) => read = text
  | _, _ => false

def quotedChar (c : Char) : List Char :=
  if c = '\x27' then ['\x27', '\x27'] else [c]

def printText (text : String) : String :=
  if readsPlain text.toList then text
  else String.ofList ('\x27' :: text.toList.flatMap quotedChar ++ ['\x27'])

/-- A value that takes no lines of its own. -/
def inline? : Value → Option String
  | .null => some "null"
  | .bool value => some (if value then "true" else "false")
  | .integer value => some (toString value)
  | .text value => some (printText value)
  | .list [] => some "[]"
  | .mapping [] => some "\x7b\x7d"
  | _ => none

def indentLine (line : String) : String := "  " ++ line

/-- The lines of a list of values that take one line each. -/
def itemLines (items : List Value) : List String :=
  items.map fun item => "- " ++ (inline? item).getD ""

mutual

def entryLines : Value × Value → List String
  | (.text name, value) =>
      match inline? value with
      | some text => [printText name ++ ": " ++ text]
      | none => (printText name ++ ":") :: blockLines value
  | _ => []

/-- The lines below a key. -/
def blockLines : Value → List String
  | .list items => itemLines items
  | .mapping entries => (mappingLines entries).map indentLine
  | _ => []

def mappingLines : List (Value × Value) → List String
  | [] => []
  | entry :: rest => entryLines entry ++ mappingLines rest

end

/-- The text of a mapping. -/
def print (entries : List (Value × Value)) : String :=
  String.join ((mappingLines entries).map (· ++ "\n"))

end DocSamples.Yaml
