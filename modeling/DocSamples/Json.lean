namespace DocSamples

/-! # JSON

Values and their text with an indentation of two spaces.  The fields of an
object keep their order.  A text is written without escapes where that is
possible.
-/

inductive Json where
  | null
  | bool (value : Bool)
  | integer (value : Int)
  | text (value : String)
  | list (items : List Json)
  | object (fields : List (String × Json))
deriving Repr

namespace Json

def optionalText : Option String → Json
  | none => .null
  | some value => .text value

def texts (values : List String) : Json :=
  .list (values.map .text)

private def hexDigit (value : Nat) : Char :=
  "0123456789abcdef".toList.getD value '0'

/-- Quotes, backslashes and controls are escaped; five controls have letters. -/
def escapedChar (c : Char) : List Char :=
  if c = '\x22' || c = '\x5c' then ['\x5c', c]
  else if c = '\x08' then ['\x5c', 'b']
  else if c = '\t' then ['\x5c', 't']
  else if c = '\n' then ['\x5c', 'n']
  else if c = '\x0c' then ['\x5c', 'f']
  else if c = '\r' then ['\x5c', 'r']
  else if c.toNat < 0x20 then
    ['\x5c', 'u', '0', '0', hexDigit (c.toNat / 16), hexDigit (c.toNat % 16)]
  else [c]

def quotedText (value : String) : String :=
  String.ofList ('\x22' :: value.toList.flatMap escapedChar ++ ['\x22'])

def spaces (count : Nat) : String :=
  String.ofList (List.replicate count ' ')

def indentStep : Nat := 2

/-- Items between brackets, each on a line of its own. -/
def bracketed (opening closing : String) (indent : Nat) : List String → String
  | [] => opening ++ closing
  | items =>
      opening ++ "\n" ++
        ",\n".intercalate (items.map (spaces (indent + indentStep) ++ ·)) ++
        "\n" ++ spaces indent ++ closing

mutual

def renderAt (indent : Nat) : Json → String
  | .null => "null"
  | .bool value => if value then "true" else "false"
  | .integer value => toString value
  | .text value => quotedText value
  | .list items => bracketed "[" "]" indent (renderItems (indent + indentStep) items)
  | .object fields => bracketed "\x7b" "\x7d" indent (renderFields (indent + indentStep) fields)

def renderItems (indent : Nat) : List Json → List String
  | [] => []
  | item :: rest => renderAt indent item :: renderItems indent rest

def renderFields (indent : Nat) : List (String × Json) → List String
  | [] => []
  | (name, value) :: rest =>
      (quotedText name ++ ": " ++ renderAt indent value) :: renderFields indent rest

end

def render (value : Json) : String :=
  renderAt 0 value

mutual

/-- Whether every integer of a value has at most 64 bits. -/
def fits : Json → Bool
  | .integer value =>
      decide (-(Nat.pow 2 63 : Int) ≤ value) && decide (value < (Nat.pow 2 64 : Int))
  | .list items => itemsFit items
  | .object fields => fieldsFit fields
  | _ => true

def itemsFit : List Json → Bool
  | [] => true
  | item :: rest => item.fits && itemsFit rest

def fieldsFit : List (String × Json) → Bool
  | [] => true
  | (_, value) :: rest => value.fits && fieldsFit rest

end

end Json

end DocSamples
