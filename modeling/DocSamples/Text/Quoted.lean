import DocSamples.Text.Unprintable

namespace DocSamples.Text

/-! # Quoted text

Messages show a text between quotes so that every character of it can be told.
The single quote is used unless it occurs in the text and the double quote does
not.
-/

private def hexDigits (width value : Nat) : List Char :=
  let digits := Nat.toDigits 16 value
  List.replicate (width - digits.length) '0' ++ digits

/-- A code point by number, in the shortest of the three forms that holds it. -/
def codeEscape (code : Nat) : List Char :=
  if code < 0x100 then '\x5c' :: 'x' :: hexDigits 2 code
  else if code < 0x10000 then '\x5c' :: 'u' :: hexDigits 4 code
  else '\x5c' :: 'U' :: hexDigits 8 code

def quotedChar (quote c : Char) : List Char :=
  if c = quote || c = '\x5c' then ['\x5c', c]
  else if c = '\t' then ['\x5c', 't']
  else if c = '\n' then ['\x5c', 'n']
  else if c = '\r' then ['\x5c', 'r']
  else if isUnprintable c then codeEscape c.toNat
  else [c]

def quoteFor (chars : List Char) : Char :=
  if chars.contains '\x27' && !chars.contains '\x22' then '\x22' else '\x27'

def quoted (text : String) : String :=
  let chars := text.toList
  let quote := quoteFor chars
  String.ofList (quote :: chars.flatMap (quotedChar quote) ++ [quote])

/-- An optional text; what is absent is shown as the word for nothing. -/
def quotedOption : Option String → String
  | none => "None"
  | some text => quoted text

end DocSamples.Text
