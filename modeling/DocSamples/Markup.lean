namespace DocSamples.Markup

/-! # Markup

Texts for a console may hold tags between brackets, which style what is between
them.  A backslash before a bracket makes it an ordinary character.
-/

/-- A text with a style. -/
def styled (style text : String) : String :=
  "[" ++ style ++ "]" ++ text ++ "[/" ++ style ++ "]"

def backslash : Char := '\x5c'

/-- The characters with which tags begin. -/
def beginsTag (c : Char) : Bool :=
  (decide ('a' ≤ c) && decide (c ≤ 'z')) || c = '#' || c = '/' || c = '@'

/-- Whether the characters after an opening bracket make a tag of it: the next
bracket is a closing one. -/
def isTag : List Char → Bool
  | [] => false
  | c :: rest => beginsTag c && (rest.find? fun d => d = '[' || d = ']') == some ']'

/-- Escapes the tags after so many backslashes. -/
def escapeFrom (slashes : Nat) : List Char → List Char
  | [] => .replicate slashes backslash
  | c :: rest =>
      if c = backslash then escapeFrom (slashes + 1) rest
      else if c = '[' && isTag rest then
        .replicate (2 * slashes + 1) backslash ++ c :: escapeFrom 0 rest
      else .replicate slashes backslash ++ c :: escapeFrom 0 rest

/-- A single backslash at the end would escape what is put after it. -/
def closeEnd (chars : List Char) : List Char :=
  match chars.reverse with
  | [c] => if c = backslash then chars ++ [backslash] else chars
  | c :: d :: _ => if c = backslash && d ≠ backslash then chars ++ [backslash] else chars
  | [] => chars

/-- A text whose brackets are shown as they are. -/
def escape (text : String) : String :=
  String.ofList (closeEnd (escapeFrom 0 text.toList))

/-- What is left of a text after so many backslashes, or inside a tag: every
second backslash before a tag stands for one, and an odd number keeps the tag. -/
def plainFrom (slashes : Nat) (inTag : Bool) : List Char → List Char
  | [] => .replicate slashes backslash
  | c :: rest =>
      if inTag then plainFrom 0 (c ≠ ']') rest
      else if c = backslash then plainFrom (slashes + 1) false rest
      else if c = '[' && isTag rest then
        .replicate (slashes / 2) backslash ++
          if slashes % 2 = 1 then c :: plainFrom 0 false rest else plainFrom 0 true rest
      else .replicate slashes backslash ++ c :: plainFrom 0 false rest

/-- A text without its tags. -/
def plain (text : String) : String :=
  String.ofList (plainFrom 0 false text.toList)

end DocSamples.Markup
