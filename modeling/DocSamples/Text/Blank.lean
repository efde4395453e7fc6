import DocSamples.Text.CharRange

namespace DocSamples.Text

/-! # Blank characters

Blanks are what trimming removes and what separates words.  Besides the white
space of Unicode they include the four information separators.
-/

def blanks : CharRanges := [
  (0x09, 0x0d), (0x1c, 0x20), (0x85, 0x85), (0xa0, 0xa0), (0x1680, 0x1680),
  (0x2000, 0x200a), (0x2028, 0x2029), (0x202f, 0x202f), (0x205f, 0x205f),
  (0x3000, 0x3000)]

def isBlank (c : Char) : Bool :=
  blanks.contains c

/-- The white space of Unicode: the blanks without the information separators. -/
def isWhiteSpace (c : Char) : Bool :=
  isBlank c && !(decide (0x1c ≤ c.toNat) && decide (c.toNat ≤ 0x1f))

def dropBlanks (chars : List Char) : List Char :=
  chars.dropWhile isBlank

def dropEndBlanks (chars : List Char) : List Char :=
  (chars.reverse.dropWhile isBlank).reverse

def trimChars (chars : List Char) : List Char :=
  dropEndBlanks (dropBlanks chars)

/-- The text without the blanks at its two ends. -/
def trim (text : String) : String :=
  String.ofList (trimChars text.toList)

/-- A text is blank when nothing but blanks is in it. -/
def isBlankText (text : String) : Bool :=
  text.toList.all isBlank

/-- The maximal runs of characters that are not blank. -/
def wordChars (chars : List Char) : List (List Char) :=
  match chars with
  | [] => []
  | c :: rest =>
      if isBlank c then wordChars rest
      else match rest, wordChars rest with
        | d :: _, word :: more => if isBlank d then [c] :: word :: more else (c :: word) :: more
        | _, more => [c] :: more

def words (text : String) : List String :=
  (wordChars text.toList).map String.ofList

theorem dropBlanks_cons_blank {c : Char} (rest : List Char) (blank : isBlank c = true) :
    dropBlanks (c :: rest) = dropBlanks rest := by
  simp [dropBlanks, blank]

theorem dropBlanks_cons_solid {c : Char} (rest : List Char) (solid : isBlank c = false) :
    dropBlanks (c :: rest) = c :: rest := by
  simp [dropBlanks, solid]

end DocSamples.Text
