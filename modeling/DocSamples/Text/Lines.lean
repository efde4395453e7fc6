namespace DocSamples.Text

/-! # Lines

A text is read in two steps: line ends are made uniform when it is taken from a
file, and it is split at every line boundary when its lines are looked at.  The
boundaries of the second step are more than the line feed.
-/

/-- The characters that end a line. -/
def isLineEnd (c : Char) : Bool :=
  c = '\n' || c = '\r' || c = '\x0b' || c = '\x0c' || c = '\x1c' || c = '\x1d' || c = '\x1e' ||
    c = '\u0085' || c = '\u2028' || c = '\u2029'

/-- A carriage return, with or without a line feed after it, becomes one line feed. -/
def unifyLineEnds : List Char → List Char
  | [] => []
  | '\r' :: '\n' :: rest => '\n' :: unifyLineEnds rest
  | '\r' :: rest => '\n' :: unifyLineEnds rest
  | c :: rest => c :: unifyLineEnds rest

/-- The lines of a text without their ends; a carriage return and the line feed
after it are one end, and no line follows the last end. -/
def splitLines : List Char → List (List Char)
  | [] => []
  | '\r' :: '\n' :: rest => [] :: splitLines rest
  | c :: rest =>
      if isLineEnd c then [] :: splitLines rest
      else match splitLines rest with
        | [] => [[c]]
        | line :: more => (c :: line) :: more

def lines (text : String) : List String :=
  (splitLines text.toList).map String.ofList

/-- The lines with a line feed between each two. -/
def joinLines (texts : List String) : String :=
  "\n".intercalate texts

def endsWithNewline (text : String) : Bool :=
  text.toList.getLast? == some '\n'

/-- The text without the line feeds at its end. -/
def dropEndNewlines (text : String) : String :=
  String.ofList (text.toList.reverse.dropWhile (· == '\n')).reverse

end DocSamples.Text
