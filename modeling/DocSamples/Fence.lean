import DocSamples.Text.Blank
import DocSamples.Text.Lines

namespace DocSamples

/-! # Fenced blocks

The lines of a document are prose, or they belong to a block between two
fences.  A fence opens with at least three backticks or tildes, indented by at
most three spaces, and an info string after them; it closes with a line of at
least as many of the same mark.  Inside a block no line opens another.
-/

open Text

inductive Mark where
  | backtick
  | tilde
deriving DecidableEq, Repr

def Mark.char : Mark → Char
  | .backtick => '\x60'
  | .tilde => '~'

structure Opening where
  mark : Mark
  length : Nat
  info : String
deriving DecidableEq, Repr

namespace Opening

def minLength : Nat := 3
def maxIndent : Nat := 3

/-- Reads a run of one mark and the info string after it.  The info string of a
backtick fence holds no backtick. -/
def ofMark? (mark : Mark) (chars : List Char) : Option Opening :=
  let length := (chars.takeWhile (· == mark.char)).length
  let info := chars.dropWhile (· == mark.char)
  if length < minLength then none
  else if mark = .backtick && info.contains mark.char then none
  else some ⟨mark, length, String.ofList (trimChars info)⟩

def ofLine? (line : String) : Option Opening :=
  let chars := line.toList
  if maxIndent < (chars.takeWhile (· == ' ')).length then none
  else
    let text := chars.dropWhile (· == ' ')
    (ofMark? .backtick text).or (ofMark? .tilde text)

/-- Whether a line closes the block that was opened. -/
def isClosedBy (opening : Opening) (line : String) : Bool :=
  let text := trimChars line.toList
  decide (opening.length ≤ text.length) && text.all (· == opening.mark.char)

end Opening

inductive Block where
  | prose (line : String)
  | fenced (openingLine : String) (opening : Opening) (body : List String) (closingLine : String)
  | unclosed (openingLine : String) (opening : Opening) (body : List String)
deriving DecidableEq, Repr

namespace Block

/-- The lines of a document that a block consists of. -/
def lines : Block → List String
  | .prose line => [line]
  | .fenced openingLine _ body closingLine => openingLine :: body ++ [closingLine]
  | .unclosed openingLine _ body => openingLine :: body

/-- The blocks of a document.  They hold all its lines, in order. -/
def ofLines (document : List String) : List Block :=
  match document with
  | [] => []
  | line :: rest =>
      match Opening.ofLine? line with
      | none => .prose line :: ofLines rest
      | some opening =>
          let body := rest.takeWhile fun line => !opening.isClosedBy line
          match _after : rest.dropWhile fun line => !opening.isClosedBy line with
          | [] => [.unclosed line opening body]
          | closing :: more => .fenced line opening body closing :: ofLines more
termination_by document.length
decreasing_by
  all_goals simp only [List.length_cons]
  · omega
  · have shorter :=
      (List.dropWhile_suffix (l := rest) fun line => !opening.isClosedBy line).length_le
    rw [_after, List.length_cons] at shorter
    omega

/-- The blocks, each with the number of lines before it. -/
def numbered (line : Nat) : List Block → List (Nat × Block)
  | [] => []
  | block :: rest => (line, block) :: numbered (line + block.lines.length) rest

end Block

end DocSamples
