import DocSamples.Binary
import DocSamples.Text.Lines
import DocSamples.Text.Utf8

namespace DocSamples.Text

/-! # Decoding a file while it is read

A file is taken in chunks of bytes, and what a chunk holds is decoded at once.  A
character that the end of a chunk cuts off is decoded with the next chunk, and so
the position of a defect counts from the first byte that was not decoded before
its chunk.  Readers ask for characters and get as many as they want while there
are any.
-/

/-- Whether bytes are the first two of the three that write a surrogate.  They are
refused only when the third has come. -/
def Utf8.isHalfSurrogate (bytes : Bytes) : Bool :=
  match bytes with
  | [first, second] => first = 0xed && decide (0xa0 ≤ second) && decide (second < 0xc0)
  | _ => false

/-- Decodes bytes to which more may be added; what may be the start of a character
is left over at the end. -/
def Utf8.decodeOpen (position : Nat) (bytes : Bytes) : Except Defect (List Char × Bytes) :=
  match bytes with
  | [] => .ok ([], [])
  | first :: rest =>
      match piece first rest with
      | .char c more =>
          match decodeOpen (position + more + 1) (rest.drop more) with
          | .ok (chars, left) => .ok (c :: chars, left)
          | .error defect => .error defect
      | .defect reason more =>
          if reason = .unexpectedEnd || isHalfSurrogate bytes then .ok ([], bytes)
          else .error ⟨reason, first, position, more + 1⟩
termination_by bytes.length
decreasing_by simp only [List.length_drop, List.length_cons]; omega

structure Intake where
  /-- What has not been taken from the file. -/
  bytes : Utf8.Bytes
  /-- What is left over of the last chunk. -/
  carried : Utf8.Bytes := []
  /-- A carriage return at the end of a chunk waits for what comes behind it. -/
  holdsReturn : Bool := false
  decoded : List Char := []
  /-- How many bytes the last chunk had, and how many characters came of it. -/
  lastBytes : Nat := 0
  lastChars : Nat := 0

namespace Intake

def leastChunk : Nat := 8192

/-- How many characters a reader asks for. -/
def readLength : Nat := 4096

/-- The length of a chunk for so many characters: more bytes are taken where the
characters of the last chunk had more than one each. -/
def chunkLength (intake : Intake) (wanted : Nat) : Nat :=
  if intake.lastChars = 0 || intake.lastBytes ≤ intake.lastChars then max leastChunk wanted
  else
    let stretch := Binary.ofQuotient intake.lastBytes intake.lastChars
    max leastChunk ((stretch.mul (.ofQuotient wanted 1)).floor?.getD wanted)

/-- Takes a chunk.  Nothing follows one that has no bytes and gave no characters. -/
def takeChunk (intake : Intake) (wanted : Nat) : Except Utf8.Defect (Bool × Intake) := do
  let chunk := intake.bytes.take (intake.chunkLength wanted)
  let isLast := chunk.isEmpty
  let (chars, carried) ←
    if isLast then do pure ((← Utf8.decode intake.carried), [])
    else Utf8.decodeOpen 0 (intake.carried ++ chunk)
  let releases := isLast || !chars.isEmpty
  let joined := if intake.holdsReturn && releases then '\r' :: chars else chars
  let endsOpen := !isLast && joined.getLast? = some '\r'
  let decoded := unifyLineEnds (if endsOpen then joined.dropLast else joined)
  return (!isLast || !decoded.isEmpty,
    { bytes := intake.bytes.drop chunk.length
      carried
      holdsReturn := endsOpen || (intake.holdsReturn && !releases)
      decoded
      lastBytes := chunk.length
      lastChars := decoded.length })

/-- So many characters, or those that are left. -/
def read (fuel wanted : Nat) (intake : Intake) : Except Utf8.Defect (List Char × Intake) :=
  let chars := intake.decoded.take wanted
  let rest := { intake with decoded := intake.decoded.drop wanted }
  match fuel with
  | 0 => .ok (chars, rest)
  | fuel + 1 => do
      if chars.length = wanted then return (chars, rest)
      else
        let (goesOn, next) ← rest.takeChunk (wanted - chars.length)
        if goesOn then
          let (more, last) ← read fuel (wanted - chars.length) next
          return (chars ++ more, last)
        else return (chars, next)

/-- What a file gives to a reader: pieces of text, and perhaps a defect that is
met behind them. -/
structure Pieces where
  texts : List (List Char)
  defect : Option Utf8.Defect := none
deriving Repr

def pieces (fuel : Nat) (intake : Intake) : Pieces :=
  match fuel with
  | 0 => { texts := [] }
  | fuel + 1 =>
      match intake.read (intake.bytes.length + 2) readLength with
      | .error defect => { texts := [], defect := some defect }
      | .ok ([], _) => { texts := [] }
      | .ok (text, rest) =>
          let more := pieces fuel rest
          { more with texts := text :: more.texts }

/-- The pieces of a file with these bytes. -/
def piecesOf (bytes : Utf8.Bytes) : Pieces :=
  pieces (bytes.length + 2) { bytes }

end Intake

end DocSamples.Text
