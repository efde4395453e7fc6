import DocSamples.Text.Blank

namespace DocSamples.Text

/-! # Integers as text

Integers are written in decimal, with a sign if need be and blanks around.  Zeros
in front do not count, a single low line may stand between two digits, and so may
a fraction of zeros behind them.
-/

inductive IntegerFault where
  | unreadable
  /-- More digits than an integer may have. -/
  | tooLong
deriving DecidableEq, Repr

def digitValue (c : Char) : Nat :=
  c.toNat - '0'.toNat

def naturalOf (digits : List Nat) : Nat :=
  digits.foldl (fun value digit => value * 10 + digit) 0

def trimWhiteSpace (text : String) : List Char :=
  ((text.toList.dropWhile isWhiteSpace).reverse.dropWhile isWhiteSpace).reverse

def isZeroOrLine (c : Char) : Bool :=
  c = '0' || c = '_'

/-- A number without the zeros in front of it, among which low lines may stand.
Where no digit but zeros is in front of a point or of the end, the last character
before it stays. -/
def dropLeadingZeros? (chars : List Char) : Option (List Char) :=
  match chars with
  | [] => none
  | first :: rest =>
      if first = '0' then
        let last := (rest.takeWhile isZeroOrLine).getLastD first
        match rest.dropWhile isZeroOrLine with
        | [] => some [last]
        | next :: more =>
            if next = '.' then some (last :: next :: more)
            else if next.isDigit then some (next :: more)
            else none
      else if first.isDigit then some chars
      else none

/-- The text of a number without a fraction that consists of zeros. -/
def dropZeroFraction (chars : List Char) : List Char :=
  match chars.dropWhile (· != '.') with
  | '.' :: places =>
      if !places.isEmpty && places.all (· == '0') then chars.takeWhile (· != '.') else chars
  | _ => chars

def hasDoubleLine : List Char → Bool
  | '_' :: '_' :: _ => true
  | _ :: rest => hasDoubleLine rest
  | [] => false

/-- The text of a number without its low lines, if they stand alone and inside. -/
def dropLines (chars : List Char) : List Char :=
  if chars.head? = some '_' || chars.getLast? = some '_' || hasDoubleLine chars then chars
  else chars.filter (· != '_')

/-- How many digits an integer may have; a minus sign counts as one. -/
def integerLength : Nat := 4300

/-- The natural number that a text writes, with room for so many digits. -/
def natural (room : Nat) (chars : List Char) : Except IntegerFault Nat :=
  match dropLeadingZeros? chars with
  | none => .error .unreadable
  | some significant =>
      let digits := dropLines (dropZeroFraction significant)
      if room < (digits.takeWhile Char.isDigit).length then .error .tooLong
      else if !digits.isEmpty && digits.all Char.isDigit then
        .ok (naturalOf (digits.map digitValue))
      else .error .unreadable

/-- The integer that a text writes. -/
def integer (text : String) : Except IntegerFault Int :=
  match trimWhiteSpace text with
  | '-' :: rest => (natural (integerLength - 1) rest).map fun value => -(value : Int)
  | '+' :: rest => (natural integerLength rest).map Int.ofNat
  | chars => (natural integerLength chars).map Int.ofNat

end DocSamples.Text
