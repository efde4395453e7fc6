import DocSamples.Script.Format
import DocSamples.Script.Record

namespace DocSamples.Script.Record

/-! # Values

A value is a number or a text.  What comes from an input and looks like a number
counts as both.
-/

/-! ## Numbers -/

/-- A number taken apart. -/
inductive NumberParts where
  | finite (isNegative : Bool) (units : Nat)
  | infinite (isNegative : Bool)
  | undefined (isNegative : Bool)
deriving DecidableEq, Repr

/-- What a number is made of; the units are those of binary numbers. -/
def partsOf (number : Float) : NumberParts :=
  let bits := number.toBits.toNat
  let isNegative := decide (Nat.pow 2 63 ≤ bits)
  let exponent := bits / Nat.pow 2 52 % 2048
  let fraction := bits % Nat.pow 2 52
  if exponent = 2047 then
    if fraction = 0 then .infinite isNegative else .undefined isNegative
  else if exponent = 0 then .finite isNegative fraction
  else .finite isNegative ((fraction + Nat.pow 2 52) * Nat.pow 2 (exponent - 1))

/-- The number that a binary number is, with a sign. -/
def numberWith (isNegative : Bool) (binary : Binary) : Float :=
  let bits := match binary with
    | .infinite => 2047 * Nat.pow 2 52
    | .finite units =>
        if units < Nat.pow 2 52 then units
        else
          let exponent := units.log2 - 51
          exponent * Nat.pow 2 52 + (units / Nat.pow 2 (exponent - 1) - Nat.pow 2 52)
  let number := Float.ofBits (UInt64.ofNat bits)
  if isNegative then -number else number

def numberOfInt (value : Int) : Float :=
  numberWith (value < 0) (.ofQuotient value.natAbs 1)

def numberOfNat (value : Nat) : Float :=
  numberOfInt value

/-- The whole part of a number, whatever it is. -/
def wholePart (number : Float) : Int :=
  match partsOf number with
  | .finite isNegative units =>
      let size : Int := units / Binary.one
      if isNegative then -size else size
  | .infinite isNegative => if isNegative then -Sum.limit else Sum.limit - 1
  | .undefined _ => -Sum.limit

/-- A number without what is behind its point. -/
def truncated (number : Float) : Float :=
  match partsOf number with
  | .finite isNegative units =>
      numberWith isNegative (.finite (units / Binary.one * Binary.one))
  | _ => number

/-- What is left of a number that is divided, with its own sign. -/
def remainderOf (left right : Float) : Float :=
  match partsOf left, partsOf right with
  | .finite isNegative units, .finite _ divisor =>
      if divisor = 0 then -(0.0 / 0.0) else numberWith isNegative (.finite (units % divisor))
  | .finite .., .infinite _ => left
  | _, _ => 0.0 / 0.0

/-- A number as a format shows it. -/
def formatNumber (flags : List Char) (width : Nat) (precision : Option Nat) (kind : Char)
    (number : Float) : Text.Utf8.Bytes :=
  let hasZeros := flags.contains '0'
  let shown (isNegative : Bool) (text : String) : Text.Utf8.Bytes :=
    pad flags width hasZeros (Text.Utf8.encodeText (signOf flags isNegative ++ text))
  let named (isNegative : Bool) (text : String) : Text.Utf8.Bytes :=
    pad flags width false (Text.Utf8.encodeText (signOf flags isNegative ++
      (if kind.isUpper then text.toUpper else text)))
  let digits := precision.getD 6
  match partsOf number with
  | .infinite isNegative => named isNegative "inf"
  | .undefined isNegative => named isNegative "nan"
  | .finite isNegative units =>
      match kind with
      | 'f' | 'F' => shown isNegative (fixedText digits units)
      | 'e' => shown isNegative (powerText digits units)
      | 'E' => shown isNegative (powerText digits units).toUpper
      | 'G' => shown isNegative (shortText digits units).toUpper
      | _ => shown isNegative (shortText digits units)

/-- The text of a whole number, if a number is one that is not too large. -/
def wholeText? (number : Float) : Option String :=
  match partsOf number with
  | .finite isNegative units =>
      let size := units / Binary.one
      if units % Binary.one != 0 then none
      else if isNegative && decide (Nat.pow 2 63 < size) then none
      else if decide (Nat.pow 2 64 < size) then none
      else
        let shown := toString (size.min (Nat.pow 2 64 - 1))
        some (if isNegative && size != 0 then "-" ++ shown else shown)
  | _ => none

/-- The text of a number, given how one that is not whole is shown. -/
def numberText (format : String) (number : Float) : String :=
  match wholeText? number with
  | some text => text
  | none =>
      match formatPieces (format.length + 1) format.toList with
      | [.argument conversion] =>
          let size? : Option Size → Option Nat
            | some (.fixed size) => some size
            | _ => none
          let width := (size? (some conversion.width)).getD 0
          if conversion.kind = 'd' || conversion.kind = 'i' then
            toString (wholePart number)
          else
            ofBytes (formatNumber conversion.flags width (size? conversion.precision)
              conversion.kind number)
      | _ => format

/-- The number at the beginning of a text, and what follows it. -/
def readNumber (text : String) : Option (Float × List Char) :=
  let isWhite (c : Char) : Bool := isSpace c || c = '\n' || c = '\r'
  let chars := text.toList.dropWhile isWhite
  let (isNegative, start) := match chars with
    | '-' :: rest => (true, rest)
    | '+' :: rest => (false, rest)
    | _ => (false, chars)
  let named (word : String) : Bool :=
    (String.ofList (start.take 3)).toLower = word
  let isHex (c : Char) : Bool :=
    c.isDigit || (decide ('a' ≤ c.toLower) && decide (c.toLower ≤ 'f'))
  let hexDigits := match start with
    | '0' :: x :: rest => if x = 'x' || x = 'X' then rest.takeWhile isHex else []
    | _ => []
  if named "inf" then some (numberWith isNegative .infinite, start.drop 3)
  else if named "nan" then
    some (if isNegative then -(0.0 / 0.0) else Float.ofBits 0x7ff8000000000000, start.drop 3)
  else if !hexDigits.isEmpty then
    let digitOf (c : Char) : Nat :=
      if c.isDigit then c.toNat - '0'.toNat else c.toLower.toNat - 'a'.toNat + 10
    let value := hexDigits.foldl (fun value c => value * 16 + digitOf c) 0
    some (numberWith isNegative (.ofQuotient value 1), start.drop (2 + hexDigits.length))
  else
    let whole := start.takeWhile Char.isDigit
    let afterWhole := start.dropWhile Char.isDigit
    let (fraction, afterFraction) := match afterWhole with
      | '.' :: rest => (rest.takeWhile Char.isDigit, rest.dropWhile Char.isDigit)
      | _ => ([], afterWhole)
    if whole.isEmpty && fraction.isEmpty then none
    else
      let (exponent, after) : Int × List Char := match afterFraction with
        | mark :: rest =>
            let (isDown, digits) := match rest with
              | '-' :: digits => (true, digits)
              | '+' :: digits => (false, digits)
              | _ => (false, rest)
            if mark.toLower = 'e' && digits.head?.any Char.isDigit then
              let size : Int := Nat.min (numberOf (digits.takeWhile Char.isDigit)) 5000
              (if isDown then -size else size, digits.dropWhile Char.isDigit)
            else (0, afterFraction)
        | [] => (0, [])
      let digits := numberOf (whole ++ fraction)
      let scale : Int := exponent - fraction.length
      let size := Binary.ofQuotient (digits * Nat.pow 10 scale.toNat) (Nat.pow 10 (-scale).toNat)
      some (numberWith isNegative size, after)

/-! ## Values -/

inductive Value where
  /-- The value of what has not been given one. -/
  | unset
  | number (number : Float)
  | text (text : String)
  /-- A text from an input that looks like a number. -/
  | loose (text : String)

namespace Value

/-- The value of a text from an input. -/
def ofInput (text : String) : Value :=
  match readNumber text with
  | some (_, rest) =>
      if rest.all fun c => isSpace c || c = '\n' || c = '\r' then .loose text else .text text
  | none => .text text

def toNumber : Value → Float
  | .unset => 0.0
  | .number size => size
  | .text given | .loose given => ((readNumber given).map Prod.fst).getD 0.0

/-- The text of a value, given how numbers that are not whole are shown. -/
def toText (format : String) : Value → String
  | .unset => ""
  | .number size => numberText format size
  | .text given | .loose given => given

def isTrue : Value → Bool
  | .unset => false
  | .number size => size != 0.0
  | .text given => given != ""
  | .loose given => ((readNumber given).map Prod.fst).getD 0.0 != 0.0

def ofBool (isTrue : Bool) : Value :=
  .number (if isTrue then 1.0 else 0.0)

def ofNat (value : Nat) : Value :=
  .number (numberOfNat value)

/-- Whether a value is compared as a number. -/
def isNumeric : Value → Bool
  | .text _ => false
  | _ => true

/-- Whether two values compare as an operator says: as numbers if both are, or else by
their texts. -/
def compares (operator : Operator) (format : String) (left right : Value) : Bool :=
  if left.isNumeric && right.isNumeric then
    let first := left.toNumber
    let second := right.toNumber
    match operator with
    | .less => decide (first < second)
    | .atMost => decide (first ≤ second)
    | .greater => decide (second < first)
    | .atLeast => decide (second ≤ first)
    | .unequal => first != second
    | _ => first == second
  else
    let ordering := compare (left.toText format) (right.toText format)
    match operator with
    | .less => ordering.isLT
    | .atMost => ordering.isLE
    | .greater => ordering.isGT
    | .atLeast => ordering.isGE
    | .unequal => ordering.isNe
    | _ => ordering.isEq

/-- The result of a calculation. -/
def calculate (operator : Operator) (left right : Float) : Float :=
  match operator with
  | .add => left + right
  | .subtract => left - right
  | .multiply => left * right
  | .divide => left / right
  | .remainder => remainderOf left right
  | .power => Float.pow left right
  | _ => 0.0

end Value

/-! ## Formats -/

/-- A format that is filled with values, and nothing if there are too few. -/
def filled? (format : String) (values : List Value) (shows : Value → String) : Option String :=
  let pieces := formatPieces (format.length + 1) format.toList
  let take (values : List Value) : Option (Value × List Value) :=
    match values with
    | [] => none
    | value :: rest => some (value, rest)
  let size (given : Size) (values : List Value) : Option (Nat × List Value) :=
    match given with
    | .fixed size => some (size, values)
    | .argument => (take values).map fun (value, rest) => ((wholePart value.toNumber).toNat, rest)
  let fill (state : Text.Utf8.Bytes × List Value) (piece : FormatPiece) :
      Option (Text.Utf8.Bytes × List Value) :=
    let (bytes, values) := state
    match piece with
    | .text chars => some (bytes ++ toBytes (String.ofList chars), values)
    | .fault _ => none
    | .argument conversion => do
        let (width, values) ← size conversion.width values
        let (precision, values) ← match conversion.precision with
          | none => some (none, values)
          | some given => (size given values).map fun (size, rest) => (some size, rest)
        let (value, values) ← take values
        let flags := conversion.flags
        let whole := wholePart value.toNumber
        let digits (base : Nat) : String :=
          String.ofList (paddedDigits base (precision.getD 1) whole.natAbs)
        let integer (text : String) : Text.Utf8.Bytes :=
          pad flags width (flags.contains '0' && precision.isNone) (toBytes text)
        let shown := match conversion.kind with
          | 'd' | 'i' => integer (signOf flags (whole < 0) ++ digits 10)
          | 'u' => integer (digits 10)
          | 'o' => integer (digits 8)
          | 'x' => integer (digits 16)
          | 'X' => integer (digits 16).toUpper
          | 'c' =>
              let chars := match value with
                | .number number => [Char.ofNat ((wholePart number) % 256).toNat]
                | .unset => []
                | .text text | .loose text => text.toList.take 1
              let shown := if chars.isEmpty then ['\x00'] else chars
              pad flags width false (toBytes (String.ofList shown))
          | 's' | 'b' =>
              let text := toBytes (shows value)
              pad flags width false (text.take (precision.getD text.length))
          | kind => formatNumber flags width precision kind value.toNumber
        return (bytes ++ shown, values)
  (pieces.foldlM fill (([] : Text.Utf8.Bytes), values)).map fun (bytes, _) => ofBytes bytes

end DocSamples.Script.Record
