import DocSamples.Binary
import DocSamples.Script.Machine
import DocSamples.Script.Sum

namespace DocSamples.Script

/-! # Formats

Texts with escapes, and formats with places for arguments.
-/

open Text

/-! ## Escapes -/

def isOctal (c : Char) : Bool :=
  decide ('0' ≤ c) && decide (c ≤ '7')

def octalValue (digits : List Char) : Nat :=
  digits.foldl (fun value digit => value * 8 + (digit.toNat - '0'.toNat)) 0

/-- The character that a letter after a backslash stands for. -/
def controlOf? : Char → Option UInt8
  | 'a' => some 7
  | 'b' => some 8
  | 'e' => some 27
  | 'f' => some 12
  | 'n' => some 10
  | 'r' => some 13
  | 't' => some 9
  | 'v' => some 11
  | '\x5c' => some 92
  | _ => none

/-- The digits of an octal number after a backslash, and how many characters they
take.  In a text a zero may stand in front of them. -/
def octalAfter (isFormat : Bool) (chars : List Char) : List Char × Nat :=
  let skipped := if !isFormat && chars.head? = some '0' && chars[1]?.any isOctal then 1 else 0
  let digits := ((chars.drop skipped).takeWhile isOctal).take 3
  (digits, skipped + digits.length)

/-- The bytes of a text with escapes, and whether nothing may follow them, which only
a text can say.  `fuel` bounds the characters. -/
def unescapeFrom (isFormat : Bool) (fuel : Nat) (chars : List Char) : Utf8.Bytes × Bool :=
  match fuel, chars with
  | 0, _ => ([], false)
  | _, [] => ([], false)
  | fuel + 1, '\x5c' :: c :: rest =>
      let (digits, size) := octalAfter isFormat (c :: rest)
      if c = 'c' && !isFormat then ([], true)
      else if !digits.isEmpty then
        let (bytes, stop) := unescapeFrom isFormat fuel ((c :: rest).drop size)
        (.ofNat (octalValue digits) :: bytes, stop)
      else
        let (bytes, stop) := unescapeFrom isFormat fuel rest
        match controlOf? c with
        | some byte => (byte :: bytes, stop)
        | none => (Utf8.encode ['\x5c', c] ++ bytes, stop)
  | fuel + 1, c :: rest =>
      let (bytes, stop) := unescapeFrom isFormat fuel rest
      (Utf8.encode [c] ++ bytes, stop)

def unescape (isFormat : Bool) (chars : List Char) : Utf8.Bytes × Bool :=
  unescapeFrom isFormat (chars.length + 1) chars

/-! ## Numbers -/

def numberOf (digits : List Char) : Nat :=
  (String.ofList digits).toNat?.getD 0

/-- A number that is read at the beginning of a text, and what is wrong with it. -/
structure Reading (α : Type) where
  value : α
  fault : Option String := none

/-- The whole number that an argument stands for; a quote stands for the number of the
byte after it. -/
def readInteger (text : String) : Reading Int :=
  let chars := text.toList
  match chars with
  | [] => { value := 0 }
  | [c] =>
      if c = '\x22' || c = '\x27' then { value := 0 }
      else if c.isDigit then { value := digitsValue [c] }
      else { value := 0, fault := some (text ++ ": expected numeric value") }
  | c :: rest =>
      if c = '\x22' || c = '\x27' then
        { value := ((Utf8.encode rest).head?.map UInt8.toNat).getD 0 }
      else
        let start := chars.dropWhile fun c => isSpace c || c = '\n'
        let (isNegative, digits) := match start with
          | '-' :: rest => (true, rest)
          | '+' :: rest => (false, rest)
          | _ => (false, start)
        if !digits.head?.any Char.isDigit then
          { value := 0, fault := some (text ++ ": expected numeric value") }
        else
          let (number, after) := Sum.leadingNumber digits
          let value : Int := if isNegative then -number else number
          let fault :=
            if Sum.clamp value != value then some (text ++ ": Numerical result out of range")
            else if after.isEmpty then none
            else some (text ++ ": not completely converted")
          { value := Sum.clamp value, fault }
where
  digitsValue (digits : List Char) : Int := (Sum.leadingNumber digits).1

/-- A decimal number, negative or not, in units of binary numbers. -/
structure Decimal where
  isNegative : Bool
  units : Nat

/-- The decimal number that an argument stands for. -/
def readDecimal (text : String) : Reading Decimal :=
  let chars := text.toList.dropWhile isSpace
  let (isNegative, start) := match chars with
    | '-' :: rest => (true, rest)
    | '+' :: rest => (false, rest)
    | _ => (false, chars)
  let whole := start.takeWhile Char.isDigit
  let afterWhole := start.dropWhile Char.isDigit
  let (fraction, afterFraction) := match afterWhole with
    | '.' :: rest => (rest.takeWhile Char.isDigit, rest.dropWhile Char.isDigit)
    | _ => ([], afterWhole)
  let (exponent, after) : Int × List Char := match afterFraction with
    | mark :: rest =>
        let (isDown, digits) := match rest with
          | '-' :: digits => (true, digits)
          | '+' :: digits => (false, digits)
          | _ => (false, rest)
        if mark.toLower = 'e' && digits.head?.any Char.isDigit then
          let size : Int := numberOf (digits.takeWhile Char.isDigit)
          (if isDown then -size else size, digits.dropWhile Char.isDigit)
        else (0, afterFraction)
    | [] => (0, [])
  if text = "" then { value := ⟨false, 0⟩ }
  else if whole.isEmpty && fraction.isEmpty then
    { value := ⟨false, 0⟩, fault := some (text ++ ": expected numeric value") }
  else
    let digits := numberOf (whole ++ fraction)
    let scale : Int := exponent - fraction.length
    let number := Binary.ofQuotient (digits * Nat.pow 10 scale.toNat) (Nat.pow 10 (-scale).toNat)
    let units := match number with
      | .finite units => units
      | .infinite => Binary.bound
    { value := ⟨isNegative, units⟩
      fault := if after.isEmpty then none else some (text ++ ": not completely converted") }

/-- So many digits of a number in some base, with zeros in front. -/
def paddedDigits (base count number : Nat) : List Char :=
  let digits := Nat.toDigits base number
  List.replicate (count - digits.length) '0' ++ digits

/-- A number of units with so many digits behind the point. -/
def fixedText (precision units : Nat) : String :=
  let scaled := roundDiv (units * Nat.pow 10 precision) Binary.one
  let digits := paddedDigits 10 (precision + 1) scaled
  let whole := digits.take (digits.length - precision)
  let fraction := digits.drop (digits.length - precision)
  String.ofList (whole ++ (if precision = 0 then [] else '.' :: fraction))

/-- A number as its digits and the power of ten of the first one. -/
def digitsAndPower (precision units : Nat) : List Char × Int :=
  if units = 0 then (List.replicate (precision + 1) '0', 0)
  else
    let scaled (power : Int) : Nat :=
      let places : Int := precision - power
      roundDiv (units * Nat.pow 10 places.toNat) (Binary.one * Nat.pow 10 (-places).toNat)
    let start : Int :=
      ((Nat.toDigits 10 (units * Nat.pow 10 330 / Binary.one)).length : Int) - 331
    let power :=
      if Nat.pow 10 (precision + 1) ≤ scaled start then start + 1 else start
    (paddedDigits 10 (precision + 1) (scaled power), power)

/-- A number by its digits and a power of ten. -/
def powerText (precision units : Nat) : String :=
  let (digits, power) := digitsAndPower precision units
  let fraction := if precision = 0 then [] else '.' :: digits.tail
  let sign := if power < 0 then "-" else "+"
  String.ofList (digits.take 1 ++ fraction) ++ "e" ++ sign ++
    String.ofList (paddedDigits 10 2 power.natAbs)

/-- A number with so many digits in all and no zeros at its end. -/
def shortText (precision units : Nat) : String :=
  let digitCount := if precision = 0 then 1 else precision
  let (_, power) := digitsAndPower (digitCount - 1) units
  let strip (text : String) : String :=
    if text.contains '.' then
      let kept := text.toList.reverse.dropWhile (· == '0')
      String.ofList (if kept.head? = some '.' then kept.tail else kept).reverse
    else text
  if power < -4 || (digitCount : Int) ≤ power then
    let text := powerText (digitCount - 1) units
    match text.splitOn "e" with
    | [digits, power] => strip digits ++ "e" ++ power
    | _ => text
  else strip (fixedText ((digitCount : Int) - 1 - power).toNat units)

/-! ## Pieces of formats -/

/-- A size in a format: a number, or the next argument. -/
inductive Size where
  | fixed (size : Nat)
  | argument
deriving DecidableEq, Repr

/-- How the place for an argument in a format is filled. -/
structure Conversion where
  flags : List Char
  width : Size
  precision : Option Size
  kind : Char
deriving DecidableEq, Repr

inductive FormatPiece where
  | text (chars : List Char)
  | argument (conversion : Conversion)
  | fault (message : String)
deriving DecidableEq, Repr

def sizeOf (chars : List Char) : Size × List Char :=
  match chars with
  | '*' :: rest => (.argument, rest)
  | _ => (.fixed (numberOf (chars.takeWhile Char.isDigit)), chars.dropWhile Char.isDigit)

def conversionKinds : List Char :=
  ['d', 'i', 'o', 'u', 'x', 'X', 'c', 's', 'b', 'e', 'E', 'f', 'F', 'g', 'G']

/-- Reads what follows a percent sign. -/
def conversion (chars : List Char) : FormatPiece × List Char :=
  let isFlag (c : Char) : Bool := "-0+ #".toList.contains c
  let (width, afterWidth) := sizeOf (chars.dropWhile isFlag)
  let (precision, rest) := match afterWidth with
    | '.' :: rest => ((some (sizeOf rest).1 : Option Size), (sizeOf rest).2)
    | _ => (none, afterWidth)
  match rest with
  | [] => (.fault "missing format character", [])
  | kind :: after =>
      if conversionKinds.contains kind then
        (.argument { flags := chars.takeWhile isFlag, width, precision, kind }, after)
      else
        let given := chars.take (chars.length - after.length)
        (.fault ("%" ++ String.ofList given ++ ": invalid directive"), [])

/-- The pieces of a format.  `fuel` bounds its characters. -/
def formatPieces (fuel : Nat) (chars : List Char) : List FormatPiece :=
  match fuel, chars with
  | 0, _ => []
  | _, [] => []
  | fuel + 1, '%' :: '%' :: rest => .text ['%'] :: formatPieces fuel rest
  | fuel + 1, '%' :: rest =>
      let (piece, after) := conversion rest
      piece :: formatPieces fuel after
  | fuel + 1, c :: rest =>
      let size := if c = '\x5c' then rest.length.min 1 else 0
      match formatPieces fuel (rest.drop size) with
      | .text more :: others => .text (c :: rest.take size ++ more) :: others
      | others => .text (c :: rest.take size) :: others

/-! ## Filling -/

/-- Fills a text up to a width in bytes; zeros stand behind the sign of a number. -/
def pad (flags : List Char) (width : Nat) (zeros : Bool) (bytes : Utf8.Bytes) : Utf8.Bytes :=
  let missing := width - bytes.length
  if flags.contains '-' then bytes ++ .replicate missing 32
  else if zeros then
    let isSign (byte : UInt8) : Bool := byte = 43 || byte = 45 || byte = 32
    let sign := bytes.takeWhile isSign
    sign ++ .replicate missing 48 ++ bytes.drop sign.length
  else .replicate missing 32 ++ bytes

/-- The sign that a number shows. -/
def signOf (flags : List Char) (isNegative : Bool) : String :=
  if isNegative then "-" else if flags.contains '+' then "+"
  else if flags.contains ' ' then " " else ""

/-- What a place for an argument shows, with what is wrong with the argument. -/
def convert (flags : List Char) (width : Nat) (precision : Option Nat) (kind : Char)
    (argument : String) : Reading Utf8.Bytes :=
  let hasZeros := flags.contains '0'
  let digits (base : Nat) (number : Nat) : String :=
    String.ofList (paddedDigits base (precision.getD 1) number)
  let integer : Reading Int := readInteger argument
  let unsigned := (integer.value % (2 * Sum.limit)).toNat
  let ofInteger (text : String) : Reading Utf8.Bytes :=
    { value := pad flags width (hasZeros && precision.isNone) (Utf8.encodeText text)
      fault := integer.fault }
  let ofDecimal (shown : Nat → Nat → String) : Reading Utf8.Bytes :=
    let number := readDecimal argument
    let text := signOf flags number.value.isNegative ++
      shown (precision.getD 6) number.value.units
    { value := pad flags width hasZeros (Utf8.encodeText text), fault := number.fault }
  let ofText (bytes : Utf8.Bytes) : Reading Utf8.Bytes :=
    { value := pad flags width false bytes }
  match kind with
  | 'd' | 'i' =>
      ofInteger (signOf flags (integer.value < 0) ++ digits 10 integer.value.natAbs)
  | 'u' => ofInteger (digits 10 unsigned)
  | 'x' => ofInteger ((if flags.contains '#' && unsigned != 0 then "0x" else "") ++
      digits 16 unsigned)
  | 'X' => ofInteger ((if flags.contains '#' && unsigned != 0 then "0X" else "") ++
      (digits 16 unsigned).toUpper)
  | 'o' => ofInteger ((if flags.contains '#' && unsigned != 0 then "0" else "") ++
      digits 8 unsigned)
  | 'f' | 'F' => ofDecimal fixedText
  | 'e' => ofDecimal powerText
  | 'E' => ofDecimal fun precision units => (powerText precision units).toUpper
  | 'g' => ofDecimal shortText
  | 'G' => ofDecimal fun precision units => (shortText precision units).toUpper
  | 'b' =>
      let bytes := (unescape false argument.toList).1
      ofText (bytes.take (precision.getD bytes.length))
  | 'c' => ofText ((Utf8.encodeText argument ++ [0]).take 1)
  | _ =>
      let bytes := Utf8.encodeText argument
      ofText (bytes.take (precision.getD bytes.length))

/-- What a format has been filled to so far. -/
structure Filling where
  bytes : Utf8.Bytes := []
  arguments : List String
  faults : List String := []
  /-- Nothing more is shown. -/
  isOver : Bool := false
  /-- The format itself is wrong. -/
  isBroken : Bool := false

namespace Filling

def next (filling : Filling) : String × Filling :=
  (filling.arguments.headD "", { filling with arguments := filling.arguments.tail })

/-- Takes a size, which may be an argument. -/
def size (filling : Filling) : Size → Nat × Filling
  | .fixed size => (size, filling)
  | .argument =>
      let (text, filling) := filling.next
      ((readInteger text).value.toNat, filling)

/-- Fills one piece. -/
def add (filling : Filling) (piece : FormatPiece) : Filling :=
  if filling.isOver then filling
  else
    match piece with
    | .text chars => { filling with bytes := filling.bytes ++ (unescape true chars).1 }
    | .fault message =>
        { filling with faults := filling.faults ++ [message], isOver := true, isBroken := true }
    | .argument conversion =>
        let (width, filling) := filling.size conversion.width
        let (precision, filling) : Option Nat × Filling := match conversion.precision with
          | none => (none, filling)
          | some size => (some (filling.size size).1, (filling.size size).2)
        let (argument, filling) := filling.next
        let converted := convert conversion.flags width precision conversion.kind argument
        { filling with
          bytes := filling.bytes ++ converted.value
          faults := filling.faults ++ converted.fault.toList
          isOver := conversion.kind = 'b' && (unescape false argument.toList).2 }

/-- Uses a format again as long as it takes arguments and some are left. -/
def run (pieces : List FormatPiece) : Nat → Filling → Filling
  | 0, filling => filling
  | rounds + 1, filling =>
      let after := pieces.foldl add filling
      if after.isOver || after.arguments.isEmpty ||
          after.arguments.length = filling.arguments.length then after
      else run pieces rounds after

end Filling

/-- Shows a format that is filled with arguments. -/
def printf (line : Nat) (arguments : List String) (machine : Machine) : Machine :=
  let arguments := if arguments.head? = some "--" then arguments.tail else arguments
  match arguments with
  | [] => machine.complainAt line 2 "printf: usage: printf format [arg ...]"
  | format :: arguments =>
      let pieces := formatPieces (format.length + 1) format.toList
      let filled := Filling.run pieces (arguments.length + 1) { arguments }
      let told := filled.faults.foldl
        (fun machine fault => machine.complainAt line 1 ("printf: " ++ fault)) machine
      let status := if filled.isBroken then 2 else if filled.faults.isEmpty then 0 else 1
      (told.write filled.bytes).leave status

end DocSamples.Script
