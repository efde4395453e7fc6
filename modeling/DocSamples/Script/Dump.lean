import DocSamples.Script.Input

namespace DocSamples.Script

/-! # Bytes as text

Bytes are shown by their numbers, or written with 64 characters.
-/

open Text

/-! ## Numbers of bytes -/

/-- How bytes are shown: as characters, or as numbers of so many bytes to a base. -/
inductive ByteForm where
  | characters
  | names
  | numbers (size base : Nat)
  | signed (size : Nat)
deriving DecidableEq, Repr

namespace ByteForm

def size : ByteForm → Nat
  | .characters | .names => 1
  | .numbers size _ | .signed size => size

def digitsFor (size base : Nat) : Nat :=
  (Nat.toDigits base (Nat.pow 256 size - 1)).length

/-- The width of one number with the blank before it. -/
def width : ByteForm → Nat
  | .characters | .names => 4
  | .numbers size base => digitsFor size base + 1
  | .signed size => (toString (Nat.pow 256 size / 2)).length + 2

def controlNames : List String :=
  ["nul", "soh", "stx", "etx", "eot", "enq", "ack", "bel", "bs", "ht", "nl", "vt", "ff", "cr",
    "so", "si", "dle", "dc1", "dc2", "dc3", "dc4", "nak", "syn", "etb", "can", "em", "sub",
    "esc", "fs", "gs", "rs", "us", "sp"]

/-- Some bytes as a number, the first byte counting least. -/
def valueOf (bytes : Utf8.Bytes) : Nat :=
  bytes.foldr (fun byte value => value * 256 + byte.toNat) 0

def zeroPadded (width : Nat) (text : String) : String :=
  String.ofList (.replicate (width - text.length) '0') ++ text

/-- Some bytes as they are shown, without the blanks before them. -/
def text (form : ByteForm) (bytes : Utf8.Bytes) : String :=
  let value := valueOf bytes
  match form with
  | .characters =>
      let escapes := [(0, "\\0"), (7, "\\a"), (8, "\\b"), (9, "\\t"), (10, "\\n"), (11, "\\v"),
        (12, "\\f"), (13, "\\r")]
      match escapes.lookup value with
      | some text => text
      | none =>
          if 32 ≤ value ∧ value < 127 then String.singleton (Char.ofNat value)
          else zeroPadded 3 (String.ofList (Nat.toDigits 8 value))
  | .names =>
      let low := value % 128
      match controlNames[low]? with
      | some name => name
      | none => if low = 127 then "del" else String.singleton (Char.ofNat low)
  | .numbers size base =>
      let digits := String.ofList (Nat.toDigits base value)
      if base = 10 then digits else zeroPadded (digitsFor size base) digits
  | .signed size =>
      let half := Nat.pow 256 size / 2
      if value < half then toString value else "-" ++ toString (Nat.pow 256 size - value)

end ByteForm

/-- Reads a form such as `x1` or `c`. -/
def byteForm? (chars : List Char) : Option ByteForm :=
  let size := match chars.tail with
    | [] => some 4
    | ['C'] => some 1
    | ['S'] => some 2
    | ['I'] => some 4
    | ['L'] => some 8
    | digits => Sum.digits? (String.ofList digits)
  match chars.head?, size.filter [1, 2, 4, 8].contains with
  | some 'c', _ => some .characters
  | some 'a', _ => some .names
  | some 'x', some size => some (.numbers size 16)
  | some 'o', some size => some (.numbers size 8)
  | some 'u', some size => some (.numbers size 10)
  | some 'd', some size => some (.signed size)
  | _, _ => none

/-- The bytes of a line in groups of one size. -/
def chunksOf (size fuel : Nat) (bytes : Utf8.Bytes) : List Utf8.Bytes :=
  match fuel, bytes with
  | 0, _ => []
  | _, [] => []
  | fuel + 1, _ => bytes.take size :: chunksOf size fuel (bytes.drop size)

/-- A line of bytes in one form. -/
def shownBytes (form : ByteForm) (line : Utf8.Bytes) : String :=
  String.join ((chunksOf form.size (line.length + 1) line).map fun bytes =>
    padLeft form.width (form.text bytes))

def odTable : OptionTable where
  flags := "cxbdovasi"
  valued := "AtjNw"
  names := [("address-radix", 'A'), ("format", 't'), ("width", 'w'), ("skip-bytes", 'j'),
    ("read-bytes", 'N'), ("output-duplicates", 'v')]

/-- The forms that options ask for. -/
def formsOf (arguments : Arguments) : Except String (List ByteForm) := do
  let forms ← arguments.options.mapM fun (letter, value) =>
    match letter with
    | 'c' => .ok (some .characters)
    | 'a' => .ok (some .names)
    | 'b' => .ok (some (.numbers 1 8))
    | 'x' => .ok (some (.numbers 2 16))
    | 'o' => .ok (some (.numbers 2 8))
    | 'd' => .ok (some (.numbers 2 10))
    | 's' => .ok (some (.signed 2))
    | 'i' => .ok (some (.signed 4))
    | 't' =>
        match byteForm? value.toList with
        | some form => .ok (some form)
        | none =>
            .error ("invalid character '" ++ String.ofList (value.toList.take 1) ++
              "' in type string ‘" ++ value ++ "’")
    | _ => .ok (none : Option ByteForm)
  let given := forms.filterMap id
  return if given.isEmpty then [.numbers 2 8] else given

/-- The number of a byte, to a base; without one it is not shown. -/
def addressText (base : Option Nat) (address : Nat) : String :=
  match base with
  | none => ""
  | some base =>
      ByteForm.zeroPadded (if base = 16 then 6 else 7) (String.ofList (Nat.toDigits base address))

/-- Lines of bytes with their addresses.  A line that is the same as the one before it
is left out, and a star stands for all that are. -/
def shownLines (base : Option Nat) (forms : List ByteForm) (showsAll : Bool)
    (address : Nat) (previous : Option Utf8.Bytes) (inStar : Bool) : List Utf8.Bytes → String
  | [] => ""
  | line :: rest =>
      let after (inStar : Bool) : String :=
        shownLines base forms showsAll (address + line.length) (some line) inStar rest
      if !showsAll && previous = some line then
        (if inStar then "" else "*\n") ++ after true
      else
        let blank := String.ofList (.replicate (addressText base address).length ' ')
        let rows := forms.mapIdx fun index form =>
          (if index = 0 then addressText base address else blank) ++
            shownBytes form line ++ "\n"
        String.join rows ++ after false

/-- Shows bytes by their numbers. -/
def od (call : Call) (machine : Machine) : Machine :=
  withOptions "od" 1 odTable call machine fun arguments =>
    match formsOf arguments with
    | .error fault => machine.complain 1 ("od: " ++ fault)
    | .ok forms =>
        let base := match arguments.value? 'A' with
          | some "n" => none
          | some "x" => some 16
          | some "d" => some 10
          | _ => some 8
        let number (letter : Char) : Option Nat := (arguments.value? letter).bind Sum.digits?
        let sources := sourcesOf machine arguments.operands
        let told := eachSource "od" 1 sources (fun _ _ machine => machine) machine
        let all := sources.flatMap fun source => source.content.toOption.getD []
        let skipped := all.drop ((number 'j').getD 0)
        let bytes := match number 'N' with
          | some count => skipped.take count
          | none => skipped
        let size := (number 'w').getD 16
        let start := (number 'j').getD 0
        let lines := chunksOf (size.max 1) (bytes.length + 1) bytes
        let body := shownLines base forms (arguments.has 'v') start none false lines
        let last := addressText base (start + bytes.length)
        let isMissing := sources.all fun source => source.content.toOption.isNone
        if isMissing then told
        else consume arguments.operands
          (told.say (body ++ (if last.isEmpty then "" else last ++ "\n")))

/-! ## Sixty-four characters -/

def sixtyFour : List Char :=
  "ABCDEFGHIJKLMNOPQRSTUVWXYZabcdefghijklmnopqrstuvwxyz0123456789+/".toList

def digitOf (value : Nat) : Char :=
  sixtyFour[value % 64]?.getD '='

/-- Three bytes become four characters; missing ones are shown by signs of equality. -/
def encodeTriples : Utf8.Bytes → List Char
  | first :: second :: third :: rest =>
      let value := (first.toNat * 256 + second.toNat) * 256 + third.toNat
      digitOf (value / 262144) :: digitOf (value / 4096) :: digitOf (value / 64) ::
        digitOf value :: encodeTriples rest
  | [first, second] =>
      let value := (first.toNat * 256 + second.toNat) * 256
      [digitOf (value / 262144), digitOf (value / 4096), digitOf (value / 64), '=']
  | [first] =>
      let value := first.toNat * 65536
      [digitOf (value / 262144), digitOf (value / 4096), '=', '=']
  | [] => []

/-- The bytes of characters four by four, and whether they are all in order. -/
def decodeQuads : List Char → Utf8.Bytes × Bool
  | [] => ([], true)
  | first :: second :: third :: fourth :: rest =>
      match index? first, index? second, index? third, index? fourth with
      | some a, some b, some c, some d =>
          let (more, isWhole) := decodeQuads rest
          (bytesOf 3 (((a * 64 + b) * 64 + c) * 64 + d) ++ more, isWhole)
      | some a, some b, some c, none =>
          (bytesOf 2 (((a * 64 + b) * 64 + c) * 64), fourth = '=' && rest.isEmpty)
      | some a, some b, none, _ =>
          (bytesOf 1 ((a * 64 + b) * 4096), third = '=' && fourth = '=' && rest.isEmpty)
      | _, _, _, _ => ([], false)
  | first :: second :: rest =>
      match index? first, index? second, rest.head?.bind index? with
      | some a, some b, some c => (bytesOf 2 (((a * 64 + b) * 64 + c) * 64), false)
      | some a, some b, none => (bytesOf 1 ((a * 64 + b) * 4096), false)
      | _, _, _ => ([], false)
  | _ => ([], false)
where
  index? (c : Char) : Option Nat := sixtyFour.idxOf? c
  bytesOf (count value : Nat) : Utf8.Bytes :=
    [value / 65536, value / 256, value].take count |>.map fun part => .ofNat (part % 256)

/-- Characters in lines of one width; without a width in one line. -/
def wrapped (width fuel : Nat) (chars : List Char) : String :=
  match fuel, chars with
  | 0, _ => ""
  | _, [] => ""
  | fuel + 1, _ =>
      if width = 0 then String.ofList chars
      else String.ofList (chars.take width) ++ "\n" ++ wrapped width fuel (chars.drop width)

/-- Writes bytes with 64 characters, or reads them back. -/
def base64 (call : Call) (machine : Machine) : Machine :=
  withOptions "base64" 1 { flags := "di", valued := "w", names := [("decode", 'd'), ("wrap", 'w'),
      ("ignore-garbage", 'i')] } call machine fun arguments =>
    match arguments.operands with
    | _ :: extra :: _ =>
        machine.complain 1 ("base64: extra operand ‘" ++ extra ++ "’\n" ++ advice "base64")
    | operands =>
        eachSource "base64" 1 (sourcesOf machine operands) (fun _ bytes machine =>
          let used := consume operands machine
          if arguments.has 'd' then
            let chars := (charsOf bytes).filter fun c =>
              c != '\n' && (!arguments.has 'i' || sixtyFour.contains c || c = '=')
            let (decoded, isWhole) := decodeQuads chars
            let shown := used.write decoded
            if isWhole then shown else shown.complain 1 "base64: invalid input"
          else
            let width := ((arguments.value? 'w').bind Sum.digits?).getD 76
            let chars := encodeTriples bytes
            used.say (wrapped width (chars.length + 1) chars)) machine

end DocSamples.Script
