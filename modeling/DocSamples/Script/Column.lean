import DocSamples.Script.Input

namespace DocSamples.Script

/-! # Columns and bytes

Parts of lines are cut out by their numbers, and bytes are replaced or taken out.
-/

open Text

/-! ## Ranges of numbers -/

/-- The numbers from a first to a last one; without a last one there is no end. -/
structure NumberRange where
  first : Nat
  last : Option Nat
deriving DecidableEq, Repr

def NumberRange.contains (range : NumberRange) (number : Nat) : Bool :=
  decide (range.first ≤ number) && range.last.all fun last => decide (number ≤ last)

inductive RangeFault where
  | malformed (text : String)
  | zero
  | decreasing
deriving DecidableEq, Repr

def NumberRange.ofText (text : String) : Except RangeFault NumberRange :=
  let chars := text.toList
  let first := chars.takeWhile Char.isDigit
  let number (digits : List Char) (otherwise : Nat) : Nat :=
    if digits.isEmpty then otherwise else numberOf digits
  let check (range : NumberRange) : Except RangeFault NumberRange :=
    if range.first = 0 then .error .zero
    else if range.last.any fun last => decide (last < range.first) then .error .decreasing
    else .ok range
  match chars.dropWhile Char.isDigit with
  | [] => if first.isEmpty then .error .zero else check ⟨number first 0, some (number first 0)⟩
  | '-' :: second =>
      if !second.all Char.isDigit || (first.isEmpty && second.isEmpty) then
        .error (.malformed text)
      else check ⟨number first 1, if second.isEmpty then none else some (numberOf second)⟩
  | _ => .error (.malformed text)

/-- The ranges of a list with commas or blanks between them. -/
def rangesOf (text : String) : Except RangeFault (List NumberRange) :=
  ((text.map fun c => if isSpace c then ',' else c).splitOn ",").mapM NumberRange.ofText

/-! ## Cutting -/

def cutTable : OptionTable where
  flags := "sn"
  valued := "dfcbO"
  names := [("delimiter", 'd'), ("fields", 'f'), ("characters", 'c'), ("bytes", 'b'),
    ("only-delimited", 's'), ("output-delimiter", 'O'), ("complement", 'V')]

/-- The fields of a line between marks. -/
def splitAtMark (mark : UInt8) : Utf8.Bytes → List Utf8.Bytes
  | [] => [[]]
  | byte :: rest =>
      if byte = mark then [] :: splitAtMark mark rest
      else match splitAtMark mark rest with
        | [] => [[byte]]
        | field :: more => (byte :: field) :: more

/-- What is kept of some items by their numbers. -/
def keepNumbers {α : Type} (ranges : List NumberRange) (isComplement : Bool) (items : List α) :
    List α :=
  (items.zipIdx.filter fun (_, index) =>
    (ranges.any (·.contains (index + 1))) != isComplement).map Prod.fst

/-- Cuts fields or bytes out of a line; nothing is shown of some lines without marks. -/
def cutLine (arguments : Arguments) (ranges : List NumberRange) (line : Utf8.Bytes) :
    Option Utf8.Bytes :=
  let isComplement := arguments.has 'V'
  if arguments.has 'f' then
    let mark := ((arguments.value? 'd').bind fun text => (Utf8.encodeText text).head?).getD 9
    let between := ((arguments.value? 'O').map Utf8.encodeText).getD [mark]
    if !line.contains mark then if arguments.has 's' then none else some line
    else some (((keepNumbers ranges isComplement (splitAtMark mark line)).intersperse
      between).flatten)
  else some (keepNumbers ranges isComplement line)

def cut (call : Call) (machine : Machine) : Machine :=
  withOptions "cut" 1 cutTable call machine fun arguments =>
    let refuse (text : String) : Machine :=
      machine.complain 1 ("cut: " ++ text ++ "\n" ++ advice "cut")
    let isFields := arguments.has 'f'
    let list := ((arguments.value? 'f').or (arguments.value? 'c')).or (arguments.value? 'b')
    let lists := ['f', 'c', 'b'].flatMap arguments.values
    match list with
    | none => refuse "you must specify a list of bytes, characters, or fields"
    | some list =>
        if 1 < lists.length then refuse "only one list may be specified"
        else if (arguments.value? 'd').any fun text => text.utf8ByteSize != 1 then
          refuse "the delimiter must be a single character"
        else if !isFields && arguments.has 'd' then
          refuse "an input delimiter may be specified only when operating on fields"
        else
          match rangesOf list with
          | .error .zero =>
              refuse (if isFields then "fields are numbered from 1"
                else "byte/character positions are numbered from 1")
          | .error .decreasing => refuse "invalid decreasing range"
          | .error (.malformed text) =>
              let kind := if isFields then "field value" else "byte/character position"
              refuse ("invalid " ++ kind ++ " ‘" ++ text ++ "’")
          | .ok ranges =>
              filterSources "cut" arguments.operands
                (fun bytes =>
                  joinByteLines ((byteLines bytes).filterMap (cutLine arguments ranges)))
                machine

/-! ## Replacing bytes -/

/-- An element of a set of bytes: a byte so many times, or as often as is needed. -/
inductive SetItem where
  | byte (byte : UInt8)
  | filling (byte : UInt8)
  /-- The letters of one case, which go over into those of the other. -/
  | upper
  | lower
deriving DecidableEq, Repr

namespace ByteSet

def isUpper (byte : UInt8) : Bool := 65 ≤ byte && byte ≤ 90
def isLower (byte : UInt8) : Bool := 97 ≤ byte && byte ≤ 122
def isDigit (byte : UInt8) : Bool := 48 ≤ byte && byte ≤ 57
def isWhite (byte : UInt8) : Bool := byte = 32 || (9 ≤ byte && byte ≤ 13)

def isPunct (byte : UInt8) : Bool :=
  33 ≤ byte && byte ≤ 126 && !isUpper byte && !isLower byte && !isDigit byte

def allBytes : List UInt8 := (List.range 256).map UInt8.ofNat

/-- The bytes of a class with a name. -/
def classBytes? (name : String) : Option (List UInt8) :=
  let ofKind (kind : UInt8 → Bool) : Option (List UInt8) := some (allBytes.filter kind)
  match name with
  | "upper" => ofKind isUpper
  | "lower" => ofKind isLower
  | "alpha" => ofKind fun byte => isUpper byte || isLower byte
  | "digit" => ofKind isDigit
  | "alnum" => ofKind fun byte => isUpper byte || isLower byte || isDigit byte
  | "space" => ofKind isWhite
  | "blank" => ofKind isBlankish
  | "punct" => ofKind isPunct
  | "cntrl" => ofKind fun byte => byte < 32 || byte = 127
  | "print" => ofKind fun byte => 32 ≤ byte && byte ≤ 126
  | "graph" => ofKind fun byte => 33 ≤ byte && byte ≤ 126
  | "xdigit" => ofKind fun byte =>
      isDigit byte || (65 ≤ byte && byte ≤ 70) || (97 ≤ byte && byte ≤ 102)
  | _ => none
where
  isBlankish (byte : UInt8) : Bool := byte = 32 || byte = 9

/-- A byte that is written with a backslash, and what follows it. -/
def escaped (bytes : Utf8.Bytes) : UInt8 × Utf8.Bytes :=
  let isOctalByte (byte : UInt8) : Bool := 48 ≤ byte && byte ≤ 55
  match bytes with
  | [] => (92, [])
  | byte :: rest =>
      let digits := (bytes.takeWhile isOctalByte).take 3
      if !digits.isEmpty then
        (.ofNat (digits.foldl (fun value digit => value * 8 + (digit.toNat - 48)) 0),
          bytes.drop digits.length)
      else
        let control := (controlOf? (Char.ofNat byte.toNat)).filter fun _ => byte != 101
        (control.getD byte, rest)

/-- The byte at the beginning of a set. -/
def leading? : Utf8.Bytes → Option (UInt8 × Utf8.Bytes)
  | [] => none
  | 92 :: rest => some (escaped rest)
  | byte :: rest => some (byte, rest)

/-- Reads a set of bytes.  `fuel` bounds its items. -/
def read (fuel : Nat) (bytes : Utf8.Bytes) : Except String (List SetItem) :=
  match fuel with
  | 0 => .ok []
  | fuel + 1 =>
      let className : Option (String × Utf8.Bytes) := match bytes with
        | 91 :: 58 :: rest =>
            let name := rest.takeWhile (· != 58)
            match rest.drop name.length with
            | 58 :: 93 :: after =>
                some (String.ofList (name.map fun byte => Char.ofNat byte.toNat), after)
            | _ => none
        | _ => none
      match className with
      | some ("upper", after) => do return .upper :: (← read fuel after)
      | some ("lower", after) => do return .lower :: (← read fuel after)
      | some (name, after) =>
          match classBytes? name with
          | some found => do return found.map SetItem.byte ++ (← read fuel after)
          | none => .error ("invalid character class ‘" ++ name ++ "’")
      | none =>
          match filling? bytes with
          | some (items, after) => do return items ++ (← read fuel after)
          | none =>
              match leading? bytes with
              | none => .ok []
              | some (low, 45 :: rest) =>
                  match leading? rest with
                  | none => .ok [.byte low, .byte 45]
                  | some (high, after) =>
                      if high < low then
                        let shown (byte : UInt8) : String :=
                          String.singleton (Char.ofNat byte.toNat)
                        .error ("range-endpoints of '" ++ shown low ++ "-" ++ shown high ++
                          "' are in reverse collating sequence order")
                      else do
                        let range := (allBytes.drop low.toNat).take (high.toNat - low.toNat + 1)
                        return range.map SetItem.byte ++ (← read fuel after)
              | some (byte, rest) => do return .byte byte :: (← read fuel rest)
where
  /-- A byte between brackets that is there several times. -/
  filling? (bytes : Utf8.Bytes) : Option (List SetItem × Utf8.Bytes) :=
    match bytes with
    | 91 :: rest =>
        match leading? rest with
        | some (byte, 42 :: after) =>
            let digits := after.takeWhile isDigit
            match after.drop digits.length with
            | 93 :: more =>
                let count := numberOf (digits.map fun byte => Char.ofNat byte.toNat)
                if count = 0 then some ([.filling byte], more)
                else some (List.replicate count (SetItem.byte byte), more)
            | _ => none
        | _ => none
    | _ => none

/-- The bytes of a set by themselves. -/
def members (items : List SetItem) : List UInt8 :=
  items.flatMap fun item =>
    match item with
    | .byte byte => [byte]
    | .filling byte => [byte]
    | .upper => allBytes.filter isUpper
    | .lower => allBytes.filter isLower

/-- The bytes that take the places of so many others: the last one as often as it is
needed. -/
def targets (items : List SetItem) (count : Nat) : List UInt8 :=
  let missing := count - (members (items.filter fun item => !(item matches .filling _))).length
  let listed := items.flatMap fun item =>
    match item with
    | .filling byte => List.replicate missing byte
    | other => members [other]
  match listed.getLast? with
  | some last => listed ++ List.replicate (count - listed.length) last
  | none => []

end ByteSet

def trTable : OptionTable where
  flags := "dsctC"
  names := [("delete", 'd'), ("squeeze-repeats", 's'), ("complement", 'c'),
    ("truncate-set1", 't')]

/-- Leaves one of each run of bytes that are in a set. -/
def squeeze (isInSet : UInt8 → Bool) : Utf8.Bytes → Utf8.Bytes
  | first :: second :: rest =>
      if first = second && isInSet first then squeeze isInSet (second :: rest)
      else first :: squeeze isInSet (second :: rest)
  | bytes => bytes

/-- Replaces bytes by those at the same place in a second set. -/
def replaceBytes (sources targets : List UInt8) (bytes : Utf8.Bytes) : Utf8.Bytes :=
  let pairs := (sources.zip targets).reverse
  bytes.map fun byte => (pairs.lookup byte).getD byte

/-- What is made of bytes by one or two sets. -/
def exchanged (arguments : Arguments) (first : List SetItem) (second : Option (List SetItem))
    (bytes : Utf8.Bytes) : Utf8.Bytes :=
  let isComplement := arguments.has 'c' || arguments.has 'C'
  let given := ByteSet.members first
  let sources :=
    if isComplement then ByteSet.allBytes.filter (!given.contains ·) else given
  let later := ByteSet.members (second.getD first)
  if arguments.has 'd' then
    let kept := bytes.filter (!sources.contains ·)
    if arguments.has 's' then squeeze later.contains kept else kept
  else
    match second with
    | none => squeeze sources.contains bytes
    | some second =>
        let targets :=
          if arguments.has 't' then ByteSet.members second
          else ByteSet.targets second sources.length
        let replaced := replaceBytes sources targets bytes
        if arguments.has 's' then squeeze (ByteSet.members second).contains replaced
        else replaced

/-- Replaces, joins or takes out bytes of the input. -/
def tr (call : Call) (machine : Machine) : Machine :=
  -- Options stand only in front of the sets.
  let options := call.arguments.takeWhile fun word =>
    word.startsWith "-" && word != "-" && word != "--"
  let sets := call.arguments.drop options.length
  let ordered : Call := { call with arguments := options ++ "--" ::
    (if sets.head? = some "--" then sets.tail else sets) }
  withOptions "tr" 1 trTable ordered machine fun arguments =>
    let refuse (text : String) : Machine :=
      machine.complain 1 ("tr: " ++ text ++ "\n" ++ advice "tr")
    let deletes := arguments.has 'd'
    let squeezes := arguments.has 's'
    let most := if deletes && !squeezes then 1 else 2
    let least := if deletes == squeezes then 2 else 1
    match arguments.operands with
    | [] => refuse "missing operand"
    | operands =>
        let last := operands.getLast?.getD ""
        if operands.length < least then
          refuse ("missing operand after ‘" ++ last ++ "’\n" ++
            (if deletes then "Two strings must be given when both deleting and squeezing repeats."
              else "Two strings must be given when translating."))
        else if most < operands.length then
          refuse ("extra operand ‘" ++ operands[most]?.getD "" ++ "’" ++
            (if most = 1 && operands.length = 2 then
              "\nOnly one string may be given when deleting without squeezing repeats." else ""))
        else
          let readSet (text : String) : Except String (List SetItem) :=
            ByteSet.read (text.utf8ByteSize + 1) (Utf8.encodeText text)
          match operands.mapM readSet with
          | .error fault => machine.complain 1 ("tr: " ++ fault)
          | .ok sets =>
              let first := sets.headD []
              let second := sets[1]?
              if !deletes && !arguments.has 't' && second = some [] then
                machine.complain 1 "tr: when not truncating set1, string2 must be non-empty"
              else
                let shown := exchanged arguments first second machine.input
                ({ machine with input := [] }).write shown

end DocSamples.Script
