import DocSamples.Script.Input

namespace DocSamples.Script

/-! # Ordering lines

Lines are put in order by keys, and equal lines that follow each other are joined.
-/

open Text

/-- What keys stand for where they are compared. -/
inductive KeyKind where
  | text
  | decimal
  /-- A decimal that may have an exponent. -/
  | general
  /-- A decimal with the letter of a unit. -/
  | amount
  | month
  | version
deriving DecidableEq, Repr

/-- How keys are compared. -/
structure KeyOrder where
  kind : KeyKind := .text
  isReversed : Bool := false
  foldsCase : Bool := false
  skipsBlanks : Bool := false
  /-- Only blanks, letters and digits count, or only what can be printed. -/
  isDictionary : Bool := false
  isPrinted : Bool := false
deriving DecidableEq, Repr

/-- The part of a line that is compared, from a field and a character on and up to
others.  Fields and characters are counted from one, and zero stands for the end. -/
structure SortKey where
  firstField : Nat
  firstChar : Nat
  lastField : Option Nat
  lastChar : Nat
  order : KeyOrder
deriving DecidableEq, Repr

def isBlankByte (byte : UInt8) : Bool :=
  byte = 32 || byte = 9

namespace SortKey

def addLetter (order : KeyOrder) (letter : Char) : KeyOrder :=
  match letter with
  | 'n' => { order with kind := .decimal }
  | 'g' => { order with kind := .general }
  | 'h' => { order with kind := .amount }
  | 'M' => { order with kind := .month }
  | 'V' => { order with kind := .version }
  | 'd' => { order with isDictionary := true }
  | 'i' => { order with isPrinted := true }
  | 'r' => { order with isReversed := true }
  | 'f' => { order with foldsCase := true }
  | 'b' => { order with skipsBlanks := true }
  | _ => order

/-- A place in a line: a field and perhaps a character, and the letters behind it. -/
def readPlace (chars : List Char) : Nat × Nat × List Char :=
  let field := numberOf (chars.takeWhile Char.isDigit)
  match chars.dropWhile Char.isDigit with
  | '.' :: rest =>
      (field, numberOf (rest.takeWhile Char.isDigit), rest.dropWhile Char.isDigit)
  | rest => (field, 0, rest)

/-- A key by its text; without letters of its own it has the order of all. -/
def ofText (common : KeyOrder) (text : String) : SortKey :=
  let chars := text.toList
  let (firstField, firstChar, letters) := readPlace (chars.takeWhile (· != ','))
  let (last, moreLetters) : Option (Nat × Nat) × List Char :=
    match chars.dropWhile (· != ',') with
    | _ :: rest =>
        let (field, char, letters) := readPlace rest
        (some (field, char), letters)
    | [] => (none, [])
  let all := letters ++ moreLetters
  let order := if all.isEmpty then common else all.foldl addLetter {}
  { firstField, firstChar := firstChar.max 1, lastField := last.map Prod.fst,
    lastChar := (last.map Prod.snd).getD 0, order }

/-- The fields of a line with where they begin: between separators, or from the blanks
in front of them on. -/
def fieldStarts (separator : Option UInt8) (line : Utf8.Bytes) : List Nat :=
  let isBlankAt (index : Nat) : Bool := (line.drop index).head?.any isBlankByte
  let isStart (index : Nat) : Bool :=
    match separator with
    | some mark => index = 0 || line.getD (index - 1) 0 = mark
    | none =>
        index = 0 ||
          (isBlankAt index && !isBlankAt (index - 1))
  (List.range (line.length + 1)).filter fun index =>
    isStart index && (separator.isSome || index < line.length || index = 0)

/-- The place in a line where a character of a field stands. -/
def placeOf (separator : Option UInt8) (line : Utf8.Bytes) (field char : Nat) (skips : Bool) :
    Nat :=
  match (fieldStarts separator line)[field - 1]? with
  | none => line.length
  | some start =>
      let blanks := if skips then ((line.drop start).takeWhile isBlankByte).length else 0
      (start + blanks + (char - 1)).min line.length

/-- The part of a line that a key compares. -/
def part (key : SortKey) (separator : Option UInt8) (line : Utf8.Bytes) : Utf8.Bytes :=
  let start := placeOf separator line key.firstField key.firstChar key.order.skipsBlanks
  let stop := match key.lastField with
    | none => line.length
    | some field =>
        if key.lastChar = 0 then
          match (fieldStarts separator line)[field]? with
          | some next => if separator.isSome then next - 1 else next
          | none => line.length
        else placeOf separator line field key.lastChar key.order.skipsBlanks + 1
  (line.take stop).drop start

end SortKey

/-- The number at the beginning of some bytes, in units of a power of ten, and the
number of its decimals. -/
def leadingDecimal (bytes : Utf8.Bytes) : Int × Nat :=
  let chars := (charsOf bytes).dropWhile isSpace
  let (isNegative, start) := match chars with
    | '-' :: rest => (true, rest)
    | _ => (false, chars)
  let whole := start.takeWhile Char.isDigit
  let fraction := match start.dropWhile Char.isDigit with
    | '.' :: rest => rest.takeWhile Char.isDigit
    | _ => []
  let number : Int := numberOf (whole ++ fraction)
  (if isNegative then -number else number, fraction.length)

def compareDecimals (first second : Int × Nat) : Ordering :=
  compare (first.1 * (Nat.pow 10 second.2 : Nat)) (second.1 * (Nat.pow 10 first.2 : Nat))

/-- The number at the beginning of some bytes with its exponent, if there is one. -/
def leadingGeneral? (bytes : Utf8.Bytes) : Option (Int × Int) :=
  let chars := (charsOf bytes).dropWhile isSpace
  let start := if chars.head? = some '-' || chars.head? = some '+' then chars.tail else chars
  let whole := start.takeWhile Char.isDigit
  let fraction := match start.drop whole.length with
    | '.' :: rest => rest.takeWhile Char.isDigit
    | _ => []
  let after := start.drop (whole.length + (if fraction.isEmpty then 0 else fraction.length + 1))
  let exponent : Int := match after with
    | mark :: rest =>
        if mark.toLower != 'e' then 0
        else match rest with
          | '-' :: digits => -(numberOf (digits.takeWhile Char.isDigit) : Int)
          | '+' :: digits => numberOf (digits.takeWhile Char.isDigit)
          | digits => numberOf (digits.takeWhile Char.isDigit)
    | [] => 0
  if whole.isEmpty && fraction.isEmpty then none
  else
    let number : Int := numberOf (whole ++ fraction)
    some (if chars.head? = some '-' then -number else number, exponent - fraction.length)

/-- Compares numbers with exponents; what is no number comes first. -/
def compareGeneral (first second : Option (Int × Int)) : Ordering :=
  match first, second with
  | none, none => .eq
  | none, some _ => .lt
  | some _, none => .gt
  | some (one, exponent), some (other, exponent') =>
      let least := min exponent exponent'
      compare (one * (Nat.pow 10 (exponent - least).toNat : Nat))
        (other * (Nat.pow 10 (exponent' - least).toNat : Nat))

/-- The place of the unit behind a number, counted from one; none has zero. -/
def unitRank (bytes : Utf8.Bytes) : Nat :=
  let chars := (charsOf bytes).dropWhile isSpace
  let rest := chars.dropWhile fun c => c.isDigit || c = '-' || c = '.'
  match rest.head? with
  | some letter =>
      (["kK", "M", "G", "T", "P", "E", "Z", "Y"].findIdx? (·.contains letter)).elim 0 (· + 1)
  | none => 0

/-- Compares amounts: by the sign, then by the units, then by the numbers. -/
def compareAmounts (first second : Utf8.Bytes) : Ordering :=
  let one := leadingDecimal first
  let other := leadingDecimal second
  let rank (bytes : Utf8.Bytes) (number : Int × Nat) : Int :=
    let unit : Int := unitRank bytes + 1
    if number.1 = 0 then 0 else if number.1 < 0 then -unit else unit
  (compare (rank first one) (rank second other)).then (compareDecimals one other)

/-- The number of the month that some bytes begin with; none has zero. -/
def monthRank (bytes : Utf8.Bytes) : Nat :=
  let name := String.ofList (((charsOf bytes).dropWhile isSpace).take 3)
  (["jan", "feb", "mar", "apr", "may", "jun", "jul", "aug", "sep", "oct", "nov", "dec"].idxOf?
    name.toLower).elim 0 (· + 1)

/-- The rank of a character of a version that is no digit; the end has the rank of a
digit. -/
def versionRank (c : Option Char) : Int :=
  match c with
  | none => 0
  | some '~' => -1
  | some c => if c.isDigit then 0 else if c.isAlpha then c.toNat else c.toNat + 256

/-- Compares versions: texts by their characters and numbers by their values, in turn.
`fuel` bounds the turns. -/
def compareVersions (fuel : Nat) (first second : List Char) : Ordering :=
  match fuel with
  | 0 => .eq
  | fuel + 1 =>
      if first.isEmpty && second.isEmpty then .eq
      else
        let isText (c : Option Char) : Bool := c.any (!·.isDigit)
        if isText first.head? || isText second.head? then
          (compare (versionRank first.head?) (versionRank second.head?)).then
            (compareVersions fuel first.tail second.tail)
        else
          let number := first.takeWhile Char.isDigit
          let number' := second.takeWhile Char.isDigit
          (compare (numberOf number) (numberOf number')).then
            (compareVersions fuel (first.drop number.length) (second.drop number'.length))

def compareBytes : Utf8.Bytes → Utf8.Bytes → Ordering
  | [], [] => .eq
  | [], _ => .lt
  | _, [] => .gt
  | first :: rest, second :: more =>
      (compare first.toNat second.toNat).then (compareBytes rest more)

def upperByte (byte : UInt8) : UInt8 :=
  if 97 ≤ byte && byte ≤ 122 then byte - 32 else byte

/-- Compares two parts of lines. -/
def KeyOrder.compare (order : KeyOrder) (first second : Utf8.Bytes) : Ordering :=
  let prepare (bytes : Utf8.Bytes) : Utf8.Bytes :=
    let kept := if order.skipsBlanks then bytes.dropWhile isBlankByte else bytes
    let chosen := kept.filter fun byte =>
      (!order.isDictionary || isBlankByte byte || (Char.ofNat byte.toNat).isAlphanum) &&
        (!order.isPrinted || (32 ≤ byte && byte < 127))
    if order.foldsCase then chosen.map upperByte else chosen
  let result := match order.kind with
    | .text => compareBytes (prepare first) (prepare second)
    | .decimal => compareDecimals (leadingDecimal first) (leadingDecimal second)
    | .general => compareGeneral (leadingGeneral? first) (leadingGeneral? second)
    | .amount => compareAmounts first second
    | .month => compareOfLessAndEq (monthRank first) (monthRank second)
    | .version =>
        compareVersions (first.length + second.length + 1) (charsOf first) (charsOf second)
  if order.isReversed then result.swap else result

structure SortOptions where
  keys : List SortKey
  separator : Option UInt8
  common : KeyOrder
  /-- Of equal lines only the first one is kept. -/
  isUnique : Bool
  isStable : Bool

namespace SortOptions

def ofArguments (arguments : Arguments) : SortOptions :=
  let common := (arguments.options.map Prod.fst).foldl SortKey.addLetter {}
  { keys := (arguments.values 'k').map (SortKey.ofText common)
    separator := (arguments.value? 't').bind fun text =>
      if text = "\\0" then some 0 else (Utf8.encodeText text).head?
    common
    isUnique := arguments.has 'u'
    isStable := arguments.has 's' }

/-- Compares two lines by the keys alone. -/
def compareKeys (options : SortOptions) (first second : Utf8.Bytes) : Ordering :=
  if options.keys.isEmpty then options.common.compare first second
  else
    options.keys.foldl (fun result key =>
      result.then (key.order.compare (key.part options.separator first)
        (key.part options.separator second))) .eq

/-- Compares two lines; the whole lines decide between equal keys. -/
def compareLines (options : SortOptions) (first second : Utf8.Bytes) : Ordering :=
  let byKeys := options.compareKeys first second
  if byKeys != .eq || options.isStable || options.isUnique then byKeys
  else
    let whole := compareBytes first second
    if options.common.isReversed then whole.swap else whole

def dropEqual (options : SortOptions) : List Utf8.Bytes → List Utf8.Bytes
  | first :: second :: rest =>
      if options.compareKeys first second = .eq then dropEqual options (first :: rest)
      else first :: dropEqual options (second :: rest)
  | lines => lines
termination_by lines => lines.length

def sorted (options : SortOptions) (lines : List Utf8.Bytes) : List Utf8.Bytes :=
  let ordered := lines.mergeSort fun first second => options.compareLines first second != .gt
  if options.isUnique then options.dropEqual ordered else ordered

/-- The first line that is not in order, with its number. -/
def disorder? (options : SortOptions) (number : Nat) : List Utf8.Bytes → Option (Nat × Utf8.Bytes)
  | first :: second :: rest =>
      let result := options.compareLines first second
      if result = .gt || (options.isUnique && result = .eq) then some (number + 1, second)
      else options.disorder? (number + 1) (second :: rest)
  | _ => none

end SortOptions

def sortTable : OptionTable where
  flags := "nrfbusgcdiCmMhVz"
  valued := "ktoS"
  names := [("numeric-sort", 'n'), ("reverse", 'r'), ("ignore-case", 'f'), ("unique", 'u'),
    ("stable", 's'), ("key", 'k'), ("field-separator", 't'), ("output", 'o'), ("check", 'c'),
    ("ignore-leading-blanks", 'b'), ("human-numeric-sort", 'h'), ("version-sort", 'V'),
    ("general-numeric-sort", 'g'), ("month-sort", 'M'), ("zero-terminated", 'z'),
    ("dictionary-order", 'd')]

/-- Shows the lines of files in order. -/
def sort (call : Call) (machine : Machine) : Machine :=
  withOptions "sort" 2 sortTable call machine fun arguments =>
    let options := SortOptions.ofArguments arguments
    let sources := sourcesOf machine arguments.operands
    let failed := sources.findSome? fun source =>
      match source.content with
      | .error .isDirectory => some ("sort: read failed: " ++ source.name ++ ": Is a directory")
      | .error cause => some ("sort: cannot read: " ++ source.name ++ ": " ++ cause.words)
      | .ok _ => none
    let zeroKey := (arguments.values 'k').find? fun text => (SortKey.ofText {} text).firstField = 0
    match failed, zeroKey with
    | _, some text =>
        machine.complain 2 ("sort: field number is zero: invalid field specification ‘" ++
          text ++ "’")
    | some message, none => machine.complain 2 message
    | none, none =>
        let contents := sources.filterMap fun source => source.content.toOption
        let lines := contents.flatMap (recordsOf (arguments.has 'z'))
        let used := consume arguments.operands machine
        if arguments.has 'c' || arguments.has 'C' then
          match options.disorder? 1 lines with
          | none => used
          | some (number, line) =>
              if arguments.has 'C' then used.leave 1
              else
                let name := arguments.operands.headD "-"
                used.complain 1 ("sort: " ++ name ++ ":" ++ toString number ++ ": disorder: " ++
                  String.ofList (charsOf line))
        else
          let bytes := if arguments.has 'z' then (options.sorted lines).flatMap (· ++ [0])
            else joinByteLines (options.sorted lines)
          match arguments.value? 'o' with
          | none => used.write bytes
          | some name =>
              match used.tree.writeBytes (used.pathOf name) bytes with
              | .ok tree => { used with tree }
              | .error fault =>
                  let cause := match fault with
                    | .system cause _ => cause
                    | _ => .notFound
                  used.complain 2 ("sort: open failed: " ++ name ++ ": " ++ cause.words)

/-! ## Equal lines -/

/-- Lines that follow each other and are equal by their keys: the first of them and the
others. -/
def runsOf {κ : Type} [DecidableEq κ] (key : Utf8.Bytes → κ) :
    List Utf8.Bytes → List (Utf8.Bytes × List Utf8.Bytes)
  | [] => []
  | line :: rest =>
      match runsOf key rest with
      | (next, others) :: more =>
          if key line = key next then (line, next :: others) :: more
          else (line, []) :: (next, others) :: more
      | [] => [(line, [])]

def uniqTable : OptionTable where
  flags := "cduiDz"
  valued := "fsw"
  names := [("count", 'c'), ("repeated", 'd'), ("unique", 'u'), ("ignore-case", 'i'),
    ("skip-fields", 'f'), ("skip-chars", 's'), ("check-chars", 'w')]

/-- The part of a line that is compared when fields and characters are skipped. -/
def comparedPart (arguments : Arguments) (line : Utf8.Bytes) : Utf8.Bytes :=
  let size (letter : Char) : Nat := ((arguments.value? letter).bind Sum.digits?).getD 0
  let skipField (bytes : Utf8.Bytes) : Utf8.Bytes :=
    (bytes.dropWhile isBlankByte).dropWhile (!isBlankByte ·)
  let afterFields := (List.range (size 'f')).foldl (fun bytes _ => skipField bytes) line
  let rest := afterFields.drop (size 's')
  let part := if arguments.has 'w' then rest.take (size 'w') else rest
  if arguments.has 'i' then part.map upperByte else part

/-- Shows one of each run of equal lines. -/
def uniq (call : Call) (machine : Machine) : Machine :=
  withOptions "uniq" 1 uniqTable call machine fun arguments =>
    let source := sourceOf machine (arguments.operands.headD "-")
    match source.content with
    | .error cause => machine.complain 1 ("uniq: " ++ source.name ++ ": " ++ cause.words)
    | .ok bytes =>
        let runs := (runsOf (comparedPart arguments) (byteLines bytes)).filter fun (_, others) =>
          (!(arguments.has 'd' || arguments.has 'D') || !others.isEmpty) &&
            (!arguments.has 'u' || others.isEmpty)
        let rows := runs.flatMap fun (line, others) =>
          if arguments.has 'D' then line :: others
          else if arguments.has 'c' then
            [Utf8.encodeText (padLeft 7 (toString (others.length + 1)) ++ " ") ++ line]
          else [line]
        let shown := joinByteLines rows
        let used := consume (arguments.operands.take 1) machine
        match arguments.operands[1]? with
        | none => used.write shown
        | some name =>
            match used.tree.writeBytes (used.pathOf name) shown with
            | .ok tree => { used with tree }
            | .error _ => used.complain 1 ("uniq: " ++ name ++ ": No such file or directory")

end DocSamples.Script
