import DocSamples.Text.Blank
import DocSamples.Yaml.Fault
import DocSamples.Yaml.Value

namespace DocSamples.Yaml

/-! # Plain scalars

What a scalar without quotes means: words for truth and nothing, integers in
four bases, numbers with a point, numbers in base sixty, dates, and texts.
-/

/-- A plain scalar has a value, or a meaning only where keys of mappings stand. -/
inductive Meaning where
  | value (value : Value)
  | mergeKey
  | defaultKey
deriving Repr

namespace Meaning

def truthWords : List (String × Bool) :=
  [("yes", true), ("Yes", true), ("YES", true), ("no", false), ("No", false), ("NO", false),
    ("true", true), ("True", true), ("TRUE", true), ("false", false), ("False", false),
    ("FALSE", false), ("on", true), ("On", true), ("ON", true), ("off", false), ("Off", false),
    ("OFF", false)]

def nullWords : List String := ["", "~", "null", "Null", "NULL"]

def digitsOr (extra : Char → Bool) (chars : List Char) : Bool :=
  chars.all fun c => c.isDigit || extra c

def isUnderscore (c : Char) : Bool := c = '_'

def digitValue (c : Char) : Nat :=
  if c.isDigit then c.toNat - '0'.toNat
  else if decide ('a' ≤ c) then c.toNat - 'a'.toNat + 10
  else c.toNat - 'A'.toNat + 10

/-- The number that digits write in a base; underscores do not count. -/
def numberIn (base : Nat) (chars : List Char) : Nat :=
  (chars.filter (!isUnderscore ·)).foldl (fun value c => value * base + digitValue c) 0

/-- The sign of a number and what follows it. -/
def splitSign : List Char → Bool × List Char
  | '-' :: rest => (true, rest)
  | '+' :: rest => (false, rest)
  | chars => (false, chars)

/-- The parts of a text between the occurrences of a character. -/
def splitAt (separator : Char) : List Char → List (List Char)
  | [] => [[]]
  | c :: rest =>
      if c = separator then [] :: splitAt separator rest
      else match splitAt separator rest with
        | [] => [[c]]
        | part :: more => (c :: part) :: more

/-- One or two digits that write a number below sixty. -/
def isSixtieth (chars : List Char) : Bool :=
  match chars with
  | [c] => c.isDigit
  | [c, d] => decide ('0' ≤ c) && decide (c ≤ '5') && d.isDigit
  | _ => false

/-- Digits in which underscores may stand, but not in front. -/
def isNumber (chars : List Char) : Bool :=
  match chars with
  | [] => false
  | c :: rest => c.isDigit && digitsOr isUnderscore rest

def isHexDigit (c : Char) : Bool :=
  c.isDigit ||
    (decide ('a' ≤ c) && decide (c ≤ 'f')) ||
    (decide ('A' ≤ c) && decide (c ≤ 'F'))

/-- The digits of a number in another base. -/
def inBase (base : Nat) (isDigit : Char → Bool) (chars : List Char) : Option (Except Fault Nat) :=
  if chars.isEmpty || !chars.all fun c => isDigit c || isUnderscore c then none
  else if chars.all isUnderscore then some (.error (.badDigits base ""))
  else some (.ok (numberIn base chars))

/-- How many decimal digits an integer may have. -/
def integerLength : Nat := 4300

/-- The number that decimal digits write; too many of them are a fault. -/
def decimal (chars : List Char) : Except Fault Nat :=
  let digits := chars.filter (!isUnderscore ·)
  if integerLength < digits.length then .error (.longInteger digits.length)
  else .ok (numberIn 10 digits)

/-- A natural number, if the characters write one. -/
def natural? (chars : List Char) : Option (Except Fault Nat) :=
  match chars with
  | ['0'] => some (.ok 0)
  | '0' :: 'b' :: rest => inBase 2 (fun c => c = '0' || c = '1') rest
  | '0' :: 'x' :: rest => inBase 16 isHexDigit rest
  | '0' :: rest =>
      if rest.all fun c => isUnderscore c || (decide ('0' ≤ c) && decide (c ≤ '7')) then
        some (.ok (numberIn 8 rest))
      else none
  | _ =>
      match splitAt ':' chars with
      | [] => none
      | first :: parts =>
          if isNumber first && parts.all isSixtieth then
            some ((decimal first).map
              (parts.foldl (fun value part => value * 60 + numberIn 10 part)))
          else none

def signed (isNegative : Bool) (value : Nat) : Int :=
  if isNegative then -(value : Int) else value

def integer? (chars : List Char) : Option (Except Fault Int) :=
  let (isNegative, body) := splitSign chars
  (natural? body).map fun found => found.map (signed isNegative)

/-- Beyond this many places a power of ten need not be computed. -/
def exponentLimit : Int := 400

/-- The number that digits write after which a power of ten follows. -/
def scaled (digits : List Char) (exponent : Int) : Binary :=
  let mantissa := numberIn 10 digits
  if mantissa = 0 then .finite 0
  else if exponentLimit < exponent then .infinite
  else if exponent + digits.length < -exponentLimit then .finite 0
  else if 0 ≤ exponent then .ofQuotient (mantissa * Nat.pow 10 exponent.toNat) 1
  else .ofQuotient mantissa (Nat.pow 10 (-exponent).toNat)

/-- The power of ten at the end of a number, zero if there is none. -/
def exponent? (chars : List Char) : Option Int :=
  match chars with
  | [] => some 0
  | e :: sign :: digits =>
      if (e = 'e' || e = 'E') && (sign = '-' || sign = '+') && !digits.isEmpty &&
          digits.all Char.isDigit then
        some (signed (sign = '-') (numberIn 10 digits))
      else none
  | _ => none

/-- A number whose whole part is in front of a point: digits, and perhaps an
exponent. -/
def fraction? (whole rest : List Char) : Option Binary :=
  let isPlace (c : Char) : Bool := c.isDigit || isUnderscore c
  let places := (rest.takeWhile isPlace).filter (!isUnderscore ·)
  (exponent? (rest.dropWhile isPlace)).map fun exponent =>
    scaled (whole ++ places) (exponent - places.length)

/-- What a digit in base sixty adds to a number at a power of sixty. -/
def addSixtieth (power : Nat) (digit value : Binary) : Except Fault Binary :=
  match Binary.ofQuotient (Nat.pow 60 power) 1 with
  | .infinite => .error .hugePower
  | unit => .ok (value.add (digit.mul unit))

/-- The number that digits in base sixty write, the last digit first.  Each step
is rounded. -/
def sumSixtieths (power : Nat) (value : Binary) : List Binary → Except Fault Binary
  | [] => .ok value
  | digit :: more => do sumSixtieths (power + 1) (← addSixtieth power digit value) more

/-- A number in base sixty whose last digit has a point. -/
def sixtieths? (whole rest : List Char) : Option (Except Fault Binary) :=
  match splitAt ':' whole with
  | first :: second :: parts =>
      if isNumber first && (second :: parts).all isSixtieth && digitsOr isUnderscore rest then
        let places := rest.filter (!isUnderscore ·)
        let last := scaled ((second :: parts).getLastD [] ++ places) (-places.length)
        let others := (first :: second :: parts).dropLast.map fun part => scaled part 0
        some (sumSixtieths 0 (.finite 0) (last :: others.reverse))
      else none
  | _ => none

def withPoint? (chars : List Char) : Option (Except Fault Binary) :=
  let whole := chars.takeWhile (· != '.')
  match chars.dropWhile (· != '.') with
  | [] => none
  | _ :: rest =>
      if isNumber whole then (fraction? whole rest).map .ok else sixtieths? whole rest

def infinityWords : List String := [".inf", ".Inf", ".INF"]
def undefinedWords : List String := [".nan", ".NaN", ".NAN"]

def real? (chars : List Char) : Option (Except Fault Real) :=
  let (isNegative, body) := splitSign chars
  let withSign (size : Binary) : Real :=
    if isNegative then (Real.ofBinary size).negate else .ofBinary size
  if undefinedWords.contains (String.ofList chars) then some (.ok .undefined)
  else if infinityWords.contains (String.ofList body) then some (.ok .infinite)
  else
    match chars with
    | '.' :: c :: rest =>
        if c.isDigit then (fraction? [] (c :: rest)).map fun size => .ok (.ofBinary size) else none
    | _ => (withPoint? body).map fun found => found.map withSign

/-! ## Dates -/

structure Moment where
  year : Nat
  month : Nat
  day : Nat
  hour : Nat := 0
  minute : Nat := 0
  second : Nat := 0
  /-- How far the time zone is from the prime meridian, in minutes. -/
  zone : Int := 0
deriving DecidableEq, Repr

def isLeap (year : Nat) : Bool :=
  year % 4 = 0 && (year % 100 ≠ 0 || year % 400 = 0)

def daysIn (year month : Nat) : Nat :=
  if month = 2 then (if isLeap year then 29 else 28)
  else if month = 4 || month = 6 || month = 9 || month = 11 then 30
  else 31

/-- The first thing that is wrong with a date. -/
def Moment.fault? (moment : Moment) : Option Fault :=
  if 24 * 60 ≤ moment.zone.natAbs then some (.farZone moment.zone)
  else if moment.year = 0 then some (.noDate (.year 0))
  else if moment.month = 0 || 12 < moment.month then some (.noDate .month)
  else if moment.day = 0 || daysIn moment.year moment.month < moment.day then
    some (.noDate .day)
  else if 23 < moment.hour then some (.noDate .hour)
  else if 59 < moment.minute then some (.noDate .minute)
  else if 59 < moment.second then some (.noDate .second)
  else none

/-- A number of so many digits and what follows it; as many as possible are taken. -/
def digits? (least most : Nat) (chars : List Char) : Option (Nat × List Char) :=
  let digits := (chars.takeWhile Char.isDigit).take most
  if digits.length < least then none else some (numberIn 10 digits, chars.drop digits.length)

def after? (mark : Char) : List Char → Option (List Char)
  | c :: rest => if c = mark then some rest else none
  | [] => none

def isSpace (c : Char) : Bool := c = ' ' || c = '\t'

/-- The time zone at the end of a time. -/
def zone? (chars : List Char) : Option Int :=
  if chars.isEmpty then some 0
  else
    match chars.dropWhile isSpace with
    | ['Z'] => some 0
    | sign :: rest =>
        if sign = '-' || sign = '+' then do
          let (hours, rest) ← digits? 1 2 rest
          let (minutes, rest) ← match rest with
            | [] => some (0, [])
            | _ => do digits? 2 2 (← after? ':' rest)
          if rest.isEmpty then some (signed (sign = '-') (hours * 60 + minutes)) else none
        else none
    | [] => none

/-- The time that follows a date. -/
def time? (date : Moment) (chars : List Char) : Option Moment := do
  let rest ← match chars with
    | 'T' :: rest => some rest
    | 't' :: rest => some rest
    | c :: rest => if isSpace c then some (rest.dropWhile isSpace) else none
    | [] => none
  let (hour, rest) ← digits? 1 2 rest
  let (minute, rest) ← digits? 2 2 (← after? ':' rest)
  let (second, rest) ← digits? 2 2 (← after? ':' rest)
  let rest := match rest with
    | '.' :: places => places.dropWhile Char.isDigit
    | _ => rest
  return { date with hour, minute, second, zone := ← zone? rest }

def moment? (chars : List Char) : Option Moment := do
  let (year, rest) ← digits? 4 4 chars
  let fromMonth ← after? '-' rest
  let (month, rest) ← digits? 1 2 fromMonth
  let fromDay ← after? '-' rest
  let (day, rest) ← digits? 1 2 fromDay
  let date : Moment := { year, month, day }
  if rest.isEmpty then
    -- A date alone is written in full.
    if fromMonth.length = 5 && fromDay.length = 2 then some date else none
  else time? date rest

/-- The meaning of a plain scalar. -/
def ofPlain (chars : List Char) : Except Fault Meaning :=
  let text := String.ofList chars
  if text = "<<" then .ok .mergeKey
  else if text = "=" then .ok .defaultKey
  else if nullWords.contains text then .ok (.value .null)
  else
    match truthWords.lookup text, real? chars, integer? chars, moment? chars with
    | some truth, _, _, _ => .ok (.value (.bool truth))
    | none, some found, _, _ => found.map fun number => .value (.real number)
    | none, none, some found, _ => found.map fun number => .value (.integer number)
    | none, none, none, some moment =>
        match moment.fault? with
        | some fault => .error fault
        | none => .ok (.value .date)
    | none, none, none, none => .ok (.value (.text text))

/-! ## Tagged scalars

A tag says what a scalar is, whatever its text looks like.
-/

def coreTag (name : String) : String := "tag:yaml.org,2002:" ++ name

/-- The letters that may stand in front of the digits of a base. -/
def baseMarks (base : Nat) : List Char :=
  if base = 2 then ['b', 'B'] else if base = 8 then ['o', 'O']
  else if base = 16 then ['x', 'X'] else []

def dropBaseMark (base : Nat) (chars : List Char) : List Char :=
  match chars with
  | '0' :: mark :: rest => if (baseMarks base).contains mark then rest else chars
  | _ => chars

/-- The integer of digits in a base, with blanks around and a sign if need be. -/
def integerIn (base : Nat) (chars : List Char) : Except Fault Int :=
  let (isNegative, body) := splitSign (Text.trimChars chars)
  let digits := dropBaseMark base body
  if digits.isEmpty || !digits.all fun c => isHexDigit c && decide (digitValue c < base) then
    .error (.badDigits base (String.ofList chars))
  else if base = 10 && integerLength < digits.length then .error (.longInteger digits.length)
  else .ok (signed isNegative (numberIn base digits))

def taggedInteger (chars : List Char) : Except Fault Int :=
  let (isNegative, body) := splitSign (chars.filter (!isUnderscore ·))
  let size : Except Fault Int :=
    match body with
    | [] => .error .emptyNumber
    | ['0'] => .ok 0
    | '0' :: 'b' :: rest => integerIn 2 rest
    | '0' :: 'x' :: rest => integerIn 16 rest
    | '0' :: _ => integerIn 8 body
    | _ => do
        let parts ← (splitAt ':' body).mapM (integerIn 10)
        return parts.foldl (fun value part => value * 60 + part) 0
  size.map fun value => if isNegative then -value else value

/-- The number that a text writes in decimal, with blanks around it. -/
def decimalReal? (chars : List Char) : Option Binary :=
  let body := Text.trimChars chars
  let whole := body.takeWhile Char.isDigit
  let rest := body.dropWhile Char.isDigit
  let (places, rest) := match rest with
    | '.' :: more => (more.takeWhile Char.isDigit, more.dropWhile Char.isDigit)
    | _ => ([], rest)
  let exponent? := match rest with
    | [] => some 0
    | 'e' :: more =>
        let (isNegative, digits) := splitSign more
        if digits.isEmpty || !digits.all Char.isDigit then none
        else some (signed isNegative (numberIn 10 digits))
    | _ => none
  if whole.isEmpty && places.isEmpty then none
  else exponent?.map fun exponent => scaled (whole ++ places) (exponent - places.length)

def taggedReal (chars : List Char) : Except Fault Real :=
  let lower := (chars.filter (!isUnderscore ·)).map Char.toLower
  let (isNegative, body) := splitSign lower
  let withSign (size : Binary) : Real :=
    if isNegative then (Real.ofBinary size).negate else .ofBinary size
  let decimal (part : List Char) : Except Fault Binary :=
    match decimalReal? part with
    | some size => .ok size
    | none => .error (.badReal (String.ofList part))
  if lower.isEmpty then .error .emptyNumber
  else if [".inf", "inf", "infinity"].contains (String.ofList body) then .ok .infinite
  else if [".nan", "nan"].contains (String.ofList body) then .ok .undefined
  else
    match splitAt ':' body with
    | [part] => (decimal part).map withSign
    | parts => do
        let digits ← parts.mapM decimal
        return withSign (← sumSixtieths 0 (.finite 0) digits.reverse)

def taggedTruths : List (String × Bool) :=
  [("yes", true), ("no", false), ("true", true), ("false", false), ("on", true), ("off", false)]

/-- The meaning of a scalar with a tag. -/
def ofTagged (tag : String) (chars : List Char) : Except Fault Meaning :=
  let text := String.ofList chars
  if tag = coreTag "str" then .ok (.value (.text text))
  else if tag = coreTag "null" then .ok (.value .null)
  else if tag = coreTag "int" then
    (taggedInteger chars).map fun number => .value (.integer number)
  else if tag = coreTag "float" then (taggedReal chars).map fun number => .value (.real number)
  else if tag = coreTag "bool" then
    match taggedTruths.lookup text.toLower with
    | some truth => .ok (.value (.bool truth))
    | none => .error (.unknownTruth text.toLower)
  else if tag = coreTag "timestamp" then
    match moment? chars with
    | none => .error .noMoment
    | some moment =>
        match moment.fault? with
        | some fault => .error fault
        | none => .ok (.value .date)
  -- What is said to be a collection is found to be none when its items are asked for.
  else if tag = coreTag "seq" then .ok (.value (.list []))
  else if tag = coreTag "map" then .ok (.value (.mapping []))
  else .error .malformed

end Meaning

end DocSamples.Yaml
