import DocSamples.Text.Quoted
import DocSamples.Text.Utf8

namespace DocSamples.Yaml

/-! # Faults of YAML

A text that is not YAML is told apart from one that is but holds a scalar
without a value.  Nothing is said about the place of either.
-/

/-- The parts of a date that have a range, in the order in which they are looked at. -/
inductive DatePart where
  | year (number : Nat)
  | month
  | day
  | hour
  | minute
  | second
deriving DecidableEq, Repr

def DatePart.message : DatePart → String
  | .year number => "year " ++ toString number ++ " is out of range"
  | .month => "month must be in 1..12"
  | .day => "day is out of range for month"
  | .hour => "hour must be in 0..23"
  | .minute => "minute must be in 0..59"
  | .second => "second must be in 0..59"

inductive Fault where
  | malformed
  /-- The text cannot be had from its file. -/
  | undecodable (defect : Text.Utf8.Defect)
  /-- An escape that names no character. -/
  | noCharacter (code : Nat)
  | noDate (part : DatePart)
  /-- A time zone that is a day or more away. -/
  | farZone (minutes : Int)
  /-- A text that is said to be a number in a base, or cannot be one for want of digits. -/
  | badDigits (base : Nat) (digits : String)
  /-- A text that is said to be a number with a point. -/
  | badReal (text : String)
  | unknownTruth (text : String)
  /-- A number is said to stand where there is no text. -/
  | emptyNumber
  /-- A text that is said to be a date. -/
  | noMoment
  /-- An integer of too many decimal digits. -/
  | longInteger (digits : Nat)
  /-- A number in base sixty with a digit at a power beyond all binary numbers. -/
  | hugePower
deriving DecidableEq, Repr

/-- How much of a text that is no number is shown. -/
def shownDigits : Nat := 200

/-- The first code that is too large to be asked about. -/
def hugeCode : Nat := 0x80000000

/-- A span of time in whole days and the seconds after them. -/
def spanText (minutes : Int) : String :=
  let seconds := minutes * 60
  let days := Int.fdiv seconds 86400
  let rest := Int.fmod seconds 86400
  if rest = 0 then "datetime.timedelta(days=" ++ toString days ++ ")"
  else "datetime.timedelta(days=" ++ toString days ++ ", seconds=" ++ toString rest ++ ")"

def Fault.message : Fault → String
  | .malformed => "Invalid YAML in configuration file:"
  | .undecodable defect => defect.message
  | .noCharacter code =>
      if code < hugeCode then "chr() arg not in range(0x110000)"
      else "Python int too large to convert to C int"
  | .noDate part => part.message
  | .farZone minutes =>
      "offset must be a timedelta strictly between -timedelta(hours=24) and " ++
        "timedelta(hours=24), not " ++ spanText minutes ++ "."
  | .badDigits base digits =>
      "invalid literal for int() with base " ++ toString base ++ ": " ++
        String.ofList ((Text.quoted digits).toList.take shownDigits)
  | .badReal text => "could not convert string to float: " ++ Text.quoted text
  | .unknownTruth text => Text.quoted text
  | .emptyNumber => "string index out of range"
  | .noMoment => "'NoneType' object has no attribute 'groupdict'"
  | .longInteger digits =>
      "Exceeds the limit (4300 digits) for integer string conversion: value has " ++
        toString digits ++ " digits; use sys.set_int_max_str_digits() to increase the limit"
  | .hugePower => "int too large to convert to float"

end DocSamples.Yaml
