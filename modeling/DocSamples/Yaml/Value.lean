import DocSamples.Binary

namespace DocSamples.Yaml

/-! # Values

What settings are read from.  Of a number with a point only its whole value
counts, if it has one.
-/

/-- A number with a point, after rounding to 53 bits. -/
inductive Real where
  | whole (value : Int)
  | fractional
  | infinite
  | undefined
deriving DecidableEq, Repr

inductive Value where
  | null
  | bool (value : Bool)
  | integer (value : Int)
  | real (value : Real)
  | text (value : String)
  /-- A date or time, which no setting takes. -/
  | date
  | list (items : List Value)
  | mapping (entries : List (Value × Value))
deriving Inhabited, Repr

namespace Real

/-- What settings see of a binary number. -/
def ofBinary : Binary → Real
  | .finite units =>
      if units % Binary.one = 0 then .whole (units / Binary.one : Nat) else .fractional
  | .infinite => .infinite

def negate : Real → Real
  | .whole value => .whole (-value)
  | other => other

end Real

end DocSamples.Yaml
