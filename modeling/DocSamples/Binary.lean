namespace DocSamples

/-! # Binary numbers

Numbers of 53 bits, not negative and none closer to each other than `1 / 2^1074`,
so that each is a whole count of such units.  What lies between two of them is
rounded to the nearer one, and to the one with the even last bit where both are
as near.
-/

inductive Binary where
  | finite (units : Nat)
  | infinite
deriving DecidableEq, Repr

/-- A quotient rounded to the nearest integer, a half to the even one. -/
def roundDiv (numerator denominator : Nat) : Nat :=
  let quotient := numerator / denominator
  let twice := 2 * (numerator % denominator)
  if twice < denominator then quotient
  else if denominator < twice then quotient + 1
  else if quotient % 2 = 0 then quotient
  else quotient + 1

namespace Binary

def precision : Nat := 53

/-- How many units make one. -/
def one : Nat := Nat.pow 2 1074

/-- From here on numbers are infinite. -/
def bound : Nat := Nat.pow 2 1024 * one

/-- A quotient of natural numbers of units. -/
def ofUnits (numerator denominator : Nat) : Binary :=
  let bits := (numerator / denominator).log2 + 1
  let step := Nat.pow 2 (bits - precision)
  let units := roundDiv numerator (denominator * step) * step
  if bound ≤ units then .infinite else .finite units

/-- A quotient of natural numbers. -/
def ofQuotient (numerator denominator : Nat) : Binary :=
  ofUnits (numerator * one) denominator

def add : Binary → Binary → Binary
  | .finite first, .finite second => ofUnits (first + second) 1
  | _, _ => .infinite

/-- The product, of which an infinite factor makes an infinite number. -/
def mul : Binary → Binary → Binary
  | .finite first, .finite second => ofUnits (first * second) one
  | _, _ => .infinite

/-- The natural number below which a number is, or at which, if it is not infinite. -/
def floor? : Binary → Option Nat
  | .finite units => some (units / one)
  | .infinite => none

end Binary

end DocSamples
