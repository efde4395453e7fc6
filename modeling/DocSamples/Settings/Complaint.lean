namespace DocSamples

/-! # Complaints about settings

A complaint says which value is not accepted and why.  All complaints about a
file are collected, in the order in which the settings are declared.
-/

inductive ComplaintKind where
  | notMapping
  | notPath
  | notList
  | notText
  | unknownName
  | notInteger
  | unreadableInteger
  | longInteger
  | fractionalInteger
  | infiniteInteger
  | tooSmall
  /-- Below a bound that itself is allowed. -/
  | belowLeast
  | notTruth
  | unreadableTruth
deriving DecidableEq, Repr

inductive PlaceStep where
  | field (name : String)
  | item (index : Nat)
deriving DecidableEq, Repr

structure Complaint where
  place : List PlaceStep := []
  kind : ComplaintKind
deriving DecidableEq, Repr

/-- A value that has been accepted, or what there is to complain about. -/
inductive Checked (α : Type) where
  | valid (value : α)
  | invalid (complaints : List Complaint)
deriving Repr

namespace Checked

variable {α β : Type}

def refuse (kind : ComplaintKind) : Checked α := .invalid [{ kind }]

def map (change : α → β) : Checked α → Checked β
  | .valid value => .valid (change value)
  | .invalid complaints => .invalid complaints

/-- Applies one checked value to another and keeps the complaints about both. -/
def apply : Checked (α → β) → Checked α → Checked β
  | .valid change, .valid value => .valid (change value)
  | .valid _, .invalid complaints => .invalid complaints
  | .invalid complaints, .valid _ => .invalid complaints
  | .invalid first, .invalid second => .invalid (first ++ second)

instance : Applicative Checked where
  pure := .valid
  map := map
  seq change value := apply change (value ())

/-- Complaints about a part of a larger value. -/
def inside (step : PlaceStep) : Checked α → Checked α
  | .valid value => .valid value
  | .invalid complaints =>
      .invalid (complaints.map fun complaint =>
        { complaint with place := step :: complaint.place })

def all : List (Checked α) → Checked (List α)
  | [] => .valid []
  | item :: rest => apply (map List.cons item) (all rest)

def toExcept : Checked α → Except (List Complaint) α
  | .valid value => .ok value
  | .invalid complaints => .error complaints

end Checked

end DocSamples
