import DocSamples.Event

namespace DocSamples

/-! # Attempts

An attempt ends with a value or a fault, and it has the events that happened
before its end in either case.
-/

structure Attempt (ε α : Type) where
  events : List Event
  outcome : Except ε α

namespace Attempt

variable {ε ε' α β : Type}

def done (value : α) : Attempt ε α := ⟨[], .ok value⟩

def fail (fault : ε) : Attempt ε α := ⟨[], .error fault⟩

def note (event : Event) : Attempt ε Unit := ⟨[event], .ok ()⟩

def andThen (first : Attempt ε α) (next : α → Attempt ε β) : Attempt ε β :=
  match first.outcome with
  | .error fault => ⟨first.events, .error fault⟩
  | .ok value =>
      let second := next value
      ⟨first.events ++ second.events, second.outcome⟩

instance : Monad (Attempt ε) where
  pure := done
  bind := andThen

/-- A value that is had without events. -/
def ofExcept (outcome : Except ε α) : Attempt ε α := ⟨[], outcome⟩

def mapFault (attempt : Attempt ε α) (change : ε → ε') : Attempt ε' α :=
  ⟨attempt.events, attempt.outcome.mapError change⟩

/-- The outcome as a value: what follows decides about the fault. -/
def settled (attempt : Attempt ε α) : Attempt ε' (Except ε α) :=
  ⟨attempt.events, .ok attempt.outcome⟩

/-- One attempt for each item in order, up to the first fault. -/
def each (attempt : α → Attempt ε β) : List α → Attempt ε (List β)
  | [] => done []
  | item :: rest => do
      let value ← attempt item
      let values ← each attempt rest
      return value :: values

end Attempt

end DocSamples
