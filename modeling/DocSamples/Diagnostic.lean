namespace DocSamples

/-! # Diagnostics -/

inductive Severity where
  | error
  | warning
  | info
deriving DecidableEq, Repr

def Severity.name : Severity → String
  | .error => "error"
  | .warning => "warning"
  | .info => "info"

/-- One problem with a sample, with what it includes, or with the compiler. -/
structure Diagnostic where
  message : String
  /-- For example `/docs/include.py(3,5)`. -/
  location : Option String := none
  severity : Severity := .error
deriving DecidableEq, Repr

/-- The message, after its location if there is one. -/
def Diagnostic.text (diagnostic : Diagnostic) : String :=
  match diagnostic.location with
  | none => diagnostic.message
  | some location =>
      if location = "" then diagnostic.message else location ++ ": " ++ diagnostic.message

end DocSamples
