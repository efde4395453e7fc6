import DocSamples.Diagnostic
import DocSamples.Path

namespace DocSamples

/-! # Fragments -/

/-- A code block of a document whose fence carries options. -/
structure Fragment where
  document : Path
  /-- The line of the opening fence, counted from zero. -/
  line : Int
  language : String := ""
  text : String
  session : Option String := none
  editable : Bool := true
  /-- The project or package that the session needs. -/
  project : Option String := none
  destination : Option Path := none
  region : Option String := none
  sourceFile : Option Path := none
  /-- What is wrong with the options. -/
  problems : List Diagnostic := []
deriving DecidableEq, Repr

def Fragment.hasProblems (fragment : Fragment) : Bool :=
  !fragment.problems.isEmpty

end DocSamples
