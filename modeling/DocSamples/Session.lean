import DocSamples.Fragment
import DocSamples.OrderedMap
import DocSamples.Text.Blank

namespace DocSamples

/-! # Sessions

The fragments of a document that declare the same session are compiled
together.  Session names are compared as they are written; fragments without
one belong together too.
-/

open Text

structure Session where
  name : Option String
  fragments : List Fragment
deriving DecidableEq, Repr

/-- The different items of a list in the order of their first occurrence. -/
def distinct {α : Type} [DecidableEq α] : List α → List α
  | [] => []
  | item :: rest => item :: (distinct rest).filter (· ≠ item)

namespace Session

/-- The sessions of a list of fragments, in the order of their first fragments. -/
def ofFragments (fragments : List Fragment) : List Session :=
  (OrderedMap.groupBy Fragment.session fragments).entries.map fun (name, members) =>
    ⟨name, members⟩

def editableFragments (session : Session) : List Fragment :=
  session.fragments.filter (·.editable)

/-- The projects and packages that the fragments name. -/
def projects (session : Session) : List String :=
  distinct ((session.fragments.filterMap (·.project)).filter (!isBlankText ·))

def project? (session : Session) : Option String :=
  session.projects.head?

/-- All fragments of a session must need the same project. -/
def spansProjects (session : Session) : Bool :=
  decide (1 < session.projects.length)

def fault? (session : Session) : Option String :=
  if session.spansProjects then
    some ("Session cannot span projects or packages: --session " ++ session.name.getD "")
  else none

def hasProblems (session : Session) : Bool :=
  session.fragments.any (·.hasProblems)

/-- Only a session without any fault is compiled. -/
def isCompilable (session : Session) : Bool :=
  !session.spansProjects && !session.hasProblems

end Session

end DocSamples
