import DocSamples.Include
import DocSamples.Session
import DocSamples.Workspace

namespace DocSamples

/-! # Building workspaces

The workspace of a session holds its editable fragments, all that is included
globally, and after that what is included for the session alone.
-/

open Text

/-- The buffer of a sample.  It belongs where the sample is to go, else where it
comes from. -/
def Buffer.ofFragment (fragment : Fragment) : Buffer where
  id := ⟨fragment.destination.or fragment.sourceFile, fragment.region⟩
  content := fragment.text
  editable := true

/-- A session that is not blank sees a scope of its own besides the global one. -/
def Session.scopes (session : Session) : List Scope :=
  match session.name with
  | none => [.everyone]
  | some name =>
      if isBlankText name then [.everyone] else [.everyone, .ofSession (some name)]

def Workspace.ofSession (session : Session) (includes : Includes) : Workspace where
  session := session.name
  project := session.project?
  buffers := session.editableFragments.map .ofFragment ++
    session.scopes.flatMap includes.buffersIn
  files := session.scopes.flatMap includes.filesIn

end DocSamples
