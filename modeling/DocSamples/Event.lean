import DocSamples.Compiler.Fault
import DocSamples.Workspace

namespace DocSamples

/-! # Events

What happens during a run besides its result.  All events but the submission of
a workspace have words for the user.
-/

open Text

inductive Event where
  | missingRoot (root : Path)
  | noDocuments (root : Path)
  | unreadableDocument (document : Path) (fault : ReadFault)
  /-- A fence that opens on the given line, counted from zero, is never closed. -/
  | unclosedFence (document : Path) (line : Nat)
  | unreadableHost (host : Path) (fault : ReadFault)
  | submitted (workspace : Workspace)
  | compilerFailed (session : Option String) (fault : CompilerFault)
deriving DecidableEq, Repr

def unreadableDocumentText (document : Path) (fault : ReadFault) : String :=
  "Unable to read document " ++ document.text ++ ": " ++ fault.message

def Event.notice? : Event → Option String
  | .missingRoot root =>
      some ("Document root does not exist or is not a directory: " ++ root.text)
  | .noDocuments root => some ("No documents found under " ++ root.text)
  | .unreadableDocument document fault => some (unreadableDocumentText document fault)
  | .unclosedFence document line =>
      some (document.text ++ ":" ++ toString (line + 1) ++ ": unterminated code fence")
  | .unreadableHost host fault =>
      some ("Unable to read region host " ++ host.text ++ ": " ++ fault.message)
  | .submitted _ => none
  | .compilerFailed session fault =>
      some ("Compiler failed for session " ++ quotedOption session ++ ": " ++ fault.message)

def Event.submission? : Event → Option Workspace
  | .submitted workspace => some workspace
  | _ => none

end DocSamples
