import DocSamples.CommandLine.Choice

namespace DocSamples.SessionsRequest

/-! # The command that lists sessions

Each document has a table of its sessions.  A document that cannot be read is
told of and passed over; nothing is compiled.
-/

def columns : List String := ["Session", "Fragments", "Editable", "Project", "Status"]

/-- Stands in a cell for what a session does not have. -/
def placeholder : String := "-"

def orPlaceholder (text : String) : String :=
  if text = "" then placeholder else text

def status (session : Session) : String :=
  if session.spansProjects then Markup.styled "red" "spans projects"
  else if session.hasProblems then Markup.styled "red" "linkage errors"
  else Markup.styled "green" "✓"

def row (session : Session) : List String := [
  (session.name.map Markup.escape).getD placeholder,
  toString session.fragments.length,
  toString session.editableFragments.length,
  orPlaceholder (Markup.escape (", ".intercalate session.projects)),
  status session]

def table (document : Path) (sessions : List Session) : Table where
  title := Markup.escape document.text
  columns := columns
  rows := sessions.map row

/-- What is shown for a document. -/
def showDocument (tree : Tree) (root document : Path) : Attempt PathFault Showing := do
  match ← (Document.fragments tree document root).settled with
  | .error (.path fault) => .fail fault
  | .error (.unreadable document fault) =>
      return .fault "Error" (Markup.escape (unreadableDocumentText document fault))
  | .ok fragments => return .table (table document (Session.ofFragments fragments))

/-- Shows documents one by one, up to the first fault. -/
def showDocuments (tree : Tree) (root : Path) : List Path → Ending
  | [] => .silent RunResult.successCode tree
  | document :: rest =>
      let attempt := showDocument tree root document
      match attempt.outcome with
      | .error fault => (Ending.ofFault (.run (.path fault)) tree).after [] attempt.events
      | .ok showing => (showDocuments tree root rest).after [showing] attempt.events

def noDocuments (root : Path) (tree : Tree) : Ending where
  exitCode := RunResult.noInputCode
  shown := [.marked .errors ("No markdown files found under " ++ root.text)]
  tree := tree

/-- Shows the documents that have been found. -/
def endingOfDocuments (tree : Tree) (settings : Settings) (documents : List Path) : Ending :=
  if documents.isEmpty then noDocuments settings.documents.root tree
  else
    match tree.resolve settings.documents.root with
    | .error fault => .ofFault (.run (.path fault)) tree
    | .ok root => showDocuments tree root documents

/-- Finds the documents. -/
def attempt (request : SessionsRequest) (tree : Tree) :
    Attempt CommandFault (Settings × List Path) := do
  let settings ← .ofExcept (request.settings tree)
  let documents ← (Discovery.documents tree settings.documents).mapFault
    fun fault => .run (.discovery fault)
  return (settings, documents)

def run (request : SessionsRequest) (tree : Tree) : Ending :=
  let attempt := request.attempt tree
  let ending : Ending := match attempt.outcome with
    | .error fault =>
        if fault.isConfiguration then .ofConfigurationFault fault tree else .ofFault fault tree
    | .ok (settings, documents) => endingOfDocuments tree settings documents
  ending.after [] attempt.events

end DocSamples.SessionsRequest
