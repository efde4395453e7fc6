import DocSamples.Session
import DocSamples.Verdict

namespace DocSamples

/-! # Reports

A report tells what has come of each document, line by line, and whether
anything has failed.  Each part of a report raises the alarm by itself; the
severity of its lines is for the eye.
-/

inductive LineKind where
  | blank
  | document
  | underline
  | checking
  | fragment
  | diagnostic
  | sessionError
  | sessionHeader
  | verdict
  | documentError
  | noInput
deriving DecidableEq, Repr

def LineKind.name : LineKind → String
  | .blank => "blank"
  | .document => "document"
  | .underline => "underline"
  | .checking => "checking"
  | .fragment => "fragment"
  | .diagnostic => "diagnostic"
  | .sessionError => "session_error"
  | .sessionHeader => "session_header"
  | .verdict => "verdict"
  | .documentError => "document_error"
  | .noInput => "no_input"

inductive LineSeverity where
  | plain
  | success
  | error
deriving DecidableEq, Repr

namespace LineSeverity

def name : LineSeverity → String
  | .plain => "plain"
  | .success => "success"
  | .error => "error"

/-- The color in which a line is shown. -/
def style? : LineSeverity → Option String
  | .plain => none
  | .success => some "green"
  | .error => some "red"

end LineSeverity

structure ReportLine where
  kind : LineKind
  text : String
  severity : LineSeverity := .plain
deriving DecidableEq, Repr

/-- Lines, and whether they report a failure. -/
structure Report where
  lines : List ReportLine
  failed : Bool
deriving DecidableEq, Repr

/-- What has come of a session; without a verdict it was not compiled. -/
structure SessionOutcome where
  session : Session
  verdict : Option Verdict := none
deriving DecidableEq, Repr

structure DocumentOutcome where
  document : Path
  sessions : List SessionOutcome := []
  /-- Why the document could not be read. -/
  error : Option String := none
deriving DecidableEq, Repr

namespace Report

def empty : Report := ⟨[], false⟩

def append (first second : Report) : Report :=
  ⟨first.lines ++ second.lines, first.failed || second.failed⟩

instance : Append Report := ⟨append⟩

def concat (reports : List Report) : Report :=
  reports.foldr (· ++ ·) empty

def ofLines (lines : List ReportLine) : Report := ⟨lines, false⟩

def ofFailure (lines : List ReportLine) : Report := ⟨lines, true⟩

def success : String := "✓"
def failure : String := "X"
def unknown : String := "UNKNOWN"

def blankLine : ReportLine := ⟨.blank, "", .plain⟩

def ofNoInput (root : Path) : Report :=
  ofFailure [⟨.noInput, "No markdown files found under " ++ root.text, .error⟩]

def diagnosticLine (diagnostic : Diagnostic) : ReportLine :=
  ⟨.diagnostic, "\t\t" ++ diagnostic.text, .error⟩

/-- The line about a fragment: where it stands, where its text comes from, and
what project it needs. -/
def fragmentLine (fragment : Fragment) : ReportLine :=
  let symbol := if fragment.hasProblems then failure else success
  let source := (fragment.sourceFile.map Path.text).getD unknown
  let project := (fragment.project.filter (· ≠ "")).getD unknown
  ⟨.fragment,
    "    " ++ symbol ++ "  Line " ++ toString (fragment.line + 1) ++ ":\t" ++ source ++
      " (in project " ++ project ++ ")",
    if fragment.hasProblems then .error else .success⟩

def ofFragment (fragment : Fragment) : Report where
  lines := ⟨.checking, "  Checking Markdown...", .plain⟩ :: fragmentLine fragment ::
    fragment.problems.map diagnosticLine
  failed := fragment.hasProblems

def verdictLine (session : String) (verdict : Verdict) : ReportLine :=
  match verdict.kind with
  | .projectFailed =>
      ⟨.verdict, "    Build failed for project " ++ verdict.project.getD "None", .error⟩
  | .samplesFailed =>
      ⟨.verdict,
        "    " ++ failure ++ "  Errors found within samples for session \"" ++ session ++ "\"",
        .error⟩
  | .ok =>
      ⟨.verdict,
        "    " ++ success ++ "  No errors found within samples for session \"" ++ session ++ "\"",
        .success⟩

def ofVerdict (session : Option String) (verdict : Verdict) : Report where
  lines := [blankLine,
      ⟨.sessionHeader, "  Compiling samples for session \"" ++ session.getD "" ++ "\"", .plain⟩,
      blankLine, verdictLine (session.getD "") verdict] ++
    verdict.diagnostics.map diagnosticLine
  failed := !verdict.isOk

/-- A verdict is told only of a session that could be compiled. -/
def ofSession (outcome : SessionOutcome) : Report :=
  let session := outcome.session
  concat (session.fragments.map ofFragment) ++
    match session.fault? with
    | some fault => ofFailure [⟨.sessionError, "  " ++ fault, .error⟩]
    | none =>
        match outcome.verdict with
        | none => empty
        | some verdict =>
            if session.hasProblems then empty else ofVerdict session.name verdict

def ofDocumentError (error : Option String) : Report :=
  match error.filter (· ≠ "") with
  | none => empty
  | some error => ofFailure [⟨.documentError, "  " ++ error, .error⟩]

def heading (document : Path) : List ReportLine :=
  let name := document.text
  [blankLine, ⟨.document, name, .plain⟩,
    ⟨.underline, String.ofList (List.replicate name.length '-'), .plain⟩]

def ofDocument (outcome : DocumentOutcome) : Report :=
  ofLines (heading outcome.document) ++ ofDocumentError outcome.error ++
    concat (outcome.sessions.map ofSession)

end Report

namespace ReportLine

/-- A line as it is shown, with its style. -/
def styled (color : Bool) (line : ReportLine) : String × Option String :=
  (line.text, if color then line.severity.style? else none)

/-- Report lines as plain text. -/
def plainText (lines : List ReportLine) : String :=
  String.join (lines.map fun line => line.text ++ "\n")

end ReportLine

end DocSamples
