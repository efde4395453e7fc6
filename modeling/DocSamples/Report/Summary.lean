import DocSamples.Json
import DocSamples.Report
import DocSamples.Tree

namespace DocSamples.Report

/-! # The summary of a run

The same story as the lines of a report, as one JSON value and as a file.
-/

def diagnosticSummary (diagnostic : Diagnostic) : Json :=
  .object [("message", .text diagnostic.message),
    ("location", .optionalText diagnostic.location),
    ("severity", .text diagnostic.severity.name)]

def verdictSummary (verdict : Verdict) : Json :=
  .object [("kind", .text verdict.kind.name), ("project", .optionalText verdict.project),
    ("diagnostics", .list (verdict.diagnostics.map diagnosticSummary))]

def fragmentSummary (fragment : Fragment) : Json :=
  .object [("line", .integer (fragment.line + 1)), ("editable", .bool fragment.editable),
    ("region", .optionalText fragment.region),
    ("source_file", .optionalText (fragment.sourceFile.map Path.text)),
    ("diagnostics", .texts (fragment.problems.map Diagnostic.text))]

def sessionSummary (outcome : SessionOutcome) : Json :=
  .object [("session", .optionalText outcome.session.name),
    ("project", .optionalText outcome.session.project?),
    ("error", .optionalText outcome.session.fault?),
    ("fragments", .list (outcome.session.fragments.map fragmentSummary)),
    ("verdict", (outcome.verdict.map verdictSummary).getD .null)]

def documentSummary (outcome : DocumentOutcome) : Json :=
  .object [("path", .text outcome.document.text), ("error", .optionalText outcome.error),
    ("sessions", .list (outcome.sessions.map sessionSummary))]

def summary (outcomes : List DocumentOutcome) (exitCode : Int) : Json :=
  .object [("exit_code", .integer exitCode), ("succeeded", .bool (exitCode = 0)),
    ("documents", .list (outcomes.map documentSummary))]

inductive SummaryFault where
  | path (fault : PathFault)
  | wideInteger
deriving DecidableEq, Repr

def SummaryFault.message : SummaryFault → String
  | .path fault => fault.message
  | .wideInteger => "Integer exceeds 64-bit range"

/-- Writes a summary, making the directories above the file. -/
def writeSummary (tree : Tree) (path : Path) (outcomes : List DocumentOutcome)
    (exitCode : Int) : Except SummaryFault Tree := do
  let above ← (tree.makeDirectories path.parent).mapError .path
  let value := summary outcomes exitCode
  let written ← (above.writeText path value.render).mapError .path
  if value.fits then return written else .error .wideInteger

end DocSamples.Report
