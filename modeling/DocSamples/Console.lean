import DocSamples.Markup
import DocSamples.Report

namespace DocSamples

/-! # Consoles

Commands show texts, tables and traces of faults on two consoles, one for output
and one for errors.
-/

inductive Channel where
  | output
  | errors
deriving DecidableEq, Repr

structure Table where
  title : String
  columns : List String
  rows : List (List String)
deriving DecidableEq, Repr

/-- What a console is asked to show. -/
inductive Showing where
  /-- A text that is shown as it is. -/
  | line (channel : Channel) (text : String) (style : Option String)
  /-- A text with markup. -/
  | marked (channel : Channel) (text : String)
  /-- A table with markup in its title and its cells. -/
  | table (table : Table)
  /-- The trace of the fault that has just been shown. -/
  | trace
deriving DecidableEq, Repr

namespace Showing

def ofLine (channel : Channel) (color : Bool) (shown : ReportLine) : Showing :=
  line channel (shown.styled color).1 (shown.styled color).2

/-- A fault under a heading. -/
def fault (heading message : String) : Showing :=
  marked .errors (Markup.styled "bold red" (heading ++ ":") ++ " " ++ message)

def channel : Showing → Channel
  | .line channel _ _ => channel
  | .marked channel _ => channel
  | .table _ => .output
  | .trace => .errors

/-- The rows of a table under its title, with tabs between the cells. -/
def tableLines (shown : Table) : List String :=
  shown.title :: (shown.columns :: shown.rows).map ("\t".intercalate ·)

/-- What is shown where there are no styles. -/
def plainText : Showing → String
  | .line _ text _ => text
  | .marked _ text => Markup.plain text
  | .table shown => "\n".intercalate ((tableLines shown).map Markup.plain)
  | .trace => ""

end Showing

end DocSamples
