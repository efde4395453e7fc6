import DocSamples.Settings
import DocSamples.Settings.Complaint
import DocSamples.Text.Integer
import DocSamples.Yaml.Value

namespace DocSamples

/-! # Reading settings

Settings are taken from a value as generously as their types allow: numbers may
be written as texts, and truth values as words or numbers.  What is not given has
its default, and what is not known is passed over.
-/

open Text Yaml

namespace Fields

/-! ## Integers -/

/-- From here on a number with a point is too long to be an integer. -/
def wideReal : Nat := Nat.pow 2 63

def integer : Value → Checked Int
  | .integer value => .valid value
  | .bool value => .valid (if value then 1 else 0)
  | .real (.whole value) =>
      if wideReal ≤ value.natAbs then .refuse .longInteger else .valid value
  | .real .fractional => .refuse .fractionalInteger
  | .real _ => .refuse .infiniteInteger
  | .text text =>
      match Text.integer text with
      | .ok value => .valid value
      | .error .unreadable => .refuse .unreadableInteger
      | .error .tooLong => .refuse .longInteger
  | _ => .refuse .notInteger

/-- An integer that is positive. -/
def positive (value : Int) : Checked Int :=
  if 0 < value then .valid value else .refuse .tooSmall

def atLeastOne (value : Int) : Checked Int :=
  if 1 ≤ value then .valid value else .refuse .belowLeast

def andCheck {α β : Type} (checked : Checked α) (next : α → Checked β) : Checked β :=
  match checked with
  | .valid value => next value
  | .invalid complaints => .invalid complaints

/-! ## Truth -/

def truthWords : List (String × Bool) :=
  [("1", true), ("true", true), ("t", true), ("yes", true), ("y", true), ("on", true),
    ("0", false), ("false", false), ("f", false), ("no", false), ("n", false), ("off", false)]

def truthOfInteger (value : Int) : Checked Bool :=
  if value = 0 then .valid false
  else if value = 1 then .valid true
  else .refuse .unreadableTruth

def truth : Value → Checked Bool
  | .bool value => .valid value
  | .text text =>
      match truthWords.lookup text.toLower with
      | some value => .valid value
      | none => .refuse .unreadableTruth
  | .integer value =>
      if -(wideReal : Int) ≤ value ∧ value < wideReal then truthOfInteger value
      else .refuse .notTruth
  | .real (.whole value) =>
      if wideReal ≤ value.natAbs then .refuse .notTruth else truthOfInteger value
  | _ => .refuse .notTruth

/-! ## Texts -/

def text : Value → Checked String
  | .text value => .valid value
  | _ => .refuse .notText

def texts : Value → Checked (List String)
  | .list items =>
      .all (items.zipIdx.map fun (item, index) => (text item).inside (.item index))
  | _ => .refuse .notList

def path : Value → Checked Path
  | .text value => .valid (.ofText value)
  | _ => .refuse .notPath

def optionalPath : Value → Checked (Option Path)
  | .null => .valid none
  | value => (path value).map some

def compilerKind : Value → Checked CompilerKind
  | .text value =>
      match CompilerKind.ofName? value with
      | some kind => .valid kind
      | none => .refuse .unknownName
  | _ => .refuse .unknownName

/-! ## Mappings -/

abbrev Entries := List (Value × Value)

/-- The value of a key that is a text; the last of several counts. -/
def find? (entries : Entries) (name : String) : Option Value :=
  entries.reverse.findSome? fun (key, value) =>
    match key with
    | .text text => if text = name then some value else none
    | _ => none

/-- A setting that may be left out. -/
def field {α : Type} (entries : Entries) (name : String) (fallback : α)
    (check : Value → Checked α) : Checked α :=
  match find? entries name with
  | none => .valid fallback
  | some value => (check value).inside (.field name)

def group {α : Type} (check : Entries → Checked α) : Value → Checked α
  | .mapping entries => check entries
  | _ => .refuse .notMapping

end Fields

open Fields

def DocumentSettings.ofEntries (entries : Entries) : Checked DocumentSettings :=
  let fallback : DocumentSettings := {}
  DocumentSettings.mk <$> field entries "root" fallback.root path
    <*> field entries "patterns" fallback.patterns texts
    <*> field entries "exclude_patterns" fallback.excludes texts
    <*> field entries "include_file_suffix" fallback.includeSuffix text

def CompilerSettings.ofEntries (entries : Entries) : Checked CompilerSettings :=
  let fallback : CompilerSettings := {}
  CompilerSettings.mk <$> field entries "kind" fallback.kind compilerKind
    <*> field entries "command" fallback.command texts
    <*> field entries "timeout" fallback.timeout fun value => andCheck (integer value) positive

def ReportSettings.ofEntries (entries : Entries) : Checked ReportSettings :=
  let fallback : ReportSettings := {}
  ReportSettings.mk <$> field entries "json_path" fallback.jsonPath optionalPath
    <*> field entries "color" fallback.color truth

def Settings.ofEntries (entries : Entries) : Checked Settings :=
  let fallback : Settings := {}
  Settings.mk <$> field entries "documents" fallback.documents (group DocumentSettings.ofEntries)
    <*> field entries "compiler" fallback.compiler (group CompilerSettings.ofEntries)
    <*> field entries "report" fallback.report (group ReportSettings.ofEntries)
    <*> field entries "parallel" fallback.parallel truth
    <*> field entries "max_concurrency" fallback.maxConcurrency fun value =>
      andCheck (integer value) atLeastOne

end DocSamples
