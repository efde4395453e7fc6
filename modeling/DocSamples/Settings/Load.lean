import DocSamples.Settings.Fault
import DocSamples.Settings.Fields
import DocSamples.Tree.Resolve
import DocSamples.Yaml.Load

namespace DocSamples.Settings

/-! # Settings from a file -/

open Text Yaml

/-- A compiler that is a command needs one. -/
def checkCommand (compiler : CompilerSettings) : Except SettingsFault Unit :=
  if compiler.kind = .command ∧ compiler.command = [] then .error .noCommand else .ok ()

/-- The settings of a value: a mapping whose keys are texts. -/
def ofValue : Value → Except SettingsFault Settings
  | .null => .error .emptyFile
  | .mapping entries =>
      if entries.all fun (key, _) => key matches .text _ then
        (Settings.ofEntries entries).toExcept.mapError .refused
      else .error .notMapping
  | _ => .error .notMapping

/-- The text of a file of settings, which is decoded while it is looked at. -/
def readFile (tree : Tree) (path : Path) : Except SettingsFault Yaml.Source := do
  if ← (tree.existsAt path).mapError .path then
    let bytes ← (tree.readBytes path).mapError fun fault => .unreadableFile (.path fault)
    return .ofPieces (Intake.piecesOf bytes)
  else .error (.missingFile path)

def yamlFault : Yaml.Fault → SettingsFault
  | .undecodable defect => .unreadableFile (.undecodable defect)
  | fault => .yaml fault

/-- A relative root is taken from the directory of the file. -/
def placeRoot (tree : Tree) (path : Path) (settings : Settings) :
    Except SettingsFault Settings := do
  if settings.documents.root.isAbsolute then return settings
  else
    let root ← (tree.resolve (path.parent.join settings.documents.root)).mapError .path
    return { settings with documents := { settings.documents with root } }

def load (tree : Tree) (path : Path) : Except SettingsFault Settings := do
  let source ← readFile tree path
  let value ← (Yaml.load source).mapError yamlFault
  let settings ← placeRoot tree path (← ofValue value)
  checkCommand settings.compiler
  return settings

end DocSamples.Settings
