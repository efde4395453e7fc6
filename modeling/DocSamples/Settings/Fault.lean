import DocSamples.FileFault
import DocSamples.Path
import DocSamples.Settings
import DocSamples.Settings.Complaint
import DocSamples.Text.Quoted
import DocSamples.Yaml.Fault

namespace DocSamples

/-! # Faults of settings -/

open Text

inductive SettingsFault where
  | missingFile (path : Path)
  | unreadableFile (fault : ReadFault)
  | yaml (fault : Yaml.Fault)
  | emptyFile
  /-- The file is no mapping, or one of its keys is no text. -/
  | notMapping
  | refused (complaints : List Complaint)
  /-- Arguments that no setting accepts. -/
  | refusedArguments (complaints : List Complaint)
  | noCommand
  | unknownCompiler (name : String)
  /-- The root directory cannot be resolved. -/
  | path (fault : PathFault)
deriving DecidableEq, Repr

namespace SettingsFault

/-- Texts as a list, each between quotes. -/
def quotedList (items : List String) : String :=
  "[" ++ ", ".intercalate (items.map quoted) ++ "]"

def message : SettingsFault → String
  | .missingFile file => "Configuration file not found: " ++ file.text
  | .unreadableFile fault => fault.message
  | .yaml fault => fault.message
  | .emptyFile => "Configuration file is empty"
  | .notMapping => "Configuration validation failed:"
  | .refused _ => "Configuration validation failed:"
  | .refusedArguments _ => ""
  | .noCommand => "The 'command' compiler requires 'command' to be specified"
  | .unknownCompiler name =>
      "Invalid compiler '" ++ name ++ "'. Valid compilers: " ++
        quotedList (CompilerKind.all.map CompilerKind.name)
  | .path fault => fault.message

/-- Whether the settings themselves are at fault, and not a file or an argument. -/
def isConfiguration : SettingsFault → Bool
  | .unreadableFile _ => false
  | .yaml .malformed => true
  | .yaml _ => false
  | .refusedArguments _ => false
  | .path _ => false
  | _ => true

def complaints : SettingsFault → List Complaint
  | .refused complaints => complaints
  | .refusedArguments complaints => complaints
  | _ => []

end SettingsFault

end DocSamples
