import DocSamples.Settings.Load
import DocSamples.Yaml.Print

namespace DocSamples.Settings

/-! # Writing settings -/

open Yaml

def entry (name : String) (value : Value) : Value × Value := (.text name, value)

def textList (items : List String) : Value := .list (items.map .text)

/-- The settings as a value, every one of them given. -/
def entries (settings : Settings) : List (Value × Value) := [
  entry "documents" (.mapping [
    entry "root" (.text settings.documents.root.text),
    entry "patterns" (textList settings.documents.patterns),
    entry "exclude_patterns" (textList settings.documents.excludes),
    entry "include_file_suffix" (.text settings.documents.includeSuffix)]),
  entry "compiler" (.mapping [
    entry "kind" (.text settings.compiler.kind.name),
    entry "command" (textList settings.compiler.command),
    entry "timeout" (.integer settings.compiler.timeout)]),
  entry "report" (.mapping [
    entry "json_path" ((settings.report.jsonPath.map fun path => .text path.text).getD .null),
    entry "color" (.bool settings.report.color)]),
  entry "parallel" (.bool settings.parallel),
  entry "max_concurrency" (.integer settings.maxConcurrency)]

def text (settings : Settings) : String := print settings.entries

/-- Writes the default settings, making the directories above the file. -/
def writeDefault (tree : Tree) (path : Path) : Except PathFault Tree := do
  let above ← tree.makeDirectories path.parent
  above.writeText path (text {})

end DocSamples.Settings
