import DocSamples.Diagnostic
import DocSamples.OrderedMap
import DocSamples.Text.Blank
import DocSamples.Text.ShellWords

namespace DocSamples

/-! # Options of a fence

The info string of a fence names a language and options.  An option is written
`--name=value` or `--name value`; the value may be left out for `--editable`
only, which then is true.  What is not understood is a problem and never ends
the reading.
-/

open Text

inductive OptionName where
  | session
  | project
  | package
  | destinationFile
  | region
  | sourceFile
  | editable
deriving DecidableEq, Repr

namespace OptionName

def all : List OptionName :=
  [.session, .project, .package, .destinationFile, .region, .sourceFile, .editable]

def text : OptionName → String
  | .session => "--session"
  | .project => "--project"
  | .package => "--package"
  | .destinationFile => "--destination-file"
  | .region => "--region"
  | .sourceFile => "--source-file"
  | .editable => "--editable"

def ofText? (text : String) : Option OptionName :=
  all.find? (·.text == text)

end OptionName

inductive OptionProblem where
  | unreadable (info : String) (fault : WordFault)
  | strayWord (word : String)
  | unknownOption (name : String)
  | missingValue (option : OptionName)
deriving DecidableEq, Repr

def OptionProblem.message : OptionProblem → String
  | .unreadable info fault => "Unable to parse options '" ++ info ++ "': " ++ fault.message
  | .strayWord word => "Unrecognized argument: " ++ word
  | .unknownOption name => "Unrecognized option: " ++ name
  | .missingValue option => "Option " ++ option.text ++ " requires a value"

def OptionProblem.diagnostic (problem : OptionProblem) : Diagnostic :=
  { message := problem.message }

/-- What one or two words of an info string mean. -/
inductive OptionItem where
  /-- `name=value` in one word. -/
  | joined (option : OptionName) (value : String)
  /-- A name and its value in the next word. -/
  | separate (option : OptionName) (value : String)
  /-- `--editable` without a value. -/
  | bare
  | missing (option : OptionName)
  | unknown (word : String)
  | stray (word : String)
deriving DecidableEq, Repr

def isDashed (word : String) : Bool :=
  "--".toList.isPrefixOf word.toList

/-- The part of a word before its first equals sign, and the part after it. -/
def splitEquals (word : String) : String × Option String :=
  let chars := word.toList
  let name := String.ofList (chars.takeWhile (· != '='))
  match chars.dropWhile (· != '=') with
  | [] => (name, none)
  | _ :: value => (name, some (String.ofList value))

namespace OptionItem

/-- The words of an item, as they stand in the info string. -/
def words : OptionItem → List String
  | .joined option value => [option.text ++ "=" ++ value]
  | .separate option value => [option.text, value]
  | .bare => [OptionName.editable.text]
  | .missing option => [option.text]
  | .unknown word => [word]
  | .stray word => [word]

def assignment? : OptionItem → Option (OptionName × String)
  | .joined option value => some (option, value)
  | .separate option value => some (option, value)
  | .bare => some (.editable, "true")
  | _ => none

def problem? : OptionItem → Option OptionProblem
  | .missing option => some (.missingValue option)
  | .unknown word => some (.unknownOption (splitEquals word).1)
  | .stray word => some (.strayWord word)
  | _ => none

end OptionItem

def isTruthWord (word : String) : Bool :=
  let lower := word.toLower
  lower = "true" || lower = "false"

/-- Whether a word is the value of an option whose name stands before it. -/
def OptionName.takes (option : OptionName) (word : String) : Bool :=
  match option with
  | .editable => isTruthWord word
  | _ => !isDashed word

/-- What an option name is that stands without a value. -/
def OptionItem.alone (option : OptionName) : OptionItem :=
  if option = .editable then .bare else .missing option

/-- The item that begins with a word; `next` is the word after it. -/
def OptionItem.ofWord (word : String) (next : Option String) : OptionItem :=
  if !isDashed word then .stray word
  else
    match OptionName.ofText? (splitEquals word).1, (splitEquals word).2, next with
    | none, _, _ => .unknown word
    | some option, some value, _ => .joined option value
    | some option, none, none => .alone option
    | some option, none, some value =>
        if option.takes value then .separate option value else .alone option

/-- The items of the words after the language. -/
def optionItems : List String → List OptionItem
  | [] => []
  | [word] => [.ofWord word none]
  | word :: next :: rest =>
      match OptionItem.ofWord word (some next) with
      | .separate option value => .separate option value :: optionItems rest
      | item => item :: optionItems (next :: rest)

/-- A read info string: values in the order in which options were first given,
the last value of each. -/
structure FenceInfo where
  language : String
  values : OrderedMap OptionName String
  problems : List OptionProblem
deriving DecidableEq, Repr

namespace FenceInfo

def ofItems (language : String) (items : List OptionItem) : FenceInfo where
  language := language
  values := (items.filterMap OptionItem.assignment?).foldl
    (fun values (option, value) => values.insert option value) .empty
  problems := items.filterMap OptionItem.problem?

def ofWords : List String → FenceInfo
  | [] => ofItems "" []
  | word :: rest =>
      if isDashed word then ofItems "" (optionItems (word :: rest))
      else ofItems word (optionItems rest)

def ofInfo (info : String) : FenceInfo :=
  match shellWords info with
  | .error fault => ⟨"", .empty, [.unreadable info fault]⟩
  | .ok words => ofWords words

end FenceInfo

/-- A fence carries options when a word of its info string begins with two dashes. -/
def isAnnotated (info : String) : Bool :=
  (words info).any isDashed

end DocSamples
