import DocSamples.Compiler
import DocSamples.Compiler.TempFile
import DocSamples.Text.Blank
import DocSamples.Text.Letter

namespace DocSamples

/-! # Lines of compiler output

A line `file:line:column: severity[code]: message` is about a file.  The column,
the severity and the code may be left out.  All other lines are passed over, and
so is a text with a line feed in the file or in the message.
-/

open Text

structure OutputLine where
  file : String
  line : String
  column : Option String
  severity : Severity
  message : String
deriving DecidableEq, Repr

namespace OutputLine

/-- The severity words, with what they mean when they are written in ASCII. -/
def severityWords : List (String × Severity) :=
  [("fatal error", .error), ("error", .error), ("warning", .warning), ("note", .info),
    ("info", .info)]

/-- The dotless and the dotted letter count as the letter `i`. -/
def lowerLetter (c : Char) : Char :=
  if c = '\u0130' || c = '\u0131' then 'i' else c.toLower

/-- What follows a word, in whatever case it is written, with the word as written. -/
def afterWord? (word chars : List Char) : Option (List Char × List Char) :=
  let written := chars.take word.length
  if written.map lowerLetter = word then some (written, chars.drop word.length) else none

/-- What follows a code in brackets, or all if there is none. -/
def afterCode? (chars : List Char) : Option (List Char) :=
  match chars with
  | '[' :: rest =>
      match rest.dropWhile (· != ']') with
      | [] => none
      | _ :: more => some more
  | _ => some chars

/-- What follows the colon after blanks. -/
def afterColon? (chars : List Char) : Option (List Char) :=
  match dropBlanks chars with
  | ':' :: rest => some rest
  | _ => none

/-- A severity at the beginning and the message after it. -/
def severity? (chars : List Char) : Option (Severity × List Char) :=
  severityWords.findSome? fun (word, severity) => do
    let (written, rest) ← afterWord? word.toList chars
    let message ← afterColon? (← afterCode? (dropBlanks rest))
    let plain := written.map Char.toLower = word.toList
    return (if plain then severity else .error, message)

/-- Digits with a colon after them. -/
def number? (chars : List Char) : Option (String × List Char) :=
  match chars.takeWhile isDecimalDigit, chars.dropWhile isDecimalDigit with
  | [], _ => none
  | digits, ':' :: rest => some (String.ofList digits, rest)
  | _, _ => none

def parse? (text : String) : Option OutputLine := do
  let chars := trimChars text.toList
  let file := chars.takeWhile (· != ':')
  if file = [] || file.contains '\n' then none
  else
    match chars.dropWhile (· != ':') with
    | [] => none
    | _ :: rest =>
        let (line, rest) ← number? rest
        let (column, rest) := match number? rest with
          | some (column, rest) => (some column, rest)
          | none => (none, rest)
        let body := dropBlanks rest
        let (severity, message) := (severity? body).getD (.error, body)
        let message := trimChars message
        if message.contains '\n' then none
        else
          return {
            file := trim (String.ofList file)
            line, column, severity
            message := String.ofList message }

/-- The source that a line is about: a temporary file is named by its whole path
or by its name alone. -/
def source? (output : OutputLine) (directory : Path) (files : List TempFile) : Option Source :=
  let reported := files.find? fun file => (file.path directory).text = output.file
  let named := files.find? fun file =>
    (file.path directory).name = (Path.ofText output.file).name
  (reported.or named).map (·.source)

def diagnostic (output : OutputLine) (source : Source) : Diagnostic where
  message := output.message
  location := some
    (source.name ++ "(" ++ output.line ++ "," ++ output.column.getD "0" ++ ")")
  severity := output.severity

def finding? (directory : Path) (files : List TempFile) (text : String) : Option Finding := do
  let output ← parse? text
  let source ← output.source? directory files
  return ⟨source, output.diagnostic source⟩

end OutputLine

end DocSamples
