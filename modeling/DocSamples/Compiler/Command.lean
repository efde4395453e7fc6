import DocSamples.Compiler.OutputLine
import DocSamples.Source.Assembly

namespace DocSamples

/-! # Compiling with a command

The sources of a workspace are written to a temporary directory, a program runs
over them, and its output is read line by line.
-/

open Text

/-- How a program ended: its status, negative if a signal ended it, and what it
wrote. -/
structure Completion where
  status : Int
  output : String
deriving DecidableEq, Repr

/-- Runs a program with its arguments in a directory, for some seconds at most. -/
abbrev Launcher := Tree → Path → List String → Int → Except CompileFault Completion

/-- The command of a compiler and what it needs besides. -/
structure Command where
  words : List String
  timeout : Int := 60
  /-- Ends the names of files for samples that have none. -/
  suffix : String := ".py"
  words_ne : words ≠ []

namespace Command

def of (words : List String) (timeout : Int) (suffix : String) : Except CompilerFault Command :=
  if given : words = [] then .error .noCommand
  else .ok { words, timeout, suffix, words_ne := given }

def filesPlaceholder : String := "\x7bfiles\x7d"
def directoryPlaceholder : String := "\x7bdir\x7d"

/-- The arguments of the program.  The paths of all files stand where their
placeholder does, or at the end if there is none. -/
def arguments (command : Command) (directory : Path) (files : List Path) : List String :=
  let paths := files.map Path.text
  let expanded := command.words.flatMap fun word =>
    if word = filesPlaceholder then paths
    else [word.replace directoryPlaceholder directory.text]
  if command.words.contains filesPlaceholder then expanded else expanded ++ paths

/-- How many lines of output tell why a program failed. -/
def tailLength : Nat := 5

def lastItems {α : Type} (count : Nat) (items : List α) : List α :=
  items.drop (items.length - count)

/-- The diagnostic for a failure that is about no source. -/
def unexplained (completion : Completion) : Diagnostic :=
  let status := "Compiler exited with status " ++ toString completion.status
  match lastItems tailLength (lines (trim completion.output)) with
  | [] => { message := status }
  | tail => { message := status ++ ": " ++ " | ".intercalate tail }

/-- What a completed program says about some files. -/
def resultOf (directory : Path) (files : List TempFile) (completion : Completion) :
    CompileResult :=
  let findings := (lines completion.output).filterMap (OutputLine.finding? directory files)
  let silent := completion.status ≠ 0 && findings.isEmpty
  { succeeded := completion.status = 0
    diagnostics := Finding.aboutSamples findings
    projectDiagnostics :=
      if silent then [unexplained completion] else Finding.aboutProject findings }

/-- What a command is run on. -/
structure Preparation where
  tree : Tree
  files : List TempFile
  arguments : List String

/-- Writes the sources of a workspace into a new directory. -/
def prepare (command : Command) (tree : Tree) (directory : Path) (workspace : Workspace) :
    Attempt PathFault Preparation := do
  let sources ← workspace.sources tree
  let files := TempFile.ofSources command.suffix sources
  let made ← .ofExcept (tree.makeDirectories directory)
  let written ← .ofExcept (TempFile.writeAll directory files made)
  return ⟨written, files, command.arguments directory (files.map (·.path directory))⟩

def compile (command : Command) (launcher : Launcher) (tree : Tree) (directory : Path)
    (workspace : Workspace) : Attempt CompileFault CompileResult := do
  let prepared ← (command.prepare tree directory workspace).mapFault .ofPath
  let completion ← .ofExcept
    (launcher prepared.tree directory prepared.arguments command.timeout)
  return resultOf directory prepared.files completion

/-- The compiler that runs a command in a temporary directory. -/
def compiler (command : Command) (launcher : Launcher) (tree : Tree) (directory : Path) :
    Compiler where
  name := "command"
  compile := command.compile launcher tree directory

end Command

end DocSamples
