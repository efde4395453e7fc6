namespace DocSamples

/-! # Scripts

A small command language for compilers that are scripts: commands in sequence,
under a condition, in a loop, in a pipe or in a function, and words made of quoted
text, parameters, sums and the output of other scripts.
-/

/-- What a dollar sign stands for. -/
inductive Parameter where
  | named (name : String)
  /-- `$0` is the name of the script, `$1` the first argument. -/
  | positional (index : Nat)
  /-- All arguments; a quoted `$*` is one text, a quoted `$@` is one for each. -/
  | allArguments (joined : Bool)
  | argumentCount
  | lastStatus
  | processId
  /-- The number of the last command that was left to run on its own. -/
  | lastJob
  /-- The letters of the modes the script is run in. -/
  | modes
deriving DecidableEq, Repr

/-- What is made of the value of a parameter.  The texts in it are words, which are
read when they are needed. -/
inductive ValueForm where
  | whole
  | length
  /-- Another text where the parameter has no value, or perhaps an empty one. -/
  | fallback (text : List Char) (coversEmpty : Bool)
  /-- A text that becomes the value where there is none. -/
  | assigned (text : List Char) (coversEmpty : Bool)
  /-- A text with which the script ends where there is no value. -/
  | demanded (text : List Char) (coversEmpty : Bool)
  /-- Another text where the parameter has a value. -/
  | alternative (text : List Char) (coversEmpty : Bool)
  | withoutFront (pattern : List Char) (longest : Bool)
  | withoutBack (pattern : List Char) (longest : Bool)
deriving DecidableEq, Repr

inductive WordPart where
  | literal (c : Char) (isQuoted : Bool)
  /-- Quotes make a word also of nothing. -/
  | quotes
  | parameter (parameter : Parameter) (form : ValueForm) (isQuoted : Bool)
  /-- What stands for no parameter, which is told of when it is needed. -/
  | noParameter
  /-- The output of a script, which is read when it is run. -/
  | output (script : List Char) (isQuoted : Bool)
  | sum (expression : List Char) (isQuoted : Bool)
deriving DecidableEq, Repr

abbrev Word := List WordPart

/-- What becomes of a file that is written to. -/
inductive WriteMode where
  /-- It begins anew, unless the files that are there are to be kept. -/
  | fresh
  | forced
  | appending
  /-- It is read and written as it is. -/
  | both
deriving DecidableEq, Repr

/-- Where a command reads from and writes to.  Descriptor 0 is the input, 1 the
output, and 2 are the errors. -/
inductive Redirection where
  /-- The descriptor is made the same as another one, or with a hyphen it is closed. -/
  | same (descriptor : Nat) (source : Word)
  | read (descriptor : Nat) (name : Word)
  | write (descriptor : Nat) (mode : WriteMode) (name : Word)
  /-- What is read stands in the script itself. -/
  | document (descriptor : Nat) (text : Word)
deriving DecidableEq, Repr

def Redirection.descriptor : Redirection → Nat
  | .same descriptor _ | .read descriptor _ => descriptor
  | .write descriptor _ _ | .document descriptor _ => descriptor

structure SimpleCommand where
  line : Nat
  /-- Variables that are set in front of the words. -/
  settings : List (String × Word) := []
  words : List Word := []
  redirections : List Redirection := []
deriving DecidableEq, Repr

inductive Script where
  | nothing
  | command (command : SimpleCommand)
  | sequence (first second : Script)
  /-- The second is run if the first succeeds. -/
  | both (first second : Script)
  /-- The second is run if the first fails. -/
  | either (first second : Script)
  | negation (script : Script)
  /-- The second reads what the first has written. -/
  | pipe (first second : Script)
  | redirected (line : Nat) (script : Script) (redirections : List Redirection)
  /-- What a subshell changes is forgotten after it. -/
  | subshell (script : Script)
  /-- The script goes on while this part is run. -/
  | background (script : Script)
  | definition (name : String) (body : Script)
  | choice (condition whenTrue whenFalse : Script)
  /-- Turns as long as the condition succeeds, or as long as it fails. -/
  | turns (condition : Script) (untilTrue : Bool) (body : Script)
  /-- One turn for each of the words; without words, for each argument. -/
  | loop (name : String) (words : Option (List Word)) (body : Script)
  /-- The first script one of whose patterns a word matches. -/
  | selection (word : Word) (cases : List (List Word × Script))
deriving Repr

end DocSamples
