import DocSamples.OrderedMap
import DocSamples.Script
import DocSamples.Tree.Listing
import DocSamples.Tree.Resolve

namespace DocSamples.Script

/-! # Machines

What a script does changes a machine: text is written, files change, time passes,
and at some point the script may end.
-/

open Text

/-- Where what is written goes. -/
inductive Sink where
  /-- All that the program shows, in order. -/
  | log
  /-- The output that becomes part of a word or the input of a command. -/
  | capture
  | nowhere
  | closed
  | file (path : Path)
deriving DecidableEq, Repr

inductive Ending where
  | exited (status : Nat)
  | killed (signal : Nat)
  /-- The script has no end. -/
  | endless
  /-- So many loops are left, or the last of them goes on to its next turn. -/
  | left (levels : Nat) (goesOn : Bool)
  /-- The innermost function is left. -/
  | returned
deriving DecidableEq, Repr

/-- What is written at some time. -/
structure Piece where
  time : Nat
  written : Utf8.Bytes
  captured : Utf8.Bytes
deriving DecidableEq, Repr

/-- A part of a script that was left to run on its own. -/
structure Job where
  number : Nat
  /-- What is still to appear of what it writes. -/
  pieces : List Piece
  /-- The time at which it is over. -/
  endTime : Nat
  status : Nat
  /-- The signal that ends it. -/
  signal : Option Nat := none
  /-- Whether its end is still to be told of. -/
  isListed : Bool := true
deriving DecidableEq, Repr

/-- Time that has passed: how much had been written before it, and the time after it. -/
structure Pause where
  written : Nat
  captured : Nat
  after : Nat
deriving DecidableEq, Repr

/-- How strictly a script is run, and whether its commands are shown. -/
structure Modes where
  /-- A failure that nothing depends on ends the script. -/
  stopsOnFailure : Bool := false
  keepsWildcards : Bool := false
  readsOnly : Bool := false
  showsCommands : Bool := false
  refusesUnset : Bool := false
  /-- Files that are there are not written anew. -/
  keepsFiles : Bool := false
  /-- Other programs see all variables that are set. -/
  exportsAll : Bool := false
  /-- The letters of the modes that change nothing. -/
  others : List Char := []
deriving DecidableEq, Repr

structure Machine where
  tree : Tree
  directory : Path
  name : String
  arguments : List String
  bindings : OrderedMap String String := .empty
  /-- The names of the variables that other programs see. -/
  exported : List String := []
  /-- The names of the variables that keep their values. -/
  fixed : List String := []
  functions : OrderedMap String Script := .empty
  /-- The texts that words stand for where a command begins. -/
  aliases : OrderedMap String String := .empty
  /-- How many functions are being run, and what the variables of the innermost one
  were outside of it. -/
  depth : Nat := 0
  outside : List (String × Option String) := []
  /-- How many loops are being run in the function. -/
  loops : Nat := 0
  /-- The scripts that are run at a signal, or at the end under the number zero. -/
  traps : OrderedMap Nat String := .empty
  jobs : List Job := []
  status : Nat := 0
  /-- The status of the last script whose output has become part of a command. -/
  outputStatus : Option Nat := none
  output : Sink := .log
  errors : Sink := .log
  otherSinks : List (Nat × Sink) := []
  /-- What is read from descriptors other than the input. -/
  otherInputs : List (Nat × Utf8.Bytes) := []
  input : Utf8.Bytes := []
  /-- The descriptor that the input has been taken from. -/
  inputFrom : Option Nat := none
  /-- Whether the input is a file, whose size is known. -/
  inputIsFile : Bool := false
  written : Utf8.Bytes := []
  captured : Utf8.Bytes := []
  milliseconds : Nat := 0
  pauses : List Pause := []
  modes : Modes := {}
  /-- Whether values are split where they stand without quotes. -/
  splits : Bool := true
  /-- The line that is being run. -/
  line : Nat := 1
  /-- What stands before the faults of a text that is read as a script. -/
  title : String := ""
  /-- Whether this is a part of a script on its own, and the signals that it sends to
  the script. -/
  isPart : Bool := false
  sent : List Nat := []
  /-- The signals that have come and that scripts are to be run at. -/
  pending : List Nat := []
  /-- The signal that has ended the last program. -/
  lastSignal : Option Nat := none
  /-- How many options have been passed over in the word they stand in. -/
  optionOffset : Nat := 0
  /-- The permissions that new files are not given, and those that have been changed. -/
  mask : Nat := 0o022
  permissions : List (Place × Nat) := []
  ending : Option Ending := none

namespace Machine

def pathOf (machine : Machine) (text : String) : Path :=
  machine.directory.join (.ofText text)

def bytesAt (machine : Machine) (path : Path) : Utf8.Bytes :=
  (machine.tree.readBytes path).toOption.getD []

def writeTo (machine : Machine) (sink : Sink) (bytes : Utf8.Bytes) : Machine :=
  match sink with
  | .log => { machine with written := machine.written ++ bytes }
  | .capture => { machine with captured := machine.captured ++ bytes }
  | .nowhere | .closed => machine
  | .file path =>
      match machine.tree.writeBytes path (machine.bytesAt path ++ bytes) with
      | .ok tree => { machine with tree }
      | .error _ => machine

def write (machine : Machine) (bytes : Utf8.Bytes) : Machine :=
  machine.writeTo machine.output bytes

def say (machine : Machine) (text : String) : Machine :=
  machine.write (Utf8.encodeText text)

def leave (machine : Machine) (status : Nat) : Machine :=
  { machine with status }

def finish (machine : Machine) (ending : Ending) : Machine :=
  { machine with ending := some ending }

/-- Ends the script with a status. -/
def exit (machine : Machine) (status : Nat) : Machine :=
  (machine.leave status).finish (.exited status)

/-- Reports a failure and leaves its status. -/
def complain (machine : Machine) (status : Nat) (text : String) : Machine :=
  (machine.writeTo machine.errors (Utf8.encodeText (text ++ "\n"))).leave status

/-- Reports a failure of a command of the script, with the script's name and a line. -/
def complainAt (machine : Machine) (line status : Nat) (text : String) : Machine :=
  machine.complain status (machine.name ++ ": " ++ toString line ++ ": " ++ text)

/-- Reports a failure of the script itself. -/
def blame (machine : Machine) (line status : Nat) (text : String) : Machine :=
  machine.complainAt line status (machine.title ++ text)

/-! ## Permissions -/

/-- What may be done with the file or directory at a place. -/
def modeAt (machine : Machine) (place : Place) : Nat :=
  (machine.permissions.lookup place).getD
    (if machine.tree.lookup place = some .directory then 0o755 else 0o644)

def setMode (machine : Machine) (place : Place) (mode : Nat) : Machine :=
  { machine with permissions := (place, mode) :: machine.permissions.filter (·.1 != place) }

/-- Whether a path leads to a file that may be run. -/
def mayRun (machine : Machine) (path : Path) : Bool :=
  match machine.tree.status path with
  | .ok (place, .file _) => machine.modeAt place &&& 0o111 != 0
  | _ => false

/-- Changes the tree so that permissions go with what is taken from a place to
another; those of what is gone are forgotten. -/
def moveTo (machine : Machine) (tree : Tree) (source target : Place) : Machine :=
  let taken := machine.permissions.filterMap fun (place, mode) =>
    if source.isPrefixOf place then some (target ++ place.drop source.length, mode) else none
  { machine with
    tree
    permissions := (taken ++ machine.permissions).filter fun (place, _) =>
      (tree.lookup place).isSome }

/-! ## Variables -/

def valueOf? (machine : Machine) (name : String) : Option String :=
  if name = "PWD" then some machine.directory.text else machine.bindings.find? name

/-- The characters that stand between fields. -/
def marks (machine : Machine) : List Char :=
  ((machine.bindings.find? "IFS").getD " \t\n").toList

/-- The characters at which values are split. -/
def separators (machine : Machine) : List Char :=
  if machine.splits then machine.marks else []

/-- Gives a variable a value.  One that keeps its value ends the script. -/
def bind (machine : Machine) (name value : String) : Machine :=
  if machine.fixed.contains name then
    (machine.blame machine.line 2 (name ++ ": is read only")).finish (.exited 2)
  else
    let offset := if name = "OPTIND" then 0 else machine.optionOffset
    let isNew := machine.modes.exportsAll && !machine.exported.contains name
    { machine with
      bindings := machine.bindings.insert name value
      exported := if isNew then machine.exported ++ [name] else machine.exported
      optionOffset := offset }

def bindAll (machine : Machine) (values : List (String × String)) : Machine :=
  values.foldl (fun machine (name, value) => machine.bind name value) machine

def unbind (machine : Machine) (name : String) : Machine :=
  if machine.fixed.contains name then
    (machine.complainAt machine.line 2 ("unset: " ++ name ++ ": is read only")).finish (.exited 2)
  else
    { machine with
      bindings := ⟨machine.bindings.entries.filter (·.1 != name)⟩
      exported := machine.exported.filter (· != name) }

/-- Puts a variable back to what it was. -/
def rebind (machine : Machine) (name : String) (value : Option String) : Machine :=
  match value with
  | some value => { machine with bindings := machine.bindings.insert name value }
  | none => { machine with bindings := ⟨machine.bindings.entries.filter (·.1 != name)⟩ }

def rebindAll (machine : Machine) (values : List (String × Option String)) : Machine :=
  values.foldl (fun machine (name, value) => machine.rebind name value) machine

/-- Keeps a variable for the function that is being run. -/
def keepOutside (machine : Machine) (name : String) : Machine :=
  { machine with outside := (name, machine.bindings.find? name) :: machine.outside }

/-! ## Parts on their own -/

/-- The machine on which a part of a script is run that cannot change the script. -/
def entered (machine : Machine) : Machine :=
  { machine with
    traps := ⟨machine.traps.entries.filter (·.2 = "")⟩
    jobs := []
    isPart := true
    sent := []
    splits := true
    ending := none }

/-- The machine on which a part is run for its output. -/
def capturing (machine : Machine) : Machine :=
  { machine.entered with output := .capture, captured := [] }

/-- The machine that another program starts with, which sees what is exported. -/
def forProgram (machine : Machine) (name : String) : Machine :=
  { tree := machine.tree
    directory := machine.directory
    name
    arguments := []
    bindings := ⟨machine.bindings.entries.filter fun (key, _) => machine.exported.contains key⟩
    exported := machine.exported
    traps := ⟨machine.traps.entries.filter (·.2 = "")⟩
    output := machine.output
    errors := machine.errors
    otherSinks := machine.otherSinks
    otherInputs := machine.otherInputs
    mask := machine.mask
    permissions := machine.permissions
    input := machine.input
    inputIsFile := machine.inputIsFile
    written := machine.written
    captured := machine.captured
    milliseconds := machine.milliseconds
    pauses := machine.pauses }

/-- What a part of a script leaves behind that has been run on its own. -/
def rejoin (machine part : Machine) : Machine :=
  let joined :=
    { machine with
      tree := part.tree
      input := part.input
      otherInputs := machine.otherInputs.map fun (descriptor, bytes) =>
        (descriptor, (part.otherInputs.lookup descriptor).getD bytes)
      written := part.written
      captured := part.captured
      milliseconds := part.milliseconds
      pauses := part.pauses
      permissions := part.permissions
      sent := machine.sent ++ part.sent
      status := part.status }
  match part.ending with
  | some (.exited status) => joined.leave status
  | some (.killed signal) => joined.finish (.killed signal)
  | some .endless => joined.finish .endless
  | _ => joined

/-- What a part of a script leaves behind whose output has been taken. -/
def rejoinCapture (machine part : Machine) : Machine :=
  let taken := part.pauses.drop machine.pauses.length
  { machine.rejoin part with
    captured := machine.captured
    pauses := machine.pauses ++ taken.map fun pause =>
      { pause with captured := machine.captured.length } }

/-- What another program leaves behind, which ends alone when it is killed. -/
def rejoinProgram (machine part : Machine) : Machine :=
  match part.ending with
  | some (.killed signal) =>
      { (machine.rejoin { part with ending := none }).leave (128 + signal) with
        lastSignal := some signal }
  | _ => machine.rejoin part

end Machine

end DocSamples.Script
