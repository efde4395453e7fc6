import DocSamples.Script.Machine

namespace DocSamples.Script.Machine

/-! # Streams

Redirections open files and change descriptors.  They are undone after a command.
-/

open Text

/-- Why a file is not opened or made. -/
def openingReason (cause : FileCause) (makes : Bool) : String :=
  match cause with
  | .notFound | .notDirectory => if makes then "Directory nonexistent" else "No such file"
  | _ => cause.words

/-- The sink of a descriptor, if it has one. -/
def sinkAt? (machine : Machine) (descriptor : Nat) : Option Sink :=
  let sink? :=
    if descriptor = 2 then some machine.errors
    else if descriptor = 1 then some machine.output
    else machine.otherSinks.lookup descriptor
  sink?.filter (· != .closed)

def setSink (machine : Machine) (descriptor : Nat) (sink : Sink) : Machine :=
  if descriptor = 2 then { machine with errors := sink }
  else if descriptor = 1 then { machine with output := sink }
  else { machine with otherSinks := (descriptor, sink) :: machine.otherSinks }

/-- What is read from a descriptor, if anything is. -/
def inputAt? (machine : Machine) (descriptor : Nat) : Option Utf8.Bytes :=
  if descriptor = 0 then some machine.input else machine.otherInputs.lookup descriptor

def withoutInput (machine : Machine) (descriptor : Nat) : Machine :=
  { machine with otherInputs := machine.otherInputs.filter (·.1 != descriptor) }

def setInput (machine : Machine) (descriptor : Nat) (bytes : Utf8.Bytes) (isFile : Bool) :
    Machine :=
  if descriptor = 0 then { machine with input := bytes, inputIsFile := isFile, inputFrom := none }
  else
    { machine.withoutInput descriptor with
      otherInputs := (descriptor, bytes) :: (machine.withoutInput descriptor).otherInputs }

/-- Makes a descriptor the same as another one, if there is that. -/
def copyDescriptor? (machine : Machine) (descriptor source : Nat) : Option Machine :=
  if descriptor = source then
    if (machine.inputAt? source).isSome || (machine.sinkAt? source).isSome then some machine
    else none
  else
    match machine.inputAt? source, machine.sinkAt? source with
    | some bytes, _ =>
        let copied := machine.setInput descriptor bytes machine.inputIsFile
        some (if descriptor = 0 then { copied with inputFrom := some source } else copied)
    | none, some sink =>
        some (if descriptor = 0 then machine.setInput 0 [] false
          else machine.setSink descriptor sink)
    | none, none => none

def closeDescriptor (machine : Machine) (descriptor : Nat) : Machine :=
  if descriptor = 0 then machine.setInput 0 [] false
  else (machine.setSink descriptor .closed).withoutInput descriptor

/-- Puts the descriptors back that redirections have changed; from the others more may
have been read. -/
def restoreDescriptors (before : Machine) (redirections : List Redirection) (after : Machine) :
    Machine :=
  let isChanged (descriptor : Nat) : Bool :=
    redirections.any fun redirection => redirection.descriptor = descriptor
  let readOn (descriptor : Nat) : Option Utf8.Bytes :=
    if isChanged 0 && after.inputFrom = some descriptor then some after.input
    else after.otherInputs.lookup descriptor
  { after with
    output := before.output
    errors := before.errors
    otherSinks := before.otherSinks
    otherInputs := before.otherInputs.map fun (descriptor, bytes) =>
      (descriptor, if isChanged descriptor then bytes else (readOn descriptor).getD bytes)
    input := if isChanged 0 then before.input else after.input
    inputFrom := before.inputFrom
    inputIsFile := before.inputIsFile }

/-! ## Files -/

/-- Opens a file to write to. -/
def openOutput (machine : Machine) (descriptor : Nat) (mode : WriteMode) (name : String) :
    Except String Machine :=
  let path := machine.pathOf name
  let isKept := machine.modes.keepsFiles && mode = .fresh &&
    (machine.tree.isFile path).toOption.getD false
  if name = "/dev/null" then .ok (machine.setSink descriptor .nowhere)
  else if name = "/dev/stdout" then .ok (machine.setSink descriptor machine.output)
  else if name = "/dev/stderr" then .ok (machine.setSink descriptor machine.errors)
  else if name = "" then .error "cannot create : Directory nonexistent"
  else if isKept then .error ("cannot create " ++ name ++ ": File exists")
  else
    let start := if mode = .appending || mode = .both then machine.bytesAt path else []
    match machine.tree.writeBytes path start with
    | .ok tree =>
        let opened := { machine with tree }
        .ok (if descriptor = 0 then opened.setInput 0 start true
          else opened.setSink descriptor (.file path))
    | .error (.system cause _) =>
        .error ("cannot create " ++ name ++ ": " ++ openingReason cause true)
    | .error _ => .error ("cannot create " ++ name)

/-- Opens a file to read from. -/
def openInput (machine : Machine) (descriptor : Nat) (name : String) : Except String Machine :=
  if name = "/dev/null" then .ok (machine.setInput descriptor [] false)
  else if name = "" then .error "cannot open : No such file"
  else
    match machine.tree.readBytes (machine.pathOf name) with
    | .ok bytes => .ok (machine.setInput descriptor bytes true)
    | .error (.system cause _) =>
        .error ("cannot open " ++ name ++ ": " ++ openingReason cause false)
    | .error _ => .error ("cannot open " ++ name)

end DocSamples.Script.Machine
