import DocSamples.Compiler.Command
import DocSamples.Script.Run

namespace DocSamples

/-! # Programs

The programs that a command can start: a reader of scripts, and one that waits.
Every other name leads to no program.
-/

open Text Script

namespace Program

def searchDirectories : List String := ["/usr/local/bin", "/usr/bin", "/bin"]

/-- Whether a word names a program, alone or with a directory. -/
def isNamed (program word : String) : Bool :=
  word = program || searchDirectories.any fun directory => word = directory ++ "/" ++ program

/-- Why no program is started under a name.  What is there is no program. -/
def causeOf (tree : Tree) (directory : Path) (word : String) : FileCause :=
  if word.contains '/' then
    match tree.status (directory.join (.ofText word)) with
    | .ok _ => .denied
    | .error cause => cause
  else if word = "" || word = "." || word = ".." then .denied
  else if Tree.nameLimit < word.utf8ByteSize then .nameTooLong
  else .notFound

def statusOf (machine : Machine) : Int :=
  match machine.ending with
  | some (.exited status) => status
  | some (.killed signal) => -signal
  | _ => machine.status

/-- What has come of a program when its time is over or it has ended. -/
def completionOf (timeout : Int) (machine : Machine) : Except CompileFault Completion :=
  if machine.ending = some .endless || timeout * 1000 ≤ machine.milliseconds then
    .error (.compiler (.timedOut timeout))
  else
    .ok { status := statusOf machine
          output := String.ofList (Utf8.decodeLenient machine.written) }

/-- From here on a limit of time is beyond all binary numbers. -/
def farLimit : Int := Nat.pow 2 1024 - Nat.pow 2 970

/-- What has come of a program that has been started under a limit of time. -/
def waitFor (timeout : Int) (machine : Machine) : Except CompileFault Completion :=
  if farLimit ≤ timeout then .error (.breakdown .farLimit) else completionOf timeout machine

def launch : Launcher := fun tree directory words timeout =>
  if words.any fun word => word.contains '\x00' then .error (.ofPath .nullByte)
  else
    match words with
    | [] => .error (.breakdown .noWords)
    | word :: arguments =>
        let machine : Machine := { tree, directory, name := word, arguments }
        if isNamed "sh" word then waitFor timeout (runWhole arguments machine)
        else if isNamed "sleep" word then waitFor timeout (sleep ⟨1, arguments⟩ machine)
        else
          .error (.compiler
            (.notStarted word (.system (causeOf tree directory word) word)))

end Program

end DocSamples
