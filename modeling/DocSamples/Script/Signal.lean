import DocSamples.Script.Builtin

namespace DocSamples.Script

/-! # Signals

A signal ends what it is sent to, unless nothing or a script is to be done at it.
-/

/-- The names of the signals from 1 on, as far as they have fixed names. -/
def signalNames : List String :=
  ["HUP", "INT", "QUIT", "ILL", "TRAP", "ABRT", "BUS", "FPE", "KILL", "USR1", "SEGV", "USR2",
    "PIPE", "ALRM", "TERM", "16", "CHLD", "CONT", "STOP", "TSTP", "TTIN", "TTOU", "URG", "XCPU",
    "XFSZ", "VTALRM", "PROF", "WINCH", "IO", "PWR", "SYS", "32", "33"]

/-- The last signal. -/
def lastNumber : Nat := 64

/-- How a signal is called; the later ones are counted from the first or the last of
them. -/
def signalName (number : Nat) : String :=
  if number = 0 then "EXIT"
  else match signalNames[number - 1]? with
    | some name => name
    | none =>
        let first := signalNames.length + 1
        if number = first then "RTMIN"
        else if number = lastNumber then "RTMAX"
        else if number ≤ 49 then "RTMIN+" ++ toString (number - first)
        else "RTMAX-" ++ toString (lastNumber - number)

/-- The signal of a number or a name, from some number on. -/
def signal? (least : Nat) (text : String) : Option Nat :=
  let numbers := (List.range (lastNumber + 1)).drop least
  match Sum.digits? text with
  | some number => if number ≤ lastNumber then some number else none
  | none => numbers.find? fun number => (signalName number).toLower = text.toLower

/-- The signals that do nothing where no script is run at them. -/
def idleSignals : List Nat := [0, 17, 18, 23, 28]

/-- What is told of a program that a signal has ended. -/
def signalWords? (signal : Nat) : Option String :=
  let words := [(1, "Hangup"), (3, "Quit"), (4, "Illegal instruction"),
    (5, "Trace/breakpoint trap"), (6, "Aborted"), (7, "Bus error"), (8, "Floating point exception"),
    (9, "Killed"), (10, "User defined signal 1"), (11, "Segmentation fault"),
    (12, "User defined signal 2"), (14, "Alarm clock"), (15, "Terminated"), (16, "Stack fault"),
    (24, "CPU time limit exceeded"), (25, "File size limit exceeded"),
    (26, "Virtual timer expired"), (27, "Profiling timer expired"), (29, "I/O possible"),
    (30, "Power failure"), (31, "Bad system call")]
  if signal = 2 || signal = 13 then none
  else some ((words.lookup signal).getD ("Real-time signal " ++ toString (signal - 34)))

/-- Tells of a signal that has ended a program, and leaves its status. -/
def tellSignal (signal : Nat) (machine : Machine) : Machine :=
  match signalWords? signal with
  | some words => machine.complain (128 + signal) words
  | none => machine.leave (128 + signal)

/-- Sends a signal to the script itself.  A script that is to be run at it is left
for the runner. -/
def receive (signal : Nat) (machine : Machine) : Machine :=
  match machine.traps.find? signal with
  | some "" => if signal = 9 then machine.finish (.killed signal) else machine
  | some _ =>
      if signal = 9 then machine.finish (.killed signal)
      else { machine with pending := machine.pending ++ [signal] }
  | none => if idleSignals.contains signal then machine else machine.finish (.killed signal)

/-- Hands the signals on that parts of a script have sent to it. -/
def deliver (machine : Machine) : Machine :=
  if machine.isPart then machine
  else machine.sent.foldl (fun machine signal => receive signal machine) { machine with sent := [] }

/-- Ends a job that is not over. -/
def killJob (number signal : Nat) (machine : Machine) : Machine :=
  let now := machine.milliseconds
  { machine with
    jobs := machine.jobs.map fun job =>
      if job.number = number && now < job.endTime && !idleSignals.contains signal then
        { job with
          pieces := job.pieces.filter fun piece => decide (piece.time ≤ now)
          endTime := now
          status := 128 + signal
          signal := some signal }
      else job }

/-! ## Commands -/

def killTarget (line signal : Nat) (target : String) (machine : Machine) : Machine :=
  match Sum.count? target with
  | none => machine.complainAt line 2 ("kill: Illegal number: " ++ target)
  | some number =>
      if number = Machine.processNumber then
        if machine.isPart then { machine with sent := machine.sent ++ [signal] }
        else receive signal machine
      else if machine.jobs.any fun job => job.number = number then
        killJob number signal machine
      else machine.complainAt line 1 "kill: No such process\n"

/-- What signals are sent by, or shown by. -/
structure KillCall where
  signal : Option Nat := none
  isList : Bool := false
  words : List String := []

/-- Reads the options that come before the targets. -/
def readKillCall (call : KillCall) : List String → Except String KillCall
  | [] => .ok call
  | "--" :: rest => .ok { call with words := rest }
  | "-s" :: [] => .error "No arg for -s option"
  | "-s" :: name :: rest =>
      match signal? 1 name with
      | some number => readKillCall { call with signal := some number } rest
      | none => .error ("invalid signal number or name: " ++ name)
  | word :: rest =>
      match word.toList with
      | '-' :: 'l' :: [] => readKillCall { call with isList := true } rest
      | '-' :: 's' :: name =>
          match signal? 1 (String.ofList name) with
          | some number => readKillCall { call with signal := some number } rest
          | none => .error ("invalid signal number or name: " ++ String.ofList name)
      | '-' :: letter :: _ => .error ("Illegal option -" ++ String.singleton letter)
      | _ => .ok { call with words := word :: rest }

/-- Shows the signals, or the one that a status tells of. -/
def listSignals (line : Nat) (machine : Machine) : List String → Machine
  | [] =>
      let names := ((List.range lastNumber).map fun index => signalName (index + 1))
      machine.say ("0\n" ++ String.join (names.map (· ++ "\n")))
  | word :: _ =>
      match Sum.count? word with
      | none => machine.complainAt line 2 ("kill: Illegal number: " ++ word)
      | some status =>
          let number := if 128 < status then status - 128 else status
          if 0 < number ∧ number ≤ lastNumber then machine.say (signalName number ++ "\n")
          else machine.complainAt line 2
            ("kill: invalid signal number or exit status: " ++ word)

def kill (call : Call) (machine : Machine) : Machine :=
  let usage := machine.complainAt call.line 2
    ("kill: Usage: kill [-s sigspec | -signum | -sigspec] [pid | job]... or\n" ++
      "kill -l [exitstatus]")
  let first := call.arguments.headD ""
  let direct := if first.startsWith "-" then signal? 1 (String.ofList first.toList.tail) else none
  let read : Except String KillCall := match direct with
    | some number => .ok { signal := some number, words := call.arguments.tail }
    | none => readKillCall {} call.arguments
  match read with
  | .error fault => machine.complainAt call.line 2 ("kill: " ++ fault)
  | .ok found =>
      if found.isList then
        if found.signal.isSome then usage else listSignals call.line machine found.words
      else if found.words.isEmpty then usage
      else
        found.words.foldl (fun machine target =>
          killTarget call.line (found.signal.getD 15) target machine) machine

/-- What is told of a job at some time. -/
def stateOf (time : Nat) (job : Job) : String :=
  if time < job.endTime then "Running"
  else match job.signal.bind signalWords? with
    | some words => words
    | none => if job.status = 0 then "Done" else "Done(" ++ toString job.status ++ ")"

/-- Shows the jobs, the last one first; the end of a job is shown once. -/
def showStates (_call : Call) (machine : Machine) : Machine :=
  let isOver (job : Job) : Bool := decide (job.endTime ≤ machine.milliseconds)
  let listed := (machine.jobs.filter (·.isListed)).reverse
  let line (index : Nat) (job : Job) : String :=
    let mark := if index = 0 then "+" else if index = 1 then "-" else " "
    let lead := "[" ++ toString (job.number - Machine.processNumber) ++ "] " ++ mark ++ " "
    let text := lead ++ stateOf machine.milliseconds job
    text ++ String.ofList (.replicate (33 - text.length) ' ') ++ "\n"
  let shown := machine.say (String.join (listed.mapIdx line))
  { shown with jobs := shown.jobs.map fun job =>
      { job with isListed := job.isListed && !isOver job } }

/-- The job that a word names by its place among the jobs. -/
def jobNamed? (machine : Machine) (word : String) : Option Job :=
  let listed := machine.jobs.filter (·.isListed)
  match word.toList with
  | ['%', '%'] | ['%', '+'] | ['%'] => listed.getLast?
  | ['%', '-'] => listed.dropLast.getLast?
  | '%' :: digits => do
      let number ← Sum.digits? (String.ofList digits)
      listed.find? fun job => job.number = Machine.processNumber + number
  | _ => none

/-- Waits for a job.  Of one that a signal ends now it is told. -/
def waitFor (machine : Machine) (job : Job) : Machine :=
  let after := machine.passTo job.endTime
  match job.signal with
  | some signal =>
      if machine.milliseconds ≤ job.endTime then tellSignal signal after
      else after.leave job.status
  | none => after.leave job.status

/-- Waits for the jobs with some numbers, or for all. -/
def wait (call : Call) (machine : Machine) : Machine :=
  match call.arguments with
  | [] => machine.settle.leave 0
  | words =>
      words.foldl (fun machine word =>
        match jobNamed? machine word, Sum.count? word with
        | some job, _ => waitFor machine job
        | none, none =>
            machine.complainAt call.line 2 ("wait: " ++
              (if word.startsWith "%" then "No such job: " else "Illegal number: ") ++ word)
        | none, some number =>
            match machine.jobs.find? (·.number == number) with
            | some job => waitFor machine job
            | none => machine.leave 127) machine

/-- Sets what is to be run at signals, or shows it. -/
def trap (call : Call) (machine : Machine) : Machine :=
  let words := if call.arguments.head? = some "--" then call.arguments.tail else call.arguments
  let setAll (action : Option String) (names : List String) : Machine :=
    names.foldl (fun machine name =>
      match signal? 0 name with
      | none => machine.complain 1 ("trap: " ++ name ++ ": bad trap")
      | some number =>
          let others : OrderedMap Nat String :=
            ⟨machine.traps.entries.filter (·.1 != number)⟩
          { machine with traps := match action with
              | some action => others.insert number action
              | none => others }) machine
  match words with
  | [] =>
      let numbers := (machine.traps.entries.map Prod.fst).mergeSort fun one other =>
        decide (one ≤ other)
      numbers.foldl (fun machine number =>
        machine.say ("trap -- " ++ quotedText ((machine.traps.find? number).getD "") ++ " " ++
          signalName number ++ "\n")) machine
  | [name] => setAll none [name]
  | "-" :: names => setAll none names
  | action :: names =>
      if action.startsWith "-" then
        (machine.complainAt call.line 2
          ("trap: Illegal option " ++ String.ofList (action.toList.take 2))).finish (.exited 2)
      else if (Sum.digits? action).isSome then setAll none (action :: names)
      else setAll (some action) names

end DocSamples.Script
