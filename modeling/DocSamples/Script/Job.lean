import DocSamples.Script.Machine

namespace DocSamples.Script.Machine

/-! # Jobs

A part of a script may run on its own while time passes.  What it writes appears at
the time at which it is written.
-/

/-- The number of the first process; the jobs have the numbers after it. -/
def processNumber : Nat := 4711

/-- What has been written in addition to something, cut at pauses: `written` and
`captured` were there at a time. -/
def piecesFrom (last : Machine) (written captured time : Nat) : List Pause → List Piece
  | [] => [⟨time, last.written.drop written, last.captured.drop captured⟩]
  | pause :: rest =>
      ⟨time, (last.written.take pause.written).drop written,
        (last.captured.take pause.captured).drop captured⟩ ::
        piecesFrom last pause.written pause.captured pause.after rest

/-- What a part of a script has written, by the times. -/
def piecesOf (machine part : Machine) : List Piece :=
  piecesFrom part machine.written.length machine.captured.length machine.milliseconds
    (part.pauses.drop machine.pauses.length)

/-- Lets a part of the script run on its own, given by what it leaves behind. -/
def detach (machine part : Machine) : Machine :=
  let (status, signal) := match part.ending with
    | some (.exited status) => (status, none)
    | some (.killed signal) => (128 + signal, some signal)
    | _ => (part.status, part.lastSignal.filter fun signal => part.status = 128 + signal)
  let job : Job := {
    number := processNumber + 1 + machine.jobs.length
    pieces := machine.piecesOf part
    endTime := part.milliseconds
    status
    signal }
  let after := { machine with tree := part.tree, jobs := machine.jobs ++ [job] }
  (if part.ending = some .endless then after.finish .endless else after).leave 0

/-- Shows what the jobs have written up to some time, in the order in which they have
written it. -/
def showJobs (machine : Machine) (time : Nat) : Machine :=
  let isDue (piece : Piece) : Bool := decide (piece.time ≤ time)
  let due := (machine.jobs.flatMap fun job => job.pieces.filter isDue).mergeSort
    fun first second => decide (first.time ≤ second.time)
  { machine with
    written := machine.written ++ due.flatMap (·.written)
    captured := machine.captured ++ due.flatMap (·.captured)
    jobs := machine.jobs.map fun job =>
      { job with pieces := job.pieces.filter (!isDue ·) } }

/-- Lets time pass. -/
def pass (machine : Machine) (time : Nat) : Machine :=
  let pause : Pause :=
    ⟨machine.written.length, machine.captured.length, machine.milliseconds + time⟩
  { machine with
    milliseconds := pause.after
    pauses := machine.pauses ++ [pause] }.showJobs pause.after

/-- Lets time pass up to some time that may be over. -/
def passTo (machine : Machine) (time : Nat) : Machine :=
  if machine.milliseconds < time then machine.pass (time - machine.milliseconds)
  else machine.showJobs machine.milliseconds

/-- Waits for all jobs. -/
def settle (machine : Machine) : Machine :=
  machine.passTo (machine.jobs.foldl (fun time job => time.max job.endTime) machine.milliseconds)

/-- Waits for all jobs at the end of a script.  Its status is kept in eight bits. -/
def close (machine : Machine) : Machine :=
  let settled := machine.settle
  match settled.ending with
  | some (.exited status) => { settled with ending := some (.exited (status % 256)) }
  | _ => { settled with status := settled.status % 256 }

/-- What is left of a machine's work that is cut off at some time, given what was there
before the work. -/
def cutOff (before after : Machine) (time : Nat) : Machine :=
  let pieces := (before.piecesOf after).filter fun piece => decide (piece.time ≤ time)
  { after with
    written := before.written ++ pieces.flatMap (·.written)
    captured := before.captured ++ pieces.flatMap (·.captured)
    milliseconds := time
    pauses := before.pauses ++ (after.pauses.drop before.pauses.length).filter fun pause =>
      decide (pause.after ≤ time)
    ending := none }

end DocSamples.Script.Machine
