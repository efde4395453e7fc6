namespace DocSamples

/-! # Pools

Jobs with numbers are worked on side by side, but never more than a limit of
them.  A job needs a permit to be started and gives it back after it has been
finished; its answer is kept under its number.  Which job moves next is left
open.
-/

structure Pool (α β : Type) where
  /-- How many jobs may still be started. -/
  permits : Nat
  waiting : List (Nat × α)
  running : List (Nat × α) := []
  /-- The jobs that are finished but have not given back their permit. -/
  leaving : List Nat := []
  finished : List (Nat × β) := []

namespace Pool

variable {α β : Type}

inductive Move where
  | acquire (number : Nat)
  | finish (number : Nat)
  | release (number : Nat)
deriving DecidableEq, Repr

/-- The pool in which all jobs are still waiting. -/
def ofJobs (limit : Nat) (jobs : List (Nat × α)) : Pool α β where
  permits := limit
  waiting := jobs

def takeOut (number : Nat) (jobs : List (Nat × α)) : List (Nat × α) :=
  jobs.filter (·.1 != number)

/-- The pool after a move, if the move is possible. -/
def move? (answer : α → β) (pool : Pool α β) : Move → Option (Pool α β)
  | .acquire number =>
      if 0 < pool.permits then
        (pool.waiting.lookup number).map fun work =>
          { pool with
            permits := pool.permits - 1
            waiting := takeOut number pool.waiting
            running := pool.running ++ [(number, work)] }
      else none
  | .finish number =>
      (pool.running.lookup number).map fun work =>
        { pool with
          running := takeOut number pool.running
          leaving := pool.leaving ++ [number]
          finished := pool.finished ++ [(number, answer work)] }
  | .release number =>
      if number ∈ pool.leaving then
        some { pool with
          permits := pool.permits + 1
          leaving := pool.leaving.erase number }
      else none

/-- The pool after some moves, if each of them is possible in its turn. -/
def moves? (answer : α → β) (pool : Pool α β) : List Move → Option (Pool α β)
  | [] => some pool
  | move :: rest => (pool.move? answer move).bind fun next => next.moves? answer rest

def isDone (pool : Pool α β) : Bool :=
  pool.waiting.isEmpty && pool.running.isEmpty && pool.leaving.isEmpty

/-- The next move of a pool that gives back permits at once, starts jobs as early
as possible and finishes them in the order of their start. -/
def eagerMove? (pool : Pool α β) : Option Move :=
  match pool.leaving, pool.waiting, pool.running with
  | number :: _, _, _ => some (.release number)
  | [], (number, _) :: _, running =>
      if 0 < pool.permits then some (.acquire number)
      else running.head?.map fun (number, _) => .finish number
  | [], [], (number, _) :: _ => some (.finish number)
  | [], [], [] => none

/-- Makes eager moves as long as there are any. -/
def drive (answer : α → β) : Nat → Pool α β → Pool α β
  | 0, pool => pool
  | turns + 1, pool =>
      match (eagerMove? pool).bind (pool.move? answer) with
      | some next => drive answer turns next
      | none => pool

/-- The answers that a pool holds to some jobs, each under its number, in the
order of the jobs. -/
def answersTo (jobs : List (Nat × α)) (pool : Pool α β) : List (Nat × β) :=
  jobs.filterMap fun (number, _) =>
    (pool.finished.lookup number).map fun found => (number, found)

/-- The answers to all jobs: each job makes three moves. -/
def answers (limit : Nat) (answer : α → β) (jobs : List (Nat × α)) : List (Nat × β) :=
  (drive answer (3 * jobs.length) (ofJobs limit jobs)).answersTo jobs

end Pool

end DocSamples
