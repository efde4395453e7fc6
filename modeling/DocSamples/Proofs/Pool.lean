import Mathlib
import DocSamples.Pool

namespace DocSamples

/-! # Answers of a pool

Whatever moves a pool makes, each job is waiting, running or finished, and every
permit is free or held by one job.  From that balance follow the limit on running
jobs, the way to an end, and that the answers do not depend on the moves.
-/

theorem lookup_of_mem {α : Type} {items : List (Nat × α)} {number : Nat} {item : α}
    (distinct : (items.map Prod.fst).Nodup) (member : (number, item) ∈ items) :
    items.lookup number = some item := by
  obtain ⟨before, after, rfl⟩ := List.append_of_mem member
  refine List.lookup_eq_some_iff.mpr ⟨before, after, rfl, fun other inside => ?_⟩
  have different : other.1 ≠ number := by
    intro same
    simp only [List.map_append, List.map_cons, List.nodup_append, List.mem_map] at distinct
    exact distinct.2.2 other.1 ⟨other, inside, rfl⟩ number (by simp) same
  simpa using Ne.symm different

namespace Pool

variable {α β : Type} {limit number : Nat} {answer : α → β} {jobs : List (Nat × α)}
  {pool next last : Pool α β}

/-- A job with the answer to it in place of its work. -/
def answered (answer : α → β) (job : Nat × α) : Nat × β := (job.1, answer job.2)

@[simp] theorem answered_fst (job : Nat × α) : (answered answer job).1 = job.1 := rfl

theorem map_fst_answered (jobs : List (Nat × α)) :
    (jobs.map (answered answer)).map Prod.fst = jobs.map Prod.fst := by
  simp [Function.comp_def]

/-! ## Single moves -/

theorem acquire_eq_some :
    pool.move? answer (.acquire number) = some next ↔
      ∃ work, 0 < pool.permits ∧ pool.waiting.lookup number = some work ∧
        next = { pool with
          permits := pool.permits - 1
          waiting := takeOut number pool.waiting
          running := pool.running ++ [(number, work)] } := by
  by_cases free : 0 < pool.permits <;> simp [move?, free, eq_comm]

theorem finish_eq_some :
    pool.move? answer (.finish number) = some next ↔
      ∃ work, pool.running.lookup number = some work ∧
        next = { pool with
          running := takeOut number pool.running
          leaving := pool.leaving ++ [number]
          finished := pool.finished ++ [(number, answer work)] } := by
  simp [move?, eq_comm]

theorem release_eq_some :
    pool.move? answer (.release number) = some next ↔
      number ∈ pool.leaving ∧
        next = { pool with
          permits := pool.permits + 1
          leaving := pool.leaving.erase number } := by
  by_cases member : number ∈ pool.leaving <;> simp [move?, member, eq_comm]

/-- Taking out a job under its number takes out just that job. -/
theorem takeOut_perm {work : α} (distinct : (jobs.map Prod.fst).Nodup)
    (found : jobs.lookup number = some work) :
    jobs.Perm ((number, work) :: takeOut number jobs) := by
  obtain ⟨before, after, rfl, absentBefore⟩ := List.lookup_eq_some_iff.mp found
  have absentAfter : ∀ job ∈ after, job.1 ≠ number := by
    intro job member same
    simp only [List.map_append, List.map_cons, List.nodup_append, List.nodup_cons] at distinct
    exact distinct.2.1.1 (List.mem_map.mpr ⟨job, member, same⟩)
  have keptBefore : takeOut number before = before :=
    List.filter_eq_self.mpr fun job member => by simpa [bne_comm] using absentBefore job member
  have keptAfter : takeOut number after = after :=
    List.filter_eq_self.mpr fun job member => by simpa using absentAfter job member
  have taken : takeOut number (before ++ (number, work) :: after) = before ++ after := by
    unfold takeOut at keptBefore keptAfter ⊢
    simp [keptBefore, keptAfter]
  rw [taken]
  exact List.perm_middle

/-! ## The balance of a pool -/

/-- Every permit and every job is somewhere, once. -/
structure Balanced (limit : Nat) (answer : α → β) (jobs : List (Nat × α)) (pool : Pool α β) :
    Prop where
  permits : pool.permits + pool.running.length + pool.leaving.length = limit
  jobs : ((pool.waiting ++ pool.running).map (answered answer) ++ pool.finished).Perm
    (jobs.map (answered answer))

theorem balanced_ofJobs : (ofJobs limit jobs : Pool α β).Balanced limit answer jobs where
  permits := by simp [ofJobs]
  jobs := by simp [ofJobs]

namespace Balanced

/-- No number occurs twice among the jobs that wait, run or are finished. -/
theorem numbers_nodup (balanced : pool.Balanced limit answer jobs)
    (distinct : (jobs.map Prod.fst).Nodup) :
    (pool.waiting.map Prod.fst ++ pool.running.map Prod.fst ++
      pool.finished.map Prod.fst).Nodup := by
  have numbers := balanced.jobs.map Prod.fst
  rw [List.map_append, map_fst_answered, map_fst_answered, List.map_append] at numbers
  exact numbers.nodup_iff.mpr distinct

theorem move (balanced : pool.Balanced limit answer jobs)
    (distinct : (jobs.map Prod.fst).Nodup) {move : Move}
    (moved : pool.move? answer move = some next) : next.Balanced limit answer jobs := by
  have numbers := balanced.numbers_nodup distinct
  have waitingDistinct := numbers.of_append_left.of_append_left
  have runningDistinct := numbers.of_append_left.of_append_right
  have permits := balanced.permits
  cases move with
  | acquire number =>
      obtain ⟨work, free, found, rfl⟩ := acquire_eq_some.mp moved
      have taken := takeOut_perm waitingDistinct found
      refine ⟨by simp; omega, List.Perm.trans (.append_right _ (.map _ ?_)) balanced.jobs⟩
      calc takeOut number pool.waiting ++ (pool.running ++ [(number, work)])
          _ = (takeOut number pool.waiting ++ pool.running) ++ [(number, work)] := by simp
          _ |>.Perm ((number, work) :: (takeOut number pool.waiting ++ pool.running)) :=
            List.perm_append_singleton _ _
          _ |>.Perm (pool.waiting ++ pool.running) := taken.symm.append_right _
  | finish number =>
      obtain ⟨work, found, rfl⟩ := finish_eq_some.mp moved
      have taken := takeOut_perm runningDistinct found
      have length := taken.length_eq
      refine ⟨by simp at length ⊢; omega, List.Perm.trans ?_ balanced.jobs⟩
      have moving : (pool.waiting ++ pool.running).Perm
          (pool.waiting ++ takeOut number pool.running ++ [(number, work)]) := by
        rw [List.append_assoc]
        exact (taken.trans (List.perm_append_singleton _ _).symm).append_left _
      have answers := (moving.map (answered answer)).append_right pool.finished
      refine List.Perm.trans ?_ answers.symm
      simp only [List.map_append, List.map_cons, List.map_nil, List.append_assoc]
      exact ((List.perm_append_comm).append_left _).append_left _
  | release number =>
      obtain ⟨member, rfl⟩ := release_eq_some.mp moved
      have length := List.length_erase_of_mem member
      have positive := List.length_pos_of_mem member
      exact ⟨by simp only [length]; omega, balanced.jobs⟩

theorem moves {moves : List Move} (balanced : pool.Balanced limit answer jobs)
    (distinct : (jobs.map Prod.fst).Nodup)
    (moved : pool.moves? answer moves = some last) : last.Balanced limit answer jobs := by
  induction moves generalizing pool with
  | nil => cases moved; exact balanced
  | cons first rest ih =>
      obtain ⟨next, step, more⟩ := Option.bind_eq_some_iff.mp moved
      exact ih (balanced.move distinct step) more

theorem running_length_le (balanced : pool.Balanced limit answer jobs) :
    pool.running.length ≤ limit := by
  have permits := balanced.permits
  omega

/-- A pool in which nothing is left to do has the answers to its jobs. -/
theorem answersTo_eq (balanced : pool.Balanced limit answer jobs)
    (distinct : (jobs.map Prod.fst).Nodup) (done : pool.isDone = true) :
    pool.answersTo jobs = jobs.map (answered answer) := by
  simp only [isDone, Bool.and_eq_true, List.isEmpty_iff] at done
  obtain ⟨⟨noneWaiting, noneRunning⟩, _⟩ := done
  have answers : pool.finished.Perm (jobs.map (answered answer)) := by
    simpa [noneWaiting, noneRunning] using balanced.jobs
  have finishedDistinct : (pool.finished.map Prod.fst).Nodup := by
    rw [(answers.map Prod.fst).nodup_iff, map_fst_answered]
    exact distinct
  have found : ∀ job ∈ jobs, pool.finished.lookup job.1 = some (answer job.2) := by
    intro job member
    apply lookup_of_mem finishedDistinct
    exact answers.mem_iff.mpr (List.mem_map.mpr ⟨job, member, rfl⟩)
  rw [answersTo, ← List.filterMap_eq_map]
  refine List.filterMap_congr fun job member => ?_
  simp [found job member, answered]

end Balanced

/-! ## Moves that are made once -/

/-- A job is acquired only from among those that wait, and does not go back there. -/
theorem count_acquire_le {moves : List Move} (number : Nat)
    (moved : pool.moves? answer moves = some last) :
    moves.count (.acquire number) + (last.waiting.map Prod.fst).count number ≤
      (pool.waiting.map Prod.fst).count number := by
  induction moves generalizing pool with
  | nil => cases moved; simp
  | cons first rest ih =>
      obtain ⟨next, step, more⟩ := Option.bind_eq_some_iff.mp moved
      have later := ih more
      cases first with
      | acquire other =>
          obtain ⟨work, _, found, rfl⟩ := acquire_eq_some.mp step
          by_cases same : other = number
          · subst same
            have waiting : 0 < (pool.waiting.map Prod.fst).count other := by
              obtain ⟨before, after, entries, _⟩ := List.lookup_eq_some_iff.mp found
              simp [entries]
            have gone : ((takeOut other pool.waiting).map Prod.fst).count other = 0 := by
              simp [List.count_eq_zero, takeOut]
            simp only at later
            simp only [List.count_cons_self]
            omega
          · have fewer := ((List.filter_sublist (p := fun job => job.1 != other)
              (l := pool.waiting)).map Prod.fst).count_le number
            rw [List.count_cons_of_ne (by simpa using same)]
            exact Nat.le_trans later fewer
      | finish other =>
          obtain ⟨_, _, rfl⟩ := finish_eq_some.mp step
          simpa using later
      | release other =>
          obtain ⟨_, rfl⟩ := release_eq_some.mp step
          simpa using later

/-- Each job that is finished adds one answer. -/
theorem count_finish_add {moves : List Move} (number : Nat)
    (moved : pool.moves? answer moves = some last) :
    moves.count (.finish number) + (pool.finished.map Prod.fst).count number =
      (last.finished.map Prod.fst).count number := by
  induction moves generalizing pool with
  | nil => cases moved; simp
  | cons first rest ih =>
      obtain ⟨next, step, more⟩ := Option.bind_eq_some_iff.mp moved
      have later := ih more
      cases first with
      | acquire other =>
          obtain ⟨_, _, _, rfl⟩ := acquire_eq_some.mp step
          simpa using later
      | finish other =>
          obtain ⟨_, _, rfl⟩ := finish_eq_some.mp step
          by_cases same : other = number
          · subst same
            simp only [List.map_append, List.map_cons, List.map_nil, List.count_append,
              List.count_singleton_self] at later
            simp only [List.count_cons_self]
            omega
          · rw [List.count_cons_of_ne (by simpa using same), ← later]
            simp [same]
      | release other =>
          obtain ⟨_, rfl⟩ := release_eq_some.mp step
          simpa using later

/-! ## The way to an end -/

def movesLeft (pool : Pool α β) : Nat :=
  3 * pool.waiting.length + 2 * pool.running.length + pool.leaving.length

theorem Balanced.movesLeft_move (balanced : pool.Balanced limit answer jobs)
    (distinct : (jobs.map Prod.fst).Nodup) {move : Move}
    (moved : pool.move? answer move = some next) : next.movesLeft + 1 = pool.movesLeft := by
  have numbers := balanced.numbers_nodup distinct
  cases move with
  | acquire number =>
      obtain ⟨work, _, found, rfl⟩ := acquire_eq_some.mp moved
      have length := (takeOut_perm numbers.of_append_left.of_append_left found).length_eq
      simp only [movesLeft, List.length_append, List.length_cons, List.length_nil] at length ⊢
      omega
  | finish number =>
      obtain ⟨work, found, rfl⟩ := finish_eq_some.mp moved
      have length := (takeOut_perm numbers.of_append_left.of_append_right found).length_eq
      simp only [movesLeft, List.length_append, List.length_cons, List.length_nil] at length ⊢
      omega
  | release number =>
      obtain ⟨member, rfl⟩ := release_eq_some.mp moved
      have length := List.length_erase_of_mem member
      have positive := List.length_pos_of_mem member
      simp only [movesLeft, length]
      omega

theorem Balanced.length_moves (balanced : pool.Balanced limit answer jobs)
    (distinct : (jobs.map Prod.fst).Nodup) {moves : List Move}
    (moved : pool.moves? answer moves = some last) :
    moves.length + last.movesLeft = pool.movesLeft := by
  induction moves generalizing pool with
  | nil => cases moved; simp
  | cons first rest ih =>
      obtain ⟨next, step, more⟩ := Option.bind_eq_some_iff.mp moved
      have one := balanced.movesLeft_move distinct step
      have others := ih (balanced.move distinct step) more
      simp only [List.length_cons]
      omega

/-- As long as something is left to do, the eager move is there and is possible. -/
theorem Balanced.eagerMove (balanced : pool.Balanced limit answer jobs) (room : 0 < limit)
    (busy : pool.isDone = false) :
    ∃ move next, pool.eagerMove? = some move ∧ pool.move? answer move = some next := by
  have permits := balanced.permits
  -- The cases are those of the eager move: release, acquire while a permit is free, finish.
  cases leaving : pool.leaving with
  | cons number rest =>
      exact ⟨.release number, _, by simp [eagerMove?, leaving],
        release_eq_some.mpr ⟨by simp [leaving], rfl⟩⟩
  | nil =>
      cases running : pool.running with
      | nil =>
          cases waiting : pool.waiting with
          | nil => simp [isDone, leaving, running, waiting] at busy
          | cons job rest =>
              obtain ⟨number, work⟩ := job
              have free : 0 < pool.permits := by
                simp only [leaving, running, List.length_nil, Nat.add_zero] at permits
                omega
              exact ⟨.acquire number, _, by simp [eagerMove?, leaving, waiting, free],
                acquire_eq_some.mpr ⟨work, free, by simp [waiting], rfl⟩⟩
      | cons job rest =>
          obtain ⟨number, work⟩ := job
          have found : pool.running.lookup number = some work := by simp [running]
          have finishing : pool.move? answer (.finish number) = some _ :=
            finish_eq_some.mpr ⟨work, found, rfl⟩
          cases waiting : pool.waiting with
          | nil => exact ⟨_, _, by simp [eagerMove?, leaving, waiting, running], finishing⟩
          | cons first others =>
              obtain ⟨firstNumber, firstWork⟩ := first
              by_cases free : 0 < pool.permits
              · exact ⟨.acquire firstNumber, _, by simp [eagerMove?, leaving, waiting, free],
                  acquire_eq_some.mpr ⟨firstWork, free, by simp [waiting], rfl⟩⟩
              · exact ⟨_, _, by simp [eagerMove?, leaving, waiting, running, free], finishing⟩

/-- Eager moves lead to an end if there are enough turns for them. -/
theorem Balanced.drive_isDone (balanced : pool.Balanced limit answer jobs)
    (distinct : (jobs.map Prod.fst).Nodup) (room : 0 < limit) {turns : Nat}
    (enough : pool.movesLeft ≤ turns) :
    ∃ moves, pool.moves? answer moves = some (drive answer turns pool) ∧
      (drive answer turns pool).isDone = true := by
  induction turns generalizing pool with
  | zero =>
      refine ⟨[], rfl, ?_⟩
      have nothing : pool.waiting = [] ∧ pool.running = [] ∧ pool.leaving = [] := by
        simp only [movesLeft] at enough
        exact ⟨List.length_eq_zero_iff.mp (by omega), List.length_eq_zero_iff.mp (by omega),
          List.length_eq_zero_iff.mp (by omega)⟩
      simp [drive, isDone, nothing]
  | succ turns ih =>
      cases done : pool.isDone with
      | true =>
          refine ⟨[], ?_⟩
          have nothing : pool.eagerMove? = none := by
            simp only [isDone, Bool.and_eq_true, List.isEmpty_iff] at done
            simp [eagerMove?, done]
          simp [drive, nothing, done, moves?]
      | false =>
          obtain ⟨move, next, eager, moved⟩ := balanced.eagerMove room done
          have fewer := balanced.movesLeft_move distinct moved
          obtain ⟨moves, more, last⟩ := ih (balanced.move distinct moved) (by omega)
          refine ⟨move :: moves, ?_⟩
          simpa [drive, eager, moved, moves?] using And.intro more last

end Pool

end DocSamples
