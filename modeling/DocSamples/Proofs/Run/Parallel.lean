import Mathlib
import DocSamples.Proofs.Run.Document

namespace DocSamples.RunPlan

/-! # Compiling side by side

The workspaces of a document may be compiled by a pool, in any order that the pool
allows.  What comes of it is the same as one after the other.
-/

variable {plan : RunPlan} {compiling first second : Compiling}

/-- A way of compiling that is had from a pool which has made any moves up to its end;
they may be others for each document. -/
def IsPooled (plan : RunPlan) (compiling : Compiling) : Prop :=
  ∀ document works, (works.map Prod.fst).Nodup →
    ∃ moves pool,
      (Pool.ofJobs plan.settings.maxConcurrency.toNat works).moves? plan.compiler.verify moves =
        some pool ∧
      pool.isDone = true ∧ compiling document works = pool.answersTo works

theorem isPooled_sideBySide (room : 1 ≤ plan.settings.maxConcurrency) :
    plan.IsPooled plan.sideBySide := by
  intro document works distinct
  have balanced : (Pool.ofJobs plan.settings.maxConcurrency.toNat works).Balanced
      plan.settings.maxConcurrency.toNat plan.compiler.verify works := Pool.balanced_ofJobs
  have enough : (Pool.ofJobs plan.settings.maxConcurrency.toNat works :
      Pool Workspace (Attempt Breakdown Verdict)).movesLeft ≤ 3 * works.length := by
    simp [Pool.movesLeft, Pool.ofJobs]
  obtain ⟨moves, moved, done⟩ := balanced.drive_isDone distinct (by omega) enough
  exact ⟨moves, _, moved, done, rfl⟩

theorem IsPooled.eq_oneByOne (pooled : plan.IsPooled compiling) {document : Path}
    {works : List (Nat × Workspace)} (distinct : (works.map Prod.fst).Nodup) :
    compiling document works = plan.oneByOne document works := by
  obtain ⟨moves, pool, moved, done, answers⟩ := pooled document works distinct
  have balanced := Pool.balanced_ofJobs.moves distinct moved
  rw [answers, balanced.answersTo_eq distinct done]
  rfl

/-! ## Whole runs -/

theorem verifyDocument_congr
    (same : ∀ document works, (works.map Prod.fst).Nodup →
      first document works = second document works) :
    plan.verifyDocument first = plan.verifyDocument second := by
  funext document
  unfold verifyDocument
  congr 1
  funext settled
  cases settled with
  | error fault => cases fault <;> rfl
  | ok fragments => simp only [verdicts, same document _ (jobs_nodup _ _)]

theorem runBy_congr
    (same : ∀ document works, (works.map Prod.fst).Nodup →
      first document works = second document works) :
    plan.runBy first = plan.runBy second := by
  simp only [runBy, verifyDocument_congr same]

theorem runBy_of_isPooled (pooled : plan.IsPooled compiling) :
    plan.runBy compiling = plan.runBy plan.oneByOne :=
  runBy_congr fun _ _ distinct => pooled.eq_oneByOne distinct

/-- However the settings want workspaces to be compiled, the run is the one in which
they are compiled one after the other. -/
theorem run_eq_runBy_oneByOne (room : 1 ≤ plan.settings.maxConcurrency) :
    plan.run = plan.runBy plan.oneByOne := by
  unfold run compiling
  split
  · exact runBy_of_isPooled (isPooled_sideBySide room)
  · rfl

/-- The plan with its workspaces compiled side by side, or one after the other. -/
def withParallel (plan : RunPlan) (parallel : Bool) : RunPlan :=
  { plan with settings := { plan.settings with parallel } }

/-- Compiling side by side keeps to the limit, compiles nothing twice, cannot get stuck
and gives the answers, and the run, that compiling one by one gives. -/
theorem run_parallel_eq_run_sequential (room : 1 ≤ plan.settings.maxConcurrency) :
    (∀ document works moves pool, (works.map Prod.fst).Nodup →
      (Pool.ofJobs plan.settings.maxConcurrency.toNat works).moves? plan.compiler.verify moves =
        some pool →
      pool.running.length ≤ plan.settings.maxConcurrency ∧
      (∀ number, moves.count (.acquire number) ≤ 1 ∧ moves.count (.finish number) ≤ 1) ∧
      moves.length ≤ 3 * works.length ∧
      (pool.isDone = false → ∃ move next, pool.move? plan.compiler.verify move = some next) ∧
      (pool.isDone = true → pool.answersTo works = plan.oneByOne document works)) ∧
    plan.IsPooled plan.sideBySide ∧
    (∀ compiling, plan.IsPooled compiling → plan.runBy compiling = plan.runBy plan.oneByOne) ∧
    (plan.withParallel true).run = (plan.withParallel false).run := by
  refine ⟨?_, isPooled_sideBySide room, fun compiling pooled => runBy_of_isPooled pooled, ?_⟩
  · intro document works moves pool distinct moved
    have start : (Pool.ofJobs plan.settings.maxConcurrency.toNat works).Balanced
        plan.settings.maxConcurrency.toNat plan.compiler.verify works := Pool.balanced_ofJobs
    have balanced := start.moves distinct moved
    refine ⟨?_, fun number => ⟨?_, ?_⟩, ?_, ?_, ?_⟩
    · have bounded := balanced.running_length_le
      omega
    · have acquired := Pool.count_acquire_le number moved
      have once := List.nodup_iff_count_le_one.mp distinct number
      simp only [Pool.ofJobs] at acquired
      omega
    · have finished := Pool.count_finish_add number moved
      have once := List.nodup_iff_count_le_one.mp
        (balanced.numbers_nodup distinct).of_append_right number
      omega
    · have length := start.length_moves distinct moved
      simp only [Pool.movesLeft, Pool.ofJobs, List.length_nil] at length
      omega
    · intro busy
      obtain ⟨move, next, _, possible⟩ := balanced.eagerMove (by omega) busy
      exact ⟨move, next, possible⟩
    · intro done
      exact balanced.answersTo_eq distinct done
  · have parallel : (plan.withParallel true).run = plan.runBy plan.oneByOne :=
      run_eq_runBy_oneByOne room
    have sequential : (plan.withParallel false).run = plan.runBy plan.oneByOne :=
      run_eq_runBy_oneByOne room
    rw [parallel, sequential]

/-- A plan for a root directory that holds one document, with nothing in it. -/
def ofEmptyDocument : RunPlan where
  tree := { current := [], entries := [(["a"], .file [])] }
  settings := { documents := { root := .ofNames .root [], patterns := ["a"], excludes := [] } }
  root := .ofNames .root []
  compiler := { name := "scripted", compile := fun _ => .done { succeeded := true } }

/-- Sessions 0 and 2 side by side, the later one finished first. -/
theorem run_parallel_eq_run_sequential_crossed :
    1 ≤ ofEmptyDocument.settings.maxConcurrency ∧
    (∃ pool, (Pool.ofJobs 4 [(0, ({} : Workspace)), (2, { session := some "s" })]).moves?
        ofEmptyDocument.compiler.verify
        [.acquire 0, .acquire 2, .finish 2, .finish 0, .release 0, .release 2] = some pool ∧
      pool.finished.map Prod.fst = [2, 0] ∧
      pool.answersTo [(0, {}), (2, { session := some "s" })] =
        ofEmptyDocument.oneByOne (.ofNames .root ["a"]) [(0, {}), (2, { session := some "s" })]) ∧
    (ofEmptyDocument.withParallel true).run = (ofEmptyDocument.withParallel false).run := by
  have room : 1 ≤ ofEmptyDocument.settings.maxConcurrency := by decide
  obtain ⟨moves, _, _, runs⟩ := run_parallel_eq_run_sequential room
  obtain ⟨_, _, _, _, answers⟩ := moves (.ofNames .root ["a"])
    [(0, {}), (2, { session := some "s" })]
    [.acquire 0, .acquire 2, .finish 2, .finish 0, .release 0, .release 2] _ (by decide) rfl
  exact ⟨room, ⟨_, rfl, rfl, answers rfl⟩, runs⟩

end DocSamples.RunPlan
