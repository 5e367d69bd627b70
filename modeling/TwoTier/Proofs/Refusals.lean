import TwoTier.Proofs.PoolSteps

/-!
What a refused job leaves behind in the pool.

A job comes back because the pool is shut down, because it is saturated, or because the thread that
was to run it does not start (`ThreadPool.Refuses`). A pool that is shut down or saturated is the
same afterwards. A failed start is taken back as well, but for two counts: the attempt has used up a
number, and the worker that never was counts for the largest number of workers. The second shows in
the snapshot, but only if the pool has as many workers as it ever counted
(`refused_leaves_pool`); for that a pool never has more (`Runs.peaked`).
-/

namespace TwoTier.ThreadPool

variable {J : Type} {job : J} {p q : ThreadPool J} {deed : Deed J} {deeds : List (Deed J)}

/-! ### The largest number of workers -/

/-- The pool has counted as many workers as it has. -/
def Peaked (p : ThreadPool J) : Prop := p.workers.length ≤ p.largestWorkers

namespace Peaked

theorem of_le (h : Peaked p) (workers : q.workers.length ≤ p.workers.length)
    (largest : p.largestWorkers ≤ q.largestWorkers) : Peaked q :=
  Nat.le_trans workers (Nat.le_trans h largest)

theorem attempted (h : Peaked p) : Peaked p.attempted := h.of_le (Nat.le_refl _) (Nat.le_max_left ..)

/-- A worker is counted before it starts. -/
theorem started (phase : Phase J) (p : ThreadPool J) : Peaked (p.started phase) := by
  change (p.workers ++ [_]).length ≤ max p.largestWorkers (p.workers.length + 1)
  rw [List.length_append]
  exact Nat.le_max_right ..

theorem setPhase (h : Peaked p) (number : Nat) (phase : Phase J) : Peaked (p.setPhase number phase) :=
  h.of_le (Nat.le_of_eq (List.length_map _)) (Nat.le_refl _)

theorem tryTerminate (h : Peaked p) : Peaked p.tryTerminate :=
  h.of_le (Nat.le_of_eq (congrArg List.length p.tryTerminate_workers))
    (Nat.le_of_eq p.tryTerminate_largestWorkers.symm)

theorem retire (h : Peaked p) (number : Nat) : Peaked (p.retire number) := by
  refine tryTerminate (h.of_le ?_ (Nat.le_refl _))
  exact List.length_filter_le _ _

/-- The worker goes to the end of the line. -/
theorem beginWaiting {number : Nat} {phase : Phase J} (h : Peaked p)
    (found : p.phase? number = some phase) : Peaked (p.beginWaiting number) := by
  obtain ⟨w, first, -⟩ := Option.map_eq_some_iff.mp (show Option.map _ _ = _ from found)
  have among := List.mem_of_find?_eq_some first
  have itself : w.number = number := by simpa using List.find?_some first
  have fewer : (p.workers.filter fun u => u.number ≠ number).length < p.workers.length :=
    List.length_filter_lt_length_iff_exists.mpr ⟨w, among, by simp [itself]⟩
  refine h.of_le ?_ (Nat.le_refl _)
  unfold ThreadPool.beginWaiting
  rw [List.length_append]
  exact fewer

theorem executes {r : Except (RejectedJob J) Unit} (h : Peaked p) (step : Executes job p r q) :
    Peaked q := by
  cases step with
  | refused | queued => exact h
  | unstarted | queuedAlone => exact h.attempted
  | started => exact started (.assigned job) p
  | queuedFirst => exact started .checking _
  | handed w => exact h.setPhase _ _

theorem acts {number : Nat} {act : WorkerAct} (h : Peaked p) (step : Acts number p act q) :
    Peaked q := by
  cases step with
  | halt | expire | leave => exact h.retire number
  | settle found => exact h.beginWaiting found
  | receive | count | endRun =>
      refine setPhase ?_ _ _
      exact h
  | _ => exact h.setPhase _ _

theorem setCoreSize (size : Nat) (h : Peaked p) : Peaked (p.setCoreSize size) := by
  refine setCoreSize_of size p (fun _ => h) (fun _ => h) ?_ ?_
  · intro q _ _ _ _
    exact started .checking q
  · intro q why peaked _
    exact peaked.attempted

theorem step (h : Peaked p) (next : Next p deed q) : Peaked q := by
  cases next.staffs with
  | execute step => exact h.executes step
  | setCoreSize size => exact h.setCoreSize size
  | act step => exact h.acts step
  | aside same =>
      exact h.of_le (Nat.le_of_eq (congrArg _ same.workers)) (Nat.le_of_eq same.largest.symm)

end Peaked

theorem Runs.peaked (run : Runs p deeds q) (h : Peaked p) : Peaked q := by
  induction run with
  | refl => exact h
  | tail _ next ih => exact ih.step next

/-! ### Refused jobs -/

/-- What a failed start leaves in the snapshot. -/
theorem stats_attempted (p : ThreadPool J) :
    p.attempted.stats = { p.stats with largestWorkers := max p.largestWorkers (p.workerCount + 1) } :=
  rfl

/-- The thread for a job failed to start when the pool had as many workers as it ever counted. -/
def FailsAtPeak (why : RejectedJob J) (p : ThreadPool J) : Prop :=
  (∃ fault, why.error = .threadSpawn fault) ∧ p.workerCount = p.largestWorkers

/-- In every state of every pool, a job that is refused comes back itself, unrun, and the run state,
the ready queue and the workers are as before. So is the snapshot, unless the thread for the job
failed to start at the peak: then it shows one worker more than the pool ever had. -/
theorem refused_leaves_pool {coreSize maxSize capacity : Nat} {keepAlive : Duration}
    {name : String} {startFault : Nat → Option StartFault} {why : RejectedJob J}
    (run : Runs (opened coreSize maxSize keepAlive capacity name startFault) deeds p)
    (refused : p.execute job = (.error why, q)) :
    why.job = job ∧ q.runState = p.runState ∧ q.ready = p.ready ∧ q.workers = p.workers ∧
      (¬ FailsAtPeak why p → q.stats = p.stats) ∧
      (FailsAtPeak why p →
        q.stats = { p.stats with largestWorkers := p.stats.largestWorkers + 1 }) := by
  have peaked : Peaked p := run.peaked (Nat.zero_le _)
  cases refuses refused with
  | shut | saturated =>
      refine ⟨rfl, rfl, rfl, rfl, fun _ => rfl, ?_⟩
      rintro ⟨⟨fault, spawn⟩, -⟩
      contradiction
  | unstarted fault =>
      refine ⟨rfl, rfl, rfl, rfl, ?_, ?_⟩
      · intro below
        have fewer : p.workerCount + 1 ≤ p.largestWorkers :=
          Nat.lt_of_le_of_ne peaked fun most => below ⟨⟨fault, rfl⟩, most⟩
        rw [stats_attempted, Nat.max_eq_left fewer]
        rfl
      · rintro ⟨-, most⟩
        rw [stats_attempted, most, Nat.max_eq_right (Nat.le_succ _)]
        rfl

/-- A pool that had a worker once loses nothing and counts nothing when the next does not start:
its only worker left after its keep-alive. -/
theorem refused_leaves_pool_below_peak :
    ∃ (p q : ThreadPool String) (deeds : List (Deed String)) (why : RejectedJob String),
      Runs (opened 1 1 ⟨60⟩ 1 "pool" fun n => if n = 1 then none else some (.system 11)) deeds p ∧
      p.execute "b" = (.error why, q) ∧ p.stats = ⟨0, 0, 0, 1, 1, 1⟩ ∧
      why.job = "b" ∧ q.runState = p.runState ∧ q.ready = p.ready ∧ q.stats = p.stats := by
  have run := Runs.refl
      (p := opened (J := String) 1 1 ⟨60⟩ 1 "pool" fun n => if n = 1 then none else some (.system 11))
    |>.tail (.accept "a" rfl rfl) |>.tail (.work 1 .begin nofun rfl)
    |>.tail (.work 1 .endRun nofun rfl) |>.tail (.finish 1 rfl rfl)
    |>.tail (.work 1 .check nofun rfl) |>.tail (.work 1 .timeOut nofun rfl)
    |>.tail (.work 1 .decide nofun rfl)
  obtain ⟨job, runState, ready, -, same, -⟩ :=
    refused_leaves_pool run (show ThreadPool.execute "b" _ = (.error _, _) from rfl)
  refine ⟨_, _, _, _, run, rfl, rfl, job, runState, ready, same ?_⟩
  rintro ⟨-, most⟩
  exact absurd most (by decide)

/-- The first thread of a pool does not start. The job comes back, and the snapshot shows that the
pool once had a worker, though it never had one. -/
theorem failed_start_counted :
    ∃ (p q : ThreadPool String) (why : RejectedJob String),
      Runs (opened 1 1 ⟨60⟩ 1 "pool" fun _ => some (.system 11)) [] p ∧
      p.execute "a" = (.error why, q) ∧
      p.stats = ⟨0, 0, 0, 1, 0, 0⟩ ∧ q.stats = ⟨0, 0, 0, 1, 1, 0⟩ :=
  ⟨_, _, _, .refl, rfl, rfl, rfl⟩

end TwoTier.ThreadPool
