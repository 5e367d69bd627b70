import TwoTier.Proofs.PoolSteps

/-!
Workers that a new core size starts.

A core size that goes up starts workers for jobs that are queued already: no more than it goes up
by, no more than there are queued jobs, and none beyond itself. Overflow workers and workers that
are left from a larger core size count as well, and the first thread that does not start ends it
(`grow_recruits`). The new workers take no job yet; they look at the pool first, as workers do that
have completed one. Otherwise a new core size starts nobody (`workers_setCoreSize`).
-/

namespace TwoTier.ThreadPool

variable {J : Type} {p : ThreadPool J} {size pending most count k : Nat}

/-! ### Starts in a row -/

/-- Workers that are started one after the other without a job. -/
def recruits (count : Nat) (p : ThreadPool J) : List (Worker J) :=
  (List.range' (p.attempts + 1) count).map fun number => ⟨number, .checking⟩

@[simp] theorem length_recruits : (p.recruits count).length = count := by
  rw [recruits, List.length_map, List.length_range']

theorem recruits_succ : p.recruits (count + 1) =
    ⟨p.attempts + 1, .checking⟩ :: (p.started .checking).recruits count := by
  rw [recruits, List.range'_succ, List.map_cons]
  rfl

theorem checking_of_recruits {w : Worker J} (mem : w ∈ p.recruits count) : w.phase = .checking := by
  obtain ⟨number, -, rfl⟩ := List.mem_map.mp mem
  rfl

/-- The next `k` threads start, and the one after them does not. -/
def FailsAfter (k : Nat) (p : ThreadPool J) : Prop :=
  (∀ i < k, p.startFault (p.attempts + 1 + i) = none) ∧ p.startFault (p.attempts + 1 + k) ≠ none

/-- Of at most so many threads this many start: none is tried after one that does not. -/
structure Starts (most count : Nat) (p : ThreadPool J) : Prop where
  within : count ≤ most
  start : ∀ i < count, p.startFault (p.attempts + 1 + i) = none
  fail : count < most → p.startFault (p.attempts + 1 + count) ≠ none

theorem FailsAfter.starts (h : p.FailsAfter k) : p.Starts most (min most k) := by
  refine ⟨Nat.min_le_left .., fun i before => h.1 i (by omega), ?_⟩
  intro fewer
  rw [Nat.min_eq_right (by omega)]
  exact h.2

theorem starts_of_none (never : ∀ k, ¬ p.FailsAfter k) : p.Starts most most := by
  have all (i : Nat) : p.startFault (p.attempts + 1 + i) = none := by
    induction i using Nat.strongRecOn with
    | ind i before =>
        by_contra fault
        exact never i ⟨before, fault⟩
  exact ⟨Nat.le_refl _, fun i _ => all i, fun less => absurd less (Nat.lt_irrefl _)⟩

theorem exists_starts (most : Nat) (p : ThreadPool J) : ∃ count, p.Starts most count := by
  by_cases fails : ∃ k, p.FailsAfter k
  · obtain ⟨k, fails⟩ := fails
    exact ⟨_, fails.starts⟩
  · exact ⟨most, starts_of_none (not_exists.mp fails)⟩

namespace Starts

theorem unique {other : Nat} (h : p.Starts most count) (h' : p.Starts most other) :
    count = other := by
  rcases Nat.lt_trichotomy count other with less | same | more
  · exact absurd (h'.start count less) (h.fail (Nat.lt_of_lt_of_le less h'.within))
  · exact same
  · exact absurd (h.start other more) (h'.fail (Nat.lt_of_lt_of_le more h.within))

/-- Once the first has started, the others remain. -/
theorem tail (h : p.Starts (most + 1) (count + 1)) : (p.started .checking).Starts most count := by
  have shift (i : Nat) : p.attempts + 1 + (i + 1) = (p.started .checking).attempts + 1 + i := by
    change p.attempts + 1 + (i + 1) = p.attempts + 1 + 1 + i
    omega
  refine ⟨Nat.le_of_succ_le_succ h.within, ?_, ?_⟩
  · intro i before
    exact shift i ▸ h.start (i + 1) (Nat.succ_lt_succ before)
  · intro fewer
    exact shift count ▸ h.fail (Nat.succ_lt_succ fewer)

end Starts

/-! ### Growth -/

/-- The threads for queued jobs are tried in a row, up to the core size. -/
theorem grow_recruits (starts : p.Starts (min pending (p.coreSize - p.workers.length)) count) :
    (grow pending p).workers = p.workers ++ p.recruits count := by
  induction pending generalizing count p with
  | zero =>
      obtain rfl : count = 0 := Nat.le_zero.mp (Nat.zero_min _ ▸ starts.within)
      exact (List.append_nil _).symm
  | succ pending ih =>
      rcases grow_cases pending p with ⟨full, eq⟩ | ⟨why, below, fault, eq⟩ | ⟨below, none, eq⟩ <;>
        rw [eq]
      · obtain rfl : count = 0 := by
          have within := starts.within
          unfold workerCount at full
          omega
        exact (List.append_nil _).symm
      · have none : ¬ 0 < count := by
          intro some
          rw [starts.start 0 some] at fault
          contradiction
        obtain rfl : count = 0 := Nat.eq_zero_of_not_pos none
        exact (List.append_nil _).symm
      · have more : min (pending + 1) (p.coreSize - p.workers.length)
            = min pending (p.coreSize - (p.workers.length + 1)) + 1 := by
          unfold workerCount at below
          omega
        rw [more] at starts
        cases count with
        | zero => exact absurd none (starts.fail (Nat.succ_pos _))
        | succ count =>
            have rest : (p.started .checking).Starts (min pending
                ((p.started .checking).coreSize - (p.started .checking).workers.length)) count := by
              change Starts (min pending (p.coreSize - (p.workers ++ [_]).length)) count _
              rw [List.length_append]
              exact starts.tail
            rw [recruits_succ]
            exact (ih rest).trans (List.append_assoc ..)

/-- The workers that a higher core size asks for. -/
def wanted (size : Nat) (p : ThreadPool J) : Nat :=
  min (min (size - p.coreSize) p.ready.length) (size - p.workers.length)

theorem setCoreSize_recruits (running : p.runState = .running) (up : p.coreSize < size)
    (starts : p.Starts (p.wanted size) count) :
    (p.setCoreSize size).workers = p.workers ++ p.recruits count := by
  unfold setCoreSize
  dsimp only
  rw [if_neg (Nat.ne_of_lt up), if_pos ⟨up, running⟩]
  exact grow_recruits (p := record (.coreSizeChanged p.coreSize size) { p with coreSize := size })
    ⟨starts.within, starts.start, starts.fail⟩

/-- A core size that does not go up starts nobody, and a pool that is shut down starts nobody. -/
theorem workers_setCoreSize (still : p.runState ≠ .running ∨ size ≤ p.coreSize) :
    (p.setCoreSize size).workers = p.workers := by
  unfold setCoreSize
  dsimp only
  split
  · rfl
  · rw [if_neg]
    · rfl
    · rintro ⟨up, running⟩
      exact still.elim (fun halted => halted running) (Nat.not_le.mpr up)

/-- Setting the core size of a running pool, while no start fails. -/
theorem setCoreSize_sound (size : Nat) (p : ThreadPool J) (running : p.runState = .running)
    (sound : ∀ n, p.startFault n = none) :
    ∃ new : List (Worker J), (p.setCoreSize size).workers = p.workers ++ new ∧
      new.length = min (min (size - p.coreSize) p.ready.length) (size - p.workers.length) ∧
      (∀ w ∈ new, w.phase = .checking) ∧ (p.setCoreSize size).ready = p.ready := by
  refine ⟨p.recruits (p.wanted size), ?_, length_recruits, fun _ => checking_of_recruits,
    ready_setCoreSize size p⟩
  by_cases up : p.coreSize < size
  · exact setCoreSize_recruits running up (starts_of_none fun k fails => fails.2 (sound _))
  · have none : p.wanted size = 0 := by
      unfold wanted
      omega
    rw [none, workers_setCoreSize (.inr (Nat.le_of_not_lt up))]
    exact (List.append_nil _).symm

/-- In every state of every pool, a core size that goes up while the pool runs starts as many
workers as the least of the increase, the queued jobs, the distance from the workers up to the new
size, and the threads that start before one does not. No other core size starts any, nor does any
core size once the pool is shut down. The workers that were there, the queued jobs and the active
count stay as they are, the new workers hold no job yet, and the new size is in force. -/
theorem raised_core_starts_workers (size : Nat) (p : ThreadPool J) :
    (p.setCoreSize size).coreSize = size ∧ (p.setCoreSize size).ready = p.ready ∧
      (p.setCoreSize size).active = p.active ∧
      ∃ new : List (Worker J), (p.setCoreSize size).workers = p.workers ++ new ∧
        (∀ w ∈ new, w.phase = .checking) ∧
        (p.runState = .running ∧ p.coreSize < size →
          (∀ k, p.FailsAfter k → new.length =
            min (min (min (size - p.coreSize) p.ready.length) (size - p.workers.length)) k) ∧
          ((∀ k, ¬ p.FailsAfter k) → new.length =
            min (min (size - p.coreSize) p.ready.length) (size - p.workers.length))) ∧
        (p.runState ≠ .running ∨ size ≤ p.coreSize → new = []) := by
  refine ⟨coreSize_setCoreSize size p, ready_setCoreSize size p, active_setCoreSize size p, ?_⟩
  by_cases grows : p.runState = .running ∧ p.coreSize < size
  · obtain ⟨running, up⟩ := grows
    obtain ⟨count, starts⟩ := exists_starts (p.wanted size) p
    refine ⟨p.recruits count, setCoreSize_recruits running up starts,
      fun _ => checking_of_recruits, fun _ => ⟨?_, ?_⟩, ?_⟩
    · intro k fails
      exact length_recruits.trans (starts.unique fails.starts)
    · intro never
      exact length_recruits.trans (starts.unique (starts_of_none never))
    · rintro (halted | less)
      · exact absurd running halted
      · exact absurd up (Nat.not_lt.mpr less)
  · have still : p.runState ≠ .running ∨ size ≤ p.coreSize :=
      (not_and_or.mp grows).imp_right Nat.le_of_not_lt
    refine ⟨[], ?_, nofun, fun up => absurd up grows, fun _ => rfl⟩
    rw [workers_setCoreSize still, List.append_nil]

/-- A pool with two workers, whose core size was lowered to one, has three queued jobs when its core
size is set to six. That is five more, four workers are missing and three jobs wait, but only one
thread starts before one does not. -/
theorem raised_core_starts_workers_until_failure :
    ∃ (deeds : List (Deed String)) (p : ThreadPool String),
      Runs (opened 2 4 ⟨60⟩ 3 "pool" fun n => if n = 4 then some (.system 11) else none) deeds p ∧
      p.runState = .running ∧ p.coreSize = 1 ∧ p.workers.length = 2 ∧ p.ready = ["c", "d", "e"] ∧
      p.active = 2 ∧ p.FailsAfter 1 ∧ (p.setCoreSize 6).coreSize = 6 ∧
      (p.setCoreSize 6).ready = ["c", "d", "e"] ∧ (p.setCoreSize 6).active = 2 ∧
      (p.setCoreSize 6).workers.length = 3 := by
  obtain ⟨deeds, p, run, running, core, workers, ready, active, fails⟩ :
      ∃ (deeds : List (Deed String)) (p : ThreadPool String),
        Runs (opened 2 4 ⟨60⟩ 3 "pool" fun n => if n = 4 then some (.system 11) else none) deeds p ∧
        p.runState = .running ∧ p.coreSize = 1 ∧ p.workers.length = 2 ∧
        p.ready = ["c", "d", "e"] ∧ p.active = 2 ∧ p.FailsAfter 1 :=
    ⟨_, _, Runs.refl |>.tail (.accept "a" rfl rfl) |>.tail (.accept "b" rfl rfl)
      |>.tail (.setCoreSize 1 rfl) |>.tail (.accept "c" rfl rfl) |>.tail (.accept "d" rfl rfl)
      |>.tail (.accept "e" rfl rfl), rfl, rfl, rfl, rfl, rfl, by decide, by decide⟩
  obtain ⟨size, line, busy, new, crew, -, grown, -⟩ := raised_core_starts_workers 6 p
  have up : p.coreSize < 6 := core ▸ by decide
  have one : new.length = 1 := by
    rw [(grown ⟨running, up⟩).1 1 fails, core, workers, ready]
    rfl
  refine ⟨deeds, p, run, running, core, workers, ready, active, fails, size, line.trans ready,
    busy.trans active, ?_⟩
  rw [crew, List.length_append, workers, one]

end TwoTier.ThreadPool
