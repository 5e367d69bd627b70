import TwoTier.Proofs.PoolSteps

/-!
How many workers a thread pool can have.

The maximum of a pool is looked at only for a worker beyond the core size. So it bounds the workers
together with the core sizes: no run goes beyond the largest of them (`Runs.capped`), and jobs alone
take a pool there when no worker comes back for one (`Eager.fill`). The maximum by itself is a bound
exactly if no core size in the run exceeds it (`max_bounds_workers_iff`). Nothing keeps a pool from
being made with a larger core size, or from being given one later.
-/

namespace TwoTier.ThreadPool

variable {J : Type} {job : J} {p q : ThreadPool J} {bound : Nat}

/-! ### The bound -/

/-- A pool whose sizes allow at most so many workers, and which has no more. -/
structure Capped (bound : Nat) (p : ThreadPool J) : Prop where
  core : p.coreSize ≤ bound
  most : p.maxSize ≤ bound
  workers : p.workers.length ≤ bound

namespace Capped

theorem fewer (h : Capped bound p) (core : q.coreSize = p.coreSize) (most : q.maxSize = p.maxSize)
    (workers : q.workers.length ≤ p.workers.length) : Capped bound q :=
  ⟨core ▸ h.core, most ▸ h.most, Nat.le_trans workers h.workers⟩

theorem started (phase : Phase J) (h : Capped bound p) (room : p.workers.length < bound) :
    Capped bound (p.started phase) := by
  refine ⟨h.core, h.most, ?_⟩
  change (p.workers ++ [_]).length ≤ bound
  rw [List.length_append]
  exact room

theorem executes {r : Except (RejectedJob J) Unit} (positive : 0 < bound) (h : Capped bound p)
    (step : Executes job p r q) : Capped bound q := by
  cases step with
  | started _ _ below =>
      have room : p.workers.length < bound := by
        rcases below with core | ⟨-, -, -, most⟩
        · exact Nat.lt_of_lt_of_le core h.core
        · exact Nat.lt_of_lt_of_le most h.most
      exact (h.started (.assigned job) room).fewer rfl rfl (Nat.le_refl _)
  | queuedFirst _ _ _ _ idle =>
      refine started (p := { p with ready := p.ready ++ [job] }) .checking
        (h.fewer rfl rfl (Nat.le_refl _)) ?_
      change p.workers.length < bound
      rw [idle]
      exact positive
  | handed => exact h.fewer rfl rfl (Nat.le_of_eq (List.length_map _))
  | _ => exact h.fewer rfl rfl (Nat.le_refl _)

theorem acts {number : Nat} {act : WorkerAct} (numbered : Numbered p) (h : Capped bound p)
    (step : Acts number p act q) : Capped bound q := by
  obtain ⟨core, most⟩ := step.sizes
  refine h.fewer core most ?_
  rcases step.headcount numbered with same | ⟨one, -⟩
  · exact Nat.le_of_eq same
  · exact one ▸ Nat.le_succ _

theorem setCoreSize {size : Nat} (h : Capped bound p) (fits : size ≤ bound) :
    Capped bound (p.setCoreSize size) := by
  refine setCoreSize_of size p (fun _ => h) (fun _ => ⟨fits, h.most, h.workers⟩) ?_ ?_
  · intro q h _ _ below
    exact h.started .checking (Nat.lt_of_lt_of_le below h.core)
  · intro q why h _
    exact h.fewer rfl rfl (Nat.le_refl _)

/-- Only a core size that is set beyond the bound breaks it. -/
theorem step {deed : Deed J} (positive : 0 < bound) (numbered : Numbered p) (h : Capped bound p)
    (next : Next p deed q) (fits : ∀ size, deed = .coreSizeSet size → size ≤ bound) :
    Capped bound q := by
  cases next.staffs with
  | execute step => exact h.executes positive step
  | setCoreSize size => exact h.setCoreSize (fits size rfl)
  | act step => exact h.acts numbered step
  | aside same => exact h.fewer same.core same.most (Nat.le_of_eq (congrArg _ same.workers))

end Capped

theorem Runs.capped {deeds : List (Deed J)} (run : Runs p deeds q) (positive : 0 < bound)
    (numbered : Numbered p) (h : Capped bound p)
    (fits : ∀ size, .coreSizeSet size ∈ deeds → size ≤ bound) : Capped bound q := by
  induction run with
  | refl => exact h
  | tail before next ih =>
      have capped := ih fun size mem => fits size (List.mem_append_left _ mem)
      refine capped.step positive (before.numbered numbered) next ?_
      intro size set
      exact fits size (List.mem_append_right _ (List.mem_singleton.mpr set.symm))

/-! ### The bound is reached -/

/-- A running pool whose threads all start, and none of whose workers waits for a job. -/
structure Eager (p : ThreadPool J) : Prop where
  running : p.runState = .running
  isOpen : p.senderOpen = true
  free : p.stopping = none
  sound : ∀ n, p.startFault n = none
  engaged : ∀ w ∈ p.workers, w.phase ≠ .waiting

/-- The places left in the ready queue, and the workers that can still be started. -/
def slack (p : ThreadPool J) : Nat :=
  (p.capacity - p.ready.length) + (max p.coreSize p.maxSize - p.workers.length)

namespace Eager

theorem started (phase : Phase J) (h : Eager p) (new : phase ≠ .waiting) :
    Eager (p.started phase) := by
  refine ⟨h.running, h.isOpen, h.free, h.sound, ?_⟩
  intro w mem
  rcases List.mem_append.mp (show w ∈ p.workers ++ [_] from mem) with old | fresh
  · exact h.engaged w old
  · exact List.mem_singleton.mp fresh ▸ new

theorem none_waits (h : Eager p) : p.firstWaiting? = none := by
  cases found : p.firstWaiting? with
  | none => rfl
  | some w =>
      obtain ⟨mem, waits⟩ := firstWaiting_mem found
      exact absurd waits (h.engaged w mem)

/-- A worker that starts for a job takes up slack. -/
theorem slack_started (h : Eager p) (room : p.workers.length < max p.coreSize p.maxSize) :
    let q := { p.started (.assigned job) with active := p.active + 1 }
    Eager q ∧ q.coreSize = p.coreSize ∧ q.maxSize = p.maxSize ∧ q.slack < p.slack := by
  obtain ⟨running, isOpen, free, sound, engaged⟩ := h.started (.assigned job) nofun
  refine ⟨⟨running, isOpen, free, sound, engaged⟩, rfl, rfl, ?_⟩
  change p.capacity - p.ready.length + (max p.coreSize p.maxSize - (p.workers ++ [_]).length)
    < p.capacity - p.ready.length + (max p.coreSize p.maxSize - p.workers.length)
  rw [List.length_append, List.length_singleton]
  omega

/-- Below the sizes of the pool any job is taken, and takes up slack. -/
theorem accept (job : J) (h : Eager p) (room : p.workers.length < max p.coreSize p.maxSize) :
    ∃ q, Next p (.accepted job) q ∧
      Eager q ∧ q.coreSize = p.coreSize ∧ q.maxSize = p.maxSize ∧ q.slack < p.slack := by
  -- Below the core size the job gets a worker at once, else the ready queue is tried first.
  by_cases below : p.workerCount < p.coreSize
  · have call := (execute_of_below job h.running below).trans (startWith_of_sound job (h.sound _))
    exact ⟨_, .accept job h.free call, h.slack_started room⟩
  obtain ⟨r, q, call⟩ : ∃ r q, p.execute job = (r, q) := ⟨_, _, rfl⟩
  have core : p.coreSize ≤ p.workers.length := Nat.le_of_not_lt below
  have step := executes call
  cases step with
  | refused why refused =>
      rcases refused with halted | closed | ⟨-, most⟩
      · exact absurd h.running halted
      · rw [h.isOpen] at closed
        contradiction
      · exact absurd room (Nat.not_lt.mpr (Nat.max_le.mpr ⟨core, most⟩))
  | unstarted why _ fault | queuedAlone why _ _ _ _ _ fault =>
      rw [h.sound] at fault
      contradiction
  | started => exact ⟨_, .accept job h.free call, h.slack_started room⟩
  | queued _ _ _ place =>
      refine ⟨_, .accept job h.free call, ⟨h.running, h.isOpen, h.free, h.sound, h.engaged⟩,
        rfl, rfl, ?_⟩
      change p.capacity - (p.ready ++ [job]).length + (max p.coreSize p.maxSize - p.workers.length)
        < p.capacity - p.ready.length + (max p.coreSize p.maxSize - p.workers.length)
      rw [List.length_append, List.length_singleton]
      omega
  | queuedFirst _ _ _ place =>
      refine ⟨_, .accept job h.free call, ?_, rfl, rfl, ?_⟩
      · exact started (p := { p with ready := p.ready ++ [job] }) .checking
          ⟨h.running, h.isOpen, h.free, h.sound, h.engaged⟩ nofun
      · change p.capacity - (p.ready ++ [job]).length
            + (max p.coreSize p.maxSize - (p.workers ++ [_]).length)
          < p.capacity - p.ready.length + (max p.coreSize p.maxSize - p.workers.length)
        simp only [List.length_append, List.length_singleton]
        omega
  | handed w _ _ _ _ waits =>
      rw [h.none_waits] at waits
      contradiction

/-- Copies of one job are enough to start all workers that the sizes allow. -/
theorem fill (job : J) (h : Eager p) :
    ∃ deeds q, Runs p deeds q ∧ (∀ deed ∈ deeds, deed = .accepted job) ∧
      max p.coreSize p.maxSize ≤ q.workers.length := by
  induction left : p.slack using Nat.strongRecOn generalizing p with
  | ind slack ih =>
      by_cases room : p.workers.length < max p.coreSize p.maxSize
      · obtain ⟨q, next, eager, core, most, less⟩ := h.accept job room
        obtain ⟨deeds, r, run, all, full⟩ := ih q.slack (left ▸ less) eager rfl
        rw [core, most] at full
        exact ⟨_, r, run.head next, List.forall_mem_cons.mpr ⟨rfl, all⟩, full⟩
      · exact ⟨[], p, .refl, nofun, Nat.le_of_not_lt room⟩

/-- A new core size leaves the pool eager: workers that it starts look at the queue first. -/
theorem setCoreSize (size : Nat) (h : Eager p) :
    Eager (p.setCoreSize size) ∧ (p.setCoreSize size).coreSize = size ∧
      (p.setCoreSize size).maxSize = p.maxSize := by
  refine setCoreSize_of
    (P := fun q => Eager q ∧ q.coreSize = size ∧ q.maxSize = p.maxSize) size p ?_ ?_ ?_ ?_
  · intro same
    exact ⟨h, same, rfl⟩
  · intro _
    exact ⟨⟨h.running, h.isOpen, h.free, h.sound, h.engaged⟩, rfl, rfl⟩
  · rintro q ⟨eager, core, most⟩ _ _ _
    exact ⟨eager.started .checking nofun, core, most⟩
  · rintro q why ⟨eager, -, -⟩ fault
    rw [eager.sound] at fault
    contradiction

end Eager

/-! ### The maximum as a bound -/

section

variable (coreSize maxSize : Nat) (keepAlive : Duration) (capacity : Nat) (name : String) (cap : Nat)

/-- The workers that a pool can be brought to while its core size is set to at most `cap`. -/
theorem most_workers_reached (job : J) :
    ∃ deeds q, Runs (opened coreSize maxSize keepAlive capacity name fun _ => none) deeds q ∧
      (∀ size, (.coreSizeSet size : Deed J) ∈ deeds → size ≤ cap) ∧
      max (max maxSize 1) (max coreSize cap) ≤ q.workers.length := by
  have new : Eager (opened (J := J) coreSize maxSize keepAlive capacity name fun _ => none) :=
    ⟨rfl, rfl, rfl, fun _ => rfl, nofun⟩
  rcases Nat.le_total cap coreSize with less | more
  · obtain ⟨deeds, q, run, all, full⟩ := new.fill job
    refine ⟨deeds, q, run, ?_, ?_⟩
    · intro size mem
      exact absurd (all _ mem) nofun
    · rw [Nat.max_eq_left less, Nat.max_comm]
      exact full
  · obtain ⟨eager, core, most⟩ := new.setCoreSize cap
    obtain ⟨deeds, q, run, all, full⟩ := eager.fill job
    refine ⟨_, q, run.head (.setCoreSize cap rfl), ?_, ?_⟩
    · intro size mem
      rcases List.mem_cons.mp mem with set | later
      · exact Nat.le_of_eq (Deed.coreSizeSet.inj set)
      · exact absurd (all _ later) nofun
    · rw [core, most] at full
      rw [Nat.max_eq_right more, Nat.max_comm]
      exact full

/-- The least bound on the workers in all runs in which the core size is set to at most `cap`. -/
theorem most_workers_iff (job : J) (bound : Nat) :
    (∀ startFault deeds p, Runs (opened (J := J) coreSize maxSize keepAlive capacity name startFault)
        deeds p → (∀ size, .coreSizeSet size ∈ deeds → size ≤ cap) → p.workers.length ≤ bound) ↔
      max (max maxSize 1) (max coreSize cap) ≤ bound := by
  constructor
  · intro all
    obtain ⟨deeds, q, run, sizes, full⟩ :=
      most_workers_reached coreSize maxSize keepAlive capacity name cap job
    exact Nat.le_trans full (all _ deeds q run sizes)
  · intro least startFault deeds p run sizes
    obtain ⟨most, rest⟩ := Nat.max_le.mp least
    obtain ⟨core, cap⟩ := Nat.max_le.mp rest
    have positive : 0 < bound :=
      Nat.lt_of_lt_of_le Nat.one_pos (Nat.le_trans (Nat.le_max_right _ _) most)
    refine (run.capped positive (numbered_opened ..) ⟨core, most, Nat.zero_le _⟩ ?_).workers
    intro size set
    exact Nat.le_trans (sizes size set) cap

/-- Whatever threads do, and whichever threads fail to start, a pool has at most as many workers as
its maximum, or one, exactly if no core size exceeds that: neither the one that the pool is made
with nor one that is set in the run. -/
theorem max_bounds_workers_iff (job : J) :
    (∀ startFault deeds p, Runs (opened (J := J) coreSize maxSize keepAlive capacity name startFault)
        deeds p → (∀ size, .coreSizeSet size ∈ deeds → size ≤ cap) →
        p.workers.length ≤ max maxSize 1) ↔
      coreSize ≤ max maxSize 1 ∧ cap ≤ max maxSize 1 := by
  rw [most_workers_iff _ _ _ _ _ _ job]
  constructor
  · intro least
    exact Nat.max_le.mp (Nat.max_le.mp least).2
  · rintro ⟨core, cap⟩
    exact Nat.max_le.mpr ⟨Nat.le_refl _, Nat.max_le.mpr ⟨core, cap⟩⟩

end

/-- A pool of at most one worker has two, because its core size has been raised to two. -/
theorem workers_beyond_max :
    ∃ deeds p, Runs (opened (J := String) 1 1 ⟨60⟩ 1 "pool" fun _ => none) deeds p ∧
      max 1 1 < p.workers.length :=
  ⟨_, _, Runs.refl |>.tail (.accept "a" rfl rfl) |>.tail (.setCoreSize 2 rfl)
    |>.tail (.accept "b" rfl rfl), by decide⟩

end TwoTier.ThreadPool
