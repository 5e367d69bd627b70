import Mathlib.Data.List.Nodup
import Mathlib.Data.List.Perm.Subperm
import TwoTier.Pool.Interleaving

/-!
What one step of a thread pool can do.

`executes` and `acts` list, call by call and act by act, everything that a step can change, guards
included, and `grow_of` says what is kept while workers are started for queued jobs. Workers have
different numbers (`Numbered`), so an act changes the phase of one worker and of no other (`Seat`).
What a worker can do at all is `goes_on`.
-/

namespace TwoTier

variable {J : Type}

namespace Phase

/-- The job that a worker holds. -/
def job? : Phase J → Option J
  | .assigned job | .received job | .running job | .completing job => some job
  | .checking | .waiting | .timedOut | .disconnected => none

/-- Whether a worker counts as active. -/
def active : Phase J → Bool
  | .assigned _ | .running _ => true
  | _ => false

/-- Whether a worker's job has run and is being completed. -/
def finishing : Phase J → Bool
  | .completing _ => true
  | _ => false

end Phase

namespace ThreadPool

/-! ### Termination -/

section Terminate

variable (p : ThreadPool J)

@[simp] theorem tryTerminate_ready : p.tryTerminate.ready = p.ready := by
  unfold tryTerminate; split <;> rfl

@[simp] theorem tryTerminate_workers : p.tryTerminate.workers = p.workers := by
  unfold tryTerminate; split <;> rfl

@[simp] theorem tryTerminate_active : p.tryTerminate.active = p.active := by
  unfold tryTerminate; split <;> rfl

@[simp] theorem tryTerminate_completed : p.tryTerminate.completed = p.completed := by
  unfold tryTerminate; split <;> rfl

@[simp] theorem tryTerminate_attempts : p.tryTerminate.attempts = p.attempts := by
  unfold tryTerminate; split <;> rfl

@[simp] theorem tryTerminate_stopping : p.tryTerminate.stopping = p.stopping := by
  unfold tryTerminate; split <;> rfl

@[simp] theorem tryTerminate_senderOpen : p.tryTerminate.senderOpen = p.senderOpen := by
  unfold tryTerminate; split <;> rfl

@[simp] theorem tryTerminate_largestWorkers : p.tryTerminate.largestWorkers = p.largestWorkers := by
  unfold tryTerminate; split <;> rfl

@[simp] theorem tryTerminate_coreSize : p.tryTerminate.coreSize = p.coreSize := by
  unfold tryTerminate; split <;> rfl

@[simp] theorem tryTerminate_maxSize : p.tryTerminate.maxSize = p.maxSize := by
  unfold tryTerminate; split <;> rfl

@[simp] theorem tryTerminate_allowCoreTimeout :
    p.tryTerminate.allowCoreTimeout = p.allowCoreTimeout := by
  unfold tryTerminate; split <;> rfl

/-- A pool terminates when it is shut down and has neither workers nor queued jobs; else nothing
happens. -/
theorem tryTerminate_cases :
    (p.tryTerminate = record .terminated { p with runState := .terminated } ∧
      p.workers = [] ∧ p.ready = [] ∧ (p.runState = .shutdown ∨ p.runState = .stopped)) ∨
    (p.tryTerminate = p ∧
      ¬ ((p.runState = .shutdown ∨ p.runState = .stopped) ∧ p.workers = [] ∧ p.ready = [])) := by
  unfold tryTerminate
  split
  · rename_i done
    simp only [List.isEmpty_iff] at done
    exact .inl ⟨rfl, done.2.1, done.2.2, done.1⟩
  · rename_i going
    simp only [List.isEmpty_iff] at going
    exact .inr ⟨rfl, going⟩

theorem rank_tryTerminate : p.runState.rank ≤ p.tryTerminate.runState.rank := by
  rcases p.tryTerminate_cases with ⟨same, -, -, closed⟩ | ⟨same, -⟩
  · rw [same]
    change p.runState.rank ≤ RunState.terminated.rank
    rcases closed with closed | closed <;> rw [closed] <;> decide
  · exact same.symm ▸ Nat.le_refl _

end Terminate

/-! ### Starting workers -/

/-- The pool after an attempt to start a thread, whatever came of it. -/
def attempted (p : ThreadPool J) : ThreadPool J :=
  { p with attempts := p.attempts + 1
           largestWorkers := max p.largestWorkers (p.workerCount + 1) }

/-- The pool after a thread has started. -/
def started (phase : Phase J) (p : ThreadPool J) : ThreadPool J :=
  record (.workerStarted (p.attempts + 1) (p.workerCount + 1))
    { p.attempted with workers := p.workers ++ [⟨p.attempts + 1, phase⟩] }

theorem startWorker_cases (phase : Phase J) (p : ThreadPool J) :
    (∃ why, p.startFault (p.attempts + 1) = some why ∧
      p.startWorker phase = (some why, p.attempted)) ∨
    (p.startFault (p.attempts + 1) = none ∧ p.startWorker phase = (none, p.started phase)) := by
  unfold startWorker
  cases fault : p.startFault (p.attempts + 1) with
  | some why => exact .inl ⟨why, rfl, by simp [fault, attempted]⟩
  | none => exact .inr ⟨rfl, by simp [fault, attempted, started, record]⟩

/-- Growing ends at the core size and with a thread that does not start. -/
theorem grow_cases (pending : Nat) (p : ThreadPool J) :
    (p.coreSize ≤ p.workerCount ∧ grow (pending + 1) p = p) ∨
    (∃ why, p.workerCount < p.coreSize ∧ p.startFault (p.attempts + 1) = some why ∧
      grow (pending + 1) p = record (.growthFailed why) p.attempted) ∨
    (p.workerCount < p.coreSize ∧ p.startFault (p.attempts + 1) = none ∧
      grow (pending + 1) p = grow pending (p.started .checking)) := by
  by_cases below : p.workerCount < p.coreSize
  · rcases startWorker_cases .checking p with ⟨why, fault, eq⟩ | ⟨none, eq⟩
    · exact .inr (.inl ⟨why, below, fault, by rw [grow, if_pos below, eq]⟩)
    · exact .inr (.inr ⟨below, none, by rw [grow, if_pos below, eq]⟩)
  · exact .inl ⟨Nat.le_of_not_lt below, if_neg below⟩

/-- What holds of a pool also holds after workers were started for queued jobs, if it holds after
each start and after a failure. -/
theorem grow_of {P : ThreadPool J → Prop}
    (start : ∀ p, P p → p.startFault (p.attempts + 1) = none → p.workerCount < p.coreSize →
      P (p.started .checking))
    (fail : ∀ p why, P p → p.startFault (p.attempts + 1) = some why →
      P (record (.growthFailed why) p.attempted))
    (pending : Nat) (p : ThreadPool J) (h : P p) : P (grow pending p) := by
  induction pending generalizing p with
  | zero => exact h
  | succ pending ih =>
      rcases grow_cases pending p with ⟨-, eq⟩ | ⟨why, -, fault, eq⟩ | ⟨below, none, eq⟩ <;> rw [eq]
      · exact h
      · exact fail p why h fault
      · exact ih _ (start p h none below)

/-- Setting the core size changes nothing else but by starting workers. -/
theorem setCoreSize_of {P : ThreadPool J → Prop} (size : Nat) (p : ThreadPool J)
    (same : p.coreSize = size → P p)
    (changed : p.coreSize ≠ size →
      P (record (.coreSizeChanged p.coreSize size) { p with coreSize := size }))
    (start : ∀ q, P q → q.runState = .running → q.startFault (q.attempts + 1) = none →
      q.workerCount < q.coreSize → P (q.started .checking))
    (fail : ∀ q why, P q → q.startFault (q.attempts + 1) = some why →
      P (record (.growthFailed why) q.attempted)) : P (p.setCoreSize size) := by
  unfold setCoreSize
  dsimp only
  split
  · rename_i eq
    exact same eq
  · rename_i differs
    split
    · rename_i more
      refine (grow_of (P := fun q => P q ∧ q.runState = .running) ?_ ?_ _ _
        ⟨changed differs, more.2⟩).1
      · exact fun q h fault below => ⟨start q h.1 h.2 fault below, h.2⟩
      · exact fun q why h fault => ⟨fail q why h.1 fault, h.2⟩
    · exact changed differs

theorem coreSize_setCoreSize (size : Nat) (p : ThreadPool J) :
    (p.setCoreSize size).coreSize = size :=
  setCoreSize_of (P := fun q => q.coreSize = size) size p id (fun _ => rfl)
    (fun _ h _ _ _ => h) (fun _ _ h _ => h)

/-- It changes no reading that looks neither at the core size nor at workers, their counts or the
log. -/
theorem setCoreSize_same {β : Type} {f : ThreadPool J → β}
    (aside : ∀ (p : ThreadPool J) coreSize workers attempts largestWorkers journal,
      f { p with coreSize, workers, attempts, largestWorkers, journal } = f p)
    (size : Nat) (p : ThreadPool J) : f (p.setCoreSize size) = f p := by
  refine setCoreSize_of (P := fun q => f q = f p) size p (fun _ => rfl) ?_ ?_ ?_
  · exact fun _ => aside p _ _ _ _ _
  · exact fun q same _ _ _ => (aside q _ _ _ _ _).trans same
  · exact fun q why same _ => (aside q _ _ _ _ _).trans same

theorem ready_setCoreSize (size : Nat) (p : ThreadPool J) : (p.setCoreSize size).ready = p.ready :=
  setCoreSize_same (f := ready) (fun _ _ _ _ _ _ => rfl) size p

theorem active_setCoreSize (size : Nat) (p : ThreadPool J) :
    (p.setCoreSize size).active = p.active :=
  setCoreSize_same (f := active) (fun _ _ _ _ _ _ => rfl) size p

theorem startFault_setCoreSize (size : Nat) (p : ThreadPool J) :
    (p.setCoreSize size).startFault = p.startFault :=
  setCoreSize_same (f := startFault) (fun _ _ _ _ _ _ => rfl) size p

/-! ### Handing over jobs -/

/-- Whether a queued job would find no room: no place in the ready queue or, without places, no
waiting worker. -/
def Crowded (p : ThreadPool J) : Prop :=
  (p.capacity = 0 ∧ p.firstWaiting? = none) ∨ (0 < p.capacity ∧ p.capacity ≤ p.ready.length)

theorem enqueue?_cases (job : J) (p : ThreadPool J) :
    (∃ w, p.capacity = 0 ∧ p.firstWaiting? = some w ∧
      p.enqueue? job = some (p.setPhase w.number (.received job))) ∨
    (p.ready.length < p.capacity ∧
      p.enqueue? job = some { p with ready := p.ready ++ [job] }) ∨
    (p.Crowded ∧ p.enqueue? job = none) := by
  unfold enqueue? Crowded
  split
  · rename_i bare
    cases waits : p.firstWaiting? with
    | none => exact .inr (.inr ⟨.inl ⟨bare, rfl⟩, rfl⟩)
    | some w => exact .inl ⟨w, bare, rfl, rfl⟩
  · rename_i places
    split
    · rename_i room
      exact .inr (.inl ⟨room, rfl⟩)
    · rename_i full
      exact .inr (.inr ⟨.inr ⟨Nat.pos_of_ne_zero places, Nat.le_of_not_lt full⟩, rfl⟩)

/-- Everything that can come of handing a job to the pool. -/
inductive Executes (job : J) (p : ThreadPool J) :
    Except (RejectedJob J) Unit → ThreadPool J → Prop where
  /-- The pool is shut down, or it has neither room for a job nor for a worker. -/
  | refused (why : Error)
      (h : p.runState ≠ .running ∨ p.senderOpen = false ∨ p.Crowded ∧ p.maxSize ≤ p.workerCount) :
      Executes job p (.error ⟨why, job⟩) p
  /-- The worker for the job does not start. -/
  | unstarted (why : StartFault) (running : p.runState = .running)
      (fault : p.startFault (p.attempts + 1) = some why) :
      Executes job p (.error ⟨.threadSpawn why, job⟩) p.attempted
  /-- A worker starts with the job, within the core size or because there is no room. -/
  | started (running : p.runState = .running) (fault : p.startFault (p.attempts + 1) = none)
      (h : p.workerCount < p.coreSize ∨ p.senderOpen = true ∧ p.Crowded ∧
        p.coreSize ≤ p.workerCount ∧ p.workerCount < p.maxSize) :
      Executes job p (.ok ()) { p.started (.assigned job) with active := p.active + 1 }
  /-- The job waits for a worker. -/
  | queued (running : p.runState = .running) (core : p.coreSize ≤ p.workerCount)
      (isOpen : p.senderOpen = true) (room : p.ready.length < p.capacity)
      (staffed : p.workers ≠ []) : Executes job p (.ok ()) { p with ready := p.ready ++ [job] }
  /-- The job waits for a worker that is started for it. -/
  | queuedFirst (running : p.runState = .running) (core : p.coreSize = 0)
      (isOpen : p.senderOpen = true) (room : p.ready.length < p.capacity) (idle : p.workers = [])
      (fault : p.startFault (p.attempts + 1) = none) :
      Executes job p (.ok ()) (ThreadPool.started .checking { p with ready := p.ready ++ [job] })
  /-- The job waits although no worker is there and none starts. -/
  | queuedAlone (why : StartFault) (running : p.runState = .running) (core : p.coreSize = 0)
      (isOpen : p.senderOpen = true) (room : p.ready.length < p.capacity) (idle : p.workers = [])
      (fault : p.startFault (p.attempts + 1) = some why) :
      Executes job p (.ok ())
        (record (.noWorkerAvailable why) (attempted { p with ready := p.ready ++ [job] }))
  /-- Without places in the ready queue, the job goes to the worker that has waited longest. -/
  | handed (w : Worker J) (running : p.runState = .running) (core : p.coreSize ≤ p.workerCount)
      (isOpen : p.senderOpen = true) (places : p.capacity = 0) (waits : p.firstWaiting? = some w) :
      Executes job p (.ok ()) (p.setPhase w.number (.received job))

theorem startWith_executes {job : J} {p q : ThreadPool J} {r : Except (RejectedJob J) Unit}
    (running : p.runState = .running)
    (h : p.workerCount < p.coreSize ∨ p.senderOpen = true ∧ p.Crowded ∧
        p.coreSize ≤ p.workerCount ∧ p.workerCount < p.maxSize)
    (start : p.startWith job = (r, q)) : Executes job p r q := by
  unfold startWith at start
  rcases startWorker_cases (.assigned job) p with ⟨why, fault, eq⟩ | ⟨fault, eq⟩
  · rw [eq] at start
    obtain ⟨rfl, rfl⟩ := Prod.mk.inj start
    exact .unstarted why running fault
  · rw [eq] at start
    obtain ⟨rfl, rfl⟩ := Prod.mk.inj start
    exact .started running fault h

/-- Below the core size a job gets a worker of its own, whatever room there is in the ready queue. -/
theorem execute_of_below {p : ThreadPool J} (job : J) (running : p.runState = .running)
    (below : p.workerCount < p.coreSize) : p.execute job = p.startWith job := by
  unfold execute
  rw [if_neg (not_not.mpr running), if_pos below]

theorem startWith_of_sound {p : ThreadPool J} (job : J)
    (sound : p.startFault (p.attempts + 1) = none) :
    p.startWith job = (.ok (), { p.started (.assigned job) with active := p.active + 1 }) := by
  unfold startWith
  rcases startWorker_cases (.assigned job) p with ⟨why, fault, -⟩ | ⟨-, eq⟩
  · rw [sound] at fault
    contradiction
  · rw [eq]
    rfl

theorem firstWaiting_mem {p : ThreadPool J} {w : Worker J} (h : p.firstWaiting? = some w) :
    w ∈ p.workers ∧ w.phase = .waiting := by
  refine ⟨List.mem_of_find?_eq_some h, ?_⟩
  have waits := List.find?_some h
  cases phase : w.phase <;> simp [phase, Phase.isWaiting] at waits ⊢

theorem executes {job : J} {p q : ThreadPool J} {r : Except (RejectedJob J) Unit}
    (h : p.execute job = (r, q)) : Executes job p r q := by
  unfold execute at h
  split at h
  · rename_i closed
    obtain ⟨rfl, rfl⟩ := Prod.mk.inj h
    exact .refused _ (.inl closed)
  rename_i running
  have running : p.runState = .running := Decidable.not_not.mp running
  split at h
  · rename_i below
    exact startWith_executes running (.inl below) h
  rename_i core
  have core : p.coreSize ≤ p.workerCount := Nat.le_of_not_lt core
  split at h
  · rename_i closed
    obtain ⟨rfl, rfl⟩ := Prod.mk.inj h
    exact .refused _ (.inr (.inl (by simpa using closed)))
  rename_i isOpen
  have isOpen : p.senderOpen = true := by simpa using isOpen
  rcases p.enqueue?_cases job with ⟨w, places, waits, eq⟩ | ⟨room, eq⟩ | ⟨crowded, eq⟩ <;>
    rw [eq] at h
  · -- the waiting worker is there, so none is started
    have staffed : (p.setPhase w.number (.received job)).workerCount ≠ 0 := by
      have inside := (firstWaiting_mem waits).1
      simp only [workerCount, setPhase, List.length_map]
      exact Nat.ne_of_gt (List.length_pos_of_mem inside)
    simp only [ensureWorker, if_neg staffed] at h
    obtain ⟨rfl, rfl⟩ := Prod.mk.inj h
    exact .handed w running core isOpen places waits
  · by_cases staffed : p.workers = []
    · have idle : ({ p with ready := p.ready ++ [job] } : ThreadPool J).workerCount = 0 := by
        simp [workerCount, staffed]
      have core : p.coreSize = 0 := by
        simp only [workerCount, staffed, List.length_nil] at core
        omega
      simp only [ensureWorker, if_pos idle] at h
      rcases startWorker_cases .checking { p with ready := p.ready ++ [job] } with
        ⟨why, fault, eq⟩ | ⟨fault, eq⟩ <;> rw [eq] at h
      · obtain ⟨rfl, rfl⟩ := Prod.mk.inj h
        exact .queuedAlone why running core isOpen room staffed fault
      · obtain ⟨rfl, rfl⟩ := Prod.mk.inj h
        exact .queuedFirst running core isOpen room staffed fault
    · have some : ({ p with ready := p.ready ++ [job] } : ThreadPool J).workerCount ≠ 0 := by
        simpa [workerCount] using staffed
      simp only [ensureWorker, if_neg some] at h
      obtain ⟨rfl, rfl⟩ := Prod.mk.inj h
      exact .queued running core isOpen room staffed
  · dsimp only at h
    split at h
    · rename_i below
      exact startWith_executes running (.inr ⟨isOpen, crowded, core, below⟩) h
    · rename_i most
      obtain ⟨rfl, rfl⟩ := Prod.mk.inj h
      exact .refused _ (.inr (.inr ⟨crowded, Nat.le_of_not_lt most⟩))

theorem executed (job : J) (p : ThreadPool J) :
    Executes job p (p.execute job).1 (p.execute job).2 :=
  executes rfl

/-- Why a pool gives a job back, with the pool that is left. -/
inductive Refuses (job : J) (p : ThreadPool J) : RejectedJob J → ThreadPool J → Prop where
  | shut (h : p.runState ≠ .running ∨ p.senderOpen = false) :
      Refuses job p ⟨.rejected (.poolShutDown p.name), job⟩ p
  | saturated (crowded : p.Crowded) (most : p.maxSize ≤ p.workerCount) :
      Refuses job p ⟨.rejected (.poolSaturated p.name p.workerCount p.capacity), job⟩ p
  | unstarted (why : StartFault) (fault : p.startFault (p.attempts + 1) = some why) :
      Refuses job p ⟨.threadSpawn why, job⟩ p.attempted

theorem startWith_refuses {job : J} {p q : ThreadPool J} {why : RejectedJob J}
    (start : p.startWith job = (.error why, q)) : Refuses job p why q := by
  unfold startWith at start
  rcases startWorker_cases (.assigned job) p with ⟨fails, fault, eq⟩ | ⟨fault, eq⟩ <;>
    rw [eq] at start
  · obtain ⟨refused, rfl⟩ := Prod.mk.inj start
    obtain rfl := Except.error.inj refused
    exact .unstarted fails fault
  · simp at start

theorem refuses {job : J} {p q : ThreadPool J} {why : RejectedJob J}
    (h : p.execute job = (.error why, q)) : Refuses job p why q := by
  have shut {p : ThreadPool J} (closed : p.runState ≠ .running ∨ p.senderOpen = false)
      (h : p.refuse job = (.error why, q)) : Refuses job p why q := by
    obtain ⟨refused, rfl⟩ := Prod.mk.inj h
    obtain rfl := Except.error.inj refused
    exact .shut closed
  unfold execute at h
  split at h
  · rename_i closed
    exact shut (.inl closed) h
  split at h
  · exact startWith_refuses h
  split at h
  · rename_i closed
    exact shut (.inr (by simpa using closed)) h
  rcases p.enqueue?_cases job with ⟨w, -, -, eq⟩ | ⟨-, eq⟩ | ⟨crowded, eq⟩ <;> rw [eq] at h
  · simp at h
  · simp at h
  · dsimp only at h
    split at h
    · exact startWith_refuses h
    · rename_i most
      obtain ⟨refused, rfl⟩ := Prod.mk.inj h
      obtain rfl := Except.error.inj refused
      exact .saturated crowded (Nat.le_of_not_lt most)

/-! ### Acts of workers -/

/-- Everything that a worker can do. -/
inductive Acts (number : Nat) (p : ThreadPool J) : WorkerAct → ThreadPool J → Prop where
  | begin {job : J} (h : p.phase? number = some (.assigned job)) :
      Acts number p .begin (p.setPhase number (.running job))
  /-- The pool was stopped. -/
  | halt (h : p.phase? number = some .checking) (free : p.stopping = none)
      (stopped : RunState.stopped.rank ≤ p.runState.rank) : Acts number p .check (p.retire number)
  | settle (h : p.phase? number = some .checking) (free : p.stopping = none)
      (going : p.runState.rank < RunState.stopped.rank) :
      Acts number p .check (p.beginWaiting number)
  | receive {job : J} {rest : List J} (h : p.phase? number = some .waiting)
      (ready : p.ready = job :: rest) :
      Acts number p .receive (setPhase number (.received job) { p with ready := rest })
  | count {job : J} (h : p.phase? number = some (.received job)) :
      Acts number p .count (setPhase number (.running job) { p with active := p.active + 1 })
  | endRun {job : J} (h : p.phase? number = some (.running job)) :
      Acts number p .endRun (setPhase number (.completing job)
        { p with active := p.active - 1, completed := p.completed + 1 })
  | endCompletion {job : J} (h : p.phase? number = some (.completing job)) :
      Acts number p .endCompletion (p.setPhase number .checking)
  | timeOut (h : p.phase? number = some .waiting) (empty : p.ready = [])
      (isOpen : p.senderOpen = true) : Acts number p .timeOut (p.setPhase number .timedOut)
  /-- The keep-alive ran out, and the worker may leave. -/
  | expire (h : p.phase? number = some .timedOut) (free : p.stopping = none)
      (may : p.mayTimeOut = true) : Acts number p .decide (p.retire number)
  | stay (h : p.phase? number = some .timedOut) (free : p.stopping = none)
      (must : p.mayTimeOut = false) : Acts number p .decide (p.setPhase number .checking)
  | notice (h : p.phase? number = some .waiting) (empty : p.ready = [])
      (closed : p.senderOpen = false) : Acts number p .notice (p.setPhase number .disconnected)
  | leave (h : p.phase? number = some .disconnected) (free : p.stopping = none) :
      Acts number p .leave (p.retire number)

theorem acts {number : Nat} {act : WorkerAct} {p q : ThreadPool J}
    (h : p.act? number act = some q) : Acts number p act q := by
  unfold act? at h
  split at h
  · rename_i phase
    obtain rfl := Option.some.inj h
    exact .begin phase
  · rename_i phase
    split at h
    · contradiction
    rename_i free
    have free : p.stopping = none := by simpa using free
    split at h
    · rename_i stopped
      obtain rfl := Option.some.inj h
      exact .halt phase free stopped
    · rename_i going
      obtain rfl := Option.some.inj h
      exact .settle phase free (Nat.lt_of_not_le going)
  · rename_i phase
    split at h
    · contradiction
    · rename_i ready
      obtain rfl := Option.some.inj h
      exact .receive phase ready
  · rename_i phase
    obtain rfl := Option.some.inj h
    exact .count phase
  · rename_i phase
    obtain rfl := Option.some.inj h
    exact .endRun phase
  · rename_i phase
    obtain rfl := Option.some.inj h
    exact .endCompletion phase
  · rename_i phase
    obtain ⟨may, h⟩ := Option.ite_none_right_eq_some.mp h
    obtain rfl := Option.some.inj h
    obtain ⟨empty, isOpen⟩ := Bool.and_eq_true_iff.mp may
    exact .timeOut phase (List.isEmpty_iff.mp empty) isOpen
  · rename_i phase
    split at h
    · contradiction
    rename_i free
    have free : p.stopping = none := by simpa using free
    split at h
    · rename_i may
      obtain rfl := Option.some.inj h
      exact .expire phase free may
    · rename_i must
      obtain rfl := Option.some.inj h
      exact .stay phase free (Bool.eq_false_iff.mpr must)
  · rename_i phase
    obtain ⟨may, h⟩ := Option.ite_none_right_eq_some.mp h
    obtain rfl := Option.some.inj h
    obtain ⟨empty, closed⟩ := Bool.and_eq_true_iff.mp may
    exact .notice phase (List.isEmpty_iff.mp empty) (by simpa using closed)
  · rename_i phase
    split at h
    · contradiction
    rename_i free
    obtain rfl := Option.some.inj h
    exact .leave phase (by simpa using free)
  · contradiction

/-- A worker can go on by itself, unless it waits before an empty queue that may still get jobs. -/
theorem goes_on {number : Nat} {phase : Phase J} {p : ThreadPool J}
    (free : p.stopping = none) (found : p.phase? number = some phase)
    (due : phase = .waiting → p.ready ≠ [] ∨ p.senderOpen = false) :
    ∃ act, act ≠ .timeOut ∧ (p.act? number act).isSome := by
  cases phase with
  | assigned job => exact ⟨.begin, nofun, by simp [act?, found]⟩
  | checking =>
      refine ⟨.check, nofun, ?_⟩
      simp only [act?, found, free]
      by_cases stopped : RunState.stopped.rank ≤ p.runState.rank <;> simp [stopped]
  | waiting =>
      cases ready : p.ready with
      | nil =>
          rcases due rfl with jobs | closed
          · exact absurd ready jobs
          · exact ⟨.notice, nofun, by simp [act?, found, ready, closed]⟩
      | cons job rest => exact ⟨.receive, nofun, by simp [act?, found, ready]⟩
  | received job => exact ⟨.count, nofun, by simp [act?, found]⟩
  | running job => exact ⟨.endRun, nofun, by simp [act?, found]⟩
  | completing job => exact ⟨.endCompletion, nofun, by simp [act?, found]⟩
  | timedOut =>
      refine ⟨.decide, nofun, ?_⟩
      simp only [act?, found, free]
      by_cases may : p.mayTimeOut = true <;> simp [may]
  | disconnected => exact ⟨.leave, nofun, by simp [act?, found, free]⟩

/-- A worker that can do nothing but let its keep-alive run out waits before an empty queue. -/
theorem waits_of_stuck {number : Nat} {phase : Phase J} {p : ThreadPool J}
    (free : p.stopping = none) (found : p.phase? number = some phase)
    (stuck : ∀ act, act ≠ .timeOut → p.act? number act = none) :
    phase = .waiting ∧ p.ready = [] := by
  by_contra busy
  obtain ⟨act, other, can⟩ := goes_on free found fun waits => .inl fun empty => busy ⟨waits, empty⟩
  rw [stuck act other] at can
  contradiction

/-! ### One worker among the others -/

/-- One of the workers has this number and is in this phase, and it alone has the number. -/
structure Seat (workers : List (Worker J)) (number : Nat) (phase : Phase J)
    (others : List (Worker J)) : Prop where
  perm : workers.Perm (⟨number, phase⟩ :: others)
  apart : ∀ w ∈ others, w.number ≠ number

namespace Seat

variable {workers others : List (Worker J)} {number : Nat} {phase : Phase J}

/-- Only that worker changes its phase. -/
theorem setPhase (h : Seat workers number phase others) (phase' : Phase J) {p : ThreadPool J}
    (same : p.workers = workers) :
    Seat (p.setPhase number phase').workers number phase' others := by
  refine ⟨?_, h.apart⟩
  have keep : others.map (fun w => if w.number = number then ⟨number, phase'⟩ else w) = others := by
    rw [List.map_congr_left fun w mem => if_neg (h.apart w mem), List.map_id']
  have moved := h.perm.map fun w => if w.number = number then ⟨number, phase'⟩ else w
  rw [List.map_cons, keep, if_pos rfl, ← same] at moved
  exact moved

theorem without (h : Seat workers number phase others) :
    (workers.filter (·.number ≠ number)).Perm others := by
  have keep : others.filter (·.number ≠ number) = others :=
    List.filter_eq_self.mpr fun w mem => by simpa using h.apart w mem
  have left := h.perm.filter (·.number ≠ number)
  rwa [List.filter_cons_of_neg (by simp), keep] at left

theorem retire {p : ThreadPool J} (h : Seat p.workers number phase others) :
    (p.retire number).workers.Perm others := by
  unfold ThreadPool.retire
  rw [tryTerminate_workers]
  exact h.without

theorem beginWaiting {p : ThreadPool J} (h : Seat p.workers number phase others) :
    Seat (p.beginWaiting number).workers number .waiting others :=
  ⟨(h.without.append_right _).trans List.perm_append_comm, h.apart⟩

end Seat

/-- Workers have different numbers, which are numbers of attempts made so far. -/
structure Numbered (p : ThreadPool J) : Prop where
  distinct : (p.workers.map Worker.number).Nodup
  past : ∀ n ∈ p.workers.map Worker.number, n ≤ p.attempts

namespace Numbered

variable {p q : ThreadPool J}

theorem seat {w : Worker J} (h : Numbered p) (mem : w ∈ p.workers) :
    ∃ others, Seat p.workers w.number w.phase others := by
  obtain ⟨before, after, place⟩ := List.append_of_mem mem
  refine ⟨before ++ after, place ▸ List.perm_middle, ?_⟩
  have distinct := h.distinct
  rw [place, List.map_append, List.map_cons, List.nodup_middle, List.nodup_cons] at distinct
  intro u mem same
  apply distinct.1
  rw [← List.map_append, ← same]
  exact List.mem_map_of_mem mem

theorem seat_of_phase? {number : Nat} {phase : Phase J} (h : Numbered p)
    (found : p.phase? number = some phase) : ∃ others, Seat p.workers number phase others := by
  obtain ⟨w, first, rfl⟩ := Option.map_eq_some_iff.mp (show Option.map _ _ = _ from found)
  obtain rfl : w.number = number := by simpa using List.find?_some first
  exact h.seat (List.mem_of_find?_eq_some first)

theorem phase?_eq {w : Worker J} (h : Numbered p) (mem : w ∈ p.workers) :
    p.phase? w.number = some w.phase := by
  unfold phase?
  cases found : p.workers.find? (·.number = w.number) with
  | none => simpa using List.find?_eq_none.mp found w mem
  | some u =>
      have same : u.number = w.number := by simpa using List.find?_some found
      rw [List.inj_on_of_nodup_map h.distinct (List.mem_of_find?_eq_some found) mem same]
      rfl

/-- Workers may leave or change places. -/
theorem of_subperm (h : Numbered p)
    (fewer : (q.workers.map Worker.number).Subperm (p.workers.map Worker.number))
    (attempts : p.attempts ≤ q.attempts) : Numbered q := by
  obtain ⟨numbers, perm, sublist⟩ := fewer
  refine ⟨(perm.nodup_iff).mp (h.distinct.sublist sublist), ?_⟩
  intro n mem
  exact Nat.le_trans (h.past n (sublist.subset (perm.mem_iff.mpr mem))) attempts

theorem of_workers (h : Numbered p) (workers : q.workers = p.workers)
    (attempts : p.attempts ≤ q.attempts) : Numbered q :=
  h.of_subperm (workers ▸ .refl _) attempts

/-- The next attempt has a number of its own. -/
theorem fresh (h : Numbered p) : p.attempts + 1 ∉ p.workers.map Worker.number :=
  fun mem => absurd (h.past _ mem) (Nat.not_succ_le_self _)

theorem started (h : Numbered p) (phase : Phase J) : Numbered (p.started phase) := by
  have numbers : (p.started phase).workers.map Worker.number
      = p.workers.map Worker.number ++ [p.attempts + 1] := List.map_append
  constructor <;> rw [numbers]
  · refine List.nodup_append.mpr ⟨h.distinct, List.nodup_singleton _, ?_⟩
    intro n mem m new same
    rw [same, List.mem_singleton.mp new] at mem
    exact h.fresh mem
  · intro n mem
    rcases List.mem_append.mp mem with mem | mem
    · exact Nat.le_trans (h.past n mem) (Nat.le_succ _)
    · exact Nat.le_of_eq (List.mem_singleton.mp mem)

theorem setPhase (h : Numbered p) (number : Nat) (phase : Phase J) :
    Numbered (p.setPhase number phase) := by
  have numbers : (p.setPhase number phase).workers.map Worker.number
      = p.workers.map Worker.number := by
    unfold ThreadPool.setPhase
    rw [List.map_map]
    apply List.map_congr_left
    intro w _
    by_cases own : w.number = number <;> simp [own]
  exact h.of_subperm (numbers ▸ .refl _) (Nat.le_refl _)

theorem without (h : Numbered p) (number : Nat) :
    Numbered { p with workers := p.workers.filter (·.number ≠ number) } :=
  h.of_subperm (List.filter_sublist.map _).subperm (Nat.le_refl _)

theorem retire (h : Numbered p) (number : Nat) : Numbered (p.retire number) := by
  unfold ThreadPool.retire
  exact (h.without number).of_workers (tryTerminate_workers _)
    (Nat.le_of_eq (tryTerminate_attempts _).symm)

theorem beginWaiting {phase : Phase J} {others : List (Worker J)} {number : Nat} (h : Numbered p)
    (seat : Seat p.workers number phase others) : Numbered (p.beginWaiting number) := by
  refine h.of_subperm (List.Perm.subperm ?_) (Nat.le_refl _)
  exact (seat.beginWaiting.perm.map Worker.number).trans (seat.perm.map Worker.number).symm

theorem executes {job : J} {r : Except (RejectedJob J) Unit} (h : Numbered p)
    (step : Executes job p r q) : Numbered q := by
  cases step with
  | refused => exact h
  | unstarted => exact h.of_workers rfl (Nat.le_succ _)
  | started => exact (h.started (.assigned job)).of_workers rfl (Nat.le_refl _)
  | queued => exact h.of_workers rfl (Nat.le_refl _)
  | queuedFirst =>
      exact started (p := { p with ready := p.ready ++ [job] })
        (h.of_workers rfl (Nat.le_refl _)) .checking
  | queuedAlone => exact h.of_workers rfl (Nat.le_succ _)
  | handed w => exact h.setPhase _ _

theorem acts {number : Nat} {act : WorkerAct} (h : Numbered p) (step : Acts number p act q) :
    Numbered q := by
  cases step with
  | halt | expire | leave => exact h.retire number
  | settle phase =>
      obtain ⟨others, seat⟩ := h.seat_of_phase? phase
      exact h.beginWaiting seat
  | @receive job rest =>
      have same : Numbered { p with ready := rest } := h.of_workers rfl (Nat.le_refl _)
      exact same.setPhase number (.received job)
  | @count job =>
      have same : Numbered { p with active := p.active + 1 } := h.of_workers rfl (Nat.le_refl _)
      exact same.setPhase number (.running job)
  | @endRun job =>
      have same : Numbered { p with active := p.active - 1, completed := p.completed + 1 } :=
        h.of_workers rfl (Nat.le_refl _)
      exact same.setPhase number (.completing job)
  | _ => exact h.setPhase _ _

theorem setCoreSize (h : Numbered p) (size : Nat) : Numbered (p.setCoreSize size) :=
  setCoreSize_of size p (fun _ => h) (fun _ => h.of_workers rfl (Nat.le_refl _))
    (fun _ h _ _ _ => h.started .checking) (fun _ _ h _ => h.of_workers rfl (Nat.le_succ _))

end Numbered

/-- What an act does to its worker and to the ready queue: the worker's phase before it, the phase
after it unless the worker leaves, and the queue before and after it. -/
inductive Turn : WorkerAct → Phase J → List J → List (Phase J) → List J → Prop where
  | begin {job : J} {ready : List J} : Turn .begin (.assigned job) ready [.running job] ready
  | halt {ready : List J} : Turn .check .checking ready [] ready
  | settle {ready : List J} : Turn .check .checking ready [.waiting] ready
  | receive {job : J} {rest : List J} : Turn .receive .waiting (job :: rest) [.received job] rest
  | count {job : J} {ready : List J} : Turn .count (.received job) ready [.running job] ready
  | endRun {job : J} {ready : List J} : Turn .endRun (.running job) ready [.completing job] ready
  | endCompletion {job : J} {ready : List J} :
      Turn .endCompletion (.completing job) ready [.checking] ready
  | timeOut {ready : List J} : Turn .timeOut .waiting ready [.timedOut] ready
  | expire {ready : List J} : Turn .decide .timedOut ready [] ready
  | stay {ready : List J} : Turn .decide .timedOut ready [.checking] ready
  | notice {ready : List J} : Turn .notice .waiting ready [.disconnected] ready
  | leave {ready : List J} : Turn .leave .disconnected ready [] ready

/-- An act is the turn of one worker; the others stay as they are. -/
theorem Acts.turn {number : Nat} {act : WorkerAct} {p q : ThreadPool J} (numbered : Numbered p)
    (step : Acts number p act q) :
    ∃ phase left others, p.phase? number = some phase ∧ Turn act phase p.ready left q.ready ∧
      p.workers.Perm (⟨number, phase⟩ :: others) ∧
      q.workers.Perm (left.map (⟨number, ·⟩) ++ others) := by
  have moved {phase : Phase J} (phase' : Phase J) (found : p.phase? number = some phase)
      (after : ∀ others, Seat p.workers number phase others → Seat q.workers number phase' others)
      (turn : Turn act phase p.ready [phase'] q.ready) :
      ∃ phase left others, p.phase? number = some phase ∧ Turn act phase p.ready left q.ready ∧
        p.workers.Perm (⟨number, phase⟩ :: others) ∧
        q.workers.Perm (left.map (⟨number, ·⟩) ++ others) := by
    obtain ⟨others, seat⟩ := numbered.seat_of_phase? found
    exact ⟨phase, [phase'], others, found, turn, seat.perm, (after others seat).perm⟩
  cases step with
  | begin found => exact moved _ found (fun _ seat => seat.setPhase _ rfl) .begin
  | halt found | expire found | leave found =>
      obtain ⟨others, seat⟩ := numbered.seat_of_phase? found
      refine ⟨_, [], others, found, ?_, seat.perm, seat.retire⟩
      rw [retire, tryTerminate_ready]
      constructor
  | settle found => exact moved _ found (fun _ seat => seat.beginWaiting) .settle
  | receive found ready =>
      refine moved _ found (fun _ seat => seat.setPhase _ rfl) ?_
      rw [ready]
      exact .receive
  | count found => exact moved _ found (fun _ seat => seat.setPhase _ rfl) .count
  | endRun found => exact moved _ found (fun _ seat => seat.setPhase _ rfl) .endRun
  | endCompletion found => exact moved _ found (fun _ seat => seat.setPhase _ rfl) .endCompletion
  | timeOut found => exact moved _ found (fun _ seat => seat.setPhase _ rfl) .timeOut
  | stay found => exact moved _ found (fun _ seat => seat.setPhase _ rfl) .stay
  | notice found => exact moved _ found (fun _ seat => seat.setPhase _ rfl) .notice

/-! ### The run state -/

theorem Executes.runState {job : J} {p q : ThreadPool J} {r : Except (RejectedJob J) Unit}
    (step : Executes job p r q) : q.runState = p.runState := by
  cases step <;> rfl

theorem Executes.startFault {job : J} {p q : ThreadPool J} {r : Except (RejectedJob J) Unit}
    (step : Executes job p r q) : q.startFault = p.startFault := by
  cases step <;> rfl

theorem runState_setCoreSize (size : Nat) (p : ThreadPool J) :
    (p.setCoreSize size).runState = p.runState :=
  setCoreSize_same (f := runState) (fun _ _ _ _ _ _ => rfl) size p

theorem rank_retire_le (number : Nat) (p : ThreadPool J) :
    p.runState.rank ≤ (p.retire number).runState.rank :=
  rank_tryTerminate { p with workers := p.workers.filter (·.number ≠ number) }

theorem Acts.rank_le {number : Nat} {act : WorkerAct} {p q : ThreadPool J}
    (step : Acts number p act q) : p.runState.rank ≤ q.runState.rank := by
  cases step with
  | halt | expire | leave => exact rank_retire_le number p
  | _ => exact Nat.le_refl _

theorem rank_shutdown_le (p : ThreadPool J) : p.runState.rank ≤ p.shutdown.runState.rank := by
  unfold shutdown
  by_cases running : p.runState = .running
  · rw [running]
    exact Nat.zero_le _
  · rw [if_neg running]
    exact rank_tryTerminate { p with senderOpen := false }

theorem rank_beginStop_le (p : ThreadPool J) : p.runState.rank ≤ p.beginStop.runState.rank := by
  unfold beginStop
  by_cases going : p.runState.rank < RunState.stopped.rank
  · exact (if_pos going).symm ▸ Nat.le_of_lt going
  · exact (if_neg going).symm ▸ Nat.le_refl _

theorem runState_drainOne (p : ThreadPool J) : p.drainOne.runState = p.runState := by
  unfold drainOne
  split <;> rfl

/-! ### What a shutdown and a stop leave alone -/

theorem drain_same {β : Type} {read : ThreadPool J → β} (one : ∀ p, read p.drainOne = read p)
    (count : Nat) (p : ThreadPool J) : read (drain count p) = read p := by
  induction count generalizing p with
  | zero => rfl
  | succ count ih => exact (ih p.drainOne).trans (one p)

/-- A reading that looks at nothing which a shutdown or a stop sets. -/
def Aloof {β : Type} (read : ThreadPool J → β) : Prop :=
  ∀ (p : ThreadPool J) runState senderOpen ready stopping journal,
    read { p with runState, senderOpen, ready, stopping, journal } = read p

namespace Aloof

variable {β : Type} {read : ThreadPool J → β}

theorem tryTerminate (aloof : Aloof read) (p : ThreadPool J) : read p.tryTerminate = read p := by
  unfold ThreadPool.tryTerminate
  split
  · exact aloof p _ _ _ _ _
  · rfl

theorem shutdown (aloof : Aloof read) (p : ThreadPool J) : read p.shutdown = read p := by
  refine (aloof.tryTerminate _).trans ?_
  split <;> exact aloof p _ _ _ _ _

theorem beginStop (aloof : Aloof read) (p : ThreadPool J) : read p.beginStop = read p := by
  unfold ThreadPool.beginStop
  split <;> exact aloof p _ _ _ _ _

theorem drainOne (aloof : Aloof read) (p : ThreadPool J) : read p.drainOne = read p := by
  unfold ThreadPool.drainOne
  split
  · exact aloof p _ _ _ _ _
  · rfl

theorem shutdownNow (aloof : Aloof read) (p : ThreadPool J) :
    read p.shutdownNow.2 = read p := by
  refine (aloof.tryTerminate _).trans ((aloof _ _ _ _ none _).trans ?_)
  exact (drain_same aloof.drainOne _ p.beginStop).trans (aloof.beginStop p)

end Aloof

theorem aloof_workers : Aloof (J := J) workers := fun _ _ _ _ _ _ => rfl

theorem aloof_attempts : Aloof (J := J) attempts := fun _ _ _ _ _ _ => rfl

theorem aloof_coreSize : Aloof (J := J) coreSize := fun _ _ _ _ _ _ => rfl

/-! ### No stop begins otherwise -/

theorem Executes.stopping {job : J} {p q : ThreadPool J} {r : Except (RejectedJob J) Unit}
    (step : Executes job p r q) : q.stopping = p.stopping := by
  cases step <;> rfl

theorem Acts.stopping {number : Nat} {act : WorkerAct} {p q : ThreadPool J}
    (step : Acts number p act q) : q.stopping = p.stopping := by
  cases step with
  | halt | expire | leave =>
      unfold retire
      rw [tryTerminate_stopping]
  | _ => rfl

theorem stopping_setCoreSize (size : Nat) (p : ThreadPool J) :
    (p.setCoreSize size).stopping = p.stopping :=
  setCoreSize_same (f := stopping) (fun _ _ _ _ _ _ => rfl) size p

theorem stopping_shutdown (p : ThreadPool J) : p.shutdown.stopping = p.stopping := by
  unfold shutdown
  rw [tryTerminate_stopping]
  split <;> rfl

/-! ### The run state in runs -/

/-- No step takes the run state back. -/
theorem Next.rank_le {deed : Deed J} {p q : ThreadPool J} (step : Next p deed q) :
    p.runState.rank ≤ q.runState.rank := by
  cases step with
  | accept job free call => exact Nat.le_of_eq (congrArg _ (executes call).runState.symm)
  | refuse job why free call => exact Nat.le_of_eq (congrArg _ (executes call).runState.symm)
  | setCoreSize size => exact Nat.le_of_eq (congrArg _ (runState_setCoreSize size p).symm)
  | setCoreTimeout => exact Nat.le_refl _
  | shutdown => exact rank_shutdown_le p
  | beginStop => exact rank_beginStop_le p
  | drain => exact Nat.le_of_eq (congrArg _ p.runState_drainOne.symm)
  | endStop held empty told =>
      obtain ⟨-, rfl⟩ := Prod.mk.inj told
      exact rank_tryTerminate { p with stopping := none }
  | finish number found act => exact (acts act).rank_le
  | work number act other did => exact (acts did).rank_le

theorem Runs.rank_le {deeds : List (Deed J)} {p q : ThreadPool J} (run : Runs p deeds q) :
    p.runState.rank ≤ q.runState.rank := by
  induction run with
  | refl => exact Nat.le_refl _
  | tail _ step ih => exact Nat.le_trans ih step.rank_le

/-! ### Workers and sizes in runs -/

theorem numbered_opened (coreSize maxSize : Nat) (keepAlive : Duration) (capacity : Nat)
    (name : String) (startFault : Nat → Option StartFault) :
    Numbered (opened (J := J) coreSize maxSize keepAlive capacity name startFault) :=
  ⟨List.nodup_nil, fun _ mem => nomatch mem⟩

/-- Pools with the same workers, the same counts of workers, and the same sizes. -/
structure SameCrew (p q : ThreadPool J) : Prop where
  workers : q.workers = p.workers
  attempts : q.attempts = p.attempts
  largest : q.largestWorkers = p.largestWorkers
  core : q.coreSize = p.coreSize
  most : q.maxSize = p.maxSize

theorem SameCrew.tryTerminate {p q : ThreadPool J} (h : SameCrew p q) :
    SameCrew p q.tryTerminate :=
  ⟨q.tryTerminate_workers.trans h.workers, q.tryTerminate_attempts.trans h.attempts,
    q.tryTerminate_largestWorkers.trans h.largest, q.tryTerminate_coreSize.trans h.core,
    q.tryTerminate_maxSize.trans h.most⟩

/-- What a step does to the workers and sizes of a pool. -/
inductive Staffs (p : ThreadPool J) : Deed J → ThreadPool J → Prop where
  | execute {deed : Deed J} {job : J} {r : Except (RejectedJob J) Unit} {q : ThreadPool J}
      (step : Executes job p r q) : Staffs p deed q
  | setCoreSize (size : Nat) : Staffs p (.coreSizeSet size) (p.setCoreSize size)
  | act {deed : Deed J} {number : Nat} {act : WorkerAct} {q : ThreadPool J}
      (step : Acts number p act q) : Staffs p deed q
  | aside {deed : Deed J} {q : ThreadPool J} (same : SameCrew p q) : Staffs p deed q

/-- Workers start for jobs and for a core size, and go on by themselves. Shutting the pool down and
stopping it leaves them alone. -/
theorem Next.staffs {deed : Deed J} {p q : ThreadPool J} (next : Next p deed q) :
    Staffs p deed q := by
  cases next with
  | accept job free call | refuse job why free call => exact .execute (executes call)
  | setCoreSize size => exact .setCoreSize size
  | setCoreTimeout => exact .aside ⟨rfl, rfl, rfl, rfl, rfl⟩
  | shutdown =>
      unfold ThreadPool.shutdown
      split <;> exact .aside (SameCrew.tryTerminate ⟨rfl, rfl, rfl, rfl, rfl⟩)
  | beginStop =>
      unfold ThreadPool.beginStop
      split <;> exact .aside ⟨rfl, rfl, rfl, rfl, rfl⟩
  | drain held ready =>
      unfold drainOne
      rw [held, ready]
      exact .aside ⟨rfl, rfl, rfl, rfl, rfl⟩
  | endStop held empty done =>
      obtain ⟨-, rfl⟩ := Prod.mk.inj done
      exact .aside (SameCrew.tryTerminate ⟨rfl, rfl, rfl, rfl, rfl⟩)
  | finish number busy done => exact .act (acts done)
  | work number act other done => exact .act (acts done)

theorem Numbered.step {deed : Deed J} {p q : ThreadPool J} (h : Numbered p)
    (next : Next p deed q) : Numbered q := by
  cases next.staffs with
  | execute step => exact h.executes step
  | setCoreSize size => exact h.setCoreSize size
  | act step => exact h.acts step
  | aside same => exact h.of_workers same.workers (Nat.le_of_eq same.attempts.symm)

theorem Runs.numbered {deeds : List (Deed J)} {p q : ThreadPool J} (h : Numbered p)
    (run : Runs p deeds q) : Numbered q := by
  induction run with
  | refl => exact h
  | tail _ next ih => exact ih.step next

theorem length_retire {number : Nat} {phase : Phase J} {p : ThreadPool J} (numbered : Numbered p)
    (found : p.phase? number = some phase) :
    (p.retire number).workers.length + 1 = p.workers.length := by
  obtain ⟨others, seat⟩ := numbered.seat_of_phase? found
  rw [seat.retire.length_eq, seat.perm.length_eq, List.length_cons]

/-- A worker leaves after a stop, after its keep-alive if it may, or when the ready queue is closed;
otherwise none leaves, and none comes. -/
theorem Acts.headcount {number : Nat} {act : WorkerAct} {p q : ThreadPool J}
    (numbered : Numbered p) (step : Acts number p act q) :
    q.workers.length = p.workers.length ∨ q.workers.length + 1 = p.workers.length ∧
      (RunState.stopped.rank ≤ p.runState.rank ∨ p.mayTimeOut = true ∨
        p.phase? number = some .disconnected) := by
  cases step with
  | halt found _ stopped => exact .inr ⟨length_retire numbered found, .inl stopped⟩
  | expire found _ may => exact .inr ⟨length_retire numbered found, .inr (.inl may)⟩
  | leave found => exact .inr ⟨length_retire numbered found, .inr (.inr found)⟩
  | settle found =>
      obtain ⟨others, seat⟩ := numbered.seat_of_phase? found
      exact .inl (seat.beginWaiting.perm.length_eq.trans seat.perm.length_eq.symm)
  | _ => exact .inl (List.length_map _)

/-- Handing over a job leaves the sizes alone and takes no worker away. -/
theorem Executes.grows {job : J} {r : Except (RejectedJob J) Unit} {p q : ThreadPool J}
    (step : Executes job p r q) :
    q.coreSize = p.coreSize ∧ q.maxSize = p.maxSize ∧ p.workers.length ≤ q.workers.length := by
  cases step with
  | started | queuedFirst =>
      refine ⟨rfl, rfl, ?_⟩
      change p.workers.length ≤ (p.workers ++ [_]).length
      exact List.length_append ▸ Nat.le_succ _
  | handed => exact ⟨rfl, rfl, Nat.le_of_eq (List.length_map _).symm⟩
  | _ => exact ⟨rfl, rfl, Nat.le_refl _⟩

/-- Workers have no say in the sizes of the pool. -/
theorem Acts.sizes {number : Nat} {act : WorkerAct} {p q : ThreadPool J}
    (step : Acts number p act q) : q.coreSize = p.coreSize ∧ q.maxSize = p.maxSize := by
  cases step with
  | halt | expire | leave => exact ⟨tryTerminate_coreSize _, tryTerminate_maxSize _⟩
  | _ => exact ⟨rfl, rfl⟩

end ThreadPool

end TwoTier
