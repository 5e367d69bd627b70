import Mathlib.Tactic.Simps.Basic
import TwoTier.Pool.Interleaving

/-!
A thread pool does not look at its jobs.

Jobs are taken, queued, given to workers and handed back, but nothing that a pool does depends on
what they are. So every call and every act of a worker is natural in the jobs: to do it and then to
take each job for another (`ThreadPool.map`) is the same as to do it with the other jobs.
-/

namespace TwoTier

variable {J K : Type} (f : J → K)

def Phase.map : Phase J → Phase K
  | .assigned job => .assigned (f job)
  | .checking => .checking
  | .waiting => .waiting
  | .received job => .received (f job)
  | .running job => .running (f job)
  | .completing job => .completing (f job)
  | .timedOut => .timedOut
  | .disconnected => .disconnected

def Worker.map (w : Worker J) : Worker K := ⟨w.number, w.phase.map f⟩

def RejectedJob.map (r : RejectedJob J) : RejectedJob K := ⟨r.error, f r.job⟩

namespace ThreadPool

/-- The same pool with other jobs. -/
@[simps] def map (p : ThreadPool J) : ThreadPool K where
  name := p.name
  keepAlive := p.keepAlive
  capacity := p.capacity
  maxSize := p.maxSize
  allowCoreTimeout := p.allowCoreTimeout
  runState := p.runState
  senderOpen := p.senderOpen
  ready := p.ready.map f
  workers := p.workers.map (Worker.map f)
  coreSize := p.coreSize
  largestWorkers := p.largestWorkers
  active := p.active
  completed := p.completed
  attempts := p.attempts
  startFault := p.startFault
  stopping := p.stopping.map (List.map f)
  journal := p.journal

variable (p : ThreadPool J) (job : J) (number : Nat)

@[simp] theorem workerCount_map : (p.map f).workerCount = p.workerCount := List.length_map _

@[simp] theorem stats_map : (p.map f).stats = p.stats := by
  simp [stats, map, workerCount]

@[simp] theorem isEmpty_ready_map : (p.map f).ready.isEmpty = p.ready.isEmpty := List.isEmpty_map

@[simp] theorem mayTimeOut_map : (p.map f).mayTimeOut = p.mayTimeOut := by
  unfold mayTimeOut
  rw [workerCount_map, isEmpty_ready_map]
  rfl

@[simp] theorem shortKeepAlive_map : (p.map f).shortKeepAlive = p.shortKeepAlive := rfl

/-! ### Workers -/

theorem isWaiting_map (phase : Phase J) :
    Phase.isWaiting (phase.map f) = Phase.isWaiting phase := by
  cases phase <;> rfl

theorem setPhase_map (phase : Phase J) :
    (p.map f).setPhase number (phase.map f) = (p.setPhase number phase).map f := by
  have workers (w : Worker J) :
      (if (w.map f).number = number then ⟨number, phase.map f⟩ else w.map f)
        = (if w.number = number then ⟨number, phase⟩ else w).map f := by
    have same : (w.map f).number = w.number := rfl
    rw [same]
    split <;> rfl
  simp [setPhase, map, Function.comp_def, workers]

theorem phase?_map : (p.map f).phase? number = (p.phase? number).map (Phase.map f) := by
  have found : (p.map f).workers.find? (·.number = number)
      = (p.workers.find? (·.number = number)).map (Worker.map f) := by
    simp only [map, List.find?_map]
    rfl
  rw [phase?, found, phase?, Option.map_map, Option.map_map]
  rfl

theorem firstWaiting?_map : (p.map f).firstWaiting? = p.firstWaiting?.map (Worker.map f) := by
  simp [firstWaiting?, map, List.find?_map, Function.comp_def, Worker.map, isWaiting_map]

theorem startWorker_map (phase : Phase J) : (p.map f).startWorker (phase.map f)
    = ((p.startWorker phase).1, (p.startWorker phase).2.map f) := by
  unfold startWorker
  cases fault : p.startFault (p.attempts + 1) with
  | some why => simp [map, fault, workerCount]
  | none => simp [map, fault, workerCount, record, Worker.map]

theorem startWith_map : (p.map f).startWith (f job)
    = ((p.startWith job).1.mapError (RejectedJob.map f), (p.startWith job).2.map f) := by
  have started := startWorker_map f p (.assigned job)
  unfold startWith
  rw [show (Phase.assigned (f job)) = (Phase.assigned job).map f from rfl, started]
  rcases p.startWorker (.assigned job) with ⟨none | why, q⟩ <;> rfl

/-- The workers that are left when one leaves. -/
theorem others_map : (p.map f).workers.filter (·.number ≠ number)
    = (p.workers.filter (·.number ≠ number)).map (Worker.map f) := by
  simp only [map, List.filter_map]
  rfl

/-! ### Calls -/

theorem enqueue?_map : (p.map f).enqueue? (f job) = (p.enqueue? job).map (map f) := by
  unfold enqueue?
  rw [map_capacity, firstWaiting?_map]
  split
  · rw [Option.map_map, Option.map_map]
    exact Option.map_congr fun w _ => setPhase_map f p w.number (.received job)
  · rw [map_ready, List.length_map]
    split
    · simp [map]
    · rfl

theorem ensureWorker_map : (p.map f).ensureWorker = p.ensureWorker.map f := by
  have started := startWorker_map f p .checking
  unfold ensureWorker
  rw [workerCount_map]
  split
  · rw [show (Phase.checking : Phase K) = Phase.checking.map f from rfl, started]
    rcases p.startWorker .checking with ⟨none | why, q⟩ <;> rfl
  · rfl

theorem execute_map : (p.map f).execute (f job)
    = ((p.execute job).1.mapError (RejectedJob.map f), (p.execute job).2.map f) := by
  unfold execute
  rw [workerCount_map, startWith_map, enqueue?_map, map_runState, map_coreSize, map_senderOpen,
    map_maxSize]
  split
  · rfl
  split
  · rfl
  split
  · rfl
  cases p.enqueue? job with
  | none =>
      simp only [Option.map_none]
      split <;> rfl
  | some q => exact congrArg (Prod.mk (Except.ok ())) (ensureWorker_map f q)

theorem grow_map (pending : Nat) : grow pending (p.map f) = (grow pending p).map f := by
  induction pending generalizing p with
  | zero => rfl
  | succ pending ih =>
      have started := startWorker_map f p .checking
      unfold grow
      rw [workerCount_map, map_coreSize]
      split
      · rw [show (Phase.checking : Phase K) = Phase.checking.map f from rfl, started]
        rcases p.startWorker .checking with ⟨none | why, q⟩
        · exact ih q
        · rfl
      · rfl

theorem setCoreSize_map (n : Nat) : (p.map f).setCoreSize n = (p.setCoreSize n).map f := by
  unfold setCoreSize
  simp only [map_coreSize]
  split
  · rfl
  · have changed : record (.coreSizeChanged p.coreSize n) { p.map f with coreSize := n }
        = (record (.coreSizeChanged p.coreSize n) { p with coreSize := n }).map f := rfl
    rw [changed]
    generalize record (.coreSizeChanged p.coreSize n) { p with coreSize := n } = q
    rw [map_runState, map_ready, List.length_map]
    split
    · exact grow_map f q _
    · rfl

theorem tryTerminate_map : (p.map f).tryTerminate = p.tryTerminate.map f := by
  have empty : ((p.map f).runState = .shutdown ∨ (p.map f).runState = .stopped)
        ∧ (p.map f).workers.isEmpty ∧ (p.map f).ready.isEmpty
      ↔ (p.runState = .shutdown ∨ p.runState = .stopped) ∧ p.workers.isEmpty ∧ p.ready.isEmpty := by
    simp
  unfold tryTerminate
  simp only [empty]
  split <;> rfl

theorem shutdown_map : (p.map f).shutdown = p.shutdown.map f := by
  unfold shutdown
  rw [map_runState, workerCount_map]
  split
  · exact tryTerminate_map f { p with
      runState := .shutdown
      journal := .shuttingDown p.workerCount :: p.journal
      senderOpen := false }
  · exact tryTerminate_map f { p with senderOpen := false }

theorem beginStop_map : (p.map f).beginStop = p.beginStop.map f := by
  unfold beginStop
  rw [map_runState, workerCount_map]
  split <;> rfl

theorem drainOne_map : (p.map f).drainOne = p.drainOne.map f := by
  unfold drainOne
  rw [map_stopping, map_ready]
  cases p.stopping with
  | none => rfl
  | some drained =>
      cases p.ready with
      | nil => rfl
      | cons job rest => simp [map]

theorem endStop_map : (p.map f).endStop = (p.endStop.1.map f, p.endStop.2.map f) := by
  unfold endStop
  rw [map_stopping, ← tryTerminate_map]
  cases p.stopping <;> rfl

theorem drain_map (count : Nat) : drain count (p.map f) = (drain count p).map f := by
  induction count generalizing p with
  | zero => rfl
  | succ count ih => rw [drain, drainOne_map, ih, drain]

theorem shutdownNow_map :
    (p.map f).shutdownNow = (p.shutdownNow.1.map f, p.shutdownNow.2.map f) := by
  have length : (p.beginStop.map f).ready.length = p.beginStop.ready.length := List.length_map _
  unfold shutdownNow
  simp only [beginStop_map, length, drain_map, endStop_map]

/-! ### Acts of workers -/

theorem retire_map : (p.map f).retire number = (p.retire number).map f := by
  unfold retire
  rw [others_map]
  exact tryTerminate_map f { p with workers := p.workers.filter (·.number ≠ number) }

theorem beginWaiting_map : (p.map f).beginWaiting number = (p.beginWaiting number).map f := by
  unfold beginWaiting
  rw [others_map]
  simp [map, Worker.map, Phase.map]

theorem act?_map (act : WorkerAct) :
    (p.map f).act? number act = (p.act? number act).map (map f) := by
  have stopping : (p.map f).stopping.isSome = p.stopping.isSome := Option.isSome_map
  unfold act?
  rw [phase?_map, stopping, map_senderOpen, isEmpty_ready_map, mayTimeOut_map, map_runState]
  rcases p.phase? number with _ | phase
  · cases act <;> rfl
  cases act with
  | begin =>
      cases phase with
      | assigned job => exact congrArg some (setPhase_map f p number (.running job))
      | _ => rfl
  | check =>
      cases phase with
      | checking =>
          simp only [Option.map_some, Phase.map, retire_map, beginWaiting_map]
          split
          · rfl
          split <;> rfl
      | _ => rfl
  | receive =>
      cases phase with
      | waiting =>
          simp only [Option.map_some, Phase.map, map_ready]
          cases p.ready with
          | nil => rfl
          | cons job rest =>
              exact congrArg some (setPhase_map f { p with ready := rest } number (.received job))
      | _ => rfl
  | count =>
      cases phase with
      | received job =>
          exact congrArg some
            (setPhase_map f { p with active := p.active + 1 } number (.running job))
      | _ => rfl
  | endRun =>
      cases phase with
      | running job =>
          exact congrArg some (setPhase_map f
            { p with active := p.active - 1, completed := p.completed + 1 } number
            (.completing job))
      | _ => rfl
  | endCompletion =>
      cases phase with
      | completing job => exact congrArg some (setPhase_map f p number .checking)
      | _ => rfl
  | timeOut =>
      cases phase with
      | waiting =>
          simp only [Option.map_some, Phase.map]
          split
          · exact congrArg some (setPhase_map f p number .timedOut)
          · rfl
      | _ => rfl
  | decide =>
      cases phase with
      | timedOut =>
          simp only [Option.map_some, Phase.map, retire_map]
          split
          · rfl
          split
          · rfl
          · exact congrArg some (setPhase_map f p number .checking)
      | _ => rfl
  | notice =>
      cases phase with
      | waiting =>
          simp only [Option.map_some, Phase.map]
          split
          · exact congrArg some (setPhase_map f p number .disconnected)
          · rfl
      | _ => rfl
  | leave =>
      cases phase with
      | disconnected =>
          simp only [Option.map_some, Phase.map, retire_map]
          split <;> rfl
      | _ => rfl

theorem idleAct?_map (w : Worker J) : (p.map f).idleAct? (w.map f) = p.idleAct? w := by
  obtain ⟨number, phase⟩ := w
  cases phase with
  | waiting =>
      unfold idleAct?
      simp only [Worker.map, Phase.map]
      rw [isEmpty_ready_map, map_senderOpen, shortKeepAlive_map, mayTimeOut_map]
  | _ => rfl

end ThreadPool

end TwoTier
