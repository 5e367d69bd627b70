import TwoTier.Proofs.Attendance
import TwoTier.Proofs.Bands

/-!
The order of jobs in a pool with one core worker.

While a pool keeps one worker and never more (`Steady`, and a largest number of workers of at most
one), the jobs that it has taken and that have not begun stand in one line: the job that the worker
has in hand, and then the ready queue. A job that is handed to the pool goes to the back of the line
(`Steady.line_executes`), and a worker begins with its front (`Steady.line_acts`).

A second worker starts only for a job that finds the ready queue full (`Steady.second_worker`).
-/

namespace TwoTier

variable {J : Type}

namespace Phase

/-- The job that a worker has in hand and has not begun. -/
def pending? : Phase J → Option J
  | .assigned job | .received job => some job
  | _ => none

end Phase

namespace ThreadPool

/-- The jobs that have not begun: those in the hands of workers, and then the ready queue. -/
def line (p : ThreadPool J) : List J := p.workers.filterMap (·.phase.pending?) ++ p.ready

/-- A running pool with one core worker and places in its ready queue, all of whose threads start
and which may have more workers. -/
structure Steady (capacity : Nat) (p : ThreadPool J) : Prop where
  attended : Attended p
  served : stranded p.journal = false
  running : p.runState = .running
  sound : ∀ n, p.startFault n = none
  core : p.coreSize = 1
  most : 1 < p.maxSize
  bound : p.capacity = capacity
  places : 0 < capacity
  room : p.ready.length ≤ capacity
  crew : p.workers.length ≤ p.largestWorkers

theorem retire_of_running {number : Nat} {p : ThreadPool J} (running : p.runState = .running) :
    p.retire number = { p with workers := p.workers.filter (·.number ≠ number) } := by
  unfold retire
  rcases tryTerminate_cases { p with workers := p.workers.filter (·.number ≠ number) } with
    ⟨-, -, -, closed⟩ | ⟨same, -⟩
  · have closed : p.runState = .shutdown ∨ p.runState = .stopped := closed
    rw [running] at closed
    simp at closed
  · exact same

/-- Workers of a running pool leave its settings alone, and no act makes more jobs or workers. -/
theorem Acts.settings {number : Nat} {act : WorkerAct} {p q : ThreadPool J}
    (numbered : Numbered p) (running : p.runState = .running) (step : Acts number p act q) :
    q.runState = p.runState ∧ q.startFault = p.startFault ∧ q.coreSize = p.coreSize ∧
      q.maxSize = p.maxSize ∧ q.capacity = p.capacity ∧ q.largestWorkers = p.largestWorkers ∧
      q.ready.length ≤ p.ready.length ∧ q.workers.length ≤ p.workers.length := by
  cases step with
  | halt | expire | leave =>
      rw [retire_of_running running]
      exact ⟨rfl, rfl, rfl, rfl, rfl, rfl, Nat.le_refl _, List.length_filter_le _ _⟩
  | settle found =>
      obtain ⟨others, seat⟩ := numbered.seat_of_phase? found
      refine ⟨rfl, rfl, rfl, rfl, rfl, rfl, Nat.le_refl _, Nat.le_of_eq ?_⟩
      exact seat.beginWaiting.perm.length_eq.trans seat.perm.length_eq.symm
  | receive found ready =>
      refine ⟨rfl, rfl, rfl, rfl, rfl, rfl, ?_, ?_⟩
      · simp [setPhase, ready]
      · simp [setPhase]
  | _ => exact ⟨rfl, rfl, rfl, rfl, rfl, rfl, Nat.le_refl _, by simp [setPhase]⟩

/-- Somebody does it. -/
theorem Acts.found {number : Nat} {act : WorkerAct} {p q : ThreadPool J}
    (step : Acts number p act q) : ∃ phase, p.phase? number = some phase := by
  cases step with
  | begin found | halt found | settle found | receive found | count found | endRun found
  | endCompletion found | timeOut found | expire found | stay found | notice found
  | leave found => exact ⟨_, found⟩

theorem Executes.largest_le {job : J} {r : Except (RejectedJob J) Unit} {p q : ThreadPool J}
    (step : Executes job p r q) : p.largestWorkers ≤ q.largestWorkers := by
  cases step with
  | refused | queued | handed => exact Nat.le_refl _
  | unstarted | started | queuedFirst | queuedAlone => exact Nat.le_max_left _ _

/-- The pool of an executor with one worker. -/
theorem steady_ofConfig {config : Config} (valid : config.Valid) (single : config.coreSize = 1) :
    Steady config.maxQueueSize (ofConfig (J := J) config) where
  attended := attended_opened config.coreSize wordMax config.keepAlive config.maxQueueSize
    config.threadName fun _ => none
  served := rfl
  running := rfl
  sound _ := rfl
  core := single
  most := (show 1 < max wordMax 1 by decide)
  bound := rfl
  places := valid.queue
  room := Nat.zero_le _
  crew := Nat.le_refl _

namespace Steady

variable {capacity number : Nat} {act : WorkerAct} {job : J} {r : Except (RejectedJob J) Unit}
  {p q : ThreadPool J}

theorem isOpen (h : Steady capacity p) : p.senderOpen = true := h.attended.sender.mpr h.running

/-- No job waits without a worker. -/
theorem staffed (h : Steady capacity p) (none : p.workers = []) : p.ready = [] := by
  by_contra waits
  have left := h.attended.alone.mp ⟨waits, none⟩
  rw [h.served] at left
  contradiction

theorem acts (h : Steady capacity p) (step : Acts number p act q) : Steady capacity q := by
  obtain ⟨running, faults, core, most, bound, largest, room, crew⟩ :=
    step.settings h.attended.numbered h.running
  exact ⟨h.attended.acts step, step.stranded.trans h.served, running.trans h.running,
    fun n => faults ▸ h.sound n, core.trans h.core, most ▸ h.most, bound.trans h.bound, h.places,
    Nat.le_trans room h.room, largest ▸ Nat.le_trans crew h.crew⟩

theorem executes (h : Steady capacity p) (step : Executes job p r q) : Steady capacity q := by
  have attended := h.attended.executes step
  cases step with
  | refused => exact h
  | unstarted why _ fault =>
      rw [h.sound] at fault
      contradiction
  | started =>
      refine ⟨attended, rfl, h.running, h.sound, h.core, h.most, h.bound, h.places, h.room, ?_⟩
      change (p.workers ++ [_]).length ≤ max p.largestWorkers (p.workers.length + 1)
      rw [List.length_append]
      exact Nat.le_max_right _ _
  | queued _ _ _ room =>
      refine ⟨attended, h.served, h.running, h.sound, h.core, h.most, h.bound, h.places, ?_, h.crew⟩
      change (p.ready ++ [job]).length ≤ capacity
      rw [List.length_append, ← h.bound]
      exact room
  | queuedFirst _ core | queuedAlone _ _ core =>
      rw [h.core] at core
      contradiction
  | handed w _ _ _ places =>
      rw [h.bound] at places
      exact absurd places (Nat.ne_of_gt h.places)

/-- The worker that does something is the only one. -/
theorem only {phase : Phase J} (h : Steady capacity p) (few : p.largestWorkers ≤ 1)
    (found : p.phase? number = some phase) : p.workers = [⟨number, phase⟩] := by
  obtain ⟨others, seat⟩ := h.attended.numbered.seat_of_phase? found
  have size : (⟨number, phase⟩ :: others).length ≤ 1 :=
    seat.perm.length_eq ▸ Nat.le_trans h.crew few
  obtain rfl : others = [] := List.eq_nil_of_length_eq_zero (by simpa using size)
  exact List.perm_singleton.mp seat.perm

/-- While the pool stays with one worker, a job joins the back of the line; the worker that is there
already goes on. -/
theorem line_executes (h : Steady capacity p) (step : Executes job p r q)
    (few : q.largestWorkers ≤ 1) :
    q.line = p.line ++ [job] ∧ (p.workers ≠ [] → q.workers = p.workers) := by
  have crew : p.workers.length ≤ 1 := Nat.le_trans h.crew (Nat.le_trans step.largest_le few)
  cases step with
  | refused why refused =>
      rcases refused with halted | closed | ⟨-, most⟩
      · exact absurd h.running halted
      · rw [h.isOpen] at closed
        contradiction
      · exact absurd (Nat.lt_of_lt_of_le h.most most) (Nat.not_lt.mpr crew)
  | unstarted why _ fault =>
      rw [h.sound] at fault
      contradiction
  | started =>
      have few : max p.largestWorkers (p.workers.length + 1) ≤ 1 := few
      have first : p.workers = [] :=
        List.eq_nil_of_length_eq_zero (Nat.le_zero.mp (Nat.le_of_succ_le_succ
          (Nat.le_trans (Nat.le_max_right _ _) few)))
      refine ⟨?_, fun some => absurd first some⟩
      simp [line, started, attempted, record, first, h.staffed first, Phase.pending?]
  | queued => exact ⟨(List.append_assoc _ _ _).symm, fun _ => rfl⟩
  | queuedFirst _ core | queuedAlone _ _ core =>
      rw [h.core] at core
      contradiction
  | handed w _ _ _ places =>
      rw [h.bound] at places
      exact absurd places (Nat.ne_of_gt h.places)

/-- A worker begins with the front of the line, and no other act moves it. -/
theorem line_acts (h : Steady capacity p) (step : Acts number p act q)
    (few : p.largestWorkers ≤ 1) : p.line = (p.begins? number act).toList ++ q.line := by
  cases step with
  | begin found | count found =>
      have only := h.only few found
      simp [line, begins?, found, setPhase, only, Phase.pending?]
  | halt found | expire found | leave found =>
      have only := h.only few found
      simp [line, begins?, retire_of_running h.running, only, Phase.pending?]
  | settle found =>
      have only := h.only few found
      simp [line, begins?, beginWaiting, only, Phase.pending?]
  | receive found ready =>
      have only := h.only few found
      simp [line, begins?, setPhase, only, ready, Phase.pending?]
  | endRun found | endCompletion found | timeOut found | stay found | notice found =>
      have only := h.only few found
      simp [line, begins?, setPhase, only, Phase.pending?]

/-- The worker that begins a job is then the one that runs it. -/
theorem begins (h : Steady capacity p) (step : Acts number p act q) (few : p.largestWorkers ≤ 1)
    (begun : p.begins? number act = some job) : q.workers = [⟨number, .running job⟩] := by
  cases step with
  | begin found | count found =>
      have only := h.only few found
      simp only [begins?, found, Option.some.injEq] at begun
      simp [setPhase, only, begun]
  | _ => simp [begins?] at begun

/-- A second worker starts only for a job that finds the ready queue full, and has it at once. -/
theorem second_worker (h : Steady capacity p) (step : Executes job p r q)
    (few : p.largestWorkers ≤ 1) (more : 1 < q.largestWorkers) :
    p.ready.length = capacity ∧ ∃ n, q.workers = p.workers ++ [⟨n, .assigned job⟩] := by
  cases step with
  | refused | queued | handed => exact absurd more (Nat.not_lt.mpr few)
  | unstarted why _ fault =>
      rw [h.sound] at fault
      contradiction
  | started _ _ below =>
      refine ⟨?_, _, rfl⟩
      rcases below with first | ⟨-, ⟨bare, -⟩ | ⟨-, full⟩, -⟩
      · have more : 1 < max p.largestWorkers (p.workerCount + 1) := more
        rw [h.core] at first
        omega
      · rw [h.bound] at bare
        exact absurd bare (Nat.ne_of_gt h.places)
      · rw [h.bound] at full
        exact Nat.le_antisymm h.room full
  | queuedFirst _ core | queuedAlone _ _ core =>
      rw [h.core] at core
      contradiction

end Steady

end ThreadPool

end TwoTier
