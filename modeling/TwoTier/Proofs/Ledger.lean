import Mathlib.Algebra.Order.Group.Multiset
import Mathlib.Tactic.Abel
import TwoTier.Proofs.PoolSteps

/-!
Where the jobs of a thread pool are.

A job that the pool took is in the ready queue, with one worker, or with a stop that is under way,
until it is finished or handed back (`Balanced`). The counters of active workers and of completed
jobs follow from where the jobs are, so that a terminated pool has no account left open. Calls,
stops and workers may come in any order, and any start of a thread may fail.
-/

namespace TwoTier

variable {J : Type}

namespace Deed

section

variable (deeds : List (Deed J)) (deed : Deed J)

theorem filterMap_concat {α : Type} (read : Deed J → Option α) :
    (deeds ++ [deed]).filterMap read = deeds.filterMap read ++ (read deed).toList := by
  rw [List.filterMap_append, List.filterMap_eq_flatMap_toList read [deed], List.flatMap_singleton]

@[simp] theorem acceptances_concat :
    acceptances (deeds ++ [deed]) = acceptances deeds ++ deed.accepted?.toList :=
  filterMap_concat deeds deed _

@[simp] theorem finishes_concat :
    finishes (deeds ++ [deed]) = finishes deeds ++ deed.finished?.toList :=
  filterMap_concat deeds deed _

@[simp] theorem returns_concat :
    returns (deeds ++ [deed]) = returns deeds ++ deed.handedBack?.toList :=
  filterMap_concat deeds deed _

end

end Deed

namespace ThreadPool

/-- The jobs that workers hold. -/
def held (workers : List (Worker J)) : List J := workers.filterMap fun w => w.phase.job?

/-- How many workers count as active. -/
def busy (workers : List (Worker J)) : Nat := workers.countP fun w => w.phase.active

/-- How many workers complete a job that has run. -/
def finishing (workers : List (Worker J)) : Nat := workers.countP fun w => w.phase.finishing

/-- The jobs that a stop under way has taken. -/
def inStop (p : ThreadPool J) : List J := p.stopping.getD []

section

variable {workers old others : List (Worker J)}

/-- What some workers have, and what the others have. -/
theorem filterMap_of_perm {α : Type} (has : Worker J → Option α)
    (h : workers.Perm (old ++ others)) :
    (workers.filterMap has : Multiset α) = old.filterMap has + others.filterMap has := by
  rw [Multiset.coe_add, Multiset.coe_eq_coe]
  exact List.filterMap_append ▸ h.filterMap _

theorem held_perm (h : workers.Perm (old ++ others)) :
    (held workers : Multiset J) = held old + held others :=
  filterMap_of_perm _ h

theorem busy_perm (h : workers.Perm (old ++ others)) : busy workers = busy old + busy others := by
  unfold busy
  rw [h.countP_eq, List.countP_append]

theorem finishing_perm (h : workers.Perm (old ++ others)) :
    finishing workers = finishing old + finishing others := by
  unfold finishing
  rw [h.countP_eq, List.countP_append]

end

/-- Nothing is left of a terminated pool. -/
def Over (p : ThreadPool J) : Prop :=
  p.runState = .terminated → p.workers = [] ∧ p.ready = [] ∧ p.inStop = []

/-- Where the jobs are, and what the pool counts. -/
structure Balanced (deeds : List (Deed J)) (p : ThreadPool J) : Prop where
  numbered : Numbered p
  jobs : (Deed.acceptances deeds : Multiset J) =
    p.ready + held p.workers + p.inStop + Deed.finishes deeds + (Deed.returns deeds).flatten
  active : p.active = busy p.workers
  completed : p.completed = (Deed.finishes deeds).length + finishing p.workers
  atEnd : p.Over

namespace Balanced

variable {deeds : List (Deed J)} {p q : ThreadPool J}

/-- A step that puts `new` workers in the place of `old` ones keeps the balance if the jobs it
takes out of one place are those it puts into another. -/
theorem next {deed : Deed J} {others : List (Worker J)} (old new : List (Worker J))
    (h : Balanced deeds p) (numbered : Numbered q) (before : p.workers.Perm (old ++ others))
    (after : q.workers.Perm (new ++ others))
    (jobs : (q.ready : Multiset J) + held new + q.inStop + deed.finished?.toList +
        deed.handedBack?.getD [] = p.ready + held old + p.inStop + deed.accepted?.toList)
    (active : q.active + busy old = p.active + busy new)
    (completed : q.completed + finishing old =
      p.completed + finishing new + deed.finished?.toList.length)
    (atEnd : q.Over) : Balanced (deeds ++ [deed]) q where
  numbered := numbered
  jobs := by
    have flat : (deed.handedBack?.toList).flatten = deed.handedBack?.getD [] := by
      cases deed.handedBack? <;> simp
    rw [Deed.acceptances_concat, Deed.finishes_concat, Deed.returns_concat, List.flatten_append,
      flat, ← Multiset.coe_add, ← Multiset.coe_add, ← Multiset.coe_add, h.jobs,
      held_perm before, held_perm after]
    calc (p.ready + (held old + held others) + p.inStop + Deed.finishes deeds
            + (Deed.returns deeds).flatten + deed.accepted?.toList : Multiset J)
        = (p.ready + held old + p.inStop + deed.accepted?.toList) + held others
            + Deed.finishes deeds + (Deed.returns deeds).flatten := by abel
      _ = (q.ready + held new + q.inStop + deed.finished?.toList + deed.handedBack?.getD [])
            + held others + Deed.finishes deeds + (Deed.returns deeds).flatten := by rw [jobs]
      _ = _ := by abel
  active := by
    have was := h.active
    rw [busy_perm before] at was
    rw [busy_perm after]
    omega
  completed := by
    have was := h.completed
    rw [finishing_perm before] at was
    rw [finishing_perm after, Deed.finishes_concat, List.length_append]
    omega
  atEnd := atEnd

/-- A worker is there, so the pool has not terminated. -/
theorem over_of_seat {number : Nat} {phase : Phase J} {others : List (Worker J)}
    (h : Balanced deeds p) (seat : Seat p.workers number phase others)
    (same : q.runState = p.runState) : q.Over := by
  intro terminated
  have none := (h.atEnd (same.symm.trans terminated)).1
  exact absurd (none ▸ seat.perm).symm (by simp)

theorem active_pos {number : Nat} {phase : Phase J} {others : List (Worker J)}
    (h : Balanced deeds p) (seat : Seat p.workers number phase others)
    (active : phase.active = true) : 0 < p.active := by
  rw [h.active, busy, List.countP_pos_iff]
  exact ⟨⟨number, phase⟩, seat.perm.mem_iff.mpr List.mem_cons_self, active⟩

/-- A deed that is no entry in any account. -/
theorem quiet (deed : Deed J) (h : Balanced deeds p)
    (none : deed.accepted? = none ∧ deed.finished? = none ∧ deed.handedBack? = none) :
    Balanced (deeds ++ [deed]) p := by
  obtain ⟨accepted, finished, returned⟩ := none
  refine h.next [] [] h.numbered (.refl _) (.refl _) ?_ rfl ?_ h.atEnd
  · rw [accepted, finished, returned]
    exact add_zero _
  · rw [finished]
    rfl

/-- Jobs, workers and counters are the same. -/
theorem of_same (h : Balanced deeds p) (workers : q.workers = p.workers)
    (attempts : p.attempts ≤ q.attempts) (ready : q.ready = p.ready)
    (stop : q.inStop = p.inStop) (active : q.active = p.active)
    (completed : q.completed = p.completed)
    (life : q.runState = .terminated → p.runState = .terminated) : Balanced deeds q where
  numbered := h.numbered.of_workers workers attempts
  jobs := by rw [workers, ready, stop]; exact h.jobs
  active := by rw [workers, active]; exact h.active
  completed := by rw [workers, completed]; exact h.completed
  atEnd terminated := by
    rw [workers, ready, stop]
    exact h.atEnd (life terminated)

theorem executes {job : J} {r : Except (RejectedJob J) Unit} (h : Balanced deeds p)
    (step : Executes job p r q) :
    Balanced (deeds ++ [match r with | .ok () => .accepted job | .error why => .refused why])
      q := by
  have numbered := h.numbered.executes step
  have atEnd : p.runState = .running → q.runState = p.runState → q.Over := by
    intro running same terminated
    rw [same, running] at terminated
    contradiction
  have taken :
      (p.ready + [job] + p.inStop + 0 + 0 : Multiset J) = p.ready + 0 + p.inStop + [job] := by
    abel
  have queued : ((p.ready ++ [job] : List J) + 0 + p.inStop + 0 + 0 : Multiset J)
      = p.ready + 0 + p.inStop + [job] := by
    rw [← Multiset.coe_add]
    abel
  cases step with
  | refused why => exact h.quiet (.refused ⟨why, job⟩) ⟨rfl, rfl, rfl⟩
  | unstarted why running =>
      have tried : Balanced deeds p.attempted :=
        h.of_same rfl (Nat.le_succ _) rfl rfl rfl rfl id
      exact tried.quiet (.refused ⟨.threadSpawn why, job⟩) ⟨rfl, rfl, rfl⟩
  | started running =>
      exact h.next [] [⟨p.attempts + 1, .assigned job⟩] numbered (.refl _) List.perm_append_comm
        taken rfl rfl (atEnd running rfl)
  | queued running =>
      exact h.next [] [] numbered (.refl _) (.refl _) queued rfl rfl (atEnd running rfl)
  | queuedFirst running =>
      exact h.next [] [⟨p.attempts + 1, .checking⟩] numbered (.refl _) List.perm_append_comm
        queued rfl rfl (atEnd running rfl)
  | queuedAlone why running =>
      exact h.next [] [] numbered (.refl _) (.refl _) queued rfl rfl (atEnd running rfl)
  | handed w running core isOpen places waits =>
      obtain ⟨inside, phase⟩ := firstWaiting_mem waits
      obtain ⟨others, seat⟩ := h.numbered.seat inside
      rw [phase] at seat
      exact h.next [⟨w.number, .waiting⟩] [⟨w.number, .received job⟩] numbered seat.perm
        (seat.setPhase _ rfl).perm taken rfl rfl (atEnd running rfl)

/-- A pool may terminate as soon as it can. -/
theorem tryTerminate (h : Balanced deeds p) (free : p.stopping = none) :
    Balanced deeds p.tryTerminate := by
  rcases p.tryTerminate_cases with ⟨ended, none, ready, -⟩ | ⟨same, -⟩
  · rw [ended]
    exact ⟨h.numbered.of_workers rfl (Nat.le_refl _), h.jobs, h.active, h.completed,
      fun _ => ⟨none, ready, by simp [inStop, record, free]⟩⟩
  · rwa [same]

/-- A worker leaves. -/
theorem retire {number : Nat} {phase : Phase J} (h : Balanced deeds p)
    (found : p.phase? number = some phase) (free : p.stopping = none) (empty : phase.job? = none)
    (act : WorkerAct) : Balanced (deeds ++ [.worked number act]) (p.retire number) := by
  obtain ⟨others, seat⟩ := h.numbered.seat_of_phase? found
  have idle : phase.active = false ∧ phase.finishing = false := by
    cases phase <;> simp [Phase.job?, Phase.active, Phase.finishing] at empty ⊢
  -- It takes no job along, so the accounts stay as they are; the pool may terminate afterwards.
  have left : Balanced (deeds ++ [.worked number act])
      { p with workers := p.workers.filter (·.number ≠ number) } := by
    refine h.next [⟨number, phase⟩] [] (h.numbered.without number) seat.perm seat.without ?_
      (by simp [busy, idle.1]) (by simp [finishing, idle.2]) (h.over_of_seat seat rfl)
    rw [show held [⟨number, phase⟩] = held [] by simp [held, empty]]
    exact add_zero _
  exact left.tryTerminate free

/-- A worker goes on with what it holds. -/
theorem advance {number : Nat} {phase : Phase J} (phase' : Phase J) (h : Balanced deeds p)
    (found : p.phase? number = some phase) (numbered : Numbered q)
    (after : ∀ others, Seat p.workers number phase others → Seat q.workers number phase' others)
    (ready : q.ready = p.ready) (stop : q.stopping = p.stopping) (life : q.runState = p.runState)
    (job : phase'.job? = phase.job?)
    (active : q.active + busy [⟨number, phase⟩] = p.active + busy [⟨number, phase'⟩])
    (completed : q.completed + finishing [⟨number, phase⟩] =
      p.completed + finishing [⟨number, phase'⟩])
    (act : WorkerAct) : Balanced (deeds ++ [.worked number act]) q := by
  obtain ⟨others, seat⟩ := h.numbered.seat_of_phase? found
  refine h.next [⟨number, phase⟩] [⟨number, phase'⟩] numbered seat.perm (after others seat).perm ?_
    active completed (h.over_of_seat seat life)
  have same : held [⟨number, phase'⟩] = held [⟨number, phase⟩] := by
    simp only [held, List.filterMap_cons, job]
  rw [ready, inStop, stop, same]
  exact add_zero _

theorem acts {number : Nat} {act : WorkerAct} (h : Balanced deeds p) (step : Acts number p act q)
    (other : act ≠ .endCompletion) : Balanced (deeds ++ [.worked number act]) q := by
  have numbered := h.numbered.acts step
  cases step with
  | @begin job found =>
      exact h.advance (.running job) found numbered (fun _ seat => seat.setPhase _ rfl)
        rfl rfl rfl rfl rfl rfl .begin
  | halt found free => exact h.retire found free rfl .check
  | settle found =>
      exact h.advance .waiting found numbered (fun _ seat => seat.beginWaiting)
        rfl rfl rfl rfl rfl rfl .check
  | @receive job rest found ready =>
      obtain ⟨others, seat⟩ := h.numbered.seat_of_phase? found
      refine h.next [⟨number, .waiting⟩] [⟨number, .received job⟩] numbered seat.perm
        (seat.setPhase _ rfl).perm ?_ rfl rfl (h.over_of_seat seat rfl)
      show (rest + [job] + p.inStop + 0 + 0 : Multiset J) = p.ready + 0 + p.inStop + 0
      have split : (p.ready : Multiset J) = [job] + rest := by rw [ready]; rfl
      rw [split]
      abel
  | @count job found =>
      exact h.advance (.running job) found numbered (fun _ seat => seat.setPhase _ rfl)
        rfl rfl rfl rfl rfl rfl .count
  | @endRun job found =>
      obtain ⟨others, seat⟩ := h.numbered.seat_of_phase? found
      exact h.advance (.completing job) found numbered (fun _ seat => seat.setPhase _ rfl)
        rfl rfl rfl rfl (Nat.sub_add_cancel (h.active_pos seat rfl)) rfl .endRun
  | endCompletion => exact absurd rfl other
  | timeOut found =>
      exact h.advance .timedOut found numbered (fun _ seat => seat.setPhase _ rfl)
        rfl rfl rfl rfl rfl rfl .timeOut
  | expire found free => exact h.retire found free rfl .decide
  | stay found =>
      exact h.advance .checking found numbered (fun _ seat => seat.setPhase _ rfl)
        rfl rfl rfl rfl rfl rfl .decide
  | notice found =>
      exact h.advance .disconnected found numbered (fun _ seat => seat.setPhase _ rfl)
        rfl rfl rfl rfl rfl rfl .notice
  | leave found free => exact h.retire found free rfl .leave

/-- A worker has completed its job. -/
theorem finishes {number : Nat} {job : J} (h : Balanced deeds p)
    (found : p.phase? number = some (.completing job)) :
    Balanced (deeds ++ [.finished job]) (p.setPhase number .checking) := by
  obtain ⟨others, seat⟩ := h.numbered.seat_of_phase? found
  refine h.next [⟨number, .completing job⟩] [⟨number, .checking⟩] (h.numbered.setPhase _ _)
    seat.perm (seat.setPhase _ rfl).perm ?_ rfl rfl (h.over_of_seat seat rfl)
  show (p.ready + 0 + p.inStop + [job] + 0 : Multiset J) = p.ready + [job] + p.inStop + 0
  abel

theorem started (h : Balanced deeds p) (running : p.runState = .running) :
    Balanced deeds (p.started .checking) where
  numbered := h.numbered.started .checking
  jobs := by
    have same : held (p.started .checking).workers = held p.workers := by
      simp [held, ThreadPool.started, record, Phase.job?]
    rw [same]
    exact h.jobs
  active := by
    have same : busy (p.started .checking).workers = busy p.workers := by
      simp [busy, ThreadPool.started, record, Phase.active]
    rw [same]
    exact h.active
  completed := by
    have same : finishing (p.started .checking).workers = finishing p.workers := by
      simp [finishing, ThreadPool.started, record, Phase.finishing]
    rw [same]
    exact h.completed
  atEnd terminated := by
    rw [show (p.started .checking).runState = p.runState from rfl, running] at terminated
    contradiction

theorem setCoreSize (h : Balanced deeds p) (size : Nat) : Balanced deeds (p.setCoreSize size) :=
  setCoreSize_of size p (fun _ => h)
    (fun _ => h.of_same rfl (Nat.le_refl _) rfl rfl rfl rfl id)
    (fun _ h running _ _ => h.started running)
    (fun _ _ h _ => h.of_same rfl (Nat.le_succ _) rfl rfl rfl rfl id)

theorem shutdown (h : Balanced deeds p) (free : p.stopping = none) : Balanced deeds p.shutdown := by
  unfold ThreadPool.shutdown
  by_cases running : p.runState = .running
  · rw [if_pos running]
    refine tryTerminate (h.of_same rfl (Nat.le_refl _) rfl rfl rfl rfl ?_) free
    intro shut
    contradiction
  · rw [if_neg running]
    exact tryTerminate (h.of_same rfl (Nat.le_refl _) rfl rfl rfl rfl id) free

theorem beginStop (h : Balanced deeds p) (free : p.stopping = none) :
    Balanced deeds p.beginStop := by
  have none : p.beginStop.inStop = p.inStop := by simp [inStop, ThreadPool.beginStop, free]
  unfold ThreadPool.beginStop at none ⊢
  by_cases going : p.runState.rank < RunState.stopped.rank
  · rw [if_pos going] at none ⊢
    refine h.of_same rfl (Nat.le_refl _) rfl none rfl rfl ?_
    intro stopped
    contradiction
  · rw [if_neg going] at none ⊢
    exact h.of_same rfl (Nat.le_refl _) rfl none rfl rfl id

/-- A stop takes a job out of the ready queue. -/
theorem drainOne {job : J} {drained rest : List J} (h : Balanced deeds p)
    (held : p.stopping = some drained) (ready : p.ready = job :: rest) :
    Balanced (deeds ++ [.drained job]) p.drainOne := by
  unfold ThreadPool.drainOne
  rw [held, ready]
  refine h.next [] [] (h.numbered.of_workers rfl (Nat.le_refl _)) (.refl _) (.refl _) ?_ rfl rfl ?_
  · show (rest + 0 + (drained ++ [job] : List J) + 0 + 0 : Multiset J) = p.ready + 0 + p.inStop + 0
    have split : (p.ready : Multiset J) = [job] + rest := by rw [ready]; rfl
    rw [split, inStop, held, Option.getD_some, ← Multiset.coe_add]
    abel
  · intro terminated
    have none := (h.atEnd terminated).2.1
    rw [ready] at none
    contradiction

/-- A stop hands back what it has taken. -/
theorem endStop {jobs : List J} (h : Balanced deeds p) (empty : p.ready = [])
    (told : p.endStop = (jobs, q)) : Balanced (deeds ++ [.handedBack jobs]) q := by
  obtain ⟨rfl, rfl⟩ := Prod.mk.inj told
  have returned : Balanced (deeds ++ [.handedBack p.inStop]) { p with stopping := none } := by
    have numbered := h.numbered.of_workers (q := { p with stopping := none }) rfl (Nat.le_refl _)
    refine h.next [] [] numbered (.refl _) (.refl _) ?_ rfl rfl ?_
    · show (p.ready + 0 + 0 + 0 + p.inStop : Multiset J) = p.ready + 0 + p.inStop + 0
      abel
    · intro terminated
      exact ⟨(h.atEnd terminated).1, empty, rfl⟩
  exact returned.tryTerminate rfl

theorem step {deed : Deed J} (h : Balanced deeds p) (step : Next p deed q) :
    Balanced (deeds ++ [deed]) q := by
  cases step with
  | accept job free call => exact h.executes (ThreadPool.executes call)
  | refuse job why free call => exact h.executes (ThreadPool.executes call)
  | setCoreSize size => exact (h.setCoreSize size).quiet _ ⟨rfl, rfl, rfl⟩
  | setCoreTimeout allowed =>
      have set : Balanced deeds { p with allowCoreTimeout := allowed } :=
        h.of_same rfl (Nat.le_refl _) rfl rfl rfl rfl id
      exact set.quiet _ ⟨rfl, rfl, rfl⟩
  | shutdown free => exact (h.shutdown free).quiet _ ⟨rfl, rfl, rfl⟩
  | beginStop free => exact (h.beginStop free).quiet _ ⟨rfl, rfl, rfl⟩
  | drain held ready => exact h.drainOne held ready
  | endStop held empty told => exact h.endStop empty told
  | finish number found act =>
      cases ThreadPool.acts act with
      | endCompletion _ => exact h.finishes found
  | work number act other did => exact h.acts (ThreadPool.acts did) other

end Balanced

theorem balanced_opened (coreSize maxSize : Nat) (keepAlive : Duration) (capacity : Nat)
    (name : String) (startFault : Nat → Option StartFault) :
    Balanced [] (opened (J := J) coreSize maxSize keepAlive capacity name startFault) where
  numbered := ⟨List.nodup_nil, fun _ mem => nomatch mem⟩
  jobs := rfl
  active := rfl
  completed := rfl
  atEnd terminated := by contradiction

theorem Runs.balanced {deeds deeds' : List (Deed J)} {p q : ThreadPool J} (h : Balanced deeds p)
    (run : Runs p deeds' q) : Balanced (deeds ++ deeds') q := by
  induction run with
  | refl => rwa [List.append_nil]
  | tail _ step ih =>
      rw [← List.append_assoc]
      exact ih.step step

/-! ### A stop with nothing in between -/

theorem runs_drain (ready drained : List J) {p : ThreadPool J}
    (held : p.stopping = some drained) (left : p.ready = ready) :
    Runs p (ready.map .drained) (drain ready.length p) ∧
      (drain ready.length p).ready = [] ∧
      (drain ready.length p).stopping = some (drained ++ ready) := by
  induction ready generalizing p drained with
  | nil => exact ⟨.refl, left, by rw [List.append_nil]; exact held⟩
  | cons job rest ih =>
      have taken : p.drainOne = { p with ready := rest, stopping := some (drained ++ [job]) } := by
        unfold ThreadPool.drainOne
        rw [held, left]
      obtain ⟨run, empty, all⟩ :=
        ih (drained ++ [job]) (p := p.drainOne) (by rw [taken]) (by rw [taken])
      refine ⟨run.head (.drain held left), empty, ?_⟩
      rw [← List.append_cons] at all
      exact all

/-- Stopping a pool at one go is one of its runs, and hands back what was queued. -/
theorem runs_shutdownNow {p : ThreadPool J} (free : p.stopping = none) :
    p.shutdownNow.1 = p.ready ∧
      Runs p (.stopBegun :: (p.ready.map .drained ++ [.handedBack p.ready])) p.shutdownNow.2 := by
  have ready : p.beginStop.ready = p.ready := by
    unfold ThreadPool.beginStop
    split <;> rfl
  obtain ⟨run, empty, all⟩ := runs_drain p.beginStop.ready [] rfl rfl
  have handed : p.shutdownNow.1 = p.ready := by
    show (drain p.beginStop.ready.length p.beginStop).stopping.getD [] = p.ready
    rw [all, ready]
    rfl
  refine ⟨handed, ?_⟩
  rw [← ready]
  exact (run.tail (.endStop (by rw [all]; rfl) empty (Prod.ext (handed.trans ready.symm) rfl))).head
    (.beginStop free)

/-! ### The account of a whole run -/

/-- Every job that a pool has taken is in one place, the active workers are counted right, the run
state never goes back, and a terminated pool has nothing left to do: each of its jobs is completed
or was handed back. -/
theorem accepted_jobs_accounted (coreSize maxSize : Nat) (keepAlive : Duration) (capacity : Nat)
    (name : String) (startFault : Nat → Option StartFault) {deeds : List (Deed J)}
    {p : ThreadPool J}
    (run : Runs (opened coreSize maxSize keepAlive capacity name startFault) deeds p) :
    (Deed.acceptances deeds).Perm (p.ready ++ held p.workers ++ Deed.finishes deeds ++
      ((Deed.returns deeds).flatten ++ p.inStop)) ∧
    p.active = busy p.workers ∧
    (∀ number q, p.act? number .endRun = some q → p.active = q.active + 1) ∧
    (∀ deeds' q, Runs p deeds' q → p.runState.rank ≤ q.runState.rank) ∧
    (p.runState = .terminated → p.workers = [] ∧ p.ready = [] ∧ p.inStop = [] ∧ p.active = 0 ∧
      (Deed.acceptances deeds).Perm (Deed.finishes deeds ++ (Deed.returns deeds).flatten) ∧
      p.completed + (Deed.returns deeds).flatten.length = (Deed.acceptances deeds).length) := by
  have balance : Balanced deeds p :=
    Runs.balanced (balanced_opened coreSize maxSize keepAlive capacity name startFault) run
  have places : (Deed.acceptances deeds).Perm (p.ready ++ held p.workers ++ Deed.finishes deeds ++
      ((Deed.returns deeds).flatten ++ p.inStop)) := by
    rw [← Multiset.coe_eq_coe, balance.jobs]
    simp only [← Multiset.coe_add]
    abel
  refine ⟨places, balance.active, ?_, fun _ _ later => later.rank_le, ?_⟩
  · intro number q ended
    cases ThreadPool.acts ended with
    | endRun found =>
        obtain ⟨others, seat⟩ := balance.numbered.seat_of_phase? found
        exact (Nat.sub_add_cancel (balance.active_pos seat rfl)).symm
  · intro terminated
    obtain ⟨workers, ready, stop⟩ := balance.atEnd terminated
    rw [workers, ready, stop, List.append_nil] at places
    refine ⟨workers, ready, stop, balance.active.trans (by rw [workers]; rfl), places, ?_⟩
    rw [places.length_eq, balance.completed, workers]
    exact List.length_append.symm

/-- A stop hands back the queued job, and the running one is completed. -/
theorem accepted_jobs_accounted_after_stop :
    ∃ p : ThreadPool String,
      Runs (opened 1 1 ⟨60⟩ 1 "pool" fun _ => none)
        [.accepted "a", .accepted "b", .worked 1 .begin, .stopBegun, .drained "b",
          .handedBack ["b"], .worked 1 .endRun, .finished "a", .worked 1 .check] p ∧
      p.runState = .terminated ∧ p.workers.length = 0 ∧ p.completed + 1 = 2 := by
  have queued := Runs.refl (p := opened (J := String) 1 1 ⟨60⟩ 1 "pool" fun _ => none)
    |>.tail (.accept "a" rfl rfl) |>.tail (.accept "b" rfl rfl)
    |>.tail (.work 1 .begin (by decide) rfl)
  have stopped := queued.tail (.beginStop rfl) |>.tail (.drain rfl rfl)
    |>.tail (.endStop rfl rfl rfl)
  have run := stopped.tail (.work 1 .endRun (by decide) rfl) |>.tail (.finish 1 rfl rfl)
    |>.tail (.work 1 .check (by decide) rfl)
  obtain ⟨-, -, -, -, atEnd⟩ := accepted_jobs_accounted 1 1 ⟨60⟩ 1 "pool" (fun _ => none) run
  obtain ⟨none, -, -, -, -, completed⟩ := atEnd rfl
  exact ⟨_, run, rfl, by rw [none]; rfl, completed⟩

end ThreadPool

end TwoTier
