import Mathlib.Algebra.GroupWithZero.Nat
import TwoTier.Proofs.PoolSteps

/-!
Whether queued jobs have workers.

No worker leaves queued jobs behind, except after a stop, which is not considered here. But a job
that is queued while there is no worker stays without one if none starts, and `stranded` reads off
the journal whether that is so. Otherwise somebody is responsible for the ready queue at any time
(`Attended`), and after a shutdown the workers end the pool by themselves.
-/

namespace TwoTier

variable {J : Type}

namespace Deed

/-- The deeds of workers. -/
@[simp] def byWorker : Deed J → Bool
  | .finished _ | .worked _ _ => true
  | _ => false

end Deed

namespace ThreadPool

/-- Whether no worker was there for a job that was queued, and none has started since. The journal
has its newest event first. -/
def stranded : List PoolEvent → Bool
  | [] => false
  | .noWorkerAvailable _ :: _ => true
  | .workerStarted _ _ :: _ => false
  | _ :: earlier => stranded earlier

/-! ### Somebody is responsible -/

/-- What every step keeps while nobody stops the pool. -/
structure Kept (p : ThreadPool J) : Prop where
  numbered : Numbered p
  free : p.stopping = none
  unstopped : p.runState ≠ .stopped
  sender : p.senderOpen = true ↔ p.runState = .running
  /-- A worker that found the ready queue closed and empty leaves nothing behind. -/
  gone : ∀ w ∈ p.workers, w.phase = .disconnected → p.ready = [] ∧ p.runState ≠ .running
  atEnd : p.runState = .terminated → p.workers = [] ∧ p.ready = []
  alone : p.ready ≠ [] ∧ p.workers = [] ↔ stranded p.journal = true

/-- A pool that is shut down has something left to do, or it has terminated. -/
structure Attended (p : ThreadPool J) : Prop extends Kept p where
  shut : p.runState = .shutdown → p.workers ≠ [] ∨ p.ready ≠ []

namespace Kept

variable {p q : ThreadPool J}

theorem not_terminated {w : Worker J} (h : Kept p) (mem : w ∈ p.workers) :
    p.runState ≠ .terminated := by
  intro terminated
  rw [(h.atEnd terminated).1] at mem
  cases mem

theorem tryTerminate (h : Kept p) : Attended p.tryTerminate := by
  rcases p.tryTerminate_cases with ⟨ended, none, ready, closed⟩ | ⟨same, waits⟩
  · have shut : p.runState ≠ .running := by
      rcases closed with closed | closed <;> rw [closed] <;> decide
    rw [ended]
    refine ⟨⟨h.numbered.of_workers rfl (Nat.le_refl _), h.free, fun stopped => by contradiction,
      ⟨fun isOpen => absurd (h.sender.mp isOpen) shut, fun running => by contradiction⟩, ?_,
      fun _ => ⟨none, ready⟩, h.alone⟩, fun shut => by contradiction⟩
    intro w mem
    have mem : w ∈ p.workers := mem
    rw [none] at mem
    cases mem
  · rw [same]
    refine ⟨h, ?_⟩
    intro shut
    by_cases none : p.workers = []
    · exact .inr fun ready => waits ⟨.inl shut, none, ready⟩
    · exact .inl none

/-- A worker leaves, and either others stay or there is nothing to do. -/
theorem retire {number : Nat} {phase : Phase J} (h : Kept p)
    (found : p.phase? number = some phase)
    (rest : p.ready = [] ∨ (p.workers.filter (·.number ≠ number)) ≠ []) :
    Attended (p.retire number) := by
  obtain ⟨others, seat⟩ := h.numbered.seat_of_phase? found
  have inside : ⟨number, phase⟩ ∈ p.workers := seat.perm.mem_iff.mpr List.mem_cons_self
  have alive := h.not_terminated inside
  refine tryTerminate (p := { p with workers := p.workers.filter (·.number ≠ number) })
    ⟨h.numbered.without number, h.free, h.unstopped, h.sender,
      fun w mem => h.gone w (List.mem_of_mem_filter mem), fun atEnd => absurd atEnd alive, ?_⟩
  constructor
  · rintro ⟨ready, none⟩
    rcases rest with empty | others
    · exact absurd empty ready
    · exact absurd none others
  · intro left
    rw [(h.alone.mpr left).2] at inside
    cases inside

end Kept

namespace Attended

variable {p q : ThreadPool J}

/-- A worker goes on. -/
theorem advance {number : Nat} {phase : Phase J} (phase' : Phase J) (h : Attended p)
    (found : p.phase? number = some phase) (numbered : Numbered q)
    (after : ∀ others, Seat p.workers number phase others → Seat q.workers number phase' others)
    (stop : q.stopping = p.stopping) (life : q.runState = p.runState)
    (sender : q.senderOpen = p.senderOpen) (journal : q.journal = p.journal)
    (ready : p.ready = [] → q.ready = [])
    (gone : phase' = .disconnected → q.ready = [] ∧ q.runState ≠ .running) : Attended q := by
  obtain ⟨others, seat⟩ := h.numbered.seat_of_phase? found
  have before : ⟨number, phase⟩ ∈ p.workers := seat.perm.mem_iff.mpr List.mem_cons_self
  have seat' := after others seat
  have staffed : q.workers ≠ [] :=
    List.ne_nil_of_mem (seat'.perm.mem_iff.mpr List.mem_cons_self)
  refine ⟨⟨numbered, stop.trans h.free, life ▸ h.unstopped, by rw [sender, life]; exact h.sender,
    ?_, ?_, ?_⟩, fun _ => .inl staffed⟩
  · intro w mem disconnected
    rcases List.mem_cons.mp (seat'.perm.mem_iff.mp mem) with rfl | other
    · exact gone disconnected
    · have old := h.gone w (seat.perm.mem_iff.mpr (List.mem_cons_of_mem _ other)) disconnected
      exact ⟨ready old.1, life ▸ old.2⟩
  · intro atEnd
    exact absurd (life ▸ atEnd) (h.not_terminated before)
  · rw [journal, ← h.alone]
    constructor
    · rintro ⟨-, none⟩
      exact absurd none staffed
    · rintro ⟨-, none⟩
      rw [none] at before
      cases before

theorem acts {number : Nat} {act : WorkerAct} (h : Attended p) (step : Acts number p act q) :
    Attended q := by
  have numbered := h.numbered.acts step
  cases step with
  | @begin job found =>
      exact h.advance (.running job) found numbered (fun _ seat => seat.setPhase _ rfl)
        rfl rfl rfl rfl id (by simp)
  | halt found free stopped =>
      -- there are no stops, so the pool has terminated and has no workers
      obtain ⟨others, seat⟩ := h.numbered.seat_of_phase? found
      have alive := h.not_terminated (seat.perm.mem_iff.mpr List.mem_cons_self)
      have unstopped := h.unstopped
      cases life : p.runState <;> simp [life, RunState.rank] at alive unstopped stopped
  | settle found =>
      exact h.advance .waiting found numbered (fun _ seat => seat.beginWaiting)
        rfl rfl rfl rfl id (by simp)
  | @receive job rest found ready =>
      exact h.advance (.received job) found numbered (fun _ seat => seat.setPhase _ rfl)
        rfl rfl rfl rfl (by simp [ready]) (by simp)
  | @count job found =>
      exact h.advance (.running job) found numbered (fun _ seat => seat.setPhase _ rfl)
        rfl rfl rfl rfl id (by simp)
  | @endRun job found =>
      exact h.advance (.completing job) found numbered (fun _ seat => seat.setPhase _ rfl)
        rfl rfl rfl rfl id (by simp)
  | endCompletion found =>
      exact h.advance .checking found numbered (fun _ seat => seat.setPhase _ rfl)
        rfl rfl rfl rfl id (by simp)
  | timeOut found =>
      exact h.advance .timedOut found numbered (fun _ seat => seat.setPhase _ rfl)
        rfl rfl rfl rfl id (by simp)
  | expire found free may =>
      refine h.retire found ?_
      -- The last worker gives up only if no job is queued.
      obtain ⟨others, seat⟩ := h.numbered.seat_of_phase? found
      have may := (Bool.and_eq_true_iff.mp may).2
      rcases Bool.or_eq_true_iff.mp may with several | empty
      · right
        intro none
        have left := seat.without
        rw [none] at left
        have size : p.workerCount = 1 := by
          rw [workerCount, seat.perm.length_eq, List.Perm.nil_eq left |>.symm]
          rfl
        rw [size] at several
        contradiction
      · exact .inl (List.isEmpty_iff.mp empty)
  | stay found =>
      exact h.advance .checking found numbered (fun _ seat => seat.setPhase _ rfl)
        rfl rfl rfl rfl id (by simp)
  | notice found empty closed =>
      refine h.advance .disconnected found numbered (fun _ seat => seat.setPhase _ rfl)
        rfl rfl rfl rfl id fun _ => ⟨empty, ?_⟩
      -- A pool that runs has not closed its ready queue.
      intro running
      have isOpen := h.sender.mpr running
      rw [closed] at isOpen
      contradiction
  | leave found =>
      obtain ⟨others, seat⟩ := h.numbered.seat_of_phase? found
      exact h.retire found
        (.inl (h.gone _ (seat.perm.mem_iff.mpr List.mem_cons_self) rfl).1)

theorem of_same (h : Attended p) (numbered : Numbered q) (workers : q.workers = p.workers)
    (ready : q.ready = p.ready) (stop : q.stopping = p.stopping) (life : q.runState = p.runState)
    (sender : q.senderOpen = p.senderOpen) (journal : stranded q.journal = stranded p.journal) :
    Attended q := by
  refine ⟨⟨numbered, stop.trans h.free, life ▸ h.unstopped, by rw [sender, life]; exact h.sender,
    ?_, ?_, ?_⟩, ?_⟩
  · rw [workers, ready, life]
    exact h.gone
  · rw [workers, ready, life]
    exact h.atEnd
  · rw [workers, ready, journal]
    exact h.alone
  · rw [workers, ready, life]
    exact h.shut

/-- A pool that takes jobs has no disconnected worker. -/
theorem connected {w : Worker J} (h : Attended p) (running : p.runState = .running)
    (mem : w ∈ p.workers) : w.phase ≠ .disconnected :=
  fun gone => (h.gone w mem gone).2 running

/-- A worker starts, whatever else is queued by then. -/
theorem started (phase : Phase J) (h : Attended p) (running : p.runState = .running)
    (new : phase ≠ .disconnected) (numbered : Numbered q)
    (workers : q.workers = p.workers ++ [⟨p.attempts + 1, phase⟩])
    (stop : q.stopping = p.stopping) (life : q.runState = p.runState)
    (sender : q.senderOpen = p.senderOpen) (journal : stranded q.journal = false) :
    Attended q := by
  have staffed : q.workers ≠ [] := by simp [workers]
  refine ⟨⟨numbered, stop.trans h.free, life ▸ h.unstopped, by rw [sender, life]; exact h.sender,
    ?_, ?_, ?_⟩, fun _ => .inl staffed⟩
  · intro w mem gone
    rw [workers] at mem
    rcases List.mem_append.mp mem with old | fresh
    · exact absurd gone (h.connected running old)
    · rw [List.mem_singleton.mp fresh] at gone
      exact absurd gone new
  · intro atEnd
    rw [life, running] at atEnd
    contradiction
  · rw [journal]
    exact ⟨fun left => absurd left.2 staffed, fun never => by contradiction⟩

theorem executes {job : J} {r : Except (RejectedJob J) Unit} (h : Attended p)
    (step : Executes job p r q) : Attended q := by
  have numbered := h.numbered.executes step
  cases step with
  | refused => exact h
  | unstarted => exact h.of_same numbered rfl rfl rfl rfl rfl rfl
  | started running =>
      exact h.started (.assigned job) running (by simp) numbered rfl rfl rfl rfl rfl
  | queued running core isOpen room staffed =>
      refine ⟨⟨numbered, h.free, h.unstopped, h.sender, ?_, ?_, ?_⟩, fun _ => .inl staffed⟩
      · exact fun w mem gone => absurd gone (h.connected running mem)
      · intro atEnd
        rw [show p.runState = .terminated from atEnd] at running
        contradiction
      · rw [← show _ ↔ stranded p.journal = true from h.alone]
        exact ⟨fun left => absurd left.2 staffed, fun left => absurd left.2 staffed⟩
  | queuedFirst running =>
      exact h.started .checking running (by simp) numbered rfl rfl rfl rfl rfl
  | queuedAlone why running core isOpen room idle =>
      have waits : p.ready ++ [job] ≠ [] := by simp
      refine ⟨⟨numbered, h.free, h.unstopped, h.sender, ?_, ?_, ?_⟩, fun _ => .inr waits⟩
      · exact fun w mem gone => absurd gone (h.connected running mem)
      · intro atEnd
        rw [show p.runState = .terminated from atEnd] at running
        contradiction
      · exact ⟨fun _ => rfl, fun _ => ⟨waits, idle⟩⟩
  | handed w running core isOpen places waits =>
      obtain ⟨inside, phase⟩ := firstWaiting_mem waits
      exact h.advance (.received job) (h.numbered.phase?_eq inside) numbered
        (fun _ seat => seat.setPhase _ rfl) rfl rfl rfl rfl id (by simp)

theorem setCoreSize (h : Attended p) (size : Nat) : Attended (p.setCoreSize size) :=
  setCoreSize_of size p (fun _ => h)
    (fun _ => h.of_same (h.numbered.of_workers rfl (Nat.le_refl _)) rfl rfl rfl rfl rfl rfl)
    (fun _ h running _ _ =>
      h.started .checking running (by simp) (h.numbered.started .checking) rfl rfl rfl rfl rfl)
    (fun _ _ h _ =>
      h.of_same (h.numbered.of_workers rfl (Nat.le_succ _)) rfl rfl rfl rfl rfl rfl)

theorem shutdown (h : Attended p) : Attended p.shutdown := by
  unfold ThreadPool.shutdown
  by_cases running : p.runState = .running
  · rw [if_pos running]
    refine Kept.tryTerminate ⟨h.numbered.of_workers rfl (Nat.le_refl _), h.free, ?_, ?_, ?_, ?_,
      h.alone⟩
    · intro stopped
      contradiction
    · exact ⟨fun never => by contradiction, fun never => by contradiction⟩
    · exact fun w mem gone => absurd gone (h.connected running mem)
    · intro atEnd
      contradiction
  · rw [if_neg running]
    exact Kept.tryTerminate ⟨h.numbered.of_workers rfl (Nat.le_refl _), h.free, h.unstopped,
      ⟨fun never => by contradiction, fun never => absurd never running⟩, h.gone, h.atEnd, h.alone⟩

/-- No step but the beginning of a stop leaves a queued job alone without a note of it. -/
theorem step {deed : Deed J} (h : Attended p) (step : Next p deed q) (calm : deed ≠ .stopBegun) :
    Attended q := by
  cases step with
  | accept job free call => exact h.executes (ThreadPool.executes call)
  | refuse job why free call => exact h.executes (ThreadPool.executes call)
  | setCoreSize size => exact h.setCoreSize size
  | setCoreTimeout allowed =>
      exact h.of_same (h.numbered.of_workers rfl (Nat.le_refl _)) rfl rfl rfl rfl rfl rfl
  | shutdown => exact h.shutdown
  | beginStop => contradiction
  | drain held =>
      rw [h.free] at held
      contradiction
  | endStop held =>
      rw [h.free] at held
      contradiction
  | finish number found act => exact h.acts (ThreadPool.acts act)
  | work number act other did => exact h.acts (ThreadPool.acts did)

end Attended

theorem attended_opened (coreSize maxSize : Nat) (keepAlive : Duration) (capacity : Nat)
    (name : String) (startFault : Nat → Option StartFault) :
    Attended (opened (J := J) coreSize maxSize keepAlive capacity name startFault) where
  numbered := ⟨List.nodup_nil, fun _ mem => nomatch mem⟩
  free := rfl
  unstopped never := by contradiction
  sender := ⟨fun _ => rfl, fun _ => rfl⟩
  gone _ mem := nomatch mem
  atEnd terminated := by contradiction
  alone := ⟨fun never => absurd rfl never.1, fun never => by contradiction⟩
  shut never := by contradiction

theorem Runs.attended {deeds : List (Deed J)} {p q : ThreadPool J} (h : Attended p)
    (run : Runs p deeds q) (calm : ∀ deed ∈ deeds, deed ≠ .stopBegun) : Attended q := by
  induction run with
  | refl => exact h
  | tail _ step ih =>
      have before := ih fun deed mem => calm deed (List.mem_append_left _ mem)
      exact before.step step (calm _ (List.mem_append_right _ (List.mem_singleton_self _)))

/-! ### The way to termination -/

/-- How many more acts a worker can need, apart from queued jobs, once the ready queue is closed. -/
def Phase.effort : Phase J → Nat
  | .assigned _ | .received _ => 6
  | .running _ => 5
  | .completing _ | .timedOut => 4
  | .checking => 3
  | .waiting => 2
  | .disconnected => 1

/-- How many more acts the workers can need. -/
def effort (p : ThreadPool J) : Nat :=
  5 * p.ready.length + (p.workers.map fun w => Phase.effort w.phase).sum

theorem Seat.effort_sum {workers others : List (Worker J)} {number : Nat} {phase : Phase J}
    (h : Seat workers number phase others) :
    (workers.map fun w => Phase.effort w.phase).sum =
      Phase.effort phase + (others.map fun w => Phase.effort w.phase).sum := by
  rw [(h.perm.map _).sum_nat, List.map_cons, List.sum_cons]

section

variable {p q : ThreadPool J} {number : Nat}

theorem effort_advance_lt {phase phase' : Phase J} (h : Numbered p)
    (found : p.phase? number = some phase)
    (after : ∀ others, Seat p.workers number phase others → Seat q.workers number phase' others)
    (less : 5 * q.ready.length + Phase.effort phase' < 5 * p.ready.length + Phase.effort phase) :
    q.effort < p.effort := by
  obtain ⟨others, seat⟩ := h.seat_of_phase? found
  unfold effort
  rw [seat.effort_sum, (after others seat).effort_sum]
  omega

theorem effort_retire_lt {phase : Phase J} (h : Numbered p)
    (found : p.phase? number = some phase) : (p.retire number).effort < p.effort := by
  obtain ⟨others, seat⟩ := h.seat_of_phase? found
  have needs : 0 < Phase.effort phase := by cases phase <;> simp [Phase.effort]
  have ready : (p.retire number).ready = p.ready := by simp [retire]
  unfold effort
  rw [seat.effort_sum, (seat.retire.map _).sum_nat, ready]
  omega

/-- Each act brings the workers nearer to the end. -/
theorem Acts.effort_lt {act : WorkerAct} (step : Acts number p act q) (h : Numbered p)
    (closed : p.senderOpen = false) : q.effort < p.effort := by
  cases step with
  | halt found | expire found | leave found => exact effort_retire_lt h found
  | settle found =>
      exact effort_advance_lt h found (fun _ seat => seat.beginWaiting) (Nat.lt_succ_self _)
  | receive found ready =>
      refine effort_advance_lt h found (fun _ seat => seat.setPhase _ rfl) ?_
      rw [ready]
      simp only [setPhase, List.length_cons, Phase.effort]
      omega
  | timeOut found empty isOpen =>
      rw [closed] at isOpen
      contradiction
  | begin found | count found | endRun found | endCompletion found | stay found | notice found =>
      exact effort_advance_lt h found (fun _ seat => seat.setPhase _ rfl) (Nat.lt_succ_self _)

theorem Acts.stranded {act : WorkerAct} (step : Acts number p act q) :
    stranded q.journal = stranded p.journal := by
  have retired : ThreadPool.stranded (p.retire number).journal = ThreadPool.stranded p.journal := by
    unfold retire
    rcases tryTerminate_cases { p with workers := p.workers.filter (·.number ≠ number) } with
      ⟨ended, -⟩ | ⟨same, -⟩
    · rw [ended]
      rfl
    · rw [same]
  cases step with
  | halt | expire | leave => exact retired
  | _ => rfl

/-- A worker of a pool that is shut down can always go on. -/
theorem Attended.can_act {w : Worker J} (h : Attended p) (closed : p.senderOpen = false)
    (mem : w ∈ p.workers) : ∃ act, (p.act? w.number act).isSome := by
  obtain ⟨act, -, can⟩ := goes_on h.free (h.numbered.phase?_eq mem) fun _ => .inr closed
  exact ⟨act, can⟩

theorem next_of_act {act : WorkerAct} (did : p.act? number act = some q) :
    ∃ deed, deed.byWorker = true ∧ Next p deed q := by
  by_cases ends : act = .endCompletion
  · subst ends
    cases acts did with
    | @endCompletion job found => exact ⟨.finished job, rfl, .finish number found did⟩
  · exact ⟨.worked number act, rfl, .work number act ends did⟩

theorem act_of_next {deed : Deed J} (step : Next p deed q) (worker : deed.byWorker = true) :
    ∃ number act, Acts number p act q := by
  cases step with
  | finish number found did => exact ⟨number, .endCompletion, acts did⟩
  | work number act other did => exact ⟨number, act, acts did⟩
  | _ => contradiction

theorem Attended.closed (h : Attended p) (shut : p.runState ≠ .running) : p.senderOpen = false := by
  rw [← Bool.not_eq_true, h.sender]
  exact shut

theorem Runs.still_shut {deeds : List (Deed J)} (run : Runs p deeds q)
    (shut : p.runState ≠ .running) : q.runState ≠ .running := by
  intro running
  have rank := run.rank_le
  rw [running] at rank
  cases life : p.runState <;> simp [life, RunState.rank] at shut rank

/-- Shut down, the workers come to an end in any order of their acts. -/
theorem Runs.effort_le {deeds : List (Deed J)} (run : Runs p deeds q) (h : Attended p)
    (shut : p.runState ≠ .running) (workers : ∀ deed ∈ deeds, deed.byWorker = true) :
    deeds.length + q.effort ≤ p.effort := by
  induction run with
  | refl => exact Nat.le_of_eq (Nat.zero_add _)
  | @tail deeds deed q r run step ih =>
      have before : ∀ deed ∈ deeds, deed.byWorker = true :=
        fun deed mem => workers deed (List.mem_append_left _ mem)
      have attended : Attended q := by
        refine run.attended h ?_
        rintro deed mem rfl
        have never := before _ mem
        contradiction
      obtain ⟨number, act, did⟩ :=
        act_of_next step (workers _ (List.mem_append_right _ (List.mem_singleton_self _)))
      have less := did.effort_lt attended.numbered (attended.closed (run.still_shut shut))
      have most := ih before
      rw [List.length_append, List.length_singleton]
      omega

theorem Attended.staffed (h : Attended p) (shut : p.runState ≠ .running)
    (going : p.runState ≠ .terminated) (staffed : stranded p.journal = false) : p.workers ≠ [] := by
  have shutdown : p.runState = .shutdown := by
    have unstopped := h.unstopped
    cases life : p.runState <;> simp [life] at going shut unstopped ⊢
  intro none
  rcases h.shut shutdown with some | ready
  · exact some none
  · rw [h.alone.mp ⟨ready, none⟩] at staffed
    contradiction

/-- Shut down, the workers bring the pool to termination, unless a queued job is left alone. -/
theorem Attended.terminates (h : Attended p) (shut : p.runState ≠ .running)
    (staffed : stranded p.journal = false) :
    ∃ deeds q, Runs p deeds q ∧ (∀ deed ∈ deeds, deed.byWorker = true) ∧
      q.runState = .terminated := by
  induction left : p.effort using Nat.strongRecOn generalizing p with
  | ind n ih =>
      subst left
      by_cases atEnd : p.runState = .terminated
      · exact ⟨[], p, .refl, by simp, atEnd⟩
      obtain ⟨w, mem⟩ := List.exists_mem_of_ne_nil _ (h.staffed shut atEnd staffed)
      obtain ⟨act, can⟩ := h.can_act (h.closed shut) mem
      obtain ⟨q, did⟩ := Option.isSome_iff_exists.mp can
      have step := ThreadPool.acts did
      obtain ⟨deed, worker, next⟩ := next_of_act did
      have still : q.runState ≠ .running := (Runs.refl.tail next).still_shut shut
      obtain ⟨deeds, r, run, all, ended⟩ :=
        ih _ (step.effort_lt h.numbered (h.closed shut)) (h.acts step) still
          (step.stranded.trans staffed) rfl
      exact ⟨deed :: deeds, r, run.head next, List.forall_mem_cons.mpr ⟨worker, all⟩, ended⟩

/-- Once the pool is shut down, a job that was left alone stays alone. -/
theorem Next.stranded {deed : Deed J} (step : Next p deed q) (shut : p.runState ≠ .running)
    (calm : deed ≠ .stopBegun) (h : Attended p) (left : stranded p.journal = true) :
    ThreadPool.stranded q.journal = true := by
  cases step with
  | accept job free call =>
      cases executes call <;> contradiction
  | refuse job why free call =>
      cases executes call with
      | refused => exact left
      | unstarted => contradiction
  | setCoreSize size =>
      refine (setCoreSize_of (P := fun q => ThreadPool.stranded q.journal = true ∧
        q.runState = p.runState) size p (fun _ => ⟨left, rfl⟩) (fun _ => ⟨left, rfl⟩) ?_ ?_).1
      · intro q same running
        exact absurd (same.2.symm.trans running) shut
      · exact fun q why same _ => same
  | setCoreTimeout => exact left
  | shutdown =>
      unfold ThreadPool.shutdown
      rw [if_neg shut]
      rcases tryTerminate_cases { p with senderOpen := false } with ⟨ended, -⟩ | ⟨same, -⟩
      · rw [ended]
        exact left
      · rw [same]
        exact left
  | beginStop => contradiction
  | drain held | endStop held =>
      rw [h.free] at held
      contradiction
  | finish number found act => rw [(acts act).stranded, left]
  | work number act other did => rw [(acts did).stranded, left]

/-- Only a stop can end a pool that was shut down with a job left alone. -/
theorem Attended.never_terminates {deeds : List (Deed J)} (h : Attended p)
    (shut : p.runState ≠ .running) (left : stranded p.journal = true) (run : Runs p deeds q)
    (calm : ∀ deed ∈ deeds, deed ≠ .stopBegun) : q.runState ≠ .terminated := by
  have alone : stranded q.journal = true := by
    induction run with
    | refl => exact left
    | tail run step ih =>
        have before := fun deed mem => calm deed (List.mem_append_left _ mem)
        exact step.stranded (run.still_shut shut)
          (calm _ (List.mem_append_right _ (List.mem_singleton_self _)))
          (run.attended h before) (ih before)
  have attended := run.attended h calm
  intro atEnd
  exact (attended.alone.mpr alone).1 (attended.atEnd atEnd).2

end

/-- In a run without stops, queued jobs have a worker just as long as `stranded` does not find one
that was left alone. Then a pool that is shut down has workers that can bring it to termination,
and they cannot put it off for ever; otherwise it never terminates. -/
theorem queued_jobs_attended_iff (coreSize maxSize : Nat) (keepAlive : Duration) (capacity : Nat)
    (name : String) (startFault : Nat → Option StartFault) {deeds : List (Deed J)}
    {p : ThreadPool J}
    (run : Runs (opened coreSize maxSize keepAlive capacity name startFault) deeds p)
    (calm : ∀ deed ∈ deeds, deed ≠ .stopBegun) :
    ((p.ready ≠ [] → p.workers ≠ []) ↔ stranded p.journal = false) ∧
    (p.runState ≠ .running → p.runState ≠ .terminated →
      ((p.workers ≠ [] ∧ ∃ deeds' q, Runs p deeds' q ∧ (∀ deed ∈ deeds', deed.byWorker = true) ∧
          q.runState = .terminated) ↔ stranded p.journal = false) ∧
      ∀ deeds' q, Runs p deeds' q → (∀ deed ∈ deeds', deed.byWorker = true) →
        deeds'.length ≤ p.effort) ∧
    (p.runState ≠ .running → stranded p.journal = true → ∀ deeds' q, Runs p deeds' q →
      (∀ deed ∈ deeds', deed ≠ .stopBegun) → q.runState ≠ .terminated) := by
  have attended : Attended p :=
    run.attended (attended_opened coreSize maxSize keepAlive capacity name startFault) calm
  have present : (p.ready ≠ [] → p.workers ≠ []) ↔ stranded p.journal = false := by
    rw [← Bool.not_eq_true, ← attended.alone, not_and]
  refine ⟨present, fun shut going => ⟨⟨?_, ?_⟩, ?_⟩,
    fun shut left _ _ later calm => attended.never_terminates shut left later calm⟩
  · rintro ⟨staffed, -⟩
    exact present.mp fun _ => staffed
  · intro staffed
    exact ⟨attended.staffed shut going staffed, attended.terminates shut staffed⟩
  · intro deeds' q later workers
    exact Nat.le_trans (Nat.le_add_right _ _) (later.effort_le attended shut workers)

/-- A worker that starts for the first queued job ends the pool after the shutdown. -/
theorem queued_jobs_attended_iff_with_late_worker :
    ∃ p : ThreadPool String,
      Runs (opened 0 1 ⟨60⟩ 1 "pool" fun _ => none) [.accepted "a", .shutdown] p ∧
      p.ready = ["a"] ∧ p.workers ≠ [] ∧
      ∃ deeds q, Runs p deeds q ∧ (∀ deed ∈ deeds, deed.byWorker = true) ∧
        q.runState = .terminated := by
  have run := Runs.refl (p := opened (J := String) 0 1 ⟨60⟩ 1 "pool" fun _ => none)
    |>.tail (.accept "a" rfl rfl) |>.tail (.shutdown rfl)
  have shut := (queued_jobs_attended_iff 0 1 ⟨60⟩ 1 "pool" (fun _ => none) run
    (by rintro deed mem rfl; simp at mem)).2.1 (by decide) (by decide)
  obtain ⟨staffed, ends⟩ := shut.1.mpr rfl
  exact ⟨_, run, rfl, staffed, ends⟩

/-- A job is taken and queued although there is no worker and none starts. After the shutdown
nobody is there to run it, and the pool never terminates. -/
theorem queued_job_left_alone :
    ∃ p : ThreadPool String,
      Runs (opened 0 1 ⟨60⟩ 1 "pool" fun _ => some (.system 11)) [.accepted "a", .shutdown] p ∧
      p.ready ≠ [] ∧ p.workers = [] ∧ p.runState = .shutdown ∧
      (∀ number act, p.act? number act = none) ∧
      ∀ deeds q, Runs p deeds q → (∀ deed ∈ deeds, deed ≠ .stopBegun) →
        q.runState ≠ .terminated := by
  have run := Runs.refl (p := opened (J := String) 0 1 ⟨60⟩ 1 "pool" fun _ => some (.system 11))
    |>.tail (.accept "a" rfl rfl) |>.tail (.shutdown rfl)
  have attended := run.attended (attended_opened 0 1 ⟨60⟩ 1 "pool" _)
    (by rintro deed mem rfl; simp at mem)
  refine ⟨_, run, List.cons_ne_nil _ _, rfl, rfl, ?_, ?_⟩
  · intro number act
    cases act <;> rfl
  · exact fun _ _ later calm => attended.never_terminates (by decide) rfl later calm

end ThreadPool

end TwoTier
