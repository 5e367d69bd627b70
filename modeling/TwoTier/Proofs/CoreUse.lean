import TwoTier.Proofs.Growth
import TwoTier.Proofs.Panics
import TwoTier.Proofs.PoolLine

/-!
Whether a pool uses its core workers.

Jobs are handed in and core sizes set only when nothing moves (`Crew.Resting`): each worker runs a
job that waits at its gate, or waits itself at an empty queue, and all that may still happen without
a call is that keep-alives run out. In between the workers go on in any order and gates are opened at
any time (`Crew.Paced`). All threads start.

The invariant (`Provided`) is that the queue is provided for: the pool has as many workers as its
core size, and one at least, or a spare worker on its way to the queue for each queued job. Lowering
the core size and starting workers beyond it keep the first, and raising the core size starts
workers until one or the other holds. At rest no worker is spare, so while jobs are queued the core
workers are there, and all workers run jobs (`core_workers_busy`).
-/

namespace TwoTier

variable {J ν : Type}

namespace ThreadPool

/-! ### Queues that are provided for -/

/-- Whether a worker comes to the queue next, whatever happens meanwhile. -/
def Phase.spare : Phase J → Nat
  | .checking | .waiting | .completing _ => 1
  | .assigned _ | .received _ | .running _ | .timedOut | .disconnected => 0

/-- How many workers come to the queue next. -/
def spare (workers : List (Worker J)) : Nat := (workers.map fun w => Phase.spare w.phase).sum

theorem Seat.spare_eq {workers others : List (Worker J)} {number : Nat} {phase : Phase J}
    (h : Seat workers number phase others) : spare workers = Phase.spare phase + spare others := by
  unfold spare
  rw [(h.perm.map _).sum_nat, List.map_cons, List.sum_cons]

theorem spare_append (old new : List (Worker J)) : spare (old ++ new) = spare old + spare new := by
  unfold spare
  rw [List.map_append, List.sum_append]

theorem spare_of_checking {new : List (Worker J)} (checking : ∀ w ∈ new, w.phase = .checking) :
    spare new = new.length := by
  induction new with
  | nil => rfl
  | cons w new ih =>
      obtain ⟨first, rest⟩ := List.forall_mem_cons.mp checking
      have ih := ih rest
      simp only [spare, List.map_cons, List.sum_cons, List.length_cons, first, Phase.spare] at ih ⊢
      omega

/-- A pool has its core workers, and one at least, or a spare worker for each queued job. -/
def Served (p : ThreadPool J) : Prop :=
  max p.coreSize 1 ≤ p.workers.length ∨ p.ready.length ≤ spare p.workers

/-- Each worker runs a job, or waits at an empty queue. -/
def AtEase (p : ThreadPool J) : Prop :=
  ∀ w ∈ p.workers, (∃ job, w.phase = .running job) ∨ w.phase = .waiting ∧ p.ready = []

/-- What a running pool keeps while all threads start and calls are made at rest. -/
structure Provided (p : ThreadPool J) : Prop extends Attended p where
  running : p.runState = .running
  sound : ∀ n, p.startFault n = none
  /-- No job is queued while a worker decides whether to leave. -/
  patient : ∀ w ∈ p.workers, w.phase = .timedOut → p.ready = []
  served : Served p

namespace AtEase

variable {p : ThreadPool J} {w : Worker J}

theorem not_timedOut (h : AtEase p) (mem : w ∈ p.workers) : w.phase ≠ .timedOut := by
  intro late
  rcases h w mem with ⟨job, runs⟩ | ⟨waits, -⟩
  · rw [late] at runs
    contradiction
  · rw [late] at waits
    contradiction

theorem all_run (h : AtEase p) (waits : p.ready ≠ []) (mem : w ∈ p.workers) :
    ∃ job, w.phase = .running job := by
  rcases h w mem with runs | ⟨-, empty⟩
  · exact runs
  · exact absurd empty waits

/-- At rest no worker is spare for a queued job. -/
theorem spare_eq_zero (h : AtEase p) (waits : p.ready ≠ []) : spare p.workers = 0 := by
  apply List.sum_eq_zero
  intro n mem
  obtain ⟨w, among, rfl⟩ := List.mem_map.mp mem
  obtain ⟨job, runs⟩ := h.all_run waits among
  rw [runs]
  rfl

/-- At rest a pool whose queue is provided for has its core workers, or no queued job. -/
theorem core_of_served (h : AtEase p) (served : Served p) (waits : p.ready ≠ []) :
    max p.coreSize 1 ≤ p.workers.length := by
  rcases served with enough | each
  · exact enough
  · rw [h.spare_eq_zero waits] at each
    exact absurd (List.eq_nil_of_length_eq_zero (Nat.le_zero.mp each)) waits

end AtEase

namespace Provided

variable {number : Nat} {act : WorkerAct} {job : J} {p q : ThreadPool J}

/-- An empty queue is provided for. -/
theorem of_empty (attended : Attended q) (running : q.runState = .running)
    (sound : ∀ n, q.startFault n = none) (empty : q.ready = []) : Provided q := by
  refine ⟨attended, running, sound, fun _ _ _ => empty, .inr ?_⟩
  rw [empty]
  exact Nat.zero_le _

/-- A worker goes on, and takes no more jobs than it was spare for. -/
theorem advance {phase : Phase J} (phase' : Phase J) (h : Provided p)
    (found : p.phase? number = some phase) (attended : Attended q)
    (after : ∀ others, Seat p.workers number phase others → Seat q.workers number phase' others)
    (life : q.runState = p.runState) (faults : q.startFault = p.startFault)
    (core : q.coreSize = p.coreSize)
    (ready : q.ready.length + Phase.spare phase ≤ p.ready.length + Phase.spare phase')
    (less : q.ready.length ≤ p.ready.length) (late : phase' = .timedOut → q.ready = []) :
    Provided q := by
  obtain ⟨others, seat⟩ := h.numbered.seat_of_phase? found
  have seat' := after others seat
  refine ⟨attended, life.trans h.running, fun n => faults ▸ h.sound n, ?_, ?_⟩
  · intro w mem timedOut
    rcases List.mem_cons.mp (seat'.perm.mem_iff.mp mem) with rfl | other
    · exact late timedOut
    · have empty := h.patient w (seat.perm.mem_iff.mpr (List.mem_cons_of_mem _ other)) timedOut
      rw [empty, List.length_nil] at less
      exact List.eq_nil_of_length_eq_zero (Nat.le_zero.mp less)
  · have size : q.workers.length = p.workers.length :=
      seat'.perm.length_eq.trans seat.perm.length_eq.symm
    rcases h.served with enough | each
    · left
      rw [core, size]
      exact enough
    · right
      rw [seat.spare_eq] at each
      rw [seat'.spare_eq]
      omega

/-- Whatever a worker does keeps the queue provided for. -/
theorem acts (h : Provided p) (step : Acts number p act q) : Provided q := by
  have attended := h.toAttended.acts step
  cases step with
  | begin found | count found | endRun found | endCompletion found | stay found =>
      apply h.advance _ found attended (fun _ seat => seat.setPhase _ rfl) rfl rfl rfl
      · simp [setPhase, Phase.spare]
      · exact Nat.le_refl _
      · simp
  | settle found =>
      exact h.advance _ found attended (fun _ seat => seat.beginWaiting) rfl rfl rfl
        (Nat.le_refl _) (Nat.le_refl _) (by simp)
  | receive found ready =>
      apply h.advance _ found attended (fun _ seat => seat.setPhase _ rfl) rfl rfl rfl
      · rw [ready]
        exact Nat.le_refl _
      · rw [ready]
        exact Nat.le_succ _
      · simp
  | timeOut _ empty =>
      -- the worker is spare no more, but there is no job for it
      exact of_empty attended h.running h.sound empty
  | expire found =>
      obtain ⟨others, seat⟩ := h.numbered.seat_of_phase? found
      have empty := h.patient _ (seat.perm.mem_iff.mpr List.mem_cons_self) rfl
      rw [retire_of_running h.running] at attended ⊢
      exact of_empty attended h.running h.sound empty
  | halt _ _ stopped =>
      rw [h.running] at stopped
      contradiction
  | notice _ _ closed =>
      rw [h.sender.mpr h.running] at closed
      contradiction
  | leave found =>
      obtain ⟨others, seat⟩ := h.numbered.seat_of_phase? found
      exact absurd rfl (h.connected h.running (seat.perm.mem_iff.mpr List.mem_cons_self))

/-- Jobs are queued only where the core workers are there. -/
theorem served_executes {r : Except (RejectedJob J) Unit} (h : Provided p)
    (step : Executes job p r q) : Served q := by
  cases step with
  | refused => exact h.served
  | unstarted _ _ fault | queuedAlone _ _ _ _ _ _ fault =>
      rw [h.sound] at fault
      contradiction
  | started =>
      rcases h.served with enough | each
      · left
        change max p.coreSize 1 ≤ (p.workers ++ [_]).length
        rw [List.length_append]
        exact Nat.le_succ_of_le enough
      · right
        change p.ready.length ≤ spare (p.workers ++ [_])
        rw [spare_append]
        exact Nat.le_add_right_of_le each
  | queued _ core _ _ staffed =>
      left
      exact Nat.max_le.mpr ⟨core, List.length_pos_of_ne_nil staffed⟩
  | queuedFirst _ core =>
      left
      change max p.coreSize 1 ≤ (p.workers ++ [_]).length
      rw [core, List.length_append]
      exact Nat.le_add_left _ _
  | handed w _ core _ _ waits =>
      left
      change max p.coreSize 1 ≤ (List.map _ p.workers).length
      rw [List.length_map]
      exact Nat.max_le.mpr ⟨core, List.length_pos_of_mem (firstWaiting_mem waits).1⟩

/-- No worker comes to the end of its keep-alive by a job that is handed in. -/
theorem mem_of_timedOut {r : Except (RejectedJob J) Unit} (step : Executes job p r q)
    {w : Worker J} (mem : w ∈ q.workers) (late : w.phase = .timedOut) : w ∈ p.workers := by
  cases step with
  | refused | unstarted | queued | queuedAlone => exact mem
  | started | queuedFirst =>
      rcases List.mem_append.mp (show w ∈ p.workers ++ [_] from mem) with old | fresh
      · exact old
      · rw [List.mem_singleton.mp fresh] at late
        contradiction
  | handed u =>
      obtain ⟨v, among, rfl⟩ := List.mem_map.mp mem
      by_cases same : v.number = u.number
      · rw [if_pos same] at late
        contradiction
      · rwa [if_neg same]

/-- Handing in a job at rest keeps the queue provided for. -/
theorem executes {r : Except (RejectedJob J) Unit} (h : Provided p) (rests : AtEase p)
    (step : Executes job p r q) : Provided q := by
  refine ⟨h.toAttended.executes step, step.runState.trans h.running, ?_, ?_, h.served_executes step⟩
  · intro n
    rw [step.startFault]
    exact h.sound n
  · intro w mem late
    exact absurd late (rests.not_timedOut (mem_of_timedOut step mem late))

/-- So does setting the core size at rest: if it goes up, workers start until it is reached or each
queued job has one. -/
theorem setCoreSize (size : Nat) (h : Provided p) (rests : AtEase p) :
    Provided (p.setCoreSize size) := by
  obtain ⟨new, workers, count, checking, ready⟩ := setCoreSize_sound size p h.running h.sound
  have attended := h.toAttended.setCoreSize size
  have running := (runState_setCoreSize size p).trans h.running
  have sound : ∀ n, (p.setCoreSize size).startFault n = none := by
    intro n
    rw [startFault_setCoreSize]
    exact h.sound n
  by_cases empty : p.ready = []
  · exact of_empty attended running sound (ready.trans empty)
  refine ⟨attended, running, sound, ?_, ?_⟩
  · intro w mem late
    rw [workers] at mem
    rcases List.mem_append.mp mem with old | fresh
    · exact absurd late (rests.not_timedOut old)
    · rw [checking w fresh] at late
      contradiction
  · have enough := rests.core_of_served h.served empty
    unfold Served
    rw [workers, ready, coreSize_setCoreSize, spare_append, spare_of_checking checking,
      List.length_append]
    omega

end Provided

end ThreadPool

/-! ### Runs with calls at rest -/

namespace Crew

open ThreadPool (Provided AtEase Executes)

variable {s t : Crew ν}

/-- Nothing goes on without a call but that keep-alives run out. -/
def Resting (s : Crew ν) : Prop :=
  ∀ w ∈ s.pool.workers, ∀ t, workerStep? w s = some t → actPool? w.number .timeOut s = some t

theorem resting_of_settled (h : s.step? = none) : Resting s := by
  intro w mem t did
  rw [List.findSome?_eq_none_iff.mp h w mem] at did
  contradiction

/-- Jobs are handed in and core sizes set at rest, and nobody shuts the pool down. -/
def Timely (s : Crew ν) : Moment ν → Prop
  | .submit _ _ _ | .request (.setCoreSize _) => Resting s
  | .request .shutdown | .request .beginStop | .request .drainOne | .request .endStop => False
  | _ => True

/-- What can come of a pool of which nobody asks anything before it rests. -/
inductive Paced (s : Crew ν) : Crew ν → Prop where
  | refl : Paced s s
  | tail {t u : Crew ν} (m : Moment ν) : Paced s t → t.Timely m → t.after? m = some u → Paced s u

/-! ### What moments do to the pool -/

section Pool

variable {number : Nat} {act : WorkerAct} {job : Job ν}

theorem pool_begins : (begins number job s).pool = s.pool := by
  unfold begins
  split <;> rfl

theorem pool_completes : (completes number job s).pool = s.pool := by
  unfold completes
  split <;> rfl

theorem pool_ends (h : ends? number job s = some t) : t.pool = s.pool := by
  unfold ends? at h
  split at h
  · exact Option.some.inj h ▸ rfl
  · obtain ⟨-, h⟩ := Option.ite_none_right_eq_some.mp h
    exact Option.some.inj h ▸ rfl

theorem act_of_actPool (h : actPool? number act s = some t) :
    s.pool.act? number act = some t.pool := by
  obtain ⟨pool, took, rfl⟩ := Option.map_eq_some_iff.mp h
  exact took

/-- A worker that goes on does an act on the pool. -/
theorem act_of_workerStep {w : Worker (Job ν)} (h : workerStep? w s = some t) :
    ∃ act, s.pool.act? w.number act = some t.pool := by
  unfold workerStep? at h
  split at h
  · obtain ⟨u, ended, took⟩ := Option.bind_eq_some_iff.mp h
    exact ⟨_, pool_ends ended ▸ act_of_actPool took⟩
  · exact ⟨_, pool_completes (s := s) ▸ act_of_actPool h⟩
  · obtain ⟨u, took, rfl⟩ := Option.map_eq_some_iff.mp h
    exact ⟨_, pool_begins (s := u) ▸ act_of_actPool took⟩
  · obtain ⟨u, took, rfl⟩ := Option.map_eq_some_iff.mp h
    exact ⟨_, pool_begins (s := u) ▸ act_of_actPool took⟩
  · obtain ⟨act, -, took⟩ := Option.bind_eq_some_iff.mp h
    exact ⟨act, act_of_actPool took⟩

/-- A worker that can go on by itself goes on, unless its job holds it up. -/
theorem workerStep_of_act {w : Worker (Job ν)} (found : s.pool.phase? w.number = some w.phase)
    (other : act ≠ .timeOut) (can : (s.pool.act? w.number act).isSome) :
    (∃ job, w.phase = .running job) ∨ (workerStep? w s).isSome := by
  obtain ⟨q, did⟩ := Option.isSome_iff_exists.mp can
  have step := ThreadPool.acts did
  cases step with
  | endRun there => exact .inl ⟨_, Option.some.inj (found.symm.trans there)⟩
  | timeOut => contradiction
  | receive there ready =>
      have phase := Option.some.inj (found.symm.trans there)
      exact .inr (by simp [workerStep?, phase, ThreadPool.idleAct?, ready, actPool?, did])
  | notice there empty closed =>
      have phase := Option.some.inj (found.symm.trans there)
      exact .inr (by simp [workerStep?, phase, ThreadPool.idleAct?, empty, closed, actPool?, did])
  | begin there | settle there | halt there | count there | endCompletion there | expire there
  | stay there | leave there =>
      have phase := Option.some.inj (found.symm.trans there)
      exact .inr (by simp [workerStep?, phase, ThreadPool.idleAct?, actPool?, pool_completes, did])

theorem pool_hand (work : Work ν) (reply : Option Nat) (completion : Option Payload) (s : Crew ν) :
    ∃ job r, Executes job s.pool r (s.hand work reply completion).2.pool := by
  unfold hand
  rcases s.world.makeClosure work reply with ⟨c, world⟩
  dsimp only
  have did := ThreadPool.executed (⟨some c, completion⟩ : Job ν) s.pool
  rcases call : ThreadPool.execute (⟨some c, completion⟩ : Job ν) s.pool with ⟨_ | _, pool⟩ <;>
    rw [call] at did <;> exact ⟨_, _, did⟩

end Pool

/-! ### Rest -/

/-- A worker that can go on at rest waits at an empty queue. -/
theorem Resting.idle {w : Worker (Job ν)} (rests : Resting s) (h : Provided s.pool)
    (mem : w ∈ s.pool.workers) (moves : (workerStep? w s).isSome) :
    w.phase = .waiting ∧ s.pool.ready = [] := by
  obtain ⟨t, did⟩ := Option.isSome_iff_exists.mp moves
  have found := h.numbered.phase?_eq mem
  have late := act_of_actPool (rests w mem t did)
  generalize t.pool = q at late
  cases ThreadPool.acts late with
  | timeOut waits empty =>
      rw [found] at waits
      exact ⟨Option.some.inj waits, empty⟩

theorem Resting.atEase (rests : Resting s) (h : Provided s.pool) : AtEase s.pool := by
  intro w mem
  have found := h.numbered.phase?_eq mem
  by_contra busy
  obtain ⟨free, stirs⟩ := not_or.mp busy
  obtain ⟨act, other, can⟩ :=
    ThreadPool.goes_on h.free found fun waits => .inl fun empty => stirs ⟨waits, empty⟩
  rcases workerStep_of_act found other can with runs | moves
  · exact free runs
  · exact stirs (rests.idle h mem moves)

/-! ### In all runs -/

theorem provided_settleFor (fuel : Nat) (h : Provided s.pool) :
    Provided (settleFor fuel s).pool := by
  induction fuel generalizing s with
  | zero => exact h
  | succ fuel ih =>
      unfold settleFor
      cases moved : s.step? with
      | none => exact h
      | some t =>
          obtain ⟨w, -, did⟩ := List.exists_of_findSome?_eq_some moved
          obtain ⟨act, took⟩ := act_of_workerStep did
          exact ih (h.acts (ThreadPool.acts took))

/-- Every moment of a paced run keeps the queue provided for. -/
theorem provided_after {m : Moment ν} (h : Provided s.pool) (timely : s.Timely m)
    (came : s.after? m = some t) : Provided t.pool := by
  cases m with
  | submit work reply completion =>
      obtain rfl := Option.some.inj came
      obtain ⟨job, r, did⟩ := pool_hand work reply completion s
      exact h.executes (timely.atEase h) did
  | request r =>
      obtain ⟨⟨jobs, pool⟩, asked, rfl⟩ := Option.map_eq_some_iff.mp came
      cases r with
      | setCoreSize size =>
          obtain ⟨-, asked⟩ := Option.ite_none_left_eq_some.mp asked
          obtain ⟨rfl, rfl⟩ := Prod.mk.inj (Option.some.inj asked)
          exact h.setCoreSize size (timely.atEase h)
      | setCoreTimeout allowed =>
          obtain ⟨rfl, rfl⟩ := Prod.mk.inj (Option.some.inj asked)
          have attended := h.toAttended.step (.setCoreTimeout allowed) nofun
          exact ⟨attended, h.running, h.sound, h.patient, h.served⟩
      | shutdown | beginStop | drainOne | endStop => exact timely.elim
  | work number =>
      obtain ⟨w, -, did⟩ := Option.bind_eq_some_iff.mp came
      obtain ⟨act, took⟩ := act_of_workerStep did
      exact h.acts (ThreadPool.acts took)
  | timeOut number => exact h.acts (ThreadPool.acts (act_of_actPool came))
  | settle =>
      obtain rfl := Option.some.inj came
      exact provided_settleFor _ h
  | gather | hangUp | read | openGate =>
      obtain rfl := Option.some.inj came
      exact h

variable {coreSize maxSize capacity : Nat} {keepAlive : Duration} {name : String}

theorem Paced.provided
    (run : Paced (.new (.new coreSize maxSize keepAlive capacity name)) s) : Provided s.pool := by
  induction run with
  | refl =>
      have attended :=
        ThreadPool.attended_opened (J := Job ν) coreSize maxSize keepAlive capacity name fun _ => none
      exact .of_empty attended rfl (fun _ => rfl) rfl
  | tail m _ timely came ih => exact provided_after ih timely came

/-- Whenever a pool of which nobody asks anything before it rests is at rest again and jobs are
queued, its core workers are there, one at least, and all its workers run jobs. -/
theorem core_workers_busy (run : Paced (.new (.new coreSize maxSize keepAlive capacity name)) s)
    (rests : Resting s) (waits : s.pool.ready ≠ []) :
    max s.pool.coreSize 1 ≤ s.pool.workers.length ∧
      ∀ w ∈ s.pool.workers, ∃ job, w.phase = .running job := by
  have provided := run.provided
  have atEase := rests.atEase provided
  constructor
  · exact atEase.core_of_served provided.served waits
  · intro w mem
    exact atEase.all_run waits mem

/-- Three jobs wait behind the one of the only worker. With a core size of three, two workers start
for them, and one job still waits. -/
theorem core_workers_busy_of_three :
    ∃ s : Crew Unit, Paced (.new (.new 1 1 (.ofSeconds 60) 8 "pool")) s ∧ Resting s ∧
      s.pool.ready.length = 1 ∧ s.pool.coreSize = 3 ∧ max s.pool.coreSize 1 ≤ s.pool.workers.length ∧
      ∀ w ∈ s.pool.workers, ∃ job, w.phase = .running job := by
  let gated (name : String) : Moment Unit := .submit ⟨name, true, [], [], .value ()⟩ none none
  have run := Paced.refl (s := Crew.new (ν := Unit) (.new 1 1 (.ofSeconds 60) 8 "pool"))
    |>.tail (gated "a") (resting_of_settled rfl) rfl |>.tail .settle trivial rfl
    |>.tail (gated "b") (resting_of_settled rfl) rfl |>.tail .settle trivial rfl
    |>.tail (gated "c") (resting_of_settled rfl) rfl |>.tail .settle trivial rfl
    |>.tail (gated "d") (resting_of_settled rfl) rfl |>.tail .settle trivial rfl
    |>.tail (.request (.setCoreSize 3)) (resting_of_settled rfl) rfl |>.tail .settle trivial rfl
  obtain ⟨s, run, settled, one, three⟩ : ∃ s : Crew Unit,
      Paced (.new (.new 1 1 (.ofSeconds 60) 8 "pool")) s ∧ s.step? = none ∧
        s.pool.ready.length = 1 ∧ s.pool.coreSize = 3 := ⟨_, run, rfl, rfl, rfl⟩
  have waits : s.pool.ready ≠ [] := List.ne_nil_of_length_pos (one ▸ Nat.one_pos)
  have rests := resting_of_settled settled
  exact ⟨s, run, rests, one, three, core_workers_busy run rests waits⟩

end Crew

end TwoTier
