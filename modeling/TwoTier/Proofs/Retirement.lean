import TwoTier.Proofs.PoolLine

/-!
Workers whose keep-alive ran out.

A worker waits without the lock. Until it has the lock and decides whether to leave, jobs may be
queued, core sizes set and other workers gone, so it decides by what it finds then: the last worker
never leaves a queued job behind, and with core workers that must stay none leaves but from above
the core size (`idle_worker_leaves_safely`). Whether core workers must stay can be set without the
lock; what is set while a worker is about to leave counts as set after it.

Nothing else takes workers from a running pool. So a pool whose core workers must stay keeps as many
workers as it has within its core size, until the core size is lowered (`core_workers_stay`).
-/

namespace TwoTier

variable {J : Type}

/-- A deed after which core workers still stay, at least so many of them. -/
def Deed.KeepsCore (floor : Nat) : Deed J → Prop
  | .coreSizeSet size => floor ≤ size
  | .coreTimeoutSet allowed => allowed = false
  | .shutdown | .stopBegun => False
  | _ => True

namespace ThreadPool

variable {number floor : Nat} {act : WorkerAct} {p q : ThreadPool J} {deeds deeds' : List (Deed J)}

/-! ### Leaving -/

theorem mayTimeOut_iff : p.mayTimeOut = true ↔
    (p.allowCoreTimeout = false → p.coreSize < p.workers.length) ∧
      (p.ready ≠ [] → 1 < p.workers.length) := by
  unfold mayTimeOut workerCount
  cases p.allowCoreTimeout <;> cases p.ready <;> simp

/-- A worker decides to leave after its keep-alive, and is gone. -/
def Expires (number : Nat) (p q : ThreadPool J) : Prop :=
  p.act? number .decide = some q ∧ ∀ w ∈ q.workers, w.number ≠ number

theorem Expires.retire (leaves : Expires number p q) (numbered : Numbered p) :
    p.mayTimeOut = true ∧ q = p.retire number ∧ q.workers.length + 1 = p.workers.length := by
  obtain ⟨decides, gone⟩ := leaves
  cases acts decides with
  | expire found _ may => exact ⟨may, rfl, length_retire numbered found⟩
  | stay found =>
      obtain ⟨others, seat⟩ := numbered.seat_of_phase? found
      have there := (seat.setPhase .checking rfl).perm.mem_iff.mpr List.mem_cons_self
      exact absurd rfl (gone _ there)

/-- Whatever has happened and whoever leaves at the same time: a worker that leaves because its
keep-alive ran out leaves a worker for queued jobs, and with core workers that must stay as many
workers as the core size. -/
theorem idle_worker_leaves_safely {coreSize maxSize capacity : Nat} {keepAlive : Duration}
    {name : String} {startFault : Nat → Option StartFault}
    (run : Runs (opened coreSize maxSize keepAlive capacity name startFault) deeds p)
    (leaves : Expires number p q) :
    q.ready = p.ready ∧ q.coreSize = p.coreSize ∧ (q.ready ≠ [] → q.workers ≠ []) ∧
      (p.allowCoreTimeout = false → q.coreSize ≤ q.workers.length) := by
  obtain ⟨may, left, one⟩ := leaves.retire (run.numbered (numbered_opened ..))
  obtain ⟨core, several⟩ := mayTimeOut_iff.mp may
  have ready : q.ready = p.ready := left ▸ tryTerminate_ready _
  have size : q.coreSize = p.coreSize := left ▸ tryTerminate_coreSize _
  refine ⟨ready, size, ?_, ?_⟩
  · intro waits
    have others := several (ready ▸ waits)
    apply List.ne_nil_of_length_pos
    omega
  · intro staying
    have above := core staying
    omega

/-- The keep-alives of both workers have run out when a job is queued. The first leaves, and leaves
the job to the second. -/
theorem idle_worker_leaves_to_another :
    ∃ (deeds : List (Deed String)) (p q : ThreadPool String),
      Runs (opened 1 2 ⟨60⟩ 1 "pool" fun _ => none) deeds p ∧ Expires 1 p q ∧
      p.workers.map Worker.number = [2, 1] ∧ p.allowCoreTimeout = false ∧ q.ready = ["d"] ∧
      q.workers ≠ [] ∧ q.coreSize ≤ q.workers.length := by
  have run := Runs.refl (p := opened (J := String) 1 2 ⟨60⟩ 1 "pool" fun _ => none)
    |>.tail (.accept "a" rfl rfl) |>.tail (.accept "b" rfl rfl) |>.tail (.accept "c" rfl rfl)
    |>.tail (.work 1 .begin nofun rfl) |>.tail (.work 1 .endRun nofun rfl)
    |>.tail (.finish 1 rfl rfl) |>.tail (.work 1 .check nofun rfl)
    |>.tail (.work 1 .receive nofun rfl) |>.tail (.work 1 .count nofun rfl)
    |>.tail (.work 2 .begin nofun rfl) |>.tail (.work 2 .endRun nofun rfl)
    |>.tail (.finish 2 rfl rfl) |>.tail (.work 2 .check nofun rfl)
    |>.tail (.work 2 .timeOut nofun rfl) |>.tail (.work 1 .endRun nofun rfl)
    |>.tail (.finish 1 rfl rfl) |>.tail (.work 1 .check nofun rfl)
    |>.tail (.work 1 .timeOut nofun rfl) |>.tail (.accept "d" rfl rfl)
    |>.tail (.setCoreTimeout false)
  obtain ⟨-, -, staffed, core⟩ :=
    idle_worker_leaves_safely run (show Expires 1 _ _ from ⟨rfl, by decide⟩)
  exact ⟨_, _, _, run, ⟨rfl, by decide⟩, rfl, rfl, rfl, staffed nofun, core rfl⟩

/-! ### Staying -/

theorem Acts.allowCoreTimeout (step : Acts number p act q) :
    q.allowCoreTimeout = p.allowCoreTimeout := by
  cases step with
  | halt | expire | leave => exact tryTerminate_allowCoreTimeout _
  | _ => rfl

theorem Executes.allowCoreTimeout {job : J} {r : Except (RejectedJob J) Unit}
    (step : Executes job p r q) : q.allowCoreTimeout = p.allowCoreTimeout := by
  cases step <;> rfl

/-- No stop has begun as long as a pool runs. -/
theorem Runs.calm_of_running (run : Runs p deeds q) (running : q.runState = .running) :
    ∀ deed ∈ deeds, deed ≠ .stopBegun := by
  induction run with
  | refl => exact nofun
  | @tail deeds deed q r before next ih =>
      have ran : q.runState = .running := by
        have rank := next.rank_le
        rw [running] at rank
        cases life : q.runState <;> simp [life, RunState.rank] at rank ⊢
      intro deed' mem
      rcases List.mem_append.mp mem with earlier | last
      · exact ih ran deed' earlier
      · rw [List.mem_singleton.mp last]
        rintro rfl
        cases next with
        | beginStop =>
            unfold beginStop at running
            rw [ran] at running
            contradiction

/-- A running pool whose core workers must stay, with at least so many workers. -/
structure Floored (floor : Nat) (p : ThreadPool J) : Prop extends Attended p where
  running : p.runState = .running
  staying : p.allowCoreTimeout = false
  core : floor ≤ p.coreSize
  crew : floor ≤ p.workers.length

namespace Floored

theorem executes {job : J} {r : Except (RejectedJob J) Unit} (h : Floored floor p)
    (step : Executes job p r q) : Floored floor q := by
  obtain ⟨core, -, crew⟩ := step.grows
  exact ⟨h.toAttended.executes step, step.runState.trans h.running,
    step.allowCoreTimeout.trans h.staying, core ▸ h.core, Nat.le_trans h.crew crew⟩

/-- The workers of a running pool leave for one reason only. -/
theorem acts (h : Floored floor p) (step : Acts number p act q) : Floored floor q := by
  obtain ⟨running, -, core, -⟩ := step.settings h.numbered h.running
  refine ⟨h.toAttended.acts step, running.trans h.running, step.allowCoreTimeout.trans h.staying,
    core ▸ h.core, ?_⟩
  have crew := h.crew
  rcases step.headcount h.numbered with same | ⟨one, stopped | may | gone⟩
  · exact same ▸ crew
  · rw [h.running] at stopped
    contradiction
  · have above := (mayTimeOut_iff.mp may).1 h.staying
    have within := h.core
    omega
  · obtain ⟨others, seat⟩ := h.numbered.seat_of_phase? gone
    have there := seat.perm.mem_iff.mpr List.mem_cons_self
    exact absurd rfl (h.connected h.running there)

theorem setCoreSize {size : Nat} (h : Floored floor p) (fits : floor ≤ size) :
    Floored floor (p.setCoreSize size) := by
  obtain ⟨running, staying, core, crew⟩ : let q := p.setCoreSize size
      q.runState = .running ∧ q.allowCoreTimeout = false ∧ floor ≤ q.coreSize ∧
        floor ≤ q.workers.length := by
    refine setCoreSize_of (P := fun q => q.runState = .running ∧ q.allowCoreTimeout = false ∧
      floor ≤ q.coreSize ∧ floor ≤ q.workers.length) size p ?_ ?_ ?_ ?_
    · exact fun _ => ⟨h.running, h.staying, h.core, h.crew⟩
    · exact fun _ => ⟨h.running, h.staying, fits, h.crew⟩
    · rintro q ⟨running, staying, core, crew⟩ _ _ _
      refine ⟨running, staying, core, ?_⟩
      change floor ≤ (q.workers ++ [_]).length
      exact List.length_append ▸ Nat.le_succ_of_le crew
    · exact fun q why kept _ => kept
  exact ⟨h.toAttended.setCoreSize size, running, staying, core, crew⟩

theorem step {deed : Deed J} (h : Floored floor p) (next : Next p deed q)
    (keeps : deed.KeepsCore floor) : Floored floor q := by
  cases next with
  | accept job free call | refuse job why free call => exact h.executes (ThreadPool.executes call)
  | setCoreSize size => exact h.setCoreSize keeps
  | setCoreTimeout allowed =>
      have attended := h.toAttended.step (.setCoreTimeout allowed) nofun
      exact ⟨attended, h.running, keeps, h.core, h.crew⟩
  | shutdown | beginStop => exact keeps.elim
  | drain held | endStop held =>
      rw [h.free] at held
      contradiction
  | finish number busy done => exact h.acts (ThreadPool.acts done)
  | work number act other done => exact h.acts (ThreadPool.acts done)

end Floored

/-- As long as core workers must stay and no core size is set below `floor`, a running pool that has
so many workers within its core size keeps that many. -/
theorem core_workers_stay {coreSize maxSize capacity : Nat} {keepAlive : Duration}
    {name : String} {startFault : Nat → Option StartFault}
    (run : Runs (opened coreSize maxSize keepAlive capacity name startFault) deeds p)
    (running : p.runState = .running) (staying : p.allowCoreTimeout = false)
    (core : floor ≤ p.coreSize) (crew : floor ≤ p.workers.length) (more : Runs p deeds' q)
    (keeps : ∀ deed ∈ deeds', deed.KeepsCore floor) : floor ≤ q.workers.length := by
  have attended := run.attended (attended_opened ..) (run.calm_of_running running)
  have floored : Floored floor q := by
    induction more with
    | refl => exact ⟨attended, running, staying, core, crew⟩
    | tail _ next ih =>
        have before := ih fun deed mem => keeps deed (List.mem_append_left _ mem)
        exact before.step next (keeps _ (List.mem_append_right _ (List.mem_singleton_self _)))
  exact floored.crew

end ThreadPool

end TwoTier
