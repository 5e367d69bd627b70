import TwoTier.Proofs.PoolAccount

/-!
Which threads have which business.

Closures are run and jobs are completed by workers only, and a worker has such business only while
it runs or completes a job (`Manned`). So when the pool has terminated, all that is left to do is
what callers do: submissions, shutdowns, and throwing away what was refused.
-/

namespace TwoTier

/-! ### Workers that are busy stay -/

/-- Whether a worker runs or completes a job. -/
def Phase.engaged {J : Type} : Phase J → Bool
  | .running _ | .completing _ => true
  | _ => false

namespace ThreadPool

variable {J : Type} {p q : ThreadPool J} {w u : Worker J} {number : Nat}

/-- Workers in different phases have different numbers. -/
theorem Numbered.number_ne (h : Numbered p) (mem : w ∈ p.workers) (mem' : u ∈ p.workers)
    (differ : w.phase ≠ u.phase) : w.number ≠ u.number := by
  intro same
  rw [List.inj_on_of_nodup_map h.distinct mem mem' same] at differ
  exact differ rfl

theorem mem_setPhase (phase : Phase J) (mem : w ∈ p.workers) (other : w.number ≠ number) :
    w ∈ (p.setPhase number phase).workers :=
  List.mem_map.mpr ⟨w, mem, if_neg other⟩

theorem mem_retire (mem : w ∈ p.workers) (other : w.number ≠ number) :
    w ∈ (p.retire number).workers := by
  unfold retire
  rw [tryTerminate_workers]
  exact List.mem_filter.mpr ⟨mem, by simpa using other⟩

/-- An act changes one worker only. -/
theorem Acts.mem_workers {act : WorkerAct} (step : Acts number p act q) (mem : w ∈ p.workers)
    (other : w.number ≠ number) : w ∈ q.workers := by
  cases step with
  | halt | expire | leave => exact mem_retire mem other
  | settle => exact List.mem_append_left _ (List.mem_filter.mpr ⟨mem, by simpa using other⟩)
  | _ => exact mem_setPhase _ mem other

/-- A worker that begins or ends the run of a job is engaged then. -/
theorem engaged_setPhase {phase phase' : Phase J} (numbered : Numbered p)
    (found : p.phase? number = some phase) (same : q.workers = p.workers)
    (engaged : phase'.engaged = true) :
    ∃ w ∈ (q.setPhase number phase').workers, w.number = number ∧ w.phase.engaged = true := by
  obtain ⟨others, seat⟩ := numbered.seat_of_phase? found
  refine ⟨⟨number, phase'⟩, ?_, rfl, engaged⟩
  exact (seat.setPhase phase' same).perm.mem_iff.mpr List.mem_cons_self

/-- An offer starts a worker, or wakes one that waits. -/
theorem Executes.mem_workers {job : J} {r : Except (RejectedJob J) Unit} (step : Executes job p r q)
    (numbered : Numbered p) (mem : w ∈ p.workers) (engaged : w.phase.engaged = true) :
    w ∈ q.workers := by
  cases step with
  | started | queuedFirst => exact List.mem_append_left _ mem
  | handed u _ _ _ _ waits =>
      obtain ⟨inside, phase⟩ := firstWaiting_mem waits
      refine mem_setPhase _ mem (numbered.number_ne mem inside ?_)
      intro same
      rw [same, phase] at engaged
      contradiction
  | _ => exact mem

theorem mem_setCoreSize (size : Nat) (mem : w ∈ p.workers) : w ∈ (p.setCoreSize size).workers :=
  setCoreSize_of (P := fun q => w ∈ q.workers) size p (fun _ => mem) (fun _ => mem)
    (fun _ mem _ _ _ => List.mem_append_left _ mem) (fun _ _ mem _ => mem)

end ThreadPool

/-! ### What a step does to the pool -/

namespace Scene

variable {ν : Type} {me : ThreadId} {f : Frame ν} {new : List (Frame ν)}
  {s s' : Scene (ThreadPool (Task ν)) ν}

/-- The frames that ask something of the pool, and what it is then. -/
inductive Asks (p : ThreadPool (Task ν)) : Frame ν → ThreadPool (Task ν) → Prop where
  | offer {q : ThreadPool (Task ν)} {r : Except (RejectedJob (Task ν)) Unit} (t : Task ν)
      (draining : Bool) (refused : List (Task ν)) (h : ThreadPool.Executes t p r q) :
      Asks p (.offer t draining refused) q
  | setCore (active queued target : Nat) :
      Asks p (.setCore active queued target) (p.setCoreSize target)
  | shutdown : Asks p .shutdown p.shutdown

/-- Without stops, a step asks something of the pool or leaves it alone. -/
theorem step_asks (calm : f.halts = false) (h : s.step me f = some (new, s')) :
    s'.exec.pool = s.exec.pool ∨ Asks s.exec.pool f s'.exec.pool := by
  cases step_cases h with
  | pass pass =>
      cases pass with
      | tuned active queued | untuned active queued =>
          exact .inl (keeps_retune active queued s).pool
      | mark t => exact .inl (keeps_marked t s).pool
      | setCore active queued target => exact .inr (.setCore active queued target)
      | accepted t draining refused answer | turnedDown t draining refused answer =>
          obtain ⟨r, exec, -⟩ := ThreadPool.executes_of_offer answer
          exact .inr (.offer t draining refused exec)
      | _ => exact .inl rfl
  | leave => exact .inl rfl
  | enter _ enter => cases enter <;> exact .inl rfl
  | outside outside =>
      cases outside with
      | quiet quiet => exact .inl quiet.keeps.pool
      | shutdown => exact .inr .shutdown
      | withdraw | stop => contradiction

/-- Whatever threads ask of the pool, its workers go on with what they do. -/
theorem Asks.mem_workers {p q : ThreadPool (Task ν)} {w : Worker (Task ν)} (h : Asks p f q)
    (numbered : ThreadPool.Numbered p) (mem : w ∈ p.workers) (engaged : w.phase.engaged = true) :
    w ∈ q.workers := by
  cases h with
  | offer t draining refused exec => exact exec.mem_workers numbered mem engaged
  | setCore active queued target => exact ThreadPool.mem_setCoreSize target mem
  | shutdown => rwa [ThreadPool.aloof_workers.shutdown]

end Scene

/-! ### Business of workers -/

namespace Frame

/-- The frames of running a closure and of completing a job. -/
def working {ν : Type} : Frame ν → Bool
  | .job _ (_ :: _) | .start _ | .atGate _ | .finish _ | .completed _ | .enter => true
  | _ => false

theorem working_of_inPass {ν : Type} {f : Frame ν} (inside : f.inPass = true) :
    f.working = false := by
  cases f with
  | job | start | atGate | finish | completed | enter => simp [inPass] at inside
  | _ => rfl

theorem working_submitAll {ν : Type} (works : List (Work ν)) :
    ∀ g ∈ submitAll works, g.working = false := by
  intro g mem
  obtain ⟨work, -, rfl⟩ := List.mem_map.mp mem
  rfl

end Frame

namespace Scene

variable {σ ν : Type} [WorkerPool σ (Task ν)] {me : ThreadId} {f : Frame ν} {new : List (Frame ν)}
  {s s' : Scene σ ν}

theorem QuietStep.working (h : QuietStep me s f new s') (idle : f.working = false) :
    ∀ g ∈ new, g.working = false := by
  cases h with
  | rerun | run | complete | completed | start | pastGate | finish =>
      simp [Frame.working] at idle
  | discard c =>
      intro g mem
      rcases List.mem_append.mp mem with mem | mem
      · exact Frame.working_submitAll _ g mem
      · rw [List.mem_singleton.mp mem]
        rfl
  | _ => simp [Frame.working]

/-- Other business does not lead to that of a worker. -/
theorem step_working (h : s.step me f = some (new, s')) (idle : f.working = false) :
    ∀ g ∈ new, g.working = false := by
  cases step_cases h with
  | pass pass => simpa using Frame.working_of_inPass pass.inPass
  | leave =>
      intro g mem
      obtain ⟨t, -, rfl⟩ := List.mem_map.mp mem
      rfl
  | enter _ _ => simp [Frame.working]
  | outside outside =>
      cases outside with
      | quiet quiet => exact quiet.working idle
      | _ => simp [Frame.working]

end Scene

namespace Service

variable {ν : Type} {begun : List (Task ν)} {y z : Service ν}

/-- Callers have none of the business of workers, and a worker's thread has business only while the
worker runs or completes a job. -/
structure Manned (y : Service ν) : Prop where
  callers : ∀ n, ∀ f ∈ y.threads.get (.caller n), f.working = false
  workers : ∀ n, y.threads.get (.worker n) ≠ [] →
    ∃ w ∈ y.pool.workers, w.number = n ∧ w.phase.engaged = true

namespace Manned

theorem turn {t : ThreadId} (h : Manned y) (numbered : ThreadPool.Numbered y.pool)
    (calm : ∀ f ∈ y.bag, f.halts = false) (turn : y.turn? t = some z) : Manned z := by
  obtain ⟨f, new, rest, top, step, threads, before, -⟩ := System.turn_stack turn
  have stays : ∀ w ∈ y.pool.workers, w.phase.engaged = true → w ∈ z.pool.workers := by
    intro w mem engaged
    rcases Scene.step_asks (calm f (before ▸ Multiset.mem_cons_self _ _)) step with same | asks
    · show w ∈ z.scene.exec.pool.workers
      rw [same]
      exact mem
    · exact asks.mem_workers numbered mem engaged
  constructor
  · intro n g mem
    rw [threads] at mem
    by_cases own : ThreadId.caller n = t
    · subst own
      rw [Stacks.get_set_self] at mem
      rcases List.mem_append.mp mem with fresh | old
      · exact Scene.step_working step (h.callers n f (top ▸ List.mem_cons_self)) g fresh
      · exact h.callers n g (top ▸ List.mem_cons_of_mem _ old)
    · rw [Stacks.get_set_of_ne own] at mem
      exact h.callers n g mem
  · intro n busy
    have earlier : y.threads.get (.worker n) ≠ [] := by
      rw [threads] at busy
      by_cases own : ThreadId.worker n = t
      · subst own
        rw [top]
        exact List.cons_ne_nil _ _
      · rwa [Stacks.get_set_of_ne own] at busy
    obtain ⟨w, mem, number, engaged⟩ := h.workers n earlier
    exact ⟨w, stays w mem engaged, number, engaged⟩

theorem call {n : Nat} {c : Call ν} (h : Manned y) : Manned (y.assign (.caller n) [c.frame]) := by
  constructor
  · intro m g mem
    change g ∈ (y.threads.set (.caller n) [c.frame]).get (.caller m) at mem
    by_cases own : ThreadId.caller m = .caller n
    · rw [own, Stacks.get_set_self, List.mem_singleton] at mem
      rw [mem]
      cases c <;> rfl
    · rw [Stacks.get_set_of_ne own] at mem
      exact h.callers m g mem
  · intro m busy
    change (y.threads.set (.caller n) [c.frame]).get (.worker m) ≠ [] at busy
    have other : ThreadId.worker m ≠ .caller n := nofun
    rw [Stacks.get_set_of_ne other] at busy
    exact h.workers m busy

/-- A worker that got business runs or completes a job from then on. -/
theorem begins {number : Nat} {act : WorkerAct} {job : Task ν} {acts : List JobAct}
    {pool : ThreadPool (Task ν)} (h : Manned y) (step : ThreadPool.Acts number y.pool act pool)
    (seated : ∃ w ∈ pool.workers, w.number = number ∧ w.phase.engaged = true) :
    Manned ((withPool pool y).assign (.worker number) [.job job acts]) := by
  constructor
  · intro n f mem
    have other : ThreadId.caller n ≠ .worker number := nofun
    change f ∈ (y.threads.set _ _).get _ at mem
    rw [Stacks.get_set_of_ne other] at mem
    exact h.callers n f mem
  · intro n busy
    change (y.threads.set _ _).get _ ≠ [] at busy
    by_cases own : n = number
    · rw [own]
      exact seated
    · rw [Stacks.get_set_of_ne (by simpa using own)] at busy
      obtain ⟨w, mem, rfl, engaged⟩ := h.workers n busy
      exact ⟨w, step.mem_workers mem own, rfl, engaged⟩

theorem act {number : Nat} {act : WorkerAct} (h : Manned y)
    (numbered : ThreadPool.Numbered y.pool) (did : act? number act y = some z) : Manned z := by
  obtain ⟨idle, acted⟩ := acted did
  have step := acted.pool.2
  generalize (y.pool.begins? number act).toList = more at acted
  cases acted with
  | begin found did | count found did | endRun found did =>
      refine h.begins step ?_
      cases step
      exact ThreadPool.engaged_setPhase numbered found rfl rfl
  | other plain did =>
      refine ⟨h.callers, fun n busy => ?_⟩
      have own : n ≠ number := by
        rintro rfl
        exact busy idle
      obtain ⟨w, mem, rfl, engaged⟩ := h.workers n busy
      exact ⟨w, step.mem_workers mem own, rfl, engaged⟩

end Manned

/-- As long as nobody stops the pool, all business of workers is in their own hands. -/
theorem manned_runs {config : Config} {main : Option ThreadId} {y₀ : Service ν}
    (made : make? config main = some (.ok y₀))
    (run : Runs (fun c => c.frame.halts = false) y₀ begun y) : Manned y := by
  induction run with
  | refl =>
      obtain ⟨-, s, -, rfl⟩ := make?_ok made
      exact ⟨fun n f mem => absurd mem List.not_mem_nil, fun n busy => absurd rfl busy⟩
  | tail before next manned =>
      have numbered := (booked_runs made before).numbered
      cases next with
      | turn t turn => exact manned.turn numbered (unstopped_runs made before).frames turn
      | call n c idle allowed => exact manned.call
      | act number act did => exact manned.act numbered did

end Service

end TwoTier
