import TwoTier.Proofs.Handles
import TwoTier.Proofs.Schedules

/-!
Diagnostics and scheduling.

With diagnostics on, an executor scans its register at each submission, takes a trace, enters tasks
when the pool is offered them and erases them when they complete. A user sees everything but that
(`Onlooker.user`): the pool whole, all events but reports of slow tasks, all results. Whatever the
schedule, users of two executors that differ in their diagnostics only see the same.

A pool would see the difference if it were offered a task that has its trace still. It never is:
without a register no task has a trace, and with one the trace is taken away before the offer
(`Clean`).
-/

namespace TwoTier

variable {σ ν : Type}

/-! ### What users see -/

/-- A pool seen by somebody from whom it hides the traces of the jobs that it hands back. -/
structure Untraced (σ : Type) where
  pool : σ

namespace Onlooker

/-- Users hear of everything that is no report on slow tasks, and know the configuration. -/
def user : Onlooker σ ν (Untraced σ) ν where
  ending := id
  pool := Untraced.mk
  sees
    | .stale _ | .created _ => false
    | _ => true

theorem user_sound : (user : Onlooker σ ν (Untraced σ) ν).Sound where
  stale _ := rfl
  seen e plain := by
    cases e with
    | stale | created => exact plain.symm
    | _ => rfl
  value v := ⟨v, rfl⟩
  panic p := .inl ⟨rfl, fun _ _ => rfl⟩

variable [WorkerPool σ (Task ν)]

instance : WorkerPool (Untraced σ) (Task ν) where
  offer t p := ((WorkerPool.offer t p.pool).1, ⟨(WorkerPool.offer t p.pool).2⟩)
  activeCount p := WorkerPool.activeCount p.pool
  queueLength p := WorkerPool.queueLength p.pool
  queueCapacity p := WorkerPool.queueCapacity p.pool
  workerCount p := WorkerPool.workerCount p.pool
  coreSize p := WorkerPool.coreSize p.pool
  setCoreSize n p := ⟨WorkerPool.setCoreSize n p.pool⟩
  keepAlive p := WorkerPool.keepAlive p.pool
  shutdown p := ⟨WorkerPool.shutdown p.pool⟩
  shutdownNow p := ((WorkerPool.shutdownNow p.pool).1.map (Task.seen id),
    ⟨(WorkerPool.shutdownNow p.pool).2⟩)
  isShutdown p := WorkerPool.isShutdown p.pool
  isTerminated p := WorkerPool.isTerminated p.pool
  release p := ⟨WorkerPool.release p.pool⟩

theorem user_fair : (user : Onlooker σ ν (Untraced σ) ν).Fair where
  isShutdown _ := rfl
  activeCount _ := rfl
  queueLength _ := rfl
  coreSize _ := rfl
  setCoreSize _ _ := rfl
  shutdown _ := rfl
  release _ := rfl
  shutdownNow _ := rfl

/-- A task without a trace is offered as it is. -/
theorem user_offers {t : Task ν} (bare : t.capture = none) (p : σ) :
    (user : Onlooker σ ν (Untraced σ) ν).Offers t p := by
  have same : (Closure.map id : Closure ν → Closure ν) = id := funext Closure.map_id
  have plain : (user (σ := σ)).task t = t := by
    rcases t with ⟨id, closure, capture⟩
    obtain rfl : capture = none := bare
    simp [user, Task.seen, same]
  unfold Offers
  rw [plain]
  rfl

end Onlooker

/-! ### What the pool may do -/

/-- How a pool that is driven from outside may move. -/
inductive PoolMove (σ ν : Type) where
  | change (f : σ → σ)
  /-- An idle thread finishes a job that it takes from the pool, if there is one. -/
  | give (t : ThreadId) (mode : FinishMode) (pick : σ → Option (Task ν × σ))

namespace PoolMove

def play : PoolMove σ ν → System σ ν → Option (System σ ν)
  | .change f, y =>
    some { y with
      scene := { y.scene with exec := { y.scene.exec with pool := f y.scene.exec.pool } } }
  | .give t mode pick, y =>
    if y.rests t then
      (pick y.scene.exec.pool).map fun (job, pool) =>
        { scene := { y.scene with exec := { y.scene.exec with pool } }
          threads := y.threads.set t [.job job mode.acts] }
    else none

/-- The same move, seen by a user. -/
def seen : PoolMove σ ν → PoolMove (Untraced σ) ν
  | .change f => .change fun p => ⟨f p.pool⟩
  | .give t mode pick => .give t mode fun p =>
      (pick p.pool).map fun (job, pool) => (job.seen id, ⟨pool⟩)

theorem play_seen (move : PoolMove σ ν) (y : System σ ν) :
    play move.seen (Onlooker.user.system y) = (play move y).map Onlooker.user.system := by
  cases move with
  | change f => rfl
  | give t mode pick =>
      simp only [play, seen, Onlooker.rests_system]
      split
      · rw [Option.map_map, Option.map_map]
        refine Option.map_congr fun ⟨job, pool⟩ _ => congrArg (System.mk _) ?_
        exact Stacks.set_map Onlooker.user.frame t [.job job mode.acts] y.threads
      · rfl

end PoolMove

/-! ### Traces and offers -/

namespace Frame

/-- An offer is of a task without a trace. -/
def Bare : Frame ν → Prop
  | .offer t _ _ => t.capture = none
  | _ => True

/-- Tasks with traces are in the hands of threads that have hold of the executor. -/
theorem unmarked_of_free {f : Frame ν} (free : f.engages = false) : f.unmarked = 0 := by
  cases f with
  | push | handOver => simp [engages] at free
  | _ => rfl

end Frame

/-- Without a register no task on its way has a trace, and none is offered with one. -/
structure Clean (bag : Multiset (Frame ν)) (s : Scene σ ν) : Prop where
  unmarked : s.exec.flight = none →
    ∀ t ∈ (s.exec.backlog : Multiset (Task ν)) + tally Frame.unmarked bag, t.capture = none
  bare : ∀ f ∈ bag, f.Bare

variable [WorkerPool σ (Task ν)] {me : ThreadId} {f : Frame ν} {new : List (Frame ν)}
  {bag rest : Multiset (Frame ν)} {s s' : Scene σ ν}

namespace Scene

/-- What is offered has been entered into the register, if there is one. -/
theorem step_bare (h : s.step me f = some (new, s'))
    (unmarked : s.exec.flight = none → ∀ t ∈ f.unmarked, t.capture = none) : ∀ g ∈ new, g.Bare := by
  cases step_cases h with
  | pass pass =>
      intro g mem
      obtain rfl := List.mem_singleton.mp mem
      cases pass with
      | mark t draining refused =>
          change (s.enterFlight t).1.capture = none
          unfold enterFlight
          cases flight : s.exec.flight with
          | none => exact unmarked flight t (Multiset.mem_singleton_self t)
          | some r => rfl
      | accepted t draining refused | turnedDown t draining refused => cases draining <;> trivial
      | _ => trivial
  | leave refused =>
      intro g mem
      obtain ⟨t, -, rfl⟩ := List.mem_map.mp mem
      trivial
  | enter free enter =>
      intro g mem
      obtain rfl := List.mem_singleton.mp mem
      trivial
  | outside outside =>
      intro g mem
      have plain := outside.outside g mem
      cases g with
      | offer => simp [Frame.inPass] at plain
      | _ => trivial

/-- A step takes no register away, and gives none. -/
theorem step_flight (h : s.step me f = some (new, s')) :
    s'.exec.flight = none ↔ s.exec.flight = none := by
  have register := step_register h
  generalize s.exec.flight = before at register ⊢
  generalize s'.exec.flight = after at register ⊢
  cases register <;> simp

omit [WorkerPool σ (Task ν)] in
/-- Without a register tasks are made without traces. -/
theorem capture_of_makes (flight : s.exec.flight = none) {t : Task ν} (mem : t ∈ f.makes s) :
    t.capture = none := by
  cases f with
  | survey c =>
      obtain rfl := List.mem_singleton.mp mem
      simp [makeTask, scan, flight]
  | _ => cases mem

end Scene

namespace Clean

theorem step (h : Clean (f ::ₘ rest) s) (step : s.step me f = some (new, s')) :
    Clean ((new : Multiset (Frame ν)) + rest) s' := by
  have own : s.exec.flight = none → ∀ t ∈ (s.exec.backlog : Multiset (Task ν)) + f.unmarked
      + tally Frame.unmarked rest, t.capture = none := by
    have unmarked := h.unmarked
    rwa [tally_cons, ← add_assoc] at unmarked
  constructor
  · intro flight t mem
    have before := (Scene.step_flight step).mp flight
    rw [tally_add, ← add_assoc] at mem
    rcases Multiset.mem_add.mp mem with mem | mem
    · rcases Multiset.mem_add.mp (Multiset.mem_of_le (Scene.step_unmarked step) mem) with mem | mem
      · exact own before t (Multiset.mem_add.mpr (.inl mem))
      · exact Scene.capture_of_makes before (Multiset.mem_coe.mp mem)
    · exact own before t (Multiset.mem_add.mpr (.inr mem))
  · intro g mem
    rcases Multiset.mem_add.mp mem with mem | mem
    · refine Scene.step_bare step (fun flight t mem => own flight t ?_) g (Multiset.mem_coe.mp mem)
      exact Multiset.mem_add.mpr (.inl (Multiset.mem_add.mpr (.inr mem)))
    · exact h.bare g (Multiset.mem_cons_of_mem mem)

omit [WorkerPool σ (Task ν)] in
/-- Business of threads that have no hold of the executor, and calls, make no difference. -/
theorem add (h : Clean bag s) (new : List (Frame ν))
    (plain : ∀ g ∈ new, g.unmarked = 0 ∧ g.Bare) (backlog : s'.exec.backlog = s.exec.backlog)
    (flight : s'.exec.flight = none → s.exec.flight = none) :
    Clean ((new : Multiset (Frame ν)) + bag) s' := by
  have none : tally Frame.unmarked (new : Multiset (Frame ν)) = 0 :=
    tally_eq_zero fun g mem => (plain g (Multiset.mem_coe.mp mem)).1
  constructor
  · rw [tally_add, none, zero_add, backlog]
    exact fun gone => h.unmarked (flight gone)
  · intro g mem
    rcases Multiset.mem_add.mp mem with mem | mem
    · exact (plain g (Multiset.mem_coe.mp mem)).2
    · exact h.bare g mem

omit [WorkerPool σ (Task ν)] in
theorem congr (h : Clean bag s) (backlog : s'.exec.backlog = s.exec.backlog)
    (flight : s'.exec.flight = none → s.exec.flight = none) : Clean bag s' := by
  simpa using h.add [] (by simp) backlog flight

variable {y z : System σ ν}

omit [WorkerPool σ (Task ν)] in
/-- An idle thread gets one frame of business. -/
theorem assign (h : Clean y.bag y.scene) {t : ThreadId} (idle : y.rests t = true) {g : Frame ν}
    (unmarked : g.unmarked = 0) (bare : g.Bare) (backlog : s'.exec.backlog = y.scene.exec.backlog)
    (flight : s'.exec.flight = y.scene.exec.flight) :
    Clean (System.bag ⟨s', y.threads.set t [g]⟩) s' := by
  have bag : System.bag ⟨s', y.threads.set t [g]⟩ = ↑[g] + y.bag :=
    System.bag_assign (List.isEmpty_iff.mp idle) [g]
  rw [bag]
  exact h.add [g] (by simpa using ⟨unmarked, bare⟩) backlog fun none => flight ▸ none

/-- The executor is let go: no thread had hold of it, so none has a task that is not cleaned yet. -/
theorem letGo (h : Clean y.bag y.scene) (t : ThreadId) (unheld : y.unheld = true) :
    Clean (y.letGo.interrupt t (y.scene.exec.backlog.map fun job => .job job [])).bag
      y.letGo.scene := by
  have free : ∀ f ∈ y.bag, f.engages = false := by
    intro f mem
    obtain ⟨e, entry, mem⟩ := List.mem_flatMap.mp (Multiset.mem_coe.mp mem)
    simpa using List.all_eq_true.mp (List.all_eq_true.mp unheld e entry) f mem
  have none : tally Frame.unmarked y.bag = 0 :=
    tally_eq_zero fun f mem => Frame.unmarked_of_free (free f mem)
  have left : Clean y.bag y.letGo.scene := by
    constructor
    · rw [none]
      intro _ t mem
      cases mem
    · exact h.bare
  have bag : y.letGo.bag = y.bag := rfl
  rw [System.bag_interrupt, bag]
  refine left.add _ (fun g mem => ?_) rfl id
  obtain ⟨job, -, rfl⟩ := List.mem_map.mp mem
  exact ⟨rfl, trivial⟩

omit [WorkerPool σ (Task ν)] in
theorem play (h : Clean y.bag y.scene) {move : PoolMove σ ν} (played : move.play y = some z) :
    Clean z.bag z.scene := by
  cases move with
  | change f =>
      obtain rfl := Option.some.inj played
      exact h.congr rfl id
  | give t mode pick =>
      obtain ⟨idle, played⟩ := Option.ite_none_right_eq_some.mp played
      obtain ⟨⟨job, pool⟩, -, rfl⟩ := Option.map_eq_some_iff.mp played
      exact h.assign idle rfl trivial rfl rfl

/-- Whatever happens, tasks stay clean. -/
theorem after (h : Clean y.bag y.scene) {m : Moment ν (PoolMove σ ν)}
    (after : y.after? PoolMove.play m = some z) : Clean z.bag z.scene := by
  cases m with
  | turn t =>
      obtain ⟨f, new, rest, bag, step, bag'⟩ := System.bag_turn after
      rw [bag']
      rw [bag] at h
      exact h.step step
  | call t c =>
      obtain ⟨idle, after⟩ := Option.ite_none_right_eq_some.mp after
      obtain rfl := Option.some.inj after
      cases c <;> exact h.assign idle rfl trivial rfl rfl
  | ask t work =>
      obtain ⟨-, after⟩ := Option.ite_none_right_eq_some.mp after
      obtain rfl := Option.some.inj after
      have bag : (y.ask t work).bag = _ := System.bag_interrupt t _ _
      rw [bag]
      exact h.add _ (by simp [Frame.unmarked, Frame.Bare]) rfl id
  | enlist t work box =>
      obtain ⟨-, after⟩ := Option.ite_none_right_eq_some.mp after
      obtain rfl := Option.some.inj after
      have bag : (y.enlist t work box).bag = _ := System.bag_interrupt t _ _
      rw [bag]
      exact h.add _ (by simp [Frame.unmarked, Frame.Bare]) rfl id
  | gather senders | hangUp box | read box | openGate gate | sleep d =>
      obtain rfl := Option.some.inj after
      exact h.congr rfl id
  | finishReturned t index mode =>
      obtain ⟨idle, after⟩ := Option.ite_none_right_eq_some.mp after
      obtain ⟨job, -, rfl⟩ := Option.map_eq_some_iff.mp after
      exact h.assign idle rfl trivial rfl rfl
  | scan =>
      obtain ⟨-, after⟩ := Option.ite_none_right_eq_some.mp after
      obtain rfl := Option.some.inj after
      obtain ⟨now, flight⟩ := y.scene.flight_scan
      refine h.congr (Scene.keeps_scan y.scene).backlog fun none => ?_
      rw [flight] at none
      exact Option.map_eq_none_iff.mp none
  | letGo t =>
      obtain ⟨may, after⟩ := Option.ite_none_right_eq_some.mp after
      obtain rfl := Option.some.inj after
      exact h.letGo t (Bool.and_eq_true_iff.mp may).2
  | pool move => exact h.play after

/-- Clean tasks are offered alike. -/
theorem offering (h : Clean y.bag y.scene) : Onlooker.user.Offering y := by
  rintro t f under top job draining refused rfl
  have mem : Frame.offer job draining refused ∈ y.threads.get t := top ▸ List.mem_cons_self
  exact Onlooker.user_offers (h.bare _ (Multiset.mem_coe.mpr (Stacks.mem_of_find mem))) _

end Clean

/-! ### Two executors -/

/-- A new executor. -/
def Scene.opened (config : Config) (main : Option ThreadId) (pool : σ) : Scene σ ν where
  exec := ⟨config, pool, [], none, .steady,
    if config.debug then some (.new (WorkerPool.keepAlive pool)) else none, main, 0, 0, 0, 0, none⟩
  alive := true
  world := World.fresh.record (.created config)
  returned := []

theorem Scene.build_eq (config : Config) (main : Option ThreadId) (pool : σ) :
    (build config main pool : Except Error (Scene σ ν))
      = config.validate.map fun _ => opened config main pool := by
  unfold build Buffer.build
  cases config.validate <;> rfl

theorem clean_opened (config : Config) (main : Option ThreadId) (pool : σ) :
    Clean (System.idle (Scene.opened config main pool : Scene σ ν)).bag
      (Scene.opened config main pool) := by
  constructor
  · intro _ t mem
    cases mem
  · intro f mem
    cases mem

/-- Whether diagnostics are on or off, users see the same in the course of any schedule. -/
theorem diagnostics_change_nothing (config : Config) (main : Option ThreadId) (pool : σ)
    (schedule : List (Moment ν (PoolMove σ ν))) :
    (Scene.build { config with debug := true } main pool).map
        (fun s => Onlooker.user.watch PoolMove.play schedule (.idle s))
      = (Scene.build { config with debug := false } main pool).map
          (fun s => Onlooker.user.watch PoolMove.play schedule (.idle s)) := by
  have validate (debug : Bool) : Config.validate { config with debug } = config.validate := rfl
  have alike (debug : Bool) : Onlooker.user.watch PoolMove.play schedule
        (.idle (Scene.opened { config with debug } main pool))
      = Onlooker.user.watch PoolMove.play schedule (.idle (Scene.opened config main pool)) :=
    Onlooker.user.watch_alike Onlooker.user_sound Onlooker.user_fair PoolMove.play_seen
      (fun y => Clean.offering) (fun y m z clean after => clean.after after) rfl rfl
      (clean_opened _ main pool) (clean_opened config main pool)
  rw [Scene.build_eq, Scene.build_eq, validate true, validate false]
  cases config.validate with
  | error why => rfl
  | ok => exact congrArg Except.ok ((alike true).trans (alike false).symm)

/-- A thread submits a job, and a minute later another one. -/
def Sample.twoJobs : List (Moment Unit (PoolMove (HandPool (Task Unit)) Unit)) :=
  .call (.caller 1) (submit "first") :: List.replicate 12 (.turn (.caller 1))
    ++ .sleep (.ofSeconds 60) :: .call (.caller 1) (submit "second")
    :: List.replicate 11 (.turn (.caller 1))

-- The first job has become slow by then, of which its user sees nothing. The second one waits.
open Sample in
example : (Onlooker.user.watch PoolMove.play twoJobs
    (.idle (.opened { config with debug := true } none (.new 1)))).getLast?.map
      (fun v => (v.admitted, v.backlog)) = some (1, [⟨2⟩]) := by decide

end TwoTier
