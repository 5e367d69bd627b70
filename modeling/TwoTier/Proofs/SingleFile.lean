import Mathlib.Algebra.Order.BigOperators.Group.Multiset
import TwoTier.Proofs.Closing
import TwoTier.Proofs.Custody
import TwoTier.Proofs.PoolLine

/-!
One worker, one task after the other.

With all core sizes at one, tasks begin to run in the order in which they joined the backlog, and
one at a time, as long as the pool has never had more than one worker
(`single_file`). The gate lets a task through while the ready queue is exactly full, if the worker
does not count as active then. Such a task gets a worker of its own and overtakes those in the
queue, as in `overtaken_by_second_worker`; nothing else ever starts a second worker.
-/

namespace TwoTier

variable {σ ν : Type}

/-! ### Closures that run -/

@[simp] def Event.started? : Event → Option Nat
  | .started ticket _ _ => some ticket
  | _ => none

namespace World

/-- The closures that have begun to run, in order. -/
def started (w : World ν) : List Nat := w.marks Event.started?

@[simp] theorem started_record (e : Event) (w : World ν) :
    (w.record e).started = w.started ++ e.started?.toList :=
  marks_record _ e w

end World

def Task.ticket? (t : Task ν) : Option Nat := t.closure.map Closure.ticket

namespace Frame

/-- The closure that is about to begin. -/
def pending : Frame ν → Multiset Nat
  | .job t (.run :: _) => t.ticket?.toList
  | .start c => {c.ticket}
  | _ => 0

/-- The closure that is about to begin, or has begun and has not ended. -/
def underWay : Frame ν → Multiset Nat
  | .job t (.run :: _) => t.ticket?.toList
  | .start c | .atGate c | .finish c => {c.ticket}
  | _ => 0

@[simp] theorem pending_run (t : Task ν) (acts : List JobAct) :
    (job t (.run :: acts)).pending = t.ticket?.toList := rfl

@[simp] theorem underWay_run (t : Task ν) (acts : List JobAct) :
    (job t (.run :: acts)).underWay = t.ticket?.toList := rfl

@[simp] theorem pending_start (c : Closure ν) : (start c).pending = {c.ticket} := rfl

@[simp] theorem underWay_start (c : Closure ν) : (start c).underWay = {c.ticket} := rfl

theorem pending_le_underWay (f : Frame ν) : f.pending ≤ f.underWay := by
  cases f with
  | job t acts =>
      cases acts with
      | nil => exact le_refl _
      | cons act acts => cases act <;> exact le_refl _
  | atGate | finish => exact Multiset.zero_le _
  | _ => exact le_refl _

/-- A job that has run does not run again. -/
theorem underWay_of_closure {t : Task ν} (none : t.closure = none) (acts : List JobAct) :
    (job t acts).underWay = 0 := by
  cases acts with
  | nil => rfl
  | cons act acts =>
      cases act with
      | run => simp [underWay, Task.ticket?, none]
      | complete => rfl

theorem pending_of_underWay {f : Frame ν} (none : f.underWay = 0) : f.pending = 0 :=
  Multiset.le_zero.mp (none ▸ f.pending_le_underWay)

theorem underWay_of_inPass {f : Frame ν} (inside : f.inPass = true) : f.underWay = 0 := by
  cases f with
  | job | start | atGate | finish => simp [inPass] at inside
  | _ => rfl

end Frame

namespace Scene

variable [WorkerPool σ (Task ν)] {me : ThreadId} {f : Frame ν} {new : List (Frame ν)}
  {s s' : Scene σ ν}

/-- What a step means for closures: those that begin with it were about to, and none comes under way
that was not. -/
structure Carries (s : Scene σ ν) (f : Frame ν) (new : List (Frame ν)) (s' : Scene σ ν) : Prop where
  begins : ∃ l : List Nat, s'.world.started = s.world.started ++ l ∧
    f.pending = ↑l + tally Frame.pending (new : Multiset (Frame ν))
  within : tally Frame.underWay (new : Multiset (Frame ν)) ≤ f.underWay

omit [WorkerPool σ (Task ν)] in
theorem Carries.idle (started : s'.world.started = s.world.started)
    (pending : f.pending = tally Frame.pending (new : Multiset (Frame ν)))
    (within : tally Frame.underWay (new : Multiset (Frame ν)) ≤ f.underWay) : Carries s f new s' :=
  ⟨⟨[], by rw [started, List.append_nil], by rw [pending]; simp⟩, within⟩

theorem QuietStep.carries (h : QuietStep me s f new s') : Carries s f new s' := by
  cases h with
  | rerun t acts none =>
      have idle := Frame.underWay_of_closure none
      exact .idle rfl (by simp [Frame.pending_of_underWay (idle _)]) (by simp [idle])
  | run t acts c closure =>
      have idle := Frame.underWay_of_closure (t := ({ t with closure := none } : Task ν)) rfl acts
      refine .idle rfl ?_ ?_
      · simp [Task.ticket?, closure, Frame.pending_of_underWay idle]
      · simp [Task.ticket?, closure, idle]
  | start c =>
      refine ⟨⟨[c.ticket], by simp [record], ?_⟩, ?_⟩
      · simp [Frame.pending]
      · simp [Frame.underWay]
  | survey c => exact .idle (Scene.marks_scan (fun _ => rfl) s) rfl (Multiset.zero_le _)
  | pastGate c | discard c =>
      refine .idle (by simp [record]) ?_ ?_
      · rw [tally_submitAll_append fun _ _ => rfl]
        rfl
      · rw [tally_submitAll_append fun _ _ => rfl]
        exact le_refl _
  | finish c =>
      exact .idle (Scene.marks_finish (fun _ _ _ => rfl) c me s.world) rfl (Multiset.zero_le _)
  | lost | turnAway | completed => exact .idle (by simp [record]) rfl (Multiset.zero_le _)
  | complete t acts => exact .idle rfl (by simp [Frame.pending]) (by simp [Frame.underWay])
  | _ => exact .idle rfl rfl (Multiset.zero_le _)

theorem PassStep.carries {g : Frame ν} (h : PassStep me s f g s') : Carries s f [g] s' := by
  refine .idle (h.marks fun e own => by cases e <;> simp_all [Event.ofPass]) ?_ ?_
  · simp [Frame.pending_of_underWay (Frame.underWay_of_inPass h.inPass_before),
      Frame.pending_of_underWay (Frame.underWay_of_inPass h.inPass)]
  · rw [Multiset.coe_singleton, tally_singleton, Frame.underWay_of_inPass h.inPass]
    exact Multiset.zero_le _

theorem step_carries (h : s.step me f = some (new, s')) : Carries s f new s' := by
  cases step_cases h with
  | pass pass => exact pass.carries
  | leave =>
      refine .idle rfl ?_ ?_
      · rw [tally_discards fun _ => rfl]
        rfl
      · rw [tally_discards fun _ => rfl]
        exact Multiset.zero_le _
  | enter _ enter =>
      cases enter with
      | push | shutting => exact .idle (by simp) rfl (Multiset.zero_le _)
      | resume => exact .idle rfl rfl (Multiset.zero_le _)
  | outside outside =>
      cases outside with
      | quiet quiet => exact quiet.carries
      | shutdown => exact .idle rfl rfl (Multiset.zero_le _)
      | withdraw | stop => exact .idle (by simp) rfl (Multiset.zero_le _)

end Scene

/-! ### The pool -/

/-- The frame that sets the pool's core size. -/
def Frame.retunes : Frame ν → Bool
  | .setCore _ _ _ => true
  | _ => false

theorem Frame.retunes_of_not_inPass {f : Frame ν} (outside : f.inPass = false) :
    f.retunes = false := by
  cases f with
  | setCore => simp [inPass] at outside
  | _ => rfl

/-- Without shutdowns, stops and new core sizes, a step that changes the pool offers it a task. -/
theorem Scene.step_offers [WorkerPool σ (Task ν)] {me : ThreadId} {f : Frame ν}
    {new : List (Frame ν)} {s s' : Scene σ ν} (calm : f.stops = false)
    (tuned : f.retunes = false) (h : s.step me f = some (new, s')) :
    (∃ t draining refused, f = .offer t draining refused ∧
      s'.exec.pool = (WorkerPool.offer t s.exec.pool).2 ∧
      s'.world.offered = s.world.offered ++ [t.id]) ∨
    (s'.exec.pool = s.exec.pool ∧ s'.world.offered = s.world.offered) := by
  cases step_cases h with
  | pass pass =>
      cases pass with
      | tuned active queued | untuned active queued =>
          have keeps := keeps_retune active queued s
          exact .inr ⟨keeps.pool, keeps.offered⟩
      | mark t =>
          have keeps := keeps_marked t s
          exact .inr ⟨keeps.pool, keeps.offered⟩
      | setCore => simp [Frame.retunes] at tuned
      | accepted t draining refused answer | turnedDown t draining refused answer =>
          exact .inl ⟨t, draining, refused, rfl, by rw [answer], by simp⟩
      | _ => exact .inr ⟨rfl, rfl⟩
  | leave => exact .inr ⟨rfl, rfl⟩
  | enter _ enter =>
      cases enter with
      | push => exact .inr ⟨rfl, by simp⟩
      | resume => exact .inr ⟨rfl, rfl⟩
      | shutting => simp [Frame.stops] at calm
  | outside outside =>
      cases outside with
      | quiet quiet => exact .inr ⟨quiet.keeps.pool, quiet.keeps.offered⟩
      | shutdown | withdraw | stop => simp [Frame.stops] at calm

/-- The pool of an executor with one worker, under frames that leave its core size alone. -/
structure Tended (config : Config) (bag : Multiset (Frame ν))
    (s : Scene (ThreadPool (Task ν)) ν) : Prop where
  pool : s.exec.pool.Steady config.maxQueueSize
  tuned : ∀ f ∈ bag, f.retunes = false

/-- All core sizes are one. -/
structure Config.Single (config : Config) : Prop where
  core : config.coreSize = 1
  bigger : config.biggerCoreSize = 1
  max : config.maxCoreSize = 1

theorem Config.Single.tunedCoreSize {config : Config} (single : config.Single) (backlog : Nat) :
    TwoTier.tunedCoreSize backlog config = 1 := by
  unfold TwoTier.tunedCoreSize
  cases CoreBand.ofBacklog backlog config with
  | steady => exact single.core
  | bigger => exact single.bigger
  | max => exact single.max

theorem tended_outline {calls : Call ν → Prop} {config : Config} (single : config.Single) :
    Outline (Service.rules calls) (Undisturbed config none) fun _ => Tended config where
  enter {me f rest s s'} _ known step inv := by
    obtain ⟨-, others⟩ := Multiset.forall_mem_cons.mp inv.tuned
    have tuned : ∀ g ∈ .pass ::ₘ rest, g.retunes = false :=
      Multiset.forall_mem_cons.mpr ⟨rfl, others⟩
    cases step with
    | push t => exact ⟨inv.pool, tuned⟩
    | resume => exact ⟨inv.pool, tuned⟩
    | shutting => exact known.absurd rfl
  pass {me f g rest s s'} _ known step inv := by
    obtain ⟨tuned, others⟩ := Multiset.forall_mem_cons.mp inv.tuned
    have frames (calm : g.retunes = false) : ∀ g' ∈ g ::ₘ rest, g'.retunes = false :=
      Multiset.forall_mem_cons.mpr ⟨calm, others⟩
    cases step with
    | tuned active queued =>
        refine ⟨?_, frames rfl⟩
        rw [(Scene.keeps_retune active queued s).pool]
        exact inv.pool
    | untuned active queued differs =>
        -- No backlog asks for another core size than one, which the pool has.
        refine absurd (inv.pool.core.trans ?_) differs
        rw [known.config, single.tunedCoreSize]
    | setCore => simp [Frame.retunes] at tuned
    | mark t =>
        refine ⟨?_, frames rfl⟩
        rw [(Scene.keeps_marked t s).pool]
        exact inv.pool
    | accepted t draining refused answer | turnedDown t draining refused answer =>
        have after := inv.pool.executes (ThreadPool.executed t s.exec.pool)
        obtain ⟨-, rfl⟩ := Prod.mk.inj answer
        exact ⟨after, frames (by cases draining <;> rfl)⟩
    | _ => exact ⟨inv.pool, frames rfl⟩
  leave {refused rest s} _ _ inv := by
    refine ⟨inv.pool, ?_⟩
    intro g mem
    rcases Multiset.mem_add.mp mem with mem | mem
    · exact Frame.retunes_of_not_inPass (not_inPass_discards refused g (Multiset.mem_coe.mp mem))
    · exact inv.tuned g (Multiset.mem_cons_of_mem mem)
  quiet {o me f new rest s s'} _ _ step inv := by
    refine ⟨step.keeps.pool ▸ inv.pool, ?_⟩
    intro g mem
    rcases Multiset.mem_add.mp mem with mem | mem
    · exact Frame.retunes_of_not_inPass (step.calm g (Multiset.mem_coe.mp mem)).1
    · exact inv.tuned g (Multiset.mem_cons_of_mem mem)
  shutdown _ known _ := known.absurd rfl
  withdraw _ known _ _ := known.absurd rfl
  stop _ known _ _ := known.absurd rfl
  call {o c bag s} _ _ inv := by
    refine ⟨inv.pool, Multiset.forall_mem_cons.mpr ⟨?_, inv.tuned⟩⟩
    exact Frame.retunes_of_not_inPass (not_inPass_call c)
  finish {o job mode pool bag s} _ yields _ inv := by
    obtain ⟨number, act, did⟩ := yields
    exact ⟨inv.pool.acts (ThreadPool.acts did), Multiset.forall_mem_cons.mpr ⟨rfl, inv.tuned⟩⟩
  finishReturned _ _ _ inv := ⟨inv.pool, Multiset.forall_mem_cons.mpr ⟨rfl, inv.tuned⟩⟩
  pool {o pool bag s} moves _ inv := by
    obtain ⟨number, act, did⟩ := moves
    exact ⟨inv.pool.acts (ThreadPool.acts did), inv.tuned⟩

/-! ### Runs with one worker -/

theorem tally_mono {w w' : Frame ν → Multiset Nat} (le : ∀ f, w f ≤ w' f)
    (bag : Multiset (Frame ν)) : tally w bag ≤ tally w' bag :=
  Multiset.sum_map_le_sum_map _ _ fun f _ => le f

theorem le_tally (w : Frame ν → Multiset Nat) {f : Frame ν} {bag : Multiset (Frame ν)}
    (mem : f ∈ bag) : w f ≤ tally w bag := by
  obtain ⟨rest, rfl⟩ := Multiset.exists_cons_of_mem mem
  rw [tally_cons]
  exact Multiset.le_add_right _ _

/-- At most one is waiting, so those that go come first. -/
theorem exists_rest {l rest : List Nat} {m : Multiset Nat} (split : (rest : Multiset Nat) = ↑l + m)
    (few : rest.length ≤ 1) : ∃ left : List Nat, rest = l ++ left ∧ (left : Multiset Nat) = m := by
  cases l with
  | nil => exact ⟨rest, rfl, by simpa using split⟩
  | cons a l =>
      have size := congrArg Multiset.card split
      simp only [Multiset.coe_card, Multiset.card_add, List.length_cons] at size
      obtain rfl : l = [] := List.eq_nil_of_length_eq_zero (by omega)
      obtain rfl : m = 0 := Multiset.card_eq_zero.mp (by omega)
      rw [add_zero, Multiset.coe_eq_coe] at split
      exact ⟨[], List.perm_singleton.mp split, rfl⟩

namespace Service

variable {calls : Call ν → Prop} {config : Config} {begun : List (Task ν)} {y z : Service ν}

/-- As long as the pool has had at most one worker: what was offered has begun or stands in line;
of the closures of tasks that have begun at most the last is still to start; and one closure at most
is under way, on the worker that runs a job. -/
structure Filed (begun : List (Task ν)) (y : Service ν) : Prop where
  line : y.world.offered = (begun ++ y.pool.line).map Task.id
  started : ∃ rest : List Nat, begun.filterMap Task.ticket? = y.world.started ++ rest ∧
    (rest : Multiset Nat) = tally Frame.pending y.bag
  single : (tally Frame.underWay y.bag).card ≤ 1
  owner : ∀ t, ∀ f ∈ y.threads.get t, f.underWay ≠ 0 →
    ∃ n job, t = .worker n ∧ y.pool.workers = [⟨n, .running job⟩]

section Turn

variable {t : ThreadId} {f : Frame ν} {new : List (Frame ν)}

/-- A task that is offered goes to the end of the line, and the worker that is there stays at what
it does. -/
theorem Filed.turn_line (filed : Filed begun y) (tended : Tended config y.bag y.scene)
    (calm : f.stops = false) (tuned : f.retunes = false)
    (step : y.scene.step t f = some (new, z.scene)) (few : z.pool.largestWorkers ≤ 1) :
    z.world.offered = (begun ++ z.pool.line).map Task.id ∧
      (y.pool.workers ≠ [] → z.pool.workers = y.pool.workers) := by
  rcases Scene.step_offers calm tuned step with
    ⟨job, draining, refused, rfl, pool, offered⟩ | ⟨pool, offered⟩
  · have pool : z.pool = (y.pool.execute job).2 := pool
    obtain ⟨line, stays⟩ :=
      tended.pool.line_executes (ThreadPool.executed job y.pool) (pool ▸ few)
    rw [← pool] at line stays
    refine ⟨?_, stays⟩
    change z.pool.line = y.pool.line ++ [job] at line
    rw [line, ← List.append_assoc, List.map_append, ← filed.line]
    exact offered
  · have pool : z.pool = y.pool := pool
    rw [pool]
    exact ⟨offered.trans filed.line, fun _ => rfl⟩

theorem Filed.turn_started {others : Multiset (Frame ν)} (filed : Filed begun y)
    (carries : Scene.Carries y.scene f new z.scene) (before : y.bag = f ::ₘ others)
    (after : z.bag = ↑new + others) :
    ∃ rest : List Nat, begun.filterMap Task.ticket? = z.world.started ++ rest ∧
      (rest : Multiset Nat) = tally Frame.pending z.bag := by
  obtain ⟨waiting, begins, left⟩ := filed.started
  obtain ⟨l, started, pending⟩ := carries.begins
  have short : waiting.length ≤ 1 := by
    rw [← Multiset.coe_card, left]
    exact Nat.le_trans (Multiset.card_le_card (tally_mono Frame.pending_le_underWay y.bag))
      filed.single
  rw [before, tally_cons, pending, add_assoc, ← tally_add, ← after] at left
  obtain ⟨later, rfl, remain⟩ := exists_rest left short
  refine ⟨later, ?_, remain⟩
  rw [begins, ← List.append_assoc]
  exact congrArg (· ++ later) started.symm

theorem Filed.turn_owner {rest : List (Frame ν)} (filed : Filed begun y)
    (carries : Scene.Carries y.scene f new z.scene) (top : y.threads.get t = f :: rest)
    (threads : z.threads = y.threads.set t (new ++ rest)) {u : ThreadId} {g : Frame ν}
    (mem : g ∈ z.threads.get u) (some : g.underWay ≠ 0) :
    ∃ n job, u = .worker n ∧ y.pool.workers = [⟨n, .running job⟩] := by
  rw [threads] at mem
  by_cases own : u = t
  · subst own
    rw [Stacks.get_set_self] at mem
    rcases List.mem_append.mp mem with fresh | old
    · refine filed.owner u f (top ▸ List.mem_cons_self) fun none => some ?_
      have within := (le_tally Frame.underWay (Multiset.mem_coe.mpr fresh)).trans carries.within
      exact Multiset.le_zero.mp (none ▸ within)
    · exact filed.owner u g (top ▸ List.mem_cons_of_mem _ old) some
  · rw [Stacks.get_set_of_ne own] at mem
    exact filed.owner u g mem some

theorem Filed.turn (filed : Filed begun y) (undisturbed : Undisturbed config none y.bag y.scene)
    (tended : Tended config y.bag y.scene) (h : y.turn? t = some z)
    (few : z.pool.largestWorkers ≤ 1) : Filed begun z := by
  obtain ⟨f, new, rest, top, step, threads, before, after⟩ := System.turn_stack h
  have mem : f ∈ y.bag := before ▸ Multiset.mem_cons_self _ _
  have carries := Scene.step_carries step
  obtain ⟨line, stays⟩ :=
    filed.turn_line tended (undisturbed.frames f mem) (tended.tuned f mem) step few
  refine ⟨line, filed.turn_started carries before after, ?_, ?_⟩
  · refine Nat.le_trans (Multiset.card_le_card ?_) filed.single
    rw [after, before, tally_add, tally_cons]
    exact add_le_add_left carries.within _
  · intro u g mem some
    obtain ⟨n, job, rfl, workers⟩ := filed.turn_owner carries top threads mem some
    exact ⟨n, job, rfl, (stays (by simp [workers])).trans workers⟩

end Turn

theorem Filed.call {n : Nat} {c : Call ν} (filed : Filed begun y)
    (idle : y.threads.get (.caller n) = []) (quiet : c.frame.underWay = 0) :
    Filed begun (y.assign (.caller n) [c.frame]) := by
  have bag : (y.assign (.caller n) [c.frame]).bag = c.frame ::ₘ y.bag := System.bag_assign idle _
  refine ⟨filed.line, ?_, ?_, ?_⟩
  · rw [bag, tally_cons, Frame.pending_of_underWay quiet, zero_add]
    exact filed.started
  · rw [bag, tally_cons, quiet, zero_add]
    exact filed.single
  · intro u g mem some
    change g ∈ (y.threads.set (.caller n) [c.frame]).get u at mem
    by_cases own : u = .caller n
    · subst own
      rw [Stacks.get_set_self, List.mem_singleton] at mem
      rw [mem] at some
      exact absurd quiet some
    · rw [Stacks.get_set_of_ne own] at mem
      exact filed.owner u g mem some

/-- When the only worker does something, no closure is under way. -/
theorem Filed.idle {number : Nat} {phase : Phase (Task ν)} (filed : Filed begun y)
    (idle : y.threads.get (.worker number) = []) (only : y.pool.workers = [⟨number, phase⟩]) :
    ∀ t, ∀ f ∈ y.threads.get t, f.underWay = 0 := by
  intro t f mem
  by_contra some
  -- It would be on the stack of that worker, which is empty.
  obtain ⟨n, job, rfl, workers⟩ := filed.owner t f mem some
  obtain ⟨same, -⟩ := List.cons.inj (only.symm.trans workers)
  obtain ⟨rfl, -⟩ := Worker.mk.inj same
  rw [idle] at mem
  cases mem

theorem Filed.none_under_way {number : Nat} {phase : Phase (Task ν)} (filed : Filed begun y)
    (idle : y.threads.get (.worker number) = []) (only : y.pool.workers = [⟨number, phase⟩]) :
    tally Frame.underWay y.bag = 0 := by
  apply tally_eq_zero
  intro f mem
  obtain ⟨t, own⟩ := Stacks.get_of_mem_frames (Multiset.mem_coe.mp mem)
  exact filed.idle idle only t f own

/-- A worker gets a stack to run what has begun, or one on which nothing runs. -/
theorem Acted.stack {number : Nat} {act : WorkerAct} {more : List (Task ν)}
    (h : Acted number y act more z) (idle : y.threads.get (.worker number) = []) :
    ∃ stack : List (Frame ν), z.bag = ↑stack + y.bag ∧
      z.threads.get (.worker number) = stack ∧
      (∀ u, u ≠ .worker number → z.threads.get u = y.threads.get u) ∧
      tally Frame.pending (stack : Multiset (Frame ν)) = ↑(more.filterMap Task.ticket?) ∧
      tally Frame.underWay (stack : Multiset (Frame ν)) = ↑(more.filterMap Task.ticket?) := by
  cases h with
  | @begin job | @count job =>
      refine ⟨_, System.bag_assign idle _, Stacks.get_set_self _ _ _,
        fun u other => Stacks.get_set_of_ne other _ _, ?_, ?_⟩
      · cases ticket : job.ticket? <;> simp [ticket]
      · cases ticket : job.ticket? <;> simp [ticket]
  | endRun =>
      exact ⟨_, System.bag_assign idle _, Stacks.get_set_self _ _ _,
        fun u other => Stacks.get_set_of_ne other _ _, rfl, rfl⟩
  | other => exact ⟨[], (zero_add _).symm, idle, fun _ _ => rfl, rfl, rfl⟩

theorem Filed.act {number : Nat} {act : WorkerAct} (filed : Filed begun y)
    (tended : Tended config y.bag y.scene) (h : act? number act y = some z)
    (few : y.pool.largestWorkers ≤ 1) :
    Filed (begun ++ (y.pool.begins? number act).toList) z := by
  obtain ⟨idle, acted⟩ := acted h
  obtain ⟨world, step⟩ := acted.pool
  obtain ⟨phase, found⟩ := step.found
  have only := tended.pool.only few found
  have none := filed.idle idle only
  have underWay := filed.none_under_way idle only
  have front : y.pool.line = (y.pool.begins? number act).toList ++ z.pool.line :=
    tended.pool.line_acts step few
  have begins : ∀ job ∈ (y.pool.begins? number act).toList,
      z.pool.workers = [⟨number, .running job⟩] :=
    fun job begins => tended.pool.begins step few (Option.mem_toList.mp begins)
  obtain ⟨stack, bag, own, others, stackPending, stackUnderWay⟩ := acted.stack idle
  -- From here on it matters only whether a task begins, not with which act.
  generalize y.pool.begins? number act = more at front begins stackPending stackUnderWay
  have pending : tally Frame.pending y.bag = 0 :=
    Multiset.le_zero.mp (underWay ▸ tally_mono Frame.pending_le_underWay y.bag)
  refine ⟨?_, ⟨more.toList.filterMap Task.ticket?, ?_, ?_⟩, ?_, ?_⟩
  · rw [world, List.append_assoc, ← front]
    exact filed.line
  · obtain ⟨waiting, begun, left⟩ := filed.started
    rw [pending, Multiset.coe_eq_zero] at left
    rw [List.filterMap_append, begun, left, List.append_nil, world]
  · rw [bag, tally_add, pending, add_zero, stackPending]
  · rw [bag, tally_add, underWay, add_zero, stackUnderWay, Multiset.coe_card]
    refine Nat.le_trans (List.length_filterMap_le _ _) ?_
    cases more <;> simp
  · intro u g mem some
    by_cases worker : u = .worker number
    · subst worker
      rw [own] at mem
      have within := le_tally Frame.underWay (Multiset.mem_coe.mpr mem)
      rw [stackUnderWay] at within
      cases more with
      | none => exact absurd (Multiset.le_zero.mp within) some
      | some job => exact ⟨number, job, rfl, begins job (by simp)⟩
    · rw [others u worker] at mem
      exact absurd (none u g mem) some

/-! ### Whole runs -/

/-- The largest number of workers never falls, and it rises above one only when a task is offered to
a pool with a full ready queue. The task gets a worker of its own at once. -/
theorem largest_step (undisturbed : Undisturbed config none y.bag y.scene)
    (tended : Tended config y.bag y.scene) {more : List (Task ν)} (step : Next calls y more z) :
    y.pool.largestWorkers ≤ z.pool.largestWorkers ∧
      (y.pool.largestWorkers ≤ 1 → 1 < z.pool.largestWorkers →
        ∃ t job draining refused rest, y.threads.get t = .offer job draining refused :: rest ∧
          y.turn? t = some z ∧ y.pool.ready.length = config.maxQueueSize ∧
          ∃ n, z.pool.workers = y.pool.workers ++ [⟨n, .assigned job⟩]) := by
  cases step with
  | turn t h =>
      obtain ⟨f, new, rest, top, step, -, before, -⟩ := System.turn_stack h
      have mem : f ∈ y.bag := before ▸ Multiset.mem_cons_self _ _
      rcases Scene.step_offers (undisturbed.frames f mem) (tended.tuned f mem) step with
        ⟨job, draining, refused, rfl, pool, -⟩ | ⟨pool, -⟩
      · have pool : z.pool = (y.pool.execute job).2 := pool
        have exec := ThreadPool.executed job y.pool
        rw [← pool] at exec
        refine ⟨exec.largest_le, fun few more => ?_⟩
        obtain ⟨full, overtakes⟩ := tended.pool.second_worker exec few more
        exact ⟨t, job, draining, refused, rest, top, h, full, overtakes⟩
      · have pool : z.pool = y.pool := pool
        rw [pool]
        exact ⟨Nat.le_refl _, fun few more => absurd more (Nat.not_lt.mpr few)⟩
  | call n c => exact ⟨Nat.le_refl _, fun few more => absurd more (Nat.not_lt.mpr few)⟩
  | act number act h =>
      obtain ⟨-, acted⟩ := acted h
      obtain ⟨-, -, -, -, -, largest, -, -⟩ :=
        acted.pool.2.settings tended.pool.attended.numbered tended.pool.running
      rw [largest]
      exact ⟨Nat.le_refl _, fun few more => absurd more (Nat.not_lt.mpr few)⟩

section Runs

variable {y₀ : Service ν}

/-- Nobody but submissions is about, and the pool is that of an executor with one worker. -/
theorem tended_runs (submits : ∀ {c}, calls c → ∃ work reply, c = .submit work reply)
    (single : config.Single) (made : make? config none = some (.ok y₀))
    (run : Runs calls y₀ begun y) :
    Undisturbed config none y.bag y.scene ∧ Tended config y.bag y.scene := by
  obtain ⟨valid, s, built, rfl⟩ := make?_ok made
  have undisturbed : ∀ w, System.Reaches (rules calls) (.idle s) w →
      Undisturbed config none w.bag w.scene :=
    fun w before => undisturbed_reaches submits built before
  refine ⟨undisturbed y run.reaches, ?_⟩
  obtain ⟨-, flight, rfl⟩ := Scene.build_ok built
  refine (tended_outline single).always undisturbed rfl ⟨?_, by simp⟩ run.reaches
  exact ThreadPool.steady_ofConfig (Config.valid_of_validate valid) single.core

theorem filed_runs (submits : ∀ {c}, calls c → ∃ work reply, c = .submit work reply)
    (single : config.Single) (made : make? config none = some (.ok y₀))
    (run : Runs calls y₀ begun y) (few : y.pool.largestWorkers ≤ 1) : Filed begun y := by
  induction run with
  | refl =>
      obtain ⟨-, s, built, rfl⟩ := make?_ok made
      obtain ⟨-, flight, rfl⟩ := Scene.build_ok built
      exact ⟨rfl, ⟨[], rfl, rfl⟩, Nat.zero_le _, fun t f never => absurd never List.not_mem_nil⟩
  | @tail begun more y z before step ih =>
      obtain ⟨undisturbed, tended⟩ := tended_runs submits single made before
      -- There were no more workers before the step than after it.
      have earlier := Nat.le_trans (largest_step undisturbed tended step).1 few
      have filed := ih earlier
      cases step with
      | turn t h =>
          rw [List.append_nil]
          exact filed.turn undisturbed tended h few
      | call n c idle allowed =>
          obtain ⟨work, reply, rfl⟩ := submits allowed
          rw [List.append_nil]
          exact filed.call idle rfl
      | act number act h => exact filed.act tended h earlier

/-- Tasks are offered to the pool in the order in which they joined the backlog. -/
theorem offered_in_push_order (submits : ∀ {c}, calls c → ∃ work reply, c = .submit work reply)
    (made : make? config none = some (.ok y₀)) (run : Runs calls y₀ begun y) :
    y.world.offered <+: y.world.pushed := by
  obtain ⟨-, s, built, rfl⟩ := make?_ok made
  have endures : ∀ c, calls c → c.frame.halts = false := by
    intro c allowed
    obtain ⟨work, reply, rfl⟩ := submits allowed
    rfl
  have unstopped := unstopped_reaches (closing endures) built run.reaches
  obtain ⟨o, ordered⟩ :=
    (ordered_reaches built run.reaches).due (exclusive_reaches built run.reaches)
  have line := ordered.line
  rw [unstopped.retained, List.append_assoc] at line
  exact ⟨_, line.symm⟩

/-- An executor with one core worker and no main thread, into whose calls only submissions come: as
long as its pool has never had a second worker, tasks begin to run in the order in which they joined
the backlog, their closures start in this order too, and one at most runs at a time. A second worker
comes only with an offer that finds the ready queue exactly full: the gate lets a task through then
if the worker does not count as active, and this task overtakes the whole queue. -/
theorem single_file (submits : ∀ {c}, calls c → ∃ work reply, c = .submit work reply)
    (single : config.Single) (made : make? config none = some (.ok y₀))
    (run : Runs calls y₀ begun y) :
    (y.pool.largestWorkers ≤ 1 →
      begun.map Task.id <+: y.world.pushed ∧
      y.world.started <+: begun.filterMap Task.ticket? ∧
      (tally Frame.underWay y.bag).card ≤ 1 ∧ y.pool.workers.length ≤ 1) ∧
    ∀ more z, Next calls y more z → y.pool.largestWorkers ≤ 1 → 1 < z.pool.largestWorkers →
      ∃ t job draining refused rest, y.threads.get t = .offer job draining refused :: rest ∧
        y.turn? t = some z ∧ y.pool.ready.length = config.maxQueueSize ∧
        ∃ n, z.pool.workers = y.pool.workers ++ [⟨n, .assigned job⟩] := by
  obtain ⟨undisturbed, tended⟩ := tended_runs submits single made run
  refine ⟨fun few => ?_, fun more z step => (largest_step undisturbed tended step).2⟩
  have filed := filed_runs submits single made run few
  have front : begun.map Task.id <+: y.world.offered :=
    ⟨y.pool.line.map Task.id, by rw [filed.line, List.map_append]⟩
  obtain ⟨rest, begins, -⟩ := filed.started
  exact ⟨front.trans (offered_in_push_order submits made run), ⟨rest, begins.symm⟩, filed.single,
    Nat.le_trans tended.pool.crew few⟩

end Runs

end Service

/-! ### Runs with one worker and with two -/

namespace Sample

theorem config_single : config.Single := ⟨rfl, rfl, rfl⟩

def onlySubmits (c : Call Unit) : Bool := !c.frame.stops

theorem stops_of_onlySubmits {c : Call Unit} (allowed : onlySubmits c = true) :
    c.frame.stops = false := by
  simpa [onlySubmits] using allowed

theorem submits {c : Call Unit} (allowed : onlySubmits c = true) :
    ∃ work reply, c = .submit work reply := by
  cases c with
  | submit work reply => exact ⟨work, reply, rfl⟩
  | shutdown | shutdownNow => contradiction

/-- One task after the other. -/
def queued : List (Service.Move Unit) :=
  asks 1 12 (submit "a") ++ acts 1 5 .begin ++ asks 1 10 (submit "b") ++ acts 1 12 .endRun
    ++ acts 1 0 .endCompletion ++ acts 1 0 .check ++ acts 1 0 .receive ++ acts 1 2 .count

/-- The first task has run and does not count any more. The second joins the ready queue, which is
full with it; the third gets a worker of its own and begins, and only then the second. -/
def crowded : List (Service.Move Unit) :=
  asks 1 12 (submit "a") ++ acts 1 5 .begin ++ asks 1 10 (submit "b") ++ acts 1 0 .endRun
    ++ asks 1 12 (submit "c") ++ asks 1 12 (submit "d") ++ acts 2 2 .begin
    ++ Service.Move.turns (.worker 1) 10 ++ acts 1 0 .endCompletion ++ acts 1 0 .check
    ++ acts 1 0 .receive ++ acts 1 2 .count

end Sample

set_option maxRecDepth 2000 in
open Sample in
/-- The second of two tasks begins once the first has been completed. -/
theorem single_file_of_two :
    (∀ {c : Call Unit}, onlySubmits c = true → ∃ work reply, c = .submit work reply) ∧
      config.Single ∧ Service.make? config none = some (.ok service) ∧
      ∃ begun y, Service.Runs (fun c => onlySubmits c = true) service begun y ∧
        y.pool.largestWorkers ≤ 1 ∧ begun.map Task.id = [⟨1⟩, ⟨2⟩] ∧ y.world.started = [0, 1] ∧
        ((y.pool.largestWorkers ≤ 1 →
            begun.map Task.id <+: y.world.pushed ∧
            y.world.started <+: begun.filterMap Task.ticket? ∧
            (tally Frame.underWay y.bag).card ≤ 1 ∧ y.pool.workers.length ≤ 1) ∧
          ∀ more z, Service.Next (fun c => onlySubmits c = true) y more z →
            y.pool.largestWorkers ≤ 1 → 1 < z.pool.largestWorkers →
            ∃ t job draining refused rest, y.threads.get t = .offer job draining refused :: rest ∧
              y.turn? t = some z ∧ y.pool.ready.length = config.maxQueueSize ∧
              ∃ n, z.pool.workers = y.pool.workers ++ [⟨n, .assigned job⟩]) := by
  have replayed : ∃ begun y, Service.replay onlySubmits queued service = some (begun, y) ∧
      y.pool.largestWorkers ≤ 1 ∧ begun.map Task.id = [⟨1⟩, ⟨2⟩] ∧ y.world.started = [0, 1] :=
    ⟨_, _, rfl, Nat.le_refl _, rfl, rfl⟩
  obtain ⟨begun, y, replayed, few, order, started⟩ := replayed
  have run := Service.replay_runs .refl replayed
  exact ⟨submits, config_single, service_made, begun, y, run, few, order, started,
    Service.single_file submits config_single service_made run⟩

set_option maxRecDepth 2000 in
open Sample in
/-- One core worker and submissions only, but the third task begins before the second, and then both
run at once. -/
theorem overtaken_by_second_worker :
    (∀ {c : Call Unit}, onlySubmits c = true → ∃ work reply, c = .submit work reply) ∧
      config.Single ∧ Service.make? config none = some (.ok service) ∧
      ∃ begun y, Service.Runs (fun c => onlySubmits c = true) service begun y ∧
        begun.map Task.id = [⟨1⟩, ⟨3⟩, ⟨2⟩] ∧ y.world.pushed = [⟨1⟩, ⟨2⟩, ⟨3⟩, ⟨4⟩] ∧
        ¬ begun.map Task.id <+: y.world.pushed ∧ y.world.started = [0, 2, 1] ∧
        (tally Frame.underWay y.bag).card = 2 := by
  have replayed : ∃ begun y, Service.replay onlySubmits crowded service = some (begun, y) ∧
      begun.map Task.id = [⟨1⟩, ⟨3⟩, ⟨2⟩] ∧ y.world.pushed = [⟨1⟩, ⟨2⟩, ⟨3⟩, ⟨4⟩] ∧
      y.world.started = [0, 2, 1] ∧ (tally Frame.underWay y.bag).card = 2 :=
    ⟨_, _, rfl, rfl, rfl, rfl, rfl⟩
  obtain ⟨begun, y, replayed, order, pushed, started, both⟩ := replayed
  refine ⟨submits, config_single, service_made, begun, y,
    Service.replay_runs .refl replayed, order, pushed, ?_, started, both⟩
  rw [order, pushed]
  decide

end TwoTier
