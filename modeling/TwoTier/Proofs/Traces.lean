import TwoTier.Proofs.StopRace
import TwoTier.Proofs.Watch

/-!
Traces, and scans of the register.

A submission that is let in scans the register, takes a trace and makes a task. The task keeps its
trace until it is entered into the register, and from then on the entry has it. So every entry has
the trace of the submission that made its task (`Trailed`), and the scans that nobody asked for are
those of the submissions that were let in (`Surveyed`).
-/

namespace TwoTier

variable {σ ν : Type}

namespace Frame

/-- The tasks on their way to the register, which have their traces still. -/
def unmarked : Frame ν → Multiset (Task ν)
  | .push t | .handOver t _ _ => {t}
  | _ => 0

/-- The task that a step from a frame makes. -/
def makes (s : Scene σ ν) : Frame ν → List (Task ν)
  | .survey c => [(s.scan.2.makeTask c).1]
  | _ => []

/-- The submissions that have not scanned the register yet and may still do so. -/
def surveying : Frame ν → Nat
  | .arrive _ | .survey _ => 1
  | _ => 0

theorem makes_of_inPass {f : Frame ν} (inside : f.inPass = true) (s : Scene σ ν) :
    f.makes s = [] := by
  cases f with
  | survey => simp [inPass] at inside
  | _ => rfl

/-- A new task has the next id, and with diagnostics on the trace of its submission. -/
theorem of_makes {f : Frame ν} {s : Scene σ ν} {r : FlightRecorder (Option Capture)}
    (debug : s.exec.flight = some r) {t : Task ν} (mem : t ∈ f.makes s) :
    t.id = ⟨s.world.nextTask⟩ ∧ ∃ c, t.closure = some c ∧ t.capture = some ⟨c.ticket⟩ := by
  cases f with
  | survey c =>
      obtain rfl := List.mem_singleton.mp mem
      refine ⟨congrArg TaskId.mk (Scene.nextTask_scan s), c, rfl, ?_⟩
      simp [Scene.makeTask, Scene.scan, debug]
  | _ => cases mem

theorem makes_distinct (f : Frame ν) (s : Scene σ ν) : ((f.makes s).map Task.id).Nodup := by
  cases f with
  | survey => exact List.nodup_singleton _
  | _ => exact List.nodup_nil

theorem unmarked_afterOffer (draining : Bool) (refused : List (Task ν)) :
    (Scene.afterOffer draining refused).unmarked = 0 := by
  cases draining <;> rfl

theorem surveying_of_inPass {f : Frame ν} (inside : f.inPass = true) : f.surveying = 0 := by
  cases f with
  | arrive | survey => simp [inPass] at inside
  | _ => rfl

theorem surveying_of_not_inLibrary {f : Frame ν} (outside : f.inLibrary = false) :
    f.surveying = 0 := by
  cases f with
  | arrive | survey => simp [inLibrary] at outside
  | _ => rfl

end Frame

/-! ### What a step does to the register -/

/-- What becomes of the register in a step from a frame. -/
inductive RegisterStep (flight : Option (FlightRecorder (Option Capture))) :
    Frame ν → Option (FlightRecorder (Option Capture)) → Prop where
  | scanned (c : Closure ν) (now : Instant) :
      RegisterStep flight (.survey c) (flight.map fun r => (r.scan now).2)
  | entered (t : Task ν) (draining : Bool) (refused : List (Task ν)) (now : Instant) :
      RegisterStep flight (.handOver t draining refused)
        (flight.map (FlightRecorder.admitted t.id t.capture now))
  | erased {f : Frame ν} (id : TaskId) (other : ∀ c, f ≠ .survey c) :
      RegisterStep flight f (flight.map (FlightRecorder.completed id))
  | kept {f : Frame ν} (other : ∀ c, f ≠ .survey c) : RegisterStep flight f flight

theorem Frame.makes_of_ne {f : Frame ν} (other : ∀ c, f ≠ .survey c) (s : Scene σ ν) :
    f.makes s = [] := by
  cases f with
  | survey c => exact absurd rfl (other c)
  | _ => rfl

/-- New entries are made of tasks on their way to the register. -/
theorem RegisterStep.entries {f : Frame ν} {r : FlightRecorder (Option Capture)}
    {after : Option (FlightRecorder (Option Capture))} (h : RegisterStep (some r) f after) :
    ∃ r', after = some r' ∧
      ∀ e ∈ r'.entries, e ∈ r.entries ∨ ∃ t ∈ f.unmarked, t.id = e.id ∧ t.capture = e.trace := by
  cases h with
  | scanned c now => exact ⟨_, rfl, fun e mem => .inl mem⟩
  | entered t draining refused now =>
      refine ⟨_, rfl, fun e mem => ?_⟩
      rcases List.mem_append.mp mem with mem | mem
      · exact .inl (List.mem_of_mem_filter mem)
      · rw [List.mem_singleton.mp mem]
        exact .inr ⟨t, Multiset.mem_singleton_self t, rfl, rfl⟩
  | erased id => exact ⟨_, rfl, fun e mem => .inl (List.mem_of_mem_filter mem)⟩
  | kept => exact ⟨r, rfl, fun e mem => .inl mem⟩

theorem RegisterStep.scans {f : Frame ν} {r : FlightRecorder (Option Capture)}
    {after : Option (FlightRecorder (Option Capture))} (h : RegisterStep (some r) f after)
    (s : Scene σ ν) : ∃ r', after = some r' ∧ r'.scans = r.scans + (f.makes s).length := by
  cases h with
  | scanned | entered => exact ⟨_, rfl, rfl⟩
  | erased id other | kept other => exact ⟨_, rfl, by rw [f.makes_of_ne other]; rfl⟩

namespace Scene

theorem flight_scan (s : Scene σ ν) :
    ∃ now, s.scan.2.exec.flight = s.exec.flight.map fun r => (r.scan now).2 := by
  refine ⟨s.world.readClock.1, ?_⟩
  unfold scan
  cases flight : s.exec.flight with
  | none => exact flight
  | some r => rfl

theorem flight_marked (t : Task ν) (s : Scene σ ν) :
    ∃ now, (s.marked t).exec.flight
      = s.exec.flight.map (FlightRecorder.admitted t.id t.capture now) := by
  refine ⟨s.world.readClock.1, ?_⟩
  unfold marked enterFlight
  cases flight : s.exec.flight with
  | none => exact flight
  | some r => rfl

variable [WorkerPool σ (Task ν)]

theorem flight_retune (active queued : Nat) (s : Scene σ ν) :
    (s.retune active queued).2.exec.flight = s.exec.flight := by
  unfold retune
  dsimp only
  split <;> rfl

variable {me : ThreadId} {f g : Frame ν} {new : List (Frame ν)} {s s' : Scene σ ν}

theorem PassStep.register (h : PassStep me s f g s') :
    RegisterStep s.exec.flight f s'.exec.flight := by
  cases h with
  | tuned active queued | untuned active queued =>
      rw [flight_retune]
      exact .kept (by simp)
  | empty none takes | takeHead head takes => exact .kept (by cases takes <;> simp)
  | mark t draining refused =>
      obtain ⟨now, flight⟩ := s.flight_marked t
      rw [flight]
      exact .entered t draining refused now
  | turnedDown t => exact .erased t.id (by simp)
  | _ => exact .kept (by simp)

theorem QuietStep.register (h : QuietStep me s f new s') :
    RegisterStep s.exec.flight f s'.exec.flight := by
  cases h with
  | survey c =>
      obtain ⟨now, flight⟩ := s.flight_scan
      change RegisterStep _ _ s.scan.2.exec.flight
      rw [flight]
      exact .scanned c now
  | completed id => exact .erased id (by simp)
  | _ => exact .kept (by simp)

theorem step_register (h : s.step me f = some (new, s')) :
    RegisterStep s.exec.flight f s'.exec.flight := by
  cases step_cases h with
  | pass pass => exact pass.register
  | leave => exact .kept (by simp)
  | enter _ enter => cases enter <;> exact .kept (by simp)
  | outside outside =>
      cases outside with
      | quiet quiet => exact quiet.register
      | shutdown | withdraw | stop => exact .kept (by simp)

/-! ### Where tasks are that have their traces still -/

/-- A pass takes a task from the backlog and enters it into the register. -/
theorem PassStep.unmarked (h : PassStep me s f g s') :
    (s'.exec.backlog : Multiset (Task ν)) + g.unmarked ≤ ↑s.exec.backlog + f.unmarked := by
  cases h with
  | tuned active queued | untuned active queued => rw [(keeps_retune active queued s).backlog]; rfl
  | empty none takes => cases takes <;> exact le_rfl
  | takeHead head takes =>
      have none : f.unmarked = 0 := by cases takes <;> rfl
      rw [head, none, add_zero, ← Multiset.cons_coe, ← Multiset.singleton_add, add_comm]
      rfl
  | mark t draining refused =>
      rw [(keeps_marked t s).backlog]
      exact add_le_add_right (Multiset.zero_le _) _
  | accepted t draining refused | turnedDown t draining refused =>
      rw [Frame.unmarked_afterOffer]
      exact le_rfl
  | _ => exact le_rfl

theorem QuietStep.unmarked (h : QuietStep me s f new s') :
    tally Frame.unmarked (new : Multiset (Frame ν)) = f.unmarked + ↑(f.makes s) := by
  cases h with
  | pastGate c | discard c => exact tally_submitAll_append (fun _ _ => rfl) _ _
  | _ => simp [Frame.unmarked, Frame.makes]

/-- New tasks with traces are made by surveys only. -/
theorem step_unmarked (h : s.step me f = some (new, s')) :
    (s'.exec.backlog : Multiset (Task ν)) + tally Frame.unmarked (new : Multiset (Frame ν))
      ≤ ↑s.exec.backlog + f.unmarked + ↑(f.makes s) := by
  cases step_cases h with
  | pass pass =>
      rw [Multiset.coe_singleton, tally_singleton]
      exact pass.unmarked.trans (Multiset.le_add_right _ _)
  | leave =>
      rw [tally_discards fun _ => rfl]
      exact Multiset.le_add_right _ _
  | enter _ enter =>
      cases enter with
      | push t =>
          change (↑(s.exec.backlog ++ [t]) : Multiset (Task ν)) + 0 ≤ ↑s.exec.backlog + {t} + 0
          rw [← Multiset.coe_add, Multiset.coe_singleton]
      | resume | shutting => exact Multiset.le_add_right _ _
  | outside outside =>
      cases outside with
      | quiet quiet => rw [quiet.keeps.backlog, quiet.unmarked, add_assoc]
      | shutdown | stop => exact Multiset.le_add_right _ _
      | withdraw => exact Multiset.zero_le _

/-- Task ids are given out in order, and a survey takes the next. -/
theorem step_nextTask (h : s.step me f = some (new, s')) :
    s.world.nextTask + (f.makes s).length ≤ s'.world.nextTask := by
  cases step_cases h with
  | pass pass =>
      rw [Frame.makes_of_inPass pass.inPass_before]
      exact pass.nextTask
  | leave => exact le_rfl
  | enter _ enter => cases enter <;> exact le_rfl
  | outside outside =>
      cases outside with
      | quiet quiet =>
          cases f with
          | survey c =>
              obtain ⟨rfl, rfl⟩ := Prod.mk.inj (Option.some.inj h)
              exact Nat.succ_le_succ (nextTask_scan s).ge
          | _ => exact quiet.keeps.nextTask
      | shutdown | withdraw | stop => exact le_rfl

/-! ### What submissions have scanned -/

theorem QuietStep.surveys (h : QuietStep me s f new s') :
    (f.makes s).length + s'.exec.dropped + tally Frame.surveying (new : Multiset (Frame ν))
        + s.world.nextTicket
      = s.exec.dropped + f.surveying + s'.world.nextTicket := by
  cases h with
  | submit =>
      simp [Frame.makes, Frame.surveying, World.makeClosure]
      omega
  | turnAway => simp [Frame.makes, Frame.surveying]
  | survey c =>
      have tickets := nextTicket_scan s
      have dropped := dropped_scan s
      simp [Frame.makes, makeTask, World.takeTaskId, Frame.surveying, tickets, dropped]
      omega
  | pastGate c | discard c =>
      rw [tally_submitAll_append fun _ _ => rfl]
      simp [Frame.makes, Frame.surveying, record]
  | finish c =>
      have tickets := nextTicket_finish c me s.world
      simp [Frame.makes, Frame.surveying, tickets]
  | _ => simp [Frame.makes, Frame.surveying, record, Buffer.forget]

/-- A submission is made, scans the register and makes a task, or is dropped. -/
theorem step_surveys (h : s.step me f = some (new, s')) :
    (f.makes s).length + s'.exec.dropped + tally Frame.surveying (new : Multiset (Frame ν))
        + s.world.nextTicket
      = s.exec.dropped + f.surveying + s'.world.nextTicket := by
  cases step_cases h with
  | pass pass =>
      obtain ⟨tickets, dropped⟩ := pass.submissions
      rw [Frame.makes_of_inPass pass.inPass_before, Frame.surveying_of_inPass pass.inPass_before,
        Multiset.coe_singleton, tally_singleton, Frame.surveying_of_inPass pass.inPass, tickets,
        dropped]
      simp
  | leave =>
      rw [tally_discards fun _ => rfl]
      simp [Frame.makes, Frame.surveying, Buffer.unlock]
  | enter _ enter =>
      cases enter <;> simp [Frame.makes, Frame.surveying, Buffer.push, Buffer.lock]
  | outside outside =>
      cases outside with
      | quiet quiet => exact quiet.surveys
      | shutdown | withdraw | stop => simp [Frame.makes, Frame.surveying]

end Scene

/-! ### Entries have the traces of submissions -/

/-- A trail of tasks with different ids and the traces of their submissions. All tasks that have
their traces still are on it, and so is the origin of every entry. -/
structure Trailed (trail : List (Task ν)) (bag : Multiset (Frame ν)) (s : Scene σ ν) : Prop where
  own : ∀ t ∈ trail, ∃ c, t.closure = some c ∧ t.capture = some ⟨c.ticket⟩
  distinct : (trail.map Task.id).Nodup
  older : ∀ t ∈ trail, t.id.number < s.world.nextTask
  unmarked : ∀ t ∈ (s.exec.backlog : Multiset (Task ν)) + tally Frame.unmarked bag, t ∈ trail
  entries : ∃ r, s.exec.flight = some r ∧
    ∀ e ∈ r.entries, ∃ t ∈ trail, t.id = e.id ∧ t.capture = e.trace

/-- Every submission that was not dropped has scanned the register, but for those that are about to
do so; and there were so many other scans. -/
def Surveyed (n : Nat) (bag : Multiset (Frame ν)) (s : Scene σ ν) : Prop :=
  ∃ r, s.exec.flight = some r ∧
    r.scans + s.exec.dropped + tally Frame.surveying bag = s.world.nextTicket + n

variable [WorkerPool σ (Task ν)] {rules : Rules σ ν} {me : ThreadId} {f : Frame ν}
  {new : List (Frame ν)} {bag bag' rest : Multiset (Frame ν)} {s s' : Scene σ ν}
  {trail : List (Task ν)} {n : Nat}

namespace Trailed

theorem step (h : Trailed trail (f ::ₘ rest) s) (step : s.step me f = some (new, s')) :
    Trailed (trail ++ f.makes s) (↑new + rest) s' := by
  obtain ⟨r, debug, entries⟩ := h.entries
  have kept := h.unmarked
  rw [tally_cons, ← add_assoc] at kept
  have ids := Scene.step_nextTask step
  constructor
  · intro t mem
    rcases List.mem_append.mp mem with mem | mem
    · exact h.own t mem
    · exact (Frame.of_makes debug mem).2
  · rw [List.map_append]
    refine h.distinct.append (f.makes_distinct s) ?_
    -- What is made has the next id, and all ids on the trail are older.
    intro id mem mem'
    obtain ⟨t, old, rfl⟩ := List.mem_map.mp mem
    obtain ⟨t', new, same⟩ := List.mem_map.mp mem'
    have early := h.older t old
    rw [← same, (Frame.of_makes debug new).1] at early
    exact absurd early (Nat.lt_irrefl _)
  · intro t mem
    rcases List.mem_append.mp mem with mem | mem
    · have early := h.older t mem
      omega
    · have some := List.length_pos_of_mem mem
      rw [(Frame.of_makes debug mem).1]
      exact Nat.lt_of_lt_of_le (Nat.lt_add_of_pos_right some) ids
  · rw [tally_add, ← add_assoc]
    intro t mem
    rcases Multiset.mem_add.mp mem with mem | mem
    · rcases Multiset.mem_add.mp (Multiset.mem_of_le (Scene.step_unmarked step) mem) with mem | mem
      · exact List.mem_append_left _ (kept t (Multiset.mem_add.mpr (.inl mem)))
      · exact List.mem_append_right _ (Multiset.mem_coe.mp mem)
    · exact List.mem_append_left _ (kept t (Multiset.mem_add.mpr (.inr mem)))
  · have register := Scene.step_register step
    rw [debug] at register
    obtain ⟨r', after, origin⟩ := register.entries
    refine ⟨r', after, fun e mem => ?_⟩
    rcases origin e mem with old | ⟨t, mem, same⟩
    · obtain ⟨t, mem, same⟩ := entries e old
      exact ⟨t, List.mem_append_left _ mem, same⟩
    · refine ⟨t, List.mem_append_left _ (kept t ?_), same⟩
      exact Multiset.mem_add.mpr (.inl (Multiset.mem_add.mpr (.inr mem)))

omit [WorkerPool σ (Task ν)] in
/-- Neither the entries nor the tasks on their way change. -/
theorem of_eq (h : Trailed trail bag s)
    (unmarked : tally Frame.unmarked bag' = tally Frame.unmarked bag)
    (backlog : s'.exec.backlog = s.exec.backlog) (nextTask : s'.world.nextTask = s.world.nextTask)
    (entries : ∀ r, s.exec.flight = some r →
      ∃ r', s'.exec.flight = some r' ∧ r'.entries = r.entries) : Trailed trail bag' s' := by
  obtain ⟨r, debug, origin⟩ := h.entries
  obtain ⟨r', debug', same⟩ := entries r debug
  refine ⟨h.own, h.distinct, ?_, ?_, r', debug', ?_⟩
  · rw [nextTask]
    exact h.older
  · rw [unmarked, backlog]
    exact h.unmarked
  · rw [same]
    exact origin

end Trailed

theorem Surveyed.step (h : Surveyed n (f ::ₘ rest) s) (step : s.step me f = some (new, s')) :
    Surveyed n ((new : Multiset (Frame ν)) + rest) s' := by
  obtain ⟨r, debug, count⟩ := h
  have register := Scene.step_register step
  rw [debug] at register
  obtain ⟨r', after, scans⟩ := register.scans s
  have surveys := Scene.step_surveys step
  refine ⟨r', after, ?_⟩
  rw [tally_cons] at count
  rw [tally_add]
  omega

theorem surveyed_upheld :
    Upheld (σ := σ) (ν := ν) rules (fun _ _ => True) (Surveyed n) where
  step _ _ h step := h.step step
  call {c bag s} _ _ h := by
    obtain ⟨r, debug, count⟩ := h
    refine ⟨r, debug, ?_⟩
    cases c <;> simpa [Call.frame, Frame.surveying] using count
  finish _ _ _ h := by simpa [Surveyed, Frame.surveying] using h
  finishReturned _ _ _ h := by simpa [Surveyed, Frame.surveying] using h
  pool _ _ h := h

/-! ### The trail of a run -/

namespace System

variable {x y z : System σ ν}

omit [WorkerPool σ (Task ν)] in
/-- Without business nothing is made. -/
theorem made_idle (idle : y.threads.get me = []) : made me y z = [] := by
  rw [made, idle]

omit [WorkerPool σ (Task ν)] in
theorem made_still (same : z.threads = y.threads) : made me y z = [] := by
  unfold made
  rw [same]
  split
  · rename_i survey push
    rw [survey] at push
    simp at push
  · rfl

/-- A turn makes what the step from its frame makes. -/
theorem made_turn {under : List (Frame ν)} (top : y.threads.get me = f :: under)
    (step : y.scene.step me f = some (new, z.scene)) (after : z.threads.get me = new ++ under) :
    made me y z = f.makes y.scene := by
  unfold made
  rw [top, after]
  cases f with
  | survey c =>
      obtain ⟨rfl, -⟩ := Prod.mk.inj (Option.some.inj step)
      rfl
  | _ => rfl

end System

section Runs

variable {x y z : System σ ν}

omit [WorkerPool σ (Task ν)] in
/-- A thread that was idle gets business that has nothing to do with tasks on their way. -/
theorem Trailed.assign {t : ThreadId} (h : Trailed trail y.bag y.scene)
    (idle : y.threads.get t = []) {g : Frame ν} (plain : g.unmarked = 0)
    (threads : z.threads = y.threads.set t [g]) (only : z.Only me)
    (backlog : z.scene.exec.backlog = y.scene.exec.backlog)
    (nextTask : z.scene.world.nextTask = y.scene.world.nextTask)
    (flight : z.scene.exec.flight = y.scene.exec.flight) :
    Trailed (trail ++ System.made me y z) z.bag z.scene := by
  obtain rfl : t = me := only.eq (by simp [threads])
  rw [System.made_idle idle, List.append_nil]
  refine h.of_eq ?_ backlog nextTask fun r debug => ⟨r, flight.trans debug, rfl⟩
  rw [System.bag, threads, System.bag_assign idle]
  simp [plain]

theorem Trailed.next (h : Trailed trail y.bag y.scene) (next : System.Next rules y z)
    (only : y.Only me) (after : z.Only me) :
    Trailed (trail ++ System.made me y z) z.bag z.scene := by
  cases next with
  | turn t turn =>
      obtain ⟨f, new, under, top, step, threads, bag, bag'⟩ := System.turn_stack turn
      obtain rfl : t = me := only.eq (by simp [top])
      rw [bag] at h
      rw [bag', System.made_turn top step (by simp [threads])]
      exact h.step step
  | call t c idle => exact h.assign idle (by cases c <;> rfl) rfl after rfl rfl rfl
  | finish t job mode pool idle => exact h.assign idle rfl rfl after rfl rfl rfl
  | finishReturned t earlier later job mode idle => exact h.assign idle rfl rfl after rfl rfl rfl
  | pool pool =>
      have made : System.made me y
          { y with scene := { y.scene with exec := { y.scene.exec with pool } } } = [] :=
        System.made_still rfl
      rw [made, List.append_nil]
      exact h.of_eq rfl rfl rfl fun r debug => ⟨r, debug, rfl⟩

variable {config : Config} {main : Option ThreadId} {pool : σ}

theorem Scene.build_flight (built : Scene.build config main pool = .ok s) :
    s.exec.flight = if config.debug then some (.new (WorkerPool.keepAlive pool)) else none := by
  unfold build Buffer.build at built
  cases valid : config.validate with
  | error why =>
      rw [valid] at built
      contradiction
  | ok =>
      rw [valid] at built
      rw [← Except.ok.inj built]

/-- With diagnostics on a new executor has an empty register. -/
theorem Scene.build_debug (debug : config.debug = true)
    (built : Scene.build config main pool = .ok s) :
    s.exec.flight = some (.new (WorkerPool.keepAlive pool)) :=
  (build_flight built).trans (if_pos debug)

theorem trailed_watched (debug : config.debug = true) (built : Scene.build config main pool = .ok s)
    (run : System.Watched rules me (.idle s) trail n y) : Trailed trail y.bag y.scene := by
  induction run with
  | refl =>
      obtain ⟨-, register, rfl⟩ := Scene.build_ok built
      have flight := Scene.build_debug debug built
      have unmarked : ∀ t ∈ (0 : Multiset (Task ν)) + tally Frame.unmarked 0, t ∈ [] := by simp
      refine ⟨by simp, List.nodup_nil, by simp, unmarked, _, flight, ?_⟩
      exact fun e mem => absurd mem List.not_mem_nil
  | next before fit next only ih => exact ih.next next (before.only (System.only_idle me s)) only
  | @scan trail n y before ih =>
      have keeps := Scene.keeps_scan y.scene
      obtain ⟨now, flight⟩ := y.scene.flight_scan
      refine ih.of_eq rfl keeps.backlog (Scene.nextTask_scan y.scene) fun r debug => ?_
      rw [debug] at flight
      exact ⟨_, flight, rfl⟩

theorem surveyed_watched (debug : config.debug = true)
    (built : Scene.build config main pool = .ok s)
    (run : System.Watched rules me (.idle s) trail n y) : Surveyed n y.bag y.scene := by
  induction run with
  | refl =>
      obtain ⟨-, register, rfl⟩ := Scene.build_ok built
      have flight := Scene.build_debug debug built
      exact ⟨_, flight, rfl⟩
  | next before fit next only ih => exact surveyed_upheld.next fit trivial ih next
  | @scan trail n y before ih =>
      obtain ⟨r, debug, count⟩ := ih
      obtain ⟨now, flight⟩ := y.scene.flight_scan
      rw [debug] at flight
      refine ⟨_, flight, ?_⟩
      change r.scans + 1 + y.scene.scan.2.exec.dropped + tally Frame.surveying y.bag
        = y.scene.scan.2.world.nextTicket + (n + 1)
      rw [Scene.dropped_scan, Scene.nextTicket_scan]
      omega

end Runs

end TwoTier
