import TwoTier.Proofs.AfterShutdown
import TwoTier.Proofs.Entrusted
import TwoTier.Proofs.Scans
import TwoTier.Proofs.Traces

/-!
The register of tasks in flight is exact.

With diagnostics on, a task is entered before the pool is offered it, and erased when the pool
refuses it or when its job is completed. So the register and the journal agree but for the moment of
the offer (`Recorded`): what is recorded are the tasks that the pool has taken and nobody has
completed. Code outside the executor never runs at that moment (`System.Seen.watched`), so whatever
it looks at is exact (`register_exact`).
-/

namespace TwoTier

variable {σ ν : Type}

/-! ### What is recorded -/

namespace World

variable {w : World ν} {id : TaskId}

/-- An accepted task is outstanding if nobody has completed it yet. -/
theorem outstanding_admitted (open' : id ∉ w.completed) (backlog : Nat) :
    (w.record (.admitted id backlog)).outstanding = w.outstanding ++ [id] := by
  simp [outstanding, List.filter_append, open']

/-- A task that was not accepted is not outstanding. -/
theorem outstanding_without (other : id ∉ w.accepted) :
    w.outstanding.filter (· ≠ id) = w.outstanding := by
  refine List.filter_eq_self.mpr fun u mem => decide_eq_true ?_
  rintro rfl
  exact other (mem_outstanding.mp mem).1

theorem outstanding_completed :
    (w.record (.completed id)).outstanding = w.outstanding.filter (· ≠ id) := by
  simp [outstanding, List.filter_filter, not_or, and_comm]

end World

namespace Scene

/-- The tasks in the register, if diagnostics are on. -/
def recorded (s : Scene σ ν) : Option (List TaskId) :=
  s.exec.flight.map fun r => r.entries.map FlightEntry.id

variable {s s' : Scene σ ν}

theorem recorded_congr (flight : s'.exec.flight = s.exec.flight) : s'.recorded = s.recorded := by
  rw [recorded, flight]
  rfl

theorem recorded_scan (s : Scene σ ν) : s.scan.2.recorded = s.recorded := by
  obtain ⟨now, flight⟩ := s.flight_scan
  rw [recorded, recorded, flight, Option.map_map]
  rfl

theorem recorded_marked (t : Task ν) (s : Scene σ ν) :
    (s.marked t).recorded = s.recorded.map fun ids => ids.filter (· ≠ t.id) ++ [t.id] := by
  obtain ⟨now, flight⟩ := s.flight_marked t
  rw [recorded, recorded, flight, Option.map_map, Option.map_map]
  congr 1
  funext r
  simp [FlightRecorder.admitted, List.filter_map, Function.comp_def]

theorem recorded_forget (id : TaskId) (flight : s'.exec.flight = (s.exec.forget id).flight) :
    s'.recorded = s.recorded.map fun ids => ids.filter (· ≠ id) := by
  rw [recorded, recorded, flight, Buffer.forget, Option.map_map, Option.map_map]
  congr 1
  funext r
  simp [FlightRecorder.completed, List.filter_map, Function.comp_def]

end Scene

namespace Frame

/-- The task that a pass has entered into the register and not offered yet. -/
def marked : Frame ν → List TaskId
  | .offer t _ _ => [t.id]
  | _ => []

theorem marked_afterOffer (draining : Bool) (refused : List (Task ν)) :
    (Scene.afterOffer draining refused).marked = [] := by
  cases draining <;> rfl

end Frame

/-- The register has the outstanding tasks and the one that is about to be offered, which is new. -/
structure Recorded (o : Option (Frame ν)) (s : Scene σ ν) : Prop where
  entries : s.recorded = some (s.world.outstanding ++ o.elim [] Frame.marked)
  new : ∀ id ∈ o.elim [] Frame.marked, ¬ s.world.Entrusted id

/-- What is known of runs under diagnostics. -/
structure Backed (knows : σ → TaskId → Prop) (bag : Multiset (Frame ν)) (s : Scene σ ν) :
    Prop where
  fresh : Fresh bag s
  ordered : ∀ f ∈ bag, f.inPass = true → Ordered (some f) s
  handled : Handled knows bag s

namespace Recorded

variable {o o' : Option (Frame ν)} {s s' : Scene σ ν} {knows : σ → TaskId → Prop}

/-- Neither the register nor the outstanding tasks change. -/
theorem of_eq (h : Recorded o s) (marked : o'.elim [] Frame.marked = o.elim [] Frame.marked)
    (recorded : s'.recorded = s.recorded) (accepted : s'.world.accepted = s.world.accepted)
    (completed : s'.world.completed = s.world.completed)
    (withdrawn : s'.world.withdrawn = s.world.withdrawn) : Recorded o' s' := by
  constructor
  · rw [recorded, marked, World.outstanding_congr accepted completed]
    exact h.entries
  · rw [marked]
    intro id mem entrusted
    exact h.new id mem (entrusted.of_eq accepted.symm withdrawn.symm)

variable [WorkerPool σ (Task ν)] {me : ThreadId} {f g : Frame ν} {new : List (Frame ν)}
  {rest : Multiset (Frame ν)}

theorem pass (known : Backed knows (f ::ₘ rest) s) (step : Scene.PassStep me s f g s')
    (h : Recorded (some f) s) : Recorded (some g) s' := by
  have ordered := known.ordered f (Multiset.mem_cons_self f rest) step.inPass_before
  have entries := h.entries
  have done := step.completed
  have withdrawn := step.withdrawn
  cases step with
  | tuned active queued | untuned active queued =>
      have keeps := Scene.keeps_retune active queued s
      exact h.of_eq rfl (Scene.recorded_congr (Scene.flight_retune active queued s)) keeps.accepted
        done withdrawn
  | setCore => exact h.of_eq rfl rfl (by simp) done withdrawn
  | empty none takes | takeHead head takes => cases takes <;> exact h.of_eq rfl rfl rfl rfl rfl
  | mark t draining refused =>
      have keeps := Scene.keeps_marked t s
      have new : ¬ s.world.Entrusted t.id :=
        ordered.not_entrusted known.fresh.pushed_nodup (List.mem_singleton_self t.id)
      have others := World.outstanding_without fun mem => new (.inl mem)
      have id : (s.enterFlight t).1.id = t.id := s.enterFlight_id t
      constructor
      · rw [Scene.recorded_marked, entries, World.outstanding_congr keeps.accepted done]
        simp only [Option.elim, Frame.marked, List.append_nil, Option.map_some, others, id]
      · intro u mem entrusted
        rw [List.mem_singleton.mp mem, id] at entrusted
        exact new (entrusted.of_eq keeps.accepted.symm withdrawn.symm)
  | accepted t draining refused answer =>
      have new : ¬ s.world.Entrusted t.id := h.new t.id (List.mem_singleton_self t.id)
      have marked := Frame.marked_afterOffer draining refused
      constructor
      · -- Nobody can have completed it: nobody has been given it before.
        rw [Option.elim_some, marked, List.append_nil,
          World.outstanding_admitted fun mem => new (known.handled.completed t.id mem)]
        exact entries
      · rw [Option.elim_some, marked]
        exact fun id mem => absurd mem List.not_mem_nil
  | turnedDown t draining refused answer =>
      have new : ¬ s.world.Entrusted t.id := h.new t.id (List.mem_singleton_self t.id)
      have others := World.outstanding_without fun mem => new (.inl mem)
      have marked := Frame.marked_afterOffer draining (refused ++ [t])
      have entries : s.recorded = some (s.world.outstanding ++ [t.id]) := h.entries
      have erased : (s.world.outstanding ++ [t.id]).filter (· ≠ t.id) = s.world.outstanding := by
        rw [List.filter_append, others]
        simp
      constructor
      · rw [Scene.recorded_forget (s := s) t.id rfl, entries, Option.map_some, erased,
          World.outstanding_congr (w := s.world) (by simp) done, Option.elim_some, marked,
          List.append_nil]
      · rw [Option.elim_some, marked]
        exact fun id mem => absurd mem List.not_mem_nil
  | _ => exact h.of_eq rfl rfl rfl rfl rfl

/-- A completed job was entrusted to the pool, and the task that is about to be offered was not. -/
theorem quiet (known : Backed knows (f ::ₘ rest) s) (step : Scene.QuietStep me s f new s')
    (h : Recorded o s) : Recorded o s' := by
  have keeps := step.keeps
  cases step with
  | completed id alive =>
      have entrusted : s.world.Entrusted id :=
        known.handled.completing id (mem_tally_cons.mpr (.inl (Multiset.mem_singleton_self id)))
      have apart : (o.elim [] Frame.marked).filter (· ≠ id) = o.elim [] Frame.marked := by
        refine List.filter_eq_self.mpr fun u mem => decide_eq_true ?_
        rintro rfl
        exact h.new u mem entrusted
      constructor
      · rw [Scene.recorded_forget (s := s) id rfl, h.entries, Option.map_some,
          List.filter_append, apart, World.outstanding_completed]
      · intro u mem entrusted
        exact h.new u mem (entrusted.of_eq keeps.accepted.symm keeps.withdrawn.symm)
  | survey c =>
      have recorded : (s.scan.2.makeTask c).2.recorded = s.recorded := s.recorded_scan
      exact h.of_eq rfl recorded keeps.accepted (Scene.completed_scan s) keeps.withdrawn
  | finish c =>
      exact h.of_eq rfl rfl keeps.accepted (Scene.completed_finish c me s.world) keeps.withdrawn
  | lost | turnAway | start | discard =>
      exact h.of_eq rfl rfl keeps.accepted (by simp [Scene.record]) keeps.withdrawn
  | _ => exact h.of_eq rfl rfl rfl rfl rfl

end Recorded

theorem recorded_outline [WorkerPool σ (Task ν)] {rules : Rules σ ν}
    {knows : σ → TaskId → Prop} :
    Outline (σ := σ) (ν := ν) rules (Backed knows) fun o _ => Recorded o where
  enter _ _ step h := by
    cases step with
    | push | shutting => exact h.of_eq rfl rfl (by simp) (by simp) (by simp)
    | resume => exact h.of_eq rfl rfl rfl rfl rfl
  pass _ known step h := h.pass known step
  leave _ _ h := h.of_eq rfl rfl rfl rfl rfl
  quiet _ known step h := h.quiet known step
  shutdown _ _ h := h.of_eq rfl rfl rfl rfl rfl
  withdraw {rest s} _ _ _ h := by
    constructor
    · rw [World.outstanding_congr (w := s.world) (by simp) (by simp)]
      exact h.entries
    · exact fun id mem => absurd mem List.not_mem_nil
  stop _ _ _ h := h.of_eq rfl rfl (by simp) (by simp) (by simp)
  call _ _ h := h
  finish _ _ _ h := h.of_eq rfl rfl rfl rfl rfl
  finishReturned _ _ _ h := h.of_eq rfl rfl rfl rfl rfl
  pool _ _ h := h.of_eq rfl rfl rfl rfl rfl

/-! ### What the register says -/

namespace FlightRecorder

/-- The register is right about the scene it is in, after so many scans that were asked for; the
trail has all tasks that submissions have made. -/
structure Exact (trail : List (Task ν)) (n : Nat) (s : Scene σ ν)
    (r : FlightRecorder (Option Capture)) : Prop where
  outstanding : r.taskIds.Perm s.world.outstanding
  distinct : r.taskIds.Nodup
  /-- Each entry has the trace of the submission of its task. -/
  traces : ∀ e ∈ r.entries,
    ∃ t ∈ trail, t.id = e.id ∧ ∃ c, t.closure = some c ∧ e.trace = some ⟨c.ticket⟩
  trail : (trail.map Task.id).Nodup
  refused : ∀ id why, .refused id why ∈ s.world.journal → id ∉ r.taskIds
  waiting : ∀ t ∈ s.exec.backlog, t.id ∉ r.taskIds
  scans : r.scans + s.exec.dropped = s.world.nextTicket + n

end FlightRecorder

/-- A task is offered once, so one that was refused is not accepted. -/
theorem World.not_accepted_of_refused {w : World ν} (distinct : w.offered.Nodup) {id : TaskId}
    {why : Error} (refused : .refused id why ∈ w.journal) : id ∉ w.accepted := by
  intro accepted
  obtain ⟨⟨u, taken⟩, mem, same⟩ := List.mem_map.mp accepted
  obtain ⟨offered, rfl⟩ := List.mem_filter.mp mem
  have turnedDown : (id, false) ∈ w.offers :=
    List.mem_filterMap.mpr ⟨_, List.mem_reverse.mpr refused, rfl⟩
  have answers := List.inj_on_of_nodup_map distinct offered turnedDown same
  simp at answers

/-- While no pass is under way the register is right. -/
theorem Recorded.exact {s : Scene σ ν} {bag : Multiset (Frame ν)} {trail : List (Task ν)} {n : Nat}
    (recorded : Recorded none s) (ordered : Ordered none s) (fresh : Fresh bag s)
    (trailed : Trailed trail bag s) (surveyed : Surveyed (tally Frame.surveying bag + n) bag s) :
    ∃ r, s.exec.flight = some r ∧ r.Exact trail n s := by
  obtain ⟨r, debug, origin⟩ := trailed.entries
  obtain ⟨r', debug', count⟩ := surveyed
  obtain rfl : r' = r := Option.some.inj (debug'.symm.trans debug)
  have apart := fresh.pushed_nodup.sublist s.world.retained_sublist
  rw [ordered.line] at apart
  obtain ⟨earlier, -, later⟩ := List.nodup_append.mp apart
  have offered := earlier.sublist (List.sublist_append_left _ _)
  have outstanding : r'.taskIds.Perm s.world.outstanding := by
    have ids := recorded.entries
    rw [Scene.recorded, debug, Option.map_some, Option.elim_none, List.append_nil] at ids
    rw [← Option.some.inj ids]
    exact r'.taskIds_perm
  have accepted : ∀ id ∈ r'.taskIds, id ∈ s.world.accepted := fun id mem =>
    (World.mem_outstanding.mp (outstanding.mem_iff.mp mem)).1
  refine ⟨r', debug, outstanding, ?_, ?_, trailed.distinct, ?_, ?_, ?_⟩
  · refine outstanding.nodup_iff.mpr ?_
    exact (offered.sublist s.world.accepted_sublist_offered).filter _
  · intro e mem
    obtain ⟨t, made, same, trace⟩ := origin e mem
    obtain ⟨c, closure, capture⟩ := trailed.own t made
    exact ⟨t, made, same, c, closure, trace.symm.trans capture⟩
  · intro id why refused mem
    exact World.not_accepted_of_refused offered refused (accepted id mem)
  · intro t waits mem
    have before := s.world.accepted_sublist_offered.subset (accepted t.id mem)
    exact later t.id (List.mem_append_left _ before) t.id (List.mem_map_of_mem waits) rfl
  · omega

/-! ### In all runs -/

namespace System

/-- The scenes that code outside the executor finds: in a closure or while one is thrown away, when
a call has returned, and in the sink of a submission's scan. The sink of a scan that somebody asked
for finds the scene after that scan. -/
inductive Seen (me : ThreadId) (y : System σ ν) : Scene σ ν → Prop where
  | between (outside : ∀ f ∈ (y.threads.get me).head?, f.inLibrary = false) : Seen me y y.scene
  | sink {c : Closure ν} {under : List (Frame ν)} (top : y.threads.get me = .survey c :: under) :
      Seen me y y.scene.scan.2

end System

section Runs

variable [WorkerPool σ (Task ν)] {rules : Rules σ ν} {knows : σ → TaskId → Prop}
  {config : Config} {main : Option ThreadId} {pool : σ} {s s' : Scene σ ν} {me : ThreadId}
  {trail : List (Task ν)} {n : Nat} {y : System σ ν}

theorem situated_watched (built : Scene.build config main pool = .ok s)
    (run : System.Watched rules me (.idle s) trail n y) : Situated main y.scene := by
  obtain ⟨-, flight, rfl⟩ := Scene.build_ok built
  refine situated_outline.always_watched ?_ (fun _ => trivial) rfl ⟨rfl, rfl⟩ run
  intro bag s situated
  have keeps := Scene.keeps_scan s
  exact ⟨keeps.alive.trans situated.alive, keeps.mainThread.trans situated.mainThread⟩

theorem handled_watched (faithful : Faithful rules knows) (new : ∀ id, ¬ knows pool id)
    (built : Scene.build config main pool = .ok s)
    (run : System.Watched rules me (.idle s) trail n y) : Handled knows y.bag y.scene := by
  have basis {trail : List (Task ν)} {n : Nat} {w : System σ ν}
      (before : System.Watched rules me (.idle s) trail n w) : w.scene.alive = true :=
    (situated_watched built before).alive
  obtain ⟨-, flight, rfl⟩ := Scene.build_ok built
  refine (handled_outline faithful).always_watched ?_ basis rfl ?_ run
  · intro bag s handled
    have keeps := Scene.keeps_scan s
    refine handled.mono (fun id old => old.of_eq keeps.accepted keeps.withdrawn)
      (Scene.completed_scan s) ?_ keeps.returned rfl rfl
    rw [keeps.pool]
    exact fun id => .inl
  · exact ⟨by simp, fun id mem => absurd mem (new id), by simp, by simp, by simp⟩

theorem recorded_watched (faithful : Faithful rules knows) (new : ∀ id, ¬ knows pool id)
    (debug : config.debug = true) (built : Scene.build config main pool = .ok s)
    (run : System.Watched rules me (.idle s) trail n y) :
    Assertion.Stands (fun o _ s => Recorded o s) y.bag y.scene := by
  have basis {trail : List (Task ν)} {n : Nat} {w : System σ ν}
      (before : System.Watched rules me (.idle s) trail n w) : Backed knows w.bag w.scene :=
    ⟨fresh_watched built before, (ordered_watched built before).2,
      handled_watched faithful new built before⟩
  obtain ⟨-, register, rfl⟩ := Scene.build_ok built
  have flight := Scene.build_debug debug built
  refine recorded_outline.watched (fun {o bag s} recorded => ?_) basis rfl ⟨?_, by simp⟩ run
  · have keeps := Scene.keeps_scan s
    exact recorded.of_eq rfl s.recorded_scan keeps.accepted (Scene.completed_scan s) keeps.withdrawn
  · rw [Scene.recorded, flight]
    rfl

/-- What is seen from outside is the scene of a run in which no pass is under way. In it every
submission that is in the middle of its scan has one scan to its account already. -/
theorem System.Seen.watched {x : System σ ν} (seen : y.Seen me s')
    (run : System.Watched rules me x trail n y) (only : y.Only me)
    (below : ∀ f ∈ (y.threads.get me).tail, f.inLibrary = false) :
    ∃ w, System.Watched rules me x trail (tally Frame.surveying w.bag + n) w ∧ s' = w.scene ∧
      ∀ f ∈ w.bag, f.inPass = false := by
  cases seen with
  | between outside =>
      have all : ∀ f ∈ y.bag, f.inLibrary = false := by
        rw [only.bag]
        cases stack : y.threads.get me with
        | nil => simp
        | cons f under =>
            rw [stack] at outside below
            exact List.forall_mem_cons.mpr ⟨outside f rfl, below⟩
      refine ⟨y, ?_, rfl, fun f mem => Frame.inPass_of_not_inLibrary (all f mem)⟩
      rw [tally_eq_zero fun f mem => Frame.surveying_of_not_inLibrary (all f mem), zero_add]
      exact run
  | @sink c under top =>
      -- The sink sees what a scan that was asked for at this moment would leave.
      have bag : y.scanned.bag = .survey c ::ₘ ↑under := by
        change y.bag = _
        rw [only.bag, top, Multiset.cons_coe]
      rw [top] at below
      refine ⟨y.scanned, ?_, rfl, ?_⟩
      · have none : tally Frame.surveying (under : Multiset (Frame ν)) = 0 :=
          tally_eq_zero fun f mem => Frame.surveying_of_not_inLibrary (below f mem)
        rw [bag, tally_cons, none, show (Frame.survey c).surveying + 0 + n = n + 1 from
          Nat.add_comm 1 n]
        exact run.scan
      · rw [bag]
        exact Multiset.forall_mem_cons.mpr
          ⟨rfl, fun f mem => Frame.inPass_of_not_inLibrary (below f mem)⟩

/-- Over any pool that gives up and hands back only what it has taken, with diagnostics on: whenever
code outside the executor runs, be it a closure that is started or thrown away or the sink, and when
a call returns, the register is right. It has the tasks that the pool has taken and that nobody has
completed, each once and with the trace of its submission, none that was refused and none that
waits in the backlog. It was scanned once by every submission that was not dropped, and whenever
somebody asked for it. -/
theorem register_exact (faithful : Faithful rules knows) (new : ∀ id, ¬ knows pool id)
    (debug : config.debug = true) (built : Scene.build config main pool = .ok s)
    (run : System.Watched rules me (.idle s) trail n y) (seen : y.Seen me s') :
    ∃ r, s'.exec.flight = some r ∧ r.Exact trail n s' := by
  have idle := System.only_idle me s
  have below := outside_watched (Stacks.get_empty me) idle run
  obtain ⟨w, run, rfl, calm⟩ := seen.watched run (run.only idle) below
  have alone : Exclusive w.bag w.scene := by
    obtain ⟨-, flight, rfl⟩ := Scene.build_ok built
    exact exclusive_watched rfl run
  have free : w.scene.exec.holder = none := by
    by_contra held
    obtain ⟨f, mem, inside⟩ := alone.exists_pass held
    rw [calm f mem] at inside
    contradiction
  exact ((recorded_watched faithful new debug built run).1 free).exact
    ((ordered_watched built run).1 free) (fresh_watched built run)
    (trailed_watched debug built run) (surveyed_watched debug built run)

end Runs

/-- A pool driven by hand gives up and hands back only what it holds. -/
theorem HandPool.faithful {ν : Type} (b : Bounds ν) :
    Faithful b.rules fun p id => id ∈ (p.held : Multiset (Task ν)).map Task.id :=
  .of_keeps owner.keeps (custody b).moves (custody b).yields

namespace Sample

def debugging : Config := { config with debug := true }

def debugScene : Scene (HandPool (Task Unit)) Unit :=
  { exec := ⟨debugging, .new 1, [], none, .steady, some (.new (.ofSeconds 30)), none, 0, 0, 0, 0,
      none⟩
    alive := true, world := World.fresh.record (.created debugging), returned := [] }

theorem debugScene_built : Scene.build debugging none (.new 1) = .ok debugScene := rfl

end Sample

open Sample in
/-- The pool takes one task, somebody scans the register, and another task waits. The first task
runs and submits a third, upon which the pool refuses the second; that one submits a fourth as it is
thrown away, upon which the pool takes the third. Then the first task completes. -/
theorem register_exact_after_nested_submissions :
    ∃ trail y r, System.Watched (Bounds.none (ν := Unit)).rules (.caller 1) (.idle debugScene)
        trail 1 y ∧
      y.Seen (.caller 1) y.scene ∧ y.scene.exec.flight = some r ∧
      r.entries.map FlightEntry.id = [⟨3⟩] ∧ y.scene.world.offered = [⟨1⟩, ⟨2⟩, ⟨3⟩] ∧
      y.scene.exec.backlog.map Task.id = [⟨4⟩] ∧ r.scans = 5 ∧ r.Exact trail 1 y.scene := by
  have replayed : ∃ v w x y r,
      System.replay .none (calls 1 12 (.submit parent none)) (.idle debugScene) = some v ∧
      System.replay .none (calls 1 10 (.submit heir none)) v.scanned = some w ∧
      System.replay .none (.refuse 1 :: .finish (.caller 1) 0 .runComplete ::
        Act.turns (.caller 1) 20) w = some x ∧
      System.replay .none (Act.turns (.caller 1) 21) x = some y ∧
      y.threads.get (.caller 1) = [] ∧ y.scene.exec.flight = some r ∧
      r.entries.map FlightEntry.id = [⟨3⟩] ∧ y.scene.world.offered = [⟨1⟩, ⟨2⟩, ⟨3⟩] ∧
      y.scene.exec.backlog.map Task.id = [⟨4⟩] ∧ r.scans = 5 :=
    ⟨_, _, _, _, _, rfl, rfl, rfl, rfl, rfl, rfl, rfl, rfl, rfl, rfl⟩
  obtain ⟨v, w, x, y, r, first, second, finish, more, returned, debug, recorded, offered, waits,
    scans⟩ := replayed
  have idle := System.only_idle (.caller 1) debugScene
  have taken := System.replay_alone (by decide) .refl idle first
  obtain ⟨trail, run⟩ := System.Watched.refl.alone taken
  have only := run.only idle
  have later := System.replay_alone (y := v.scanned) (by decide) .refl only second
  have later := System.replay_alone (by decide) later (later.only only) finish
  have later := System.replay_alone (by decide) later (later.only only) more
  obtain ⟨others, run⟩ := run.scan.alone later
  have seen : y.Seen (.caller 1) y.scene := .between (by simp [returned])
  obtain ⟨r', debug', exact⟩ :=
    register_exact (HandPool.faithful _) (by simp [HandPool.new]) rfl debugScene_built run seen
  obtain rfl : r' = r := Option.some.inj (debug'.symm.trans debug)
  exact ⟨_, y, r', run, seen, debug, recorded, offered, waits, scans, exact⟩

end TwoTier
