import TwoTier.Proofs.Alone
import TwoTier.Proofs.Counters
import TwoTier.Proofs.Fates

/-!
What is submitted after a shutdown.

A shutdown offers the backlog to the shut pool, and a stop takes it, so both leave it empty
(`Shutting`). A closure that is thrown away meanwhile may submit more, but these submissions find
the pool shut. So when the call returns, the executor is frozen (`Frozen`): the pool is shut,
nothing waits, and no thread has got so far that it could still add to the backlog. Nothing thaws
it. Passes go on, but find nothing to offer, and whatever is submitted is dropped
(`late_submissions_dropped`).

Up to the return only one thread may be at work, since a submission that had looked at the pool
before the shutdown may join the backlog after it. What happens later may happen on any thread.
-/

namespace TwoTier

variable {σ ν : Type}

namespace Frame

/-- The frames that lead a task into the backlog or out of it, or read and tune a running pool. -/
def advances : Frame ν → Bool
  | .survey _ | .push _ | .bypass | .readActive | .readQueued _ | .retune _ _ | .setCore _ _ _
  | .decide _ _ _ | .handOver _ _ _ | .offer _ _ _ => true
  | _ => false

/-- The frames of a closure that is turned away. -/
def astray : Frame ν → Bool
  | .arrive _ | .discard _ => true
  | _ => false

end Frame

section Runs

variable [WorkerPool σ (Task ν)] {rules : Rules σ ν}

/-- A pool that is shut by shutdowns and stops, and once shut stays so. -/
structure Shuts (rules : Rules σ ν) : Prop extends StaysShut rules where
  shuts : ∀ p : σ, WorkerPool.isShutdown (WorkerPool.shutdown p) = true

/-! ### A frozen executor -/

/-- The pool is shut, nothing waits, and nothing is on its way into the backlog or out of it. -/
structure Frozen (bag : Multiset (Frame ν)) (s : Scene σ ν) : Prop where
  shut : WorkerPool.isShutdown s.exec.pool = true
  empty : s.exec.backlog = []
  still : ∀ f ∈ bag, f.advances = false

namespace Frozen

variable {me : ThreadId} {f g : Frame ν} {new : List (Frame ν)} {rest : Multiset (Frame ν)}
  {s s' : Scene σ ν}

/-- Such a frame is not about. -/
theorem absurd {P : Prop} (h : Frozen (f ::ₘ rest) s) (advances : f.advances = true) : P := by
  have still := h.still f (Multiset.mem_cons_self f rest)
  rw [advances] at still
  contradiction

theorem others (h : Frozen (f ::ₘ rest) s) : ∀ g ∈ rest, g.advances = false :=
  fun g mem => h.still g (Multiset.mem_cons_of_mem mem)

/-- One frame makes way for others. -/
theorem swap (h : Frozen (f ::ₘ rest) s) (shut : WorkerPool.isShutdown s'.exec.pool = true)
    (empty : s'.exec.backlog = []) (still : ∀ g ∈ new, g.advances = false) :
    Frozen ((new : Multiset (Frame ν)) + rest) s' := by
  refine ⟨shut, empty, ?_⟩
  intro g mem
  rcases Multiset.mem_add.mp mem with mem | mem
  · exact still g (Multiset.mem_coe.mp mem)
  · exact h.others g mem

/-- A pass finds nothing. -/
theorem pass (h : Frozen (f ::ₘ rest) s) (step : Scene.PassStep me s f g s') :
    s' = s ∧ g.advances = false := by
  have shut := h.shut
  cases step with
  | shut => exact ⟨rfl, rfl⟩
  | main running | gated running =>
      rw [shut] at running
      contradiction
  | empty none takes =>
      cases takes with
      | drain => exact ⟨rfl, rfl⟩
      | bypass | decide => exact h.absurd rfl
  | takeHead head =>
      rw [h.empty] at head
      contradiction
  | _ => exact h.absurd rfl

/-- What arrives is turned away. -/
theorem quiet (h : Frozen (f ::ₘ rest) s) (step : Scene.QuietStep me s f new s') :
    ∀ g ∈ new, g.advances = false := by
  have shut := h.shut
  intro g mem
  cases step with
  | letIn c running =>
      rw [shut] at running
      contradiction
  | survey => exact h.absurd rfl
  | pastGate c | discard c =>
      rcases List.mem_append.mp mem with mem | mem
      · obtain ⟨work, -, rfl⟩ := List.mem_map.mp mem
        rfl
      · rw [List.mem_singleton.mp mem]
        rfl
  | run | complete =>
      rcases List.mem_cons.mp mem with rfl | mem
      · rfl
      · rw [List.mem_singleton.mp mem]
        rfl
  | lost | spent | tooLate | finish | hangUp => cases mem
  | _ =>
      rw [List.mem_singleton.mp mem]
      rfl

end Frozen

theorem frozen_outline (stays : StaysShut rules) :
    Outline (σ := σ) (ν := ν) rules (fun _ _ => True) fun _ => Frozen where
  enter {me f rest s s'} _ _ step h := by
    have still : ∀ g ∈ .pass ::ₘ rest, g.advances = false :=
      Multiset.forall_mem_cons.mpr ⟨rfl, h.others⟩
    cases step with
    | push t => exact h.absurd rfl
    | resume => exact ⟨h.shut, h.empty, still⟩
    | shutting => exact ⟨h.shut, h.empty, still⟩
  pass _ _ step h := by
    obtain ⟨rfl, still⟩ := h.pass step
    exact ⟨h.shut, h.empty, Multiset.forall_mem_cons.mpr ⟨still, h.others⟩⟩
  leave {refused rest s} _ _ h := by
    refine h.swap h.shut h.empty ?_
    intro g mem
    obtain ⟨t, -, rfl⟩ := List.mem_map.mp mem
    rfl
  quiet _ _ step h := by
    refine h.swap ?_ (step.keeps.backlog.trans h.empty) (h.quiet step)
    rw [step.keeps.pool]
    exact h.shut
  shutdown _ _ h :=
    ⟨stays.shutdown _ h.shut, h.empty, Multiset.forall_mem_cons.mpr ⟨rfl, h.others⟩⟩
  withdraw _ _ _ h := ⟨h.shut, rfl, Multiset.forall_mem_cons.mpr ⟨rfl, h.others⟩⟩
  stop {o backlog jobs pool rest s} _ _ stopped h := by
    refine ⟨?_, h.empty, h.others⟩
    have shut := stays.stop s.exec.pool
    rwa [stopped] at shut
  call {o c bag s} _ _ h := by
    refine ⟨h.shut, h.empty, Multiset.forall_mem_cons.mpr ⟨?_, h.still⟩⟩
    cases c <;> rfl
  finish _ given _ h :=
    ⟨stays.yields given h.shut, h.empty, Multiset.forall_mem_cons.mpr ⟨rfl, h.still⟩⟩
  finishReturned _ _ _ h := ⟨h.shut, h.empty, Multiset.forall_mem_cons.mpr ⟨rfl, h.still⟩⟩
  pool moved _ h := ⟨stays.moves moved h.shut, h.empty, h.still⟩

/-! ### The call that freezes it -/

/-- Where the stack of the only thread may stand during a shutdown or a stop, until what is under
way there can do the executor nothing any more. -/
inductive Shutting (s : Scene σ ν) : Frame ν → Prop where
  | asked : Shutting s .shutdown
  | waits (shut : WorkerPool.isShutdown s.exec.pool = true) : Shutting s .enterShutdown
  | begins (shut : WorkerPool.isShutdown s.exec.pool = true) : Shutting s .pass
  | drains (shut : WorkerPool.isShutdown s.exec.pool = true) (refused : List (Task ν)) :
      Shutting s (.drain refused)
  | hands (shut : WorkerPool.isShutdown s.exec.pool = true) (t : Task ν)
      (refused : List (Task ν)) : Shutting s (.handOver t true refused)
  | offers (shut : WorkerPool.isShutdown s.exec.pool = true) (t : Task ν)
      (refused : List (Task ν)) : Shutting s (.offer t true refused)
  | stop : Shutting s .shutdownNow
  | withdrawn (backlog : List (Task ν)) (empty : s.exec.backlog = []) :
      Shutting s (.stopPool backlog)

namespace Shutting

variable {me : ThreadId} {f g : Frame ν} {new : List (Frame ν)} {s s' : Scene σ ν}

/-- A pass that found the pool shut goes on until the backlog is empty. -/
theorem pass (stays : StaysShut rules) (h : Shutting s f) (step : Scene.PassStep me s f g s') :
    Shutting s' g ∨ Frozen {g} s' := by
  have kept (shut : WorkerPool.isShutdown s.exec.pool = true) :
      WorkerPool.isShutdown s'.exec.pool = true := stays.pass step shut
  cases h with
  | asked | waits | stop | withdrawn => cases step.inPass_before
  | begins shut =>
      cases step with
      | shut => exact .inl (.drains shut [])
      | main running | gated running =>
          rw [shut] at running
          contradiction
      | empty _ takes | takeHead _ takes => cases takes
  | drains shut refused =>
      cases step with
      | empty none takes => exact .inr ⟨kept shut, none, by simp [Frame.advances]⟩
      | takeHead head takes =>
          cases takes
          exact .inl (.hands (kept shut) _ _)
  | hands shut t refused =>
      cases step with
      | mark => exact .inl (.offers (kept shut) _ _)
      | empty _ takes | takeHead _ takes => cases takes
  | offers shut t refused =>
      cases step with
      | accepted => exact .inl (.drains (kept shut) _)
      | turnedDown => exact .inl (.drains (kept shut) _)
      | empty _ takes | takeHead _ takes => cases takes

/-- The call goes on, or the executor is frozen. -/
theorem step (shuts : Shuts rules) (h : Shutting s f) (step : s.step me f = some (new, s')) :
    (∃ g, new = [g] ∧ Shutting s' g) ∨ Frozen (new : Multiset (Frame ν)) s' := by
  cases Scene.step_cases step with
  | @pass _ g _ pass =>
      rcases h.pass shuts.toStaysShut pass with on | frozen
      · exact .inl ⟨g, rfl, on⟩
      · exact .inr (by rwa [Multiset.coe_singleton])
  | leave => cases h
  | enter _ enter =>
      cases h with
      | waits shut =>
          cases enter
          exact .inl ⟨_, rfl, .begins shut⟩
      | _ => cases enter
  | outside outside =>
      cases outside with
      | quiet quiet => cases h <;> cases quiet
      | shutdown =>
          cases h
          exact .inl ⟨_, rfl, .waits (shuts.shuts _)⟩
      | withdraw =>
          cases h
          exact .inl ⟨_, rfl, .withdrawn _ rfl⟩
      | stop _ stopped =>
          cases h with
          | withdrawn _ empty =>
              have shut := shuts.stop s.exec.pool
              rw [stopped] at shut
              exact .inr ⟨shut, empty, by simp⟩

/-- The pool changes by itself. -/
theorem poolMoved {pool : σ} (stays : StaysShut rules) (h : Shutting s f)
    (moved : rules.moves s.exec.pool pool) :
    Shutting { s with exec := { s.exec with pool } } f := by
  cases h with
  | asked => exact .asked
  | waits shut => exact .waits (stays.moves moved shut)
  | begins shut => exact .begins (stays.moves moved shut)
  | drains shut refused => exact .drains (stays.moves moved shut) refused
  | hands shut t refused => exact .hands (stays.moves moved shut) t refused
  | offers shut t refused => exact .offers (stays.moves moved shut) t refused
  | stop => exact .stop
  | withdrawn backlog empty => exact .withdrawn backlog empty

end Shutting

/-! ### What a frozen executor leaves alone -/

section Kept

variable {me : ThreadId} {f : Frame ν} {new : List (Frame ν)} {bag rest : Multiset (Frame ν)}
  {s s' : Scene σ ν}

/-- Only a submission that enters the critical section adds to the backlog. -/
theorem Scene.step_pushed (other : ∀ t, f ≠ .push t) (h : s.step me f = some (new, s')) :
    s'.world.pushed = s.world.pushed := by
  cases Scene.step_cases h with
  | pass pass => exact pass.pushed
  | leave => rfl
  | enter _ enter =>
      cases enter with
      | push t => exact absurd rfl (other t)
      | resume => rfl
      | shutting => simp
  | outside outside =>
      cases outside with
      | quiet quiet => exact quiet.keeps.pushed
      | shutdown => rfl
      | withdraw | stop => simp

/-- Nothing is counted as admitted, refused or waiting. -/
theorem Frozen.meters (frozen : Frozen (f ::ₘ rest) s) (h : s.step me f = some (new, s')) :
    s'.meters = s.meters := by
  rw [Scene.step_meters h]
  cases f with
  | push | offer => exact frozen.absurd rfl
  | shutdownNow => simp [Frame.entry?, Meters.add, frozen.empty]
  | _ => rfl

theorem unmoved_upheld (m : Meters) (ids : List TaskId) :
    Upheld rules (Frozen (σ := σ) (ν := ν)) fun _ s => s.meters = m ∧ s.world.pushed = ids where
  step _ frozen same h := by
    refine ⟨(frozen.meters h).trans same.1, Eq.trans (Scene.step_pushed ?_ h) same.2⟩
    rintro t rfl
    exact frozen.absurd rfl
  call _ _ same := same
  finish _ _ _ same := same
  finishReturned _ _ _ same := same
  pool _ _ same := same

end Kept

/-! ### Closures that come too late -/

section Late

variable {moves : σ → σ → Prop} {yields : σ → Task ν → σ → Prop} {fine : σ → Prop}
  {held : σ → Multiset (Task ν)} {N : Nat} {me : ThreadId} {f : Frame ν} {new : List (Frame ν)}
  {bag rest : Multiset (Frame ν)} {s s' : Scene σ ν}

/-- Closures with later tickets have not begun, and are nowhere but in frames that turn them
away. -/
structure Barred (held : σ → Multiset (Task ν)) (N : Nat) (bag : Multiset (Frame ν))
    (s : Scene σ ν) : Prop where
  begun : ∀ k ∈ s.world.started, k < N
  stored : ∀ k ∈ s.stores Closure.token held, k < N
  borne : ∀ f ∈ bag, f.astray = true ∨ ∀ k ∈ f.bears Closure.token, k < N

namespace Barred

omit [WorkerPool σ (Task ν)] in
/-- One frame makes way for others. -/
theorem swap (h : Barred held N (f ::ₘ rest) s) (begun : ∀ k ∈ s'.world.started, k < N)
    (stored : ∀ k ∈ s'.stores Closure.token held, k < N)
    (borne : ∀ g ∈ new, g.astray = true ∨ ∀ k ∈ g.bears Closure.token, k < N) :
    Barred held N ((new : Multiset (Frame ν)) + rest) s' := by
  refine ⟨begun, stored, ?_⟩
  intro g mem
  rcases Multiset.mem_add.mp mem with mem | mem
  · exact borne g (Multiset.mem_coe.mp mem)
  · exact h.borne g (Multiset.mem_cons_of_mem mem)

omit [WorkerPool σ (Task ν)] in
/-- The frames that come bear no closures. -/
theorem blank (h : Barred held N (f ::ₘ rest) s) (begun : ∀ k ∈ s'.world.started, k < N)
    (stored : ∀ k ∈ s'.stores Closure.token held, k < N)
    (none : tally (Frame.bears Closure.token) (new : Multiset (Frame ν)) = 0) :
    Barred held N ((new : Multiset (Frame ν)) + rest) s' := by
  refine h.swap begun stored fun g among => .inr fun k mem => ?_
  have found := mem_tally (Multiset.mem_coe.mpr among) mem
  rw [none] at found
  exact absurd found (Multiset.notMem_zero k)

/-- What only moves closures cannot get at late ones. -/
theorem carry (keeps : KeepsJobs held s.exec.pool) (h : Barred held N (f ::ₘ rest) s)
    (carries : f.carries = true) (own : ∀ k ∈ f.bears Closure.token, k < N)
    (step : s.step me f = some (new, s')) :
    Barred held N ((new : Multiset (Frame ν)) + rest) s' := by
  have moves := Scene.step_moves keeps carries step
  have early : ∀ k ∈ tally (Frame.bears Closure.token) (new : Multiset (Frame ν))
      + s'.stores Closure.token held, k < N := by
    rw [moves.bears]
    intro k mem
    rcases Multiset.mem_add.mp mem with mem | mem
    · exact own k mem
    · exact h.stored k mem
  refine h.swap ?_ (fun k mem => early k (Multiset.mem_add.mpr (.inr mem))) ?_
  · rw [(Scene.step_silent carries step).1]
    exact h.begun
  · intro g among
    refine .inr fun k mem => early k (Multiset.mem_add.mpr (.inl ?_))
    exact mem_tally (Multiset.mem_coe.mpr among) mem

theorem step (keeps : KeepsJobs held s.exec.pool) (frozen : Frozen (f ::ₘ rest) s)
    (h : Barred held N (f ::ₘ rest) s) (step : s.step me f = some (new, s')) :
    Barred held N ((new : Multiset (Frame ν)) + rest) s' := by
  have own := h.borne f (Multiset.mem_cons_self f rest)
  cases carries : f.carries with
  | true =>
      cases lost : f.astray with
      | false => exact h.carry keeps carries (own.resolve_left (by simp [lost])) step
      | true =>
          cases f with
          | arrive c =>
              cases Scene.step_outside rfl rfl step with
              | quiet quiet =>
                  cases quiet with
                  | turnAway =>
                      exact h.swap (by simpa using h.begun) h.stored (by simp [Frame.astray])
                  | letIn c running =>
                      rw [frozen.shut] at running
                      contradiction
          | discard => simp [Frame.carries] at carries
          | _ => simp [Frame.astray] at lost
  | false =>
      have quiet := Scene.step_quiet carries step
      have stored : ∀ k ∈ s'.stores Closure.token held, k < N := by
        rw [quiet.keeps.stores]
        exact h.stored
      cases quiet with
      | submit => exact h.swap h.begun stored (by simp [Frame.astray])
      | lost => exact h.blank (by simpa [Scene.record] using h.begun) stored (by simp)
      | start c =>
          refine h.blank ?_ stored (by simp)
          rw [Scene.record, World.started_record]
          intro k mem
          rcases List.mem_append.mp mem with mem | mem
          · exact h.begun k mem
          · rw [List.mem_singleton.mp mem]
            exact own.resolve_left (by simp [Frame.astray]) c.ticket (by simp [Closure.token])
      | pastGate c => exact h.blank h.begun stored (tally_submitAll_append (fun _ _ => rfl) _ _)
      | finish c =>
          refine h.blank ?_ stored (by simp)
          rw [World.started, Scene.marks_finish (fun _ _ _ => rfl)]
          exact h.begun
      | discard c =>
          refine h.blank (by simpa [Scene.record] using h.begun) stored ?_
          exact tally_submitAll_append (fun _ _ => rfl) _ _
      | hangUp => exact h.blank h.begun stored (by simp)
      | _ => simp [Frame.carries] at carries

omit [WorkerPool σ (Task ν)] in
/-- A thread takes up a job that was stored somewhere. -/
theorem takeUp {job : Task ν} {acts : List JobAct} (h : Barred held N bag s)
    (started : s'.world.started = s.world.started)
    (stored : job.bears Closure.token + s'.stores Closure.token held
      = s.stores Closure.token held) : Barred held N (.job job acts ::ₘ bag) s' := by
  have early : ∀ k ∈ job.bears Closure.token + s'.stores Closure.token held, k < N := by
    rw [stored]
    exact h.stored
  refine ⟨?_, fun k mem => early k (Multiset.mem_add.mpr (.inr mem)), ?_⟩
  · rw [started]
    exact h.begun
  · refine Multiset.forall_mem_cons.mpr ⟨.inr fun k mem => ?_, h.borne⟩
    exact early k (Multiset.mem_add.mpr (.inl mem))

end Barred

theorem barred_upheld (keeper : Keeper rules.moves rules.yields fine held) :
    Upheld rules (fun bag s => Frozen bag s ∧ fine s.exec.pool) (Barred held N) where
  step _ known barred h := barred.step (keeper.keeps known.2) known.1 h
  call {c bag s} _ _ barred := by
    refine ⟨barred.begun, barred.stored, Multiset.forall_mem_cons.mpr ⟨.inr ?_, barred.borne⟩⟩
    cases c <;> simp [Call.frame]
  finish _ given known barred :=
    barred.takeUp rfl (Scene.stores_given keeper known.2 given _)
  finishReturned _ split _ barred := barred.takeUp rfl (Scene.stores_returned split _)
  pool {pool bag s} moved known barred := by
    have kept : Scene.stores Closure.token held { s with exec := { s.exec with pool } }
        = s.stores Closure.token held :=
      Scene.stores_congr _ rfl (keeper.moves known.2 moved).2 rfl
    refine ⟨barred.begun, ?_, barred.borne⟩
    rw [kept]
    exact barred.stored

/-- Tickets are given out in order. -/
theorem Scene.step_tickets (keeps : KeepsJobs held s.exec.pool) (h : s.step me f = some (new, s')) :
    s.world.nextTicket ≤ s'.world.nextTicket := by
  cases carries : f.carries with
  | true => exact (Scene.step_moves keeps carries h).nextTicket.ge
  | false =>
      cases Scene.step_quiet carries h with
      | submit => exact Nat.le_succ _
      | finish c => exact (Scene.nextTicket_finish c me s.world).ge
      | lost | start | pastGate | discard | hangUp => exact Nat.le_refl _
      | _ => simp [Frame.carries] at carries

theorem tickets_upheld (keeper : Keeper rules.moves rules.yields fine held) :
    Upheld rules (fun _ s => fine s.exec.pool) fun _ s => N ≤ s.world.nextTicket where
  step _ sound le h := Nat.le_trans le (Scene.step_tickets (keeper.keeps sound) h)
  call _ _ le := le
  finish _ _ _ le := le
  finishReturned _ _ _ le := le
  pool _ _ le := le

omit [WorkerPool σ (Task ν)] in
/-- When no thread has business, all closures there are have got their tickets before. -/
theorem Placed.barred {y : System σ ν} (placed : Placed fine held y)
    (rest : ∀ t, y.threads.get t = []) :
    Barred held y.scene.world.nextTicket y.bag y.scene := by
  have account := placed.account
  rw [System.bag_eq_zero rest, tally_zero, zero_add, Scene.traced] at account
  have early : ∀ k ∈ y.scene.stores Closure.token held + ↑y.scene.world.started
      + ↑y.scene.world.discarded, k < y.scene.world.nextTicket := by
    rw [account]
    exact fun k mem => Multiset.mem_range.mp mem
  refine ⟨fun k mem => early k ?_, fun k mem => early k ?_, ?_⟩
  · exact Multiset.mem_add.mpr (.inl (Multiset.mem_add.mpr (.inr (Multiset.mem_coe.mpr mem))))
  · exact Multiset.mem_add.mpr (.inl (Multiset.mem_add.mpr (.inl mem)))
  · rw [System.bag_eq_zero rest]
    exact fun f mem => absurd mem (Multiset.notMem_zero f)

end Late

/-! ### In all runs -/

variable {config : Config} {main : Option ThreadId} {pool : σ} {s : Scene σ ν} {me : ThreadId}
  {w x y : System σ ν}

/-- What is frozen stays so. -/
theorem Frozen.reaches (stays : StaysShut rules) (built : Scene.build config main pool = .ok s)
    (before : System.Reaches rules (.idle s) x) (frozen : Frozen x.bag x.scene)
    (run : System.Reaches rules x y) : Frozen y.bag y.scene := by
  refine (frozen_outline stays).lasts (fun z later => ⟨?_, trivial⟩) frozen run
  exact exclusive_reaches built (before.trans later)

/-- During a shutdown or a stop on the only thread, that call goes on or the executor is frozen. -/
theorem shutting_alone (shuts : Shuts rules) (built : Scene.build config main pool = .ok s)
    (before : System.Reaches rules (.idle s) w) (only : w.Only me)
    (asked : w.threads.get me = [.shutdown] ∨ w.threads.get me = [.shutdownNow])
    (call : System.Alone rules me w x) :
    (∃ f, x.threads.get me = [f] ∧ Shutting x.scene f) ∨ Frozen x.bag x.scene := by
  induction call with
  | refl => exact .inl (asked.elim (fun top => ⟨_, top, .asked⟩) fun top => ⟨_, top, .stop⟩)
  | @tail y z run fit next after ih =>
      have reached := before.trans run.reaches
      rcases ih with ⟨f, top, shutting⟩ | frozen
      · rcases next.alone (run.only only) after top with ⟨new, step, stack⟩ | ⟨pool, moved, rfl⟩
        · rw [List.append_nil] at stack
          rw [after.bag, stack]
          exact (shutting.step shuts step).imp_left fun ⟨g, one, on⟩ => ⟨g, one, on⟩
        · exact .inl ⟨f, top, shutting.poolMoved shuts.toStaysShut moved⟩
      · exact .inr (frozen.reaches shuts.toStaysShut built reached (.tail .refl fit next))

/-- Over any pool that is shut by shutdowns and stops, stays shut, and keeps its jobs: once a
shutdown or a stop has returned to the only thread at work, the backlog stays empty and the counts
of admitted and refused tasks stand still, whatever is submitted later, on whatever thread, and in
whatever mode the jobs of the pool and those handed back are finished. No closure that is submitted
later ever begins to run, and each submission raises the count of dropped ones by one, as soon as it
has looked at the pool. -/
theorem late_submissions_dropped {fine : σ → Prop} {held : σ → Multiset (Task ν)}
    (shuts : Shuts rules) (keeper : Keeper rules.moves rules.yields fine held) (new : fine pool)
    (empty : held pool = 0) (built : Scene.build config main pool = .ok s)
    (before : System.Alone rules me (.idle s) w)
    (asked : w.threads.get me = [.shutdown] ∨ w.threads.get me = [.shutdownNow])
    (call : System.Alone rules me w x) (returned : x.threads.get me = [])
    (run : System.Reaches rules x y) :
    y.scene.exec.backlog = [] ∧ y.scene.exec.admitted = x.scene.exec.admitted ∧
      y.scene.exec.rejected = x.scene.exec.rejected ∧
      (∀ ticket, x.scene.world.nextTicket ≤ ticket → ticket ∉ y.scene.world.started) ∧
      ∃ late, y.scene.world.nextTicket = x.scene.world.nextTicket + late ∧
        x.scene.exec.dropped + late = y.scene.exec.dropped + tally Frame.submitting y.bag := by
  have first := before.reaches.trans call.reaches
  have only := before.only (System.only_idle me s)
  have rest := (call.only only).rest returned
  have frozen : Frozen x.bag x.scene := by
    refine (shutting_alone shuts built before.reaches only asked call).resolve_left ?_
    rintro ⟨f, top, -⟩
    rw [returned] at top
    contradiction
  have frozenThen : ∀ z, System.Reaches rules x z → Frozen z.bag z.scene := fun z later =>
    frozen.reaches shuts.toStaysShut built first later
  have sound : ∀ z, System.Reaches rules x z → fine z.scene.exec.pool := fun z later =>
    (placed_reaches keeper built new empty (first.trans later)).pool
  obtain ⟨meters, pushed⟩ := (unmoved_upheld _ _).reaches frozenThen ⟨rfl, rfl⟩ run
  have barred := (barred_upheld keeper).reaches (fun z later => ⟨frozenThen z later, sound z later⟩)
    ((placed_reaches keeper built new empty first).barred rest) run
  have later := (tickets_upheld keeper).reaches sound (Nat.le_refl x.scene.world.nextTicket) run
  refine ⟨(frozenThen y run).empty, congrArg Meters.admitted meters,
    congrArg Meters.rejected meters, ?_, y.scene.world.nextTicket - x.scene.world.nextTicket,
    (Nat.add_sub_cancel' later).symm, ?_⟩
  · intro ticket late begun
    exact Nat.not_lt.mpr late (barred.begun ticket begun)
  · -- Nothing has been pushed meanwhile, so new tickets are of closures dropped or arriving.
    have earlier := (settled_reaches built first).submitted
    have now := (settled_reaches built (first.trans run)).submitted
    rw [System.bag_eq_zero rest, tally_zero] at earlier
    rw [pushed] at now
    omega

end Runs

theorem HandPool.shutsDown (b : Bounds ν) : Shuts b.rules where
  toStaysShut := HandPool.staysShut b
  shuts _ := rfl

namespace Sample

/-- When it runs, it submits another. -/
def parent : Work Unit := ⟨"a", false, [.plain "d" (.value ())], [], .value ()⟩

/-- When it is thrown away, it submits another. -/
def heir : Work Unit := ⟨"b", false, [], [.plain "c" (.value ())], .value ()⟩

end Sample

open Sample in
/-- The pool has one task when the executor is shut down, and refuses another, which submits a third
as it is thrown away. Afterwards the first runs, and submits a fourth. -/
theorem late_submissions_dropped_of_parent :
    ∃ w x y, System.Alone (Bounds.none (ν := Unit)).rules (.caller 1) (.idle scene) w ∧
      w.threads.get (.caller 1) = [.shutdown] ∧
      System.Alone (Bounds.none (ν := Unit)).rules (.caller 1) w x ∧
      x.threads.get (.caller 1) = [] ∧
      System.Reaches (Bounds.none (ν := Unit)).rules x y ∧
      x.scene.world.nextTicket = 3 ∧ x.scene.exec.dropped = 1 ∧ y.scene.exec.dropped = 2 ∧
      (y.scene.exec.backlog = [] ∧ y.scene.exec.admitted = x.scene.exec.admitted ∧
        y.scene.exec.rejected = x.scene.exec.rejected ∧
        (∀ ticket, x.scene.world.nextTicket ≤ ticket → ticket ∉ y.scene.world.started) ∧
        ∃ late, y.scene.world.nextTicket = x.scene.world.nextTicket + late ∧
          x.scene.exec.dropped + late
            = y.scene.exec.dropped + tally Frame.submitting y.bag) := by
  have replayed : ∃ v w x y,
      System.replay .none (calls 1 12 (.submit parent none) ++ calls 1 10 (.submit heir none))
        (.idle scene) = some v ∧
      System.replay .none (calls 1 0 .shutdown) v = some w ∧
      System.replay .none (Act.turns (.caller 1) 15) w = some x ∧
      System.replay .none (.finish (.caller 1) 0 .runComplete :: Act.turns (.caller 1) 15) x
        = some y ∧
      w.threads.get (.caller 1) = [.shutdown] ∧ x.threads.get (.caller 1) = [] ∧
      x.scene.world.nextTicket = 3 ∧ x.scene.exec.dropped = 1 ∧ y.scene.exec.dropped = 2 :=
    ⟨_, _, _, _, rfl, rfl, rfl, rfl, rfl, rfl, rfl, rfl, rfl⟩
  obtain ⟨v, w, x, y, first, asks, shutdown, finish, asked, returned, made, dropped, dropped'⟩ :=
    replayed
  have idle := System.only_idle (.caller 1) scene
  have waits := System.replay_alone (by decide) .refl idle first
  have before := System.replay_alone (by decide) waits (waits.only idle) asks
  have call := System.replay_alone (by decide) .refl (before.only idle) shutdown
  have run := System.replay_reaches .refl finish
  exact ⟨w, x, y, before, asked, call, returned, run, made, dropped, dropped',
    late_submissions_dropped (HandPool.shutsDown _) HandPool.owner.keeper trivial rfl scene_built
      before (.inl asked) call returned run⟩

end TwoTier
