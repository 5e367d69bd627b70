import TwoTier.Proofs.Tickets

/-!
A shutdown that loses nothing.

Whoever waits until all submissions have joined the backlog and the backlog is empty, and then shuts
the executor down, finds in the end that every closure has run once and that the counters agree
(`graceful_drain`). By the time the backlog is empty the pool has taken every task, since it refuses
none before it is shut; and what it has taken it completes before it terminates. An empty backlog
alone does not say as much: the shutdown may overtake a submission that has not joined it yet
(`task_dropped_by_early_shutdown`).
-/

namespace TwoTier

variable {ν : Type}

/-! ### Journals only grow -/

/-- A longer journal says what it said before, and then more. -/
theorem World.marks_prefix {α : Type} {w w' : World ν} {es : List Event} (p : Event → Option α)
    (later : w'.journal = es ++ w.journal) : w.marks p <+: w'.marks p := by
  unfold marks
  rw [later, List.reverse_append, List.filterMap_append]
  exact List.prefix_append _ _

theorem Scene.step_journal {σ : Type} [WorkerPool σ (Task ν)] {me : ThreadId} {f : Frame ν}
    {new : List (Frame ν)} {s s' : Scene σ ν} (h : s.step me f = some (new, s')) :
    ∃ es, s'.world.journal = es ++ s.world.journal := by
  cases step_cases h with
  | pass pass =>
      obtain ⟨es, later, -⟩ := pass.journal
      exact ⟨es, later⟩
  | leave => exact ⟨[], rfl⟩
  | enter _ enter =>
      cases enter with
      | push | shutting => exact ⟨[_], rfl⟩
      | resume => exact ⟨[], rfl⟩
  | outside outside =>
      cases outside with
      | quiet quiet =>
          obtain ⟨es, later, -⟩ := quiet.keeps.journal
          exact ⟨es, later⟩
      | shutdown => exact ⟨[], rfl⟩
      | withdraw | stop => exact ⟨[_], rfl⟩

namespace Service

variable {calls calls' : Call ν → Prop} {begun more : List (Task ν)} {x y z : Service ν}

theorem Runs.mono (weaker : ∀ c, calls c → calls' c) (run : Runs calls x begun y) :
    Runs calls' x begun y := by
  induction run with
  | refl => exact .refl
  | tail _ next ih =>
      refine ih.tail ?_
      cases next with
      | turn t turn => exact .turn t turn
      | call n c idle allowed => exact .call n c idle (weaker c allowed)
      | act number act did => exact .act number act did

theorem Runs.trans (before : Runs calls x begun y) (after : Runs calls y more z) :
    Runs calls x (begun ++ more) z := by
  induction after with
  | refl => rwa [List.append_nil]
  | tail _ next ih =>
      rw [← List.append_assoc]
      exact ih.tail next

theorem Runs.journal (run : Runs calls x begun y) :
    ∃ es, y.world.journal = es ++ x.world.journal := by
  induction run with
  | refl => exact ⟨[], rfl⟩
  | tail _ next ih =>
      obtain ⟨es, later⟩ := ih
      cases next with
      | turn t turn =>
          obtain ⟨f, new, rest, -, step, -⟩ := System.bag_turn turn
          obtain ⟨es', later'⟩ := Scene.step_journal step
          refine ⟨es' ++ es, ?_⟩
          rw [List.append_assoc, ← later]
          exact later'
      | call => exact ⟨es, later⟩
      | act number act did =>
          obtain ⟨-, acted⟩ := acted did
          exact ⟨es, (congrArg World.journal acted.pool.1).trans later⟩

end Service

/-! ### The drain -/

namespace Frame

/-- Without business of workers nothing is under way. -/
theorem underWay_of_not_working {f : Frame ν} (idle : f.working = false) : f.underWay = 0 := by
  cases f with
  | job t acts =>
      cases acts with
      | nil => rfl
      | cons act acts => simp [working] at idle
  | start | atGate | finish => simp [working] at idle
  | _ => rfl

/-- A closure is borne by a submission, by a pass that offers its task, by a worker that is about to
run it, or to be thrown away. -/
theorem bears_eq_zero {M : Type} [AddCommMonoid M] {f : Frame ν} (idle : f.working = false)
    (calm : f.halts = false) (settled : f.submitting = 0) (spared : f.condemned = 0)
    (offered : f.inHand = []) (g : Closure ν → M) : f.bears g = 0 := by
  cases f with
  | job t acts =>
      cases acts with
      | nil =>
          have spent : t.closure = none := by simpa [condemned] using spared
          exact Task.bears_of_none g spent
      | cons act acts => simp [working] at idle
  | drain refused | leave refused =>
      obtain rfl : refused = [] := List.eq_nil_of_length_eq_zero spared
      rfl
  | arrive | survey | push => simp [submitting] at settled
  | handOver | offer => simp [inHand] at offered
  | start => simp [working] at idle
  | discard => simp [condemned] at spared
  | stopPool => simp [halts] at calm
  | _ => rfl

end Frame

theorem eq_zero_of_tally {w : Frame ν → Nat} {bag : Multiset (Frame ν)} {f : Frame ν}
    (none : tally w bag = 0) (mem : f ∈ bag) : w f = 0 := by
  obtain ⟨rest, rfl⟩ := Multiset.exists_cons_of_mem mem
  rw [tally_cons] at none
  omega

/-- While nobody takes anything out of the backlog, what has joined it was taken or refused by the
pool, is in hand, or waits. -/
theorem Ordered.pushed_length {σ : Type} {o : Option (Frame ν)} {bag : Multiset (Frame ν)}
    {s : Scene σ ν} (ordered : Ordered o s) (unstopped : Unstopped bag s) :
    s.world.pushed.length = s.world.accepted.length + s.world.refused.length
      + (o.elim [] Frame.inHand).length + s.exec.backlog.length := by
  have offered := s.world.offered_perm.length_eq
  have line := congrArg List.length ordered.line
  rw [unstopped.retained] at line
  simp only [List.length_append, List.length_map] at offered line
  omega

namespace Service

variable {config : Config} {main : Option ThreadId} {begun more : List (Task ν)}
  {y y₀ y₁ y₂ : Service ν}

/-- Before a shutdown, an empty backlog means that the pool has taken all that joined it. -/
theorem accepted_of_empty (made : make? config main = some (.ok y₀))
    (run : Runs (fun c => c.frame.stops = false) y₀ begun y) (free : y.scene.exec.holder = none)
    (empty : y.scene.exec.backlog = []) (few : y.pool.largestWorkers < wordMax) :
    y.world.accepted.length = y.world.pushed.length := by
  have unstopped := unstopped_runs made (run.mono fun _ => Frame.halts_of_not_stops)
  have refused : y.world.refused = [] := (welcoming_runs made run).refused few
  obtain ⟨-, s, built, rfl⟩ := make?_ok made
  have line := ((ordered_reaches built run.reaches).1 free).pushed_length unstopped
  change y.world.pushed.length = y.world.accepted.length + y.world.refused.length + 0 + _ at line
  rw [refused, empty] at line
  exact line.symm

/-- Where everything is once as many tasks were accepted as submissions were made. -/
structure Drained (y : Service ν) : Prop where
  accepted : y.world.accepted.length = y.world.nextTicket
  refused : y.world.refused = []
  dropped : y.scene.exec.dropped = 0
  backlog : y.scene.exec.backlog = []
  frames : ∀ f ∈ y.bag, f.submitting = 0 ∧ f.inHand = []

theorem drained_of_accepted (made : make? config main = some (.ok y₀))
    (run : Runs (fun c => c.frame.halts = false) y₀ begun y)
    (all : y.world.nextTicket ≤ y.world.accepted.length) : Drained y := by
  have unstopped := unstopped_runs made run
  obtain ⟨-, s, built, rfl⟩ := make?_ok made
  have ordered := ordered_reaches built run.reaches
  have submitted : y.world.nextTicket = y.scene.exec.dropped + y.world.pushed.length
      + tally Frame.submitting y.bag := (settled_reaches built run.reaches).submitted
  have places {o : Option (Frame ν)} (ordered : Ordered o y.scene) :
      y.world.pushed.length = y.world.accepted.length + y.world.refused.length
        + (o.elim [] Frame.inHand).length + y.scene.exec.backlog.length :=
    ordered.pushed_length unstopped
  obtain ⟨o, due⟩ := ordered.due (exclusive_reaches built run.reaches)
  have due := places due
  refine ⟨by omega, ?_, by omega, ?_, ?_⟩
  · exact List.eq_nil_of_length_eq_zero (by omega)
  · exact List.eq_nil_of_length_eq_zero (by omega)
  · intro f mem
    constructor
    · exact eq_zero_of_tally (by omega) mem
    · cases inside : f.inPass with
      | true =>
          have own : _ = _ + f.inHand.length + _ := places (ordered.2 f mem inside)
          exact List.eq_nil_of_length_eq_zero (by omega)
      | false =>
          cases f with
          | handOver | offer => simp [Frame.inPass] at inside
          | _ => rfl

/-- Without workers, nothing is left for workers to do. -/
theorem Manned.idle (manned : Manned y) (none : y.pool.workers = []) :
    ∀ f ∈ y.bag, f.working = false := by
  intro f mem
  obtain ⟨t, own⟩ := Stacks.get_of_mem_frames (Multiset.mem_coe.mp mem)
  cases t with
  | caller n => exact manned.callers n f own
  | worker n =>
      obtain ⟨w, inside, -⟩ := manned.workers n (List.ne_nil_of_mem own)
      rw [none] at inside
      exact absurd inside List.not_mem_nil

/-- A drained executor without workers has run all there was. -/
theorem started_of_drained (traceable : Traceable y) (drained : Drained y)
    (counted : Counted y.scene) (calm : ∀ f ∈ y.bag, f.halts = false)
    (idle : ∀ f ∈ y.bag, f.working = false) (none : y.pool.workers = [])
    (ready : y.pool.ready = []) :
    y.world.started.Perm (List.range y.world.nextTicket) := by
  have sentences := traceable.sentences
  have turnedAway : y.world.turnedAway.length = 0 := counted.dropped.symm.trans drained.dropped
  rw [drained.refused, turnedAway, List.length_nil] at sentences
  have spared : tally Frame.condemned y.bag = 0 := by omega
  have discarded : y.world.discarded = [] := List.eq_nil_of_length_eq_zero (by omega)
  have borne : tally (Frame.bears Closure.token) y.bag = 0 := by
    apply tally_eq_zero
    intro f mem
    obtain ⟨settled, offered⟩ := drained.frames f mem
    exact Frame.bears_eq_zero (idle f mem) (calm f mem) settled (eq_zero_of_tally spared mem)
      offered _
  have stored : y.scene.stores Closure.token ThreadPool.unbegun = 0 := by
    have line : y.pool.unbegun = 0 := by
      rw [ThreadPool.unbegun_eq, none, ready]
      rfl
    rw [Scene.stores, drained.backlog, traceable.returned, show y.scene.exec.pool = y.pool from rfl,
      line]
    rfl
  have account := traceable.account
  rw [borne, Scene.traced, stored, show y.scene.world = y.world from rfl, discarded] at account
  apply Multiset.coe_eq_coe.mp
  simpa [Multiset.range] using account

/-- Somebody submits whatever there is to submit, waits until the backlog is empty, and shuts the
executor down; submissions and workers interleave in any way, closures may submit others, and so
may the shutdown be called by anybody and more than once. If every submission begun so far had
joined the backlog when it was found empty, and none began later, then once the pool has terminated
every closure has run exactly once, all of them were admitted, none was rejected or dropped, and the
pool has completed as many.

The pool refuses nothing before it is shut as long as its workers are fewer than the largest number
there is. -/
theorem graceful_drain (made : make? config main = some (.ok y₀))
    (before : Runs (fun c => c.frame.stops = false) y₀ begun y₁)
    (free : y₁.scene.exec.holder = none) (empty : y₁.scene.exec.backlog = [])
    (joined : y₁.world.nextTicket = y₁.world.pushed.length)
    (few : y₁.pool.largestWorkers < wordMax)
    (after : Runs (fun c => c.frame.halts = false) y₁ more y₂)
    (last : y₂.world.nextTicket = y₁.world.nextTicket)
    (ended : y₂.pool.runState = .terminated) :
    y₂.world.started.Perm (List.range y₂.world.nextTicket) ∧ (∀ f ∈ y₂.bag, f.underWay = 0) ∧
      y₂.scene.exec.admitted = y₂.world.nextTicket ∧ y₂.scene.exec.rejected = 0 ∧
      y₂.scene.exec.dropped = 0 ∧ y₂.pool.completed = y₂.world.nextTicket := by
  have run := (before.mono fun _ => Frame.halts_of_not_stops).trans after
  have taken := accepted_of_empty made before free empty few
  obtain ⟨es, later⟩ := after.journal
  have kept : y₁.world.accepted.length ≤ y₂.world.accepted.length :=
    (((World.marks_prefix Event.offer? later).filter _).map _).length_le
  have drained := drained_of_accepted made run (by omega)
  have counted : Counted y₂.scene := by
    obtain ⟨-, s, built, rfl⟩ := make?_ok made
    exact counted_reaches built run.reaches
  obtain ⟨none, ready, completed⟩ := (booked_runs made run).completed ended
  have idle := (manned_runs made run).idle none
  refine ⟨?_, fun f mem => Frame.underWay_of_not_working (idle f mem), ?_, ?_, drained.dropped, ?_⟩
  · exact started_of_drained (traceable_runs made run) drained counted
      (unstopped_runs made run).frames idle none ready
  · exact counted.admitted.trans drained.accepted
  · rw [counted.rejected]
    exact congrArg List.length drained.refused
  · exact completed.trans drained.accepted

end Service

/-! ### A drain of two tasks -/

namespace Sample

/-- The second task waits until the first has run, and then goes to the pool. -/
def filled : List (Service.Move Unit) :=
  asks 1 12 (submit "a") ++ acts 1 5 .begin ++ asks 1 10 (submit "b") ++ acts 1 12 .endRun

/-- A shutdown comes before the worker takes the second task. -/
def emptied : List (Service.Move Unit) :=
  asks 1 5 .shutdown ++ acts 1 0 .endCompletion ++ acts 1 0 .check ++ acts 1 0 .receive
    ++ acts 1 5 .count ++ acts 1 7 .endRun ++ acts 1 0 .endCompletion ++ acts 1 0 .check
    ++ acts 1 0 .notice ++ acts 1 0 .leave

def endures (c : Call Unit) : Bool := !c.frame.halts

theorem halts_of_endures {c : Call Unit} (allowed : endures c = true) :
    c.frame.halts = false := by
  simpa [endures] using allowed

end Sample

set_option maxRecDepth 2000 in
open Sample in
/-- The backlog is empty while a task is still in the ready queue; the shutdown loses nothing. -/
theorem graceful_drain_of_two :
    Service.make? config none = some (.ok service) ∧ ∃ begun y₁ more y₂,
      Service.Runs (fun c => c.frame.stops = false) service begun y₁ ∧
      y₁.scene.exec.holder = none ∧ y₁.scene.exec.backlog = [] ∧
      y₁.world.nextTicket = y₁.world.pushed.length ∧ y₁.pool.largestWorkers < wordMax ∧
      Service.Runs (fun c => c.frame.halts = false) y₁ more y₂ ∧
      y₂.world.nextTicket = y₁.world.nextTicket ∧ y₂.pool.runState = .terminated ∧
      y₁.pool.ready.length = 1 ∧ y₂.world.nextTicket = 2 ∧
      y₂.world.started.Perm (List.range y₂.world.nextTicket) ∧ (∀ f ∈ y₂.bag, f.underWay = 0) ∧
      y₂.scene.exec.admitted = y₂.world.nextTicket ∧ y₂.scene.exec.rejected = 0 ∧
      y₂.scene.exec.dropped = 0 ∧ y₂.pool.completed = y₂.world.nextTicket := by
  have replayed : ∃ begun y₁ more y₂, Service.replay onlySubmits filled service = some (begun, y₁) ∧
      Service.replay endures emptied y₁ = some (more, y₂) ∧ y₁.scene.exec.holder = none ∧
      y₁.scene.exec.backlog = [] ∧ y₁.world.nextTicket = y₁.world.pushed.length ∧
      y₁.pool.largestWorkers < wordMax ∧
      y₂.world.nextTicket = y₁.world.nextTicket ∧ y₂.pool.runState = .terminated ∧
      y₁.pool.ready.length = 1 ∧ y₂.world.nextTicket = 2 :=
    ⟨_, _, _, _, rfl, rfl, rfl, rfl, rfl, by decide, rfl, rfl, rfl, rfl⟩
  obtain ⟨begun, y₁, more, y₂, first, second, free, empty, joined, few, last, ended, queued, two⟩ :=
    replayed
  have before : Service.Runs (fun c => c.frame.stops = false) service begun y₁ :=
    (Service.replay_runs .refl first).mono fun _ => stops_of_onlySubmits
  have after : Service.Runs (fun c => c.frame.halts = false) y₁ more y₂ :=
    (Service.replay_runs .refl second).mono fun _ => halts_of_endures
  exact ⟨service_made, begun, y₁, more, y₂, before, free, empty, joined, few, after, last, ended,
    queued, two, Service.graceful_drain service_made before free empty joined few after last ended⟩

/-! ### A shutdown that overtakes a submission -/

namespace Sample

/-- The first task runs, and the submission of the second has begun. -/
def partway : List (Service.Move Unit) :=
  asks 1 12 (submit "a") ++ acts 1 5 .begin ++ asks 2 1 (submit "b")

/-- The submission finds the executor shut. -/
def forestalled : List (Service.Move Unit) :=
  asks 1 5 .shutdown ++ Service.Move.turns (.caller 2) 3 ++ acts 1 7 .endRun
    ++ acts 1 0 .endCompletion ++ acts 1 0 .check ++ acts 1 0 .notice ++ acts 1 0 .leave

end Sample

set_option maxRecDepth 2000 in
open Sample in
/-- The backlog is empty and no submission begins later, but one is on its way when the executor is
shut down: its task is dropped, and in the end only the first closure has run. -/
theorem task_dropped_by_early_shutdown :
    Service.make? config none = some (.ok service) ∧ ∃ begun y₁ more y₂,
      Service.Runs (fun c => c.frame.stops = false) service begun y₁ ∧
      y₁.scene.exec.holder = none ∧ y₁.scene.exec.backlog = [] ∧
      y₁.pool.largestWorkers < wordMax ∧
      Service.Runs (fun c => c.frame.halts = false) y₁ more y₂ ∧
      y₂.world.nextTicket = y₁.world.nextTicket ∧ y₂.pool.runState = .terminated ∧
      y₂.threads.entries = [] ∧ y₂.world.nextTicket = 2 ∧ y₂.world.started = [0] ∧
      y₂.scene.exec.admitted = 1 ∧ y₂.scene.exec.dropped = 1 := by
  have replayed : ∃ begun y₁ more y₂,
      Service.replay onlySubmits partway service = some (begun, y₁) ∧
      Service.replay endures forestalled y₁ = some (more, y₂) ∧ y₁.scene.exec.holder = none ∧
      y₁.scene.exec.backlog = [] ∧ y₁.pool.largestWorkers < wordMax ∧
      y₂.world.nextTicket = y₁.world.nextTicket ∧ y₂.pool.runState = .terminated ∧
      y₂.threads.entries = [] ∧ y₂.world.nextTicket = 2 ∧ y₂.world.started = [0] ∧
      y₂.scene.exec.admitted = 1 ∧ y₂.scene.exec.dropped = 1 :=
    ⟨_, _, _, _, rfl, rfl, rfl, rfl, by decide, rfl, rfl, rfl, rfl, rfl, rfl, rfl⟩
  obtain ⟨begun, y₁, more, y₂, first, second, free, empty, few, outcome⟩ := replayed
  have before : Service.Runs (fun c => c.frame.stops = false) service begun y₁ :=
    (Service.replay_runs .refl first).mono fun _ => stops_of_onlySubmits
  have after : Service.Runs (fun c => c.frame.halts = false) y₁ more y₂ :=
    (Service.replay_runs .refl second).mono fun _ => halts_of_endures
  exact ⟨service_made, begun, y₁, more, y₂, before, free, empty, few, after, outcome⟩

end TwoTier
