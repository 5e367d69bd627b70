import TwoTier.Proofs.Handles
import TwoTier.Proofs.Tickets

/-!
Every closure runs once or is thrown away once.

In runs in which handles are read, jobs are finished in any mode and the executor may be let go,
every ticket that was given out belongs to one closure, which waits somewhere, has begun to run or
was thrown away (`Placed.account`). An executor that is gone keeps no backlog, and nobody submits to
it (`Placed.landed`). So when nothing is left in the pool, with callers or on threads, every closure
has begun or was thrown away, and not both (`started_or_discarded_once`).

Whether a closure that has begun also ends is not said: it may wait at its gate.
-/

namespace TwoTier

variable {σ ν : Type} [WorkerPool σ (Task ν)]

/-! ### An executor that is gone -/

namespace Scene

variable {me : ThreadId} {f g : Frame ν} {new : List (Frame ν)} {s s' : Scene σ ν}

/-- Passes take from the backlog only. -/
theorem PassStep.backlog_nil (h : PassStep me s f g s') (none : s.exec.backlog = []) :
    s'.exec.backlog = [] := by
  cases h with
  | tuned active queued | untuned active queued => rwa [(keeps_retune active queued s).backlog]
  | mark t => rwa [(keeps_marked t s).backlog]
  | takeHead head => simp [none] at head
  | _ => exact none

/-- Without the executor nobody begins to submit. -/
theorem QuietStep.submitting_gone (h : QuietStep me s f new s') (gone : s.alive = false)
    (none : f.submitting = 0) : ∀ g ∈ new, g.submitting = 0 := by
  intro g mem
  cases h with
  | submit work reply alive => simp [gone] at alive
  | letIn | survey => simp [Frame.submitting] at none
  | pastGate c | discard c =>
      rcases List.mem_append.mp mem with mem | mem
      · obtain ⟨work, -, rfl⟩ := List.mem_map.mp mem
        rfl
      · rw [List.mem_singleton.mp mem]
        rfl
  | run t acts c own | complete t acts =>
      rcases List.mem_cons.mp mem with rfl | mem
      · rfl
      · rw [List.mem_singleton.mp mem]
        rfl
  | lost | spent | tooLate | finish | hangUp => cases mem
  | _ =>
      rw [List.mem_singleton.mp mem]
      rfl

/-- An executor that is gone stays without a backlog and without submissions. -/
theorem step_gone (h : s.step me f = some (new, s')) (gone : s.alive = false)
    (empty : s.exec.backlog = []) (none : f.submitting = 0) :
    s'.exec.backlog = [] ∧ ∀ g ∈ new, g.submitting = 0 := by
  cases step_cases h with
  | pass pass =>
      refine ⟨pass.backlog_nil empty, ?_⟩
      intro g' mem
      rw [List.mem_singleton.mp mem]
      exact Frame.submitting_of_inPass pass.inPass
  | leave =>
      refine ⟨empty, ?_⟩
      intro g mem
      obtain ⟨t, -, rfl⟩ := List.mem_map.mp mem
      rfl
  | enter _ enter =>
      cases enter with
      | push t => simp [Frame.submitting] at none
      | resume | shutting => exact ⟨empty, by simp [Frame.submitting]⟩
  | outside outside =>
      cases outside with
      | quiet quiet => exact ⟨quiet.keeps.backlog.trans empty, quiet.submitting_gone gone none⟩
      | shutdown => exact ⟨empty, by simp [Frame.submitting]⟩
      | withdraw => exact ⟨rfl, by simp [Frame.submitting]⟩
      | stop => exact ⟨empty, by simp⟩

end Scene

/-! ### Pools that keep their jobs -/

/-- A pool that is fine, and holds its jobs, also when it is let go. -/
def Outlives (fine : σ → Prop) (held : σ → Multiset (Task ν)) : Prop :=
  ∀ p, fine p → fine (WorkerPool.release p) ∧ held (WorkerPool.release p) = held p

section

variable {moves : σ → σ → Prop} {yields : σ → Task ν → σ → Prop} {held : σ → Multiset (Task ν)}

theorem Owner.keeper (owner : Owner moves yields held) :
    Keeper moves yields (fun _ => True) held where
  keeps _ := owner.keeps _
  lasting := ⟨fun _ _ _ => trivial, fun _ _ _ => trivial, fun _ => trivial, fun _ => trivial⟩
  moves _ moved := ⟨trivial, owner.moves moved⟩
  yields _ given := ⟨trivial, owner.yields given⟩

theorem Owner.outlives (owner : Owner moves yields held) : Outlives (fun _ => True) held :=
  fun p _ => ⟨trivial, owner.release p⟩

end

namespace ThreadPool

/-- A worker does something, but begins no job. -/
def goesOn (p q : ThreadPool (Task ν)) : Prop :=
  ∃ number act, p.act? number act = some q ∧ p.begins? number act = none

/-- A worker begins a job, or its job has run and is about to be completed. -/
def gives (p : ThreadPool (Task ν)) (t : Task ν) (q : ThreadPool (Task ν)) : Prop :=
  ∃ number act, p.act? number act = some q ∧
    (p.begins? number act = some t ∨ p.begins? number act = none ∧ t.closure = none)

/-- Worker threads keep the jobs of their pool. -/
theorem keeper : Keeper goesOn gives Tidy (unbegun (J := Task ν)) where
  keeps tidy := keepsJobs tidy.numbered tidy.free
  lasting := Tidy.lasting
  moves {p q} tidy moved := by
    obtain ⟨number, act, did, none⟩ := moved
    have step := acts did
    refine ⟨tidy.acts step, ?_⟩
    rw [step.unbegun tidy.numbered, none]
    exact (zero_add _).symm
  yields {p t q} tidy given := by
    obtain ⟨number, act, did, begun⟩ := given
    have step := acts did
    refine ⟨tidy.acts step, ?_⟩
    rw [step.unbegun tidy.numbered]
    rcases begun with begun | ⟨none, spent⟩
    · rw [begun]
      exact .inl rfl
    · rw [none]
      exact .inr ⟨spent, (zero_add _).symm⟩

theorem outlives : Outlives Tidy (unbegun (J := Task ν)) :=
  fun _ tidy => ⟨tidy.shutdown, (keepsJobs tidy.numbered tidy.free).shutdown⟩

end ThreadPool

/-! ### Where every closure is -/

section Runs

variable {moves : σ → σ → Prop} {yields : σ → Task ν → σ → Prop} {fine : σ → Prop}
  {held : σ → Multiset (Task ν)} {past more : List (Note ν)} {y z : System σ ν}

/-- Every ticket that was given out belongs to one closure: in a frame, in the backlog, in the pool,
among the jobs handed back, begun or thrown away. -/
structure Placed (fine : σ → Prop) (held : σ → Multiset (Task ν)) (y : System σ ν) : Prop where
  pool : fine y.scene.exec.pool
  account : tally (Frame.bears Closure.token) y.bag + y.scene.traced held
    = Multiset.range y.scene.world.nextTicket
  landed : y.scene.alive = true ∨
    y.scene.exec.backlog = [] ∧ ∀ f ∈ y.bag, f.submitting = 0

namespace Placed

omit [WorkerPool σ (Task ν)] in
theorem account_shift {after : Multiset (Frame ν)} (placed : Placed fine held y)
    (bag : z.bag = after + y.bag)
    (bears : tally (Frame.bears Closure.token) after + z.scene.stores Closure.token held
      = y.scene.stores Closure.token held)
    (journal : z.scene.world.journal = y.scene.world.journal)
    (tickets : z.scene.world.nextTicket = y.scene.world.nextTicket) :
    tally (Frame.bears Closure.token) z.bag + z.scene.traced held
      = Multiset.range z.scene.world.nextTicket := by
  have started : z.scene.world.started = y.scene.world.started := by
    rw [World.started, World.marks, journal]
    rfl
  have discarded : z.scene.world.discarded = y.scene.world.discarded := by
    rw [World.discarded, World.marks, journal]
    rfl
  rw [tickets, ← placed.account, bag, tally_add, Scene.traced, Scene.traced, started, discarded,
    ← bears]
  abel

omit [WorkerPool σ (Task ν)] in
/-- Closures only change places, and no submission gets further. -/
theorem shift (placed : Placed fine held y) (after : Multiset (Frame ν))
    (bag : z.bag = after + y.bag) (pool : fine z.scene.exec.pool)
    (calm : ∀ f ∈ after, f.submitting = 0)
    (bears : tally (Frame.bears Closure.token) after + z.scene.stores Closure.token held
      = y.scene.stores Closure.token held)
    (journal : z.scene.world.journal = y.scene.world.journal)
    (tickets : z.scene.world.nextTicket = y.scene.world.nextTicket)
    (alive : z.scene.alive = y.scene.alive)
    (backlog : z.scene.exec.backlog = y.scene.exec.backlog) : Placed fine held z := by
  refine ⟨pool, placed.account_shift bag bears journal tickets, ?_⟩
  rw [alive, backlog, bag]
  refine placed.landed.imp_right fun ⟨empty, quiet⟩ => ⟨empty, ?_⟩
  intro f mem
  rcases Multiset.mem_add.mp mem with mem | mem
  · exact calm f mem
  · exact quiet f mem

omit [WorkerPool σ (Task ν)] in
/-- Inboxes hold no closures, and a call has not made one yet. -/
theorem interrupt (placed : Placed fine held y) (replies : Replies ν) (t : ThreadId) (work : Work ν)
    (reply : Option Nat) :
    Placed fine held ((y.withReplies replies).interrupt t [.submit work reply]) := by
  refine placed.shift {.submit work reply} ?_ placed.pool ?_ ?_ rfl rfl rfl rfl
  · rw [System.bag_interrupt, System.bag_withReplies, Multiset.coe_singleton]
  · simp [Frame.submitting]
  · rw [tally_singleton]
    exact zero_add _

omit [WorkerPool σ (Task ν)] in
theorem withReplies (placed : Placed fine held y) (replies : Replies ν) :
    Placed fine held (y.withReplies replies) :=
  placed.shift 0 (zero_add _).symm placed.pool (by simp) (zero_add _) rfl rfl rfl rfl

omit [WorkerPool σ (Task ν)] in
theorem call (placed : Placed fine held y) {t : ThreadId} (c : Call ν)
    (idle : y.threads.get t = []) : Placed fine held (y.assign t [c.frame]) := by
  refine placed.shift {c.frame} (System.bag_assign idle _) placed.pool ?_ ?_ rfl rfl rfl rfl
  · cases c <;> simp [Call.frame, Frame.submitting]
  · rw [tally_singleton]
    cases c <;> exact zero_add _

omit [WorkerPool σ (Task ν)] in
/-- A thread takes up a job that was stored somewhere. -/
theorem takeUp (placed : Placed fine held y) {t : ThreadId} {job : Task ν} {acts : List JobAct}
    {s : Scene σ ν} (idle : y.threads.get t = []) (pool : fine s.exec.pool)
    (bears : job.bears Closure.token + s.stores Closure.token held
      = y.scene.stores Closure.token held)
    (world : s.world = y.scene.world) (alive : s.alive = y.scene.alive)
    (backlog : s.exec.backlog = y.scene.exec.backlog) :
    Placed fine held ⟨s, y.threads.set t [.job job acts]⟩ := by
  have bag : (⟨s, y.threads.set t [.job job acts]⟩ : System σ ν).bag
      = {.job job acts} + y.bag := System.bag_assign idle _
  refine placed.shift _ bag pool ?_ ?_ (congrArg _ world) (congrArg _ world) alive backlog
  · simp [Frame.submitting]
  · rwa [tally_singleton, Frame.bears]

theorem turn (keeper : Keeper moves yields fine held) {t : ThreadId} (turn : y.turn? t = some z)
    (placed : Placed fine held y) : Placed fine held z := by
  obtain ⟨f, new, rest, before, step, after⟩ := System.bag_turn turn
  have keeps := keeper.keeps placed.pool
  refine ⟨keeper.lasting.step step placed.pool, ?_, ?_⟩
  · have account := placed.account
    rw [before] at account
    rw [after]
    exact Scene.step_account keeps step account
  · have alive := (step_asking keeps step).2
    cases gone : y.scene.alive with
    | true => exact .inl (alive.trans gone)
    | false =>
        obtain ⟨empty, none⟩ := placed.landed.resolve_left (by simp [gone])
        rw [before] at none
        obtain ⟨calm, others⟩ := Multiset.forall_mem_cons.mp none
        obtain ⟨empty, new⟩ := Scene.step_gone step gone empty calm
        refine .inr ⟨empty, ?_⟩
        rw [after]
        intro g mem
        rcases Multiset.mem_add.mp mem with mem | mem
        · exact new g (Multiset.mem_coe.mp mem)
        · exact others g mem

/-- The pool gives a job up. -/
theorem finish (keeper : Keeper moves yields fine held) (placed : Placed fine held y)
    {t : ThreadId} {job : Task ν} {acts : List JobAct} {pool : σ} (idle : y.threads.get t = [])
    (given : yields y.scene.exec.pool job pool) :
    Placed fine held ⟨{ y.scene with exec := { y.scene.exec with pool } },
      y.threads.set t [.job job acts]⟩ := by
  refine placed.takeUp idle (keeper.yields placed.pool given).1 ?_ rfl rfl rfl
  exact Scene.stores_given keeper placed.pool given _

omit [WorkerPool σ (Task ν)] in
/-- A job that was handed back is taken up. -/
theorem finishReturned (placed : Placed fine held y) {t : ThreadId} {job : Task ν}
    {acts : List JobAct} {before after : List (Task ν)} (idle : y.threads.get t = [])
    (split : y.scene.returned = before ++ job :: after) :
    Placed fine held ⟨{ y.scene with returned := before ++ after },
      y.threads.set t [.job job acts]⟩ :=
  placed.takeUp idle placed.pool (Scene.stores_returned split _) rfl rfl rfl

theorem change (keeper : Keeper moves yields fine held) (placed : Placed fine held y) {pool : σ}
    (moved : moves y.scene.exec.pool pool) :
    Placed fine held { y with scene := { y.scene with exec := { y.scene.exec with pool } } } := by
  obtain ⟨fine, kept⟩ := keeper.moves placed.pool moved
  refine placed.shift 0 (zero_add _).symm fine (by simp) ?_ rfl rfl rfl rfl
  simp [Scene.stores, kept]

/-- The backlog is thrown away with the executor, and nobody is submitting to it. -/
theorem letGo (outlives : Outlives fine held) (placed : Placed fine held y) (t : ThreadId)
    (free : ∀ u, ∀ f ∈ y.threads.get u, f.engages = false) :
    Placed fine held (y.letGo.interrupt t
      (y.scene.exec.backlog.map fun job => .job job FinishMode.dropOnly.acts)) := by
  have bag : (y.letGo.interrupt t
      (y.scene.exec.backlog.map fun job => .job job FinishMode.dropOnly.acts)).bag
        = ↑(y.scene.exec.backlog.map fun job => Frame.job job FinishMode.dropOnly.acts) + y.bag :=
    System.bag_interrupt t _ y.letGo
  obtain ⟨fine, kept⟩ := outlives _ placed.pool
  refine ⟨fine, placed.account_shift bag ?_ rfl rfl, .inr ⟨rfl, ?_⟩⟩
  · rw [FinishMode.acts, tally_bears_discards]
    simp only [System.interrupt, System.assign, System.letGo, Scene.stores, kept,
      Task.bearsAll_nil]
    abel
  · rw [bag]
    intro f mem
    rcases Multiset.mem_add.mp mem with mem | mem
    · obtain ⟨job, -, rfl⟩ := List.mem_map.mp (Multiset.mem_coe.mp mem)
      rfl
    · obtain ⟨u, own⟩ := Stacks.get_of_mem_frames (Multiset.mem_coe.mp mem)
      have free := free u f own
      cases f with
      | arrive | survey | push => contradiction
      | _ => rfl

theorem happens (keeper : Keeper moves yields fine held) (outlives : Outlives fine held)
    (placed : Placed fine held y) (step : System.Happens moves yields past y more z) :
    Placed fine held z := by
  cases step with
  | turn t turn => exact placed.turn keeper turn
  | submit t work => exact placed.interrupt _ t work _
  | call t c idle => exact placed.call c idle
  | gather | tend | read => exact placed.withReplies _
  | enlist t work => exact placed.interrupt _ t work _
  | finish t job mode pool idle given => exact placed.finish keeper idle given
  | finishReturned t before after job mode idle split => exact placed.finishReturned idle split
  | pool pool moved => exact placed.change keeper moved
  | letGo t free => exact placed.letGo outlives t free

theorem next {rules : Rules σ ν} (keeper : Keeper rules.moves rules.yields fine held)
    (placed : Placed fine held y) (next : System.Next rules y z) : Placed fine held z := by
  cases next with
  | turn t turn => exact placed.turn keeper turn
  | call t c idle => exact placed.call c idle
  | finish t job mode pool idle _ given => exact placed.finish keeper idle given
  | finishReturned t before after job mode idle _ split => exact placed.finishReturned idle split
  | pool pool moved => exact placed.change keeper moved

end Placed

variable {config : Config} {main : Option ThreadId} {pool : σ} {s : Scene σ ν} {h : List (Note ν)}

theorem placed_built (built : Scene.build config main pool = .ok s)
    (new : fine pool) (empty : held pool = 0) : Placed fine held (.idle s) := by
  obtain ⟨-, flight, rfl⟩ := Scene.build_ok built
  refine ⟨new, ?_, .inl rfl⟩
  rw [System.bag_idle, tally_zero, zero_add]
  simp only [System.idle, Scene.traced, Scene.stores, empty]
  rfl

theorem placed_chronicle (keeper : Keeper moves yields fine held) (outlives : Outlives fine held)
    (built : Scene.build config main pool = .ok s) (new : fine pool) (empty : held pool = 0)
    (run : System.Chronicle moves yields (.idle s) h y) : Placed fine held y := by
  induction run with
  | refl => exact placed_built built new empty
  | tail _ step placed => exact placed.happens keeper outlives step

theorem placed_reaches {rules : Rules σ ν} (keeper : Keeper rules.moves rules.yields fine held)
    (built : Scene.build config main pool = .ok s) (new : fine pool) (empty : held pool = 0)
    (run : System.Reaches rules (.idle s) y) : Placed fine held y := by
  induction run with
  | refl => exact placed_built built new empty
  | tail _ _ next placed => exact placed.next keeper next

/-- The executor is gone, the pool and the callers have no job left, and no thread is at work. -/
structure System.Spent (held : σ → Multiset (Task ν)) (y : System σ ν) : Prop where
  gone : y.scene.alive = false
  pool : held y.scene.exec.pool = 0
  returned : y.scene.returned = []
  idle : ∀ t, y.threads.get t = []

omit [WorkerPool σ (Task ν)] in
/-- When nothing is left, every closure has begun or was thrown away. -/
theorem Placed.spent (placed : Placed fine held y) (spent : y.Spent held) :
    (y.scene.world.started ++ y.scene.world.discarded).Perm
      (List.range y.scene.world.nextTicket) := by
  obtain ⟨empty, -⟩ := placed.landed.resolve_left (by simp [spent.gone])
  have account := placed.account
  rw [System.bag_eq_zero spent.idle, tally_zero, zero_add, Scene.traced, Scene.stores, empty,
    spent.pool, spent.returned] at account
  apply Multiset.coe_eq_coe.mp
  calc (↑(y.scene.world.started ++ y.scene.world.discarded) : Multiset Nat)
      = Task.bearsAll Closure.token [] + ((0 : Multiset (Task ν)).map (Task.bears _)).sum
          + Task.bearsAll Closure.token [] + y.scene.world.started + y.scene.world.discarded := by
        simp
    _ = _ := account

/-- Over any pool that keeps its jobs, whoever submits, from wherever, finishes jobs in any mode,
shuts down, stops or lets the executor go: no closure begins twice, is thrown away twice, or both
begins and is thrown away. And when the executor is gone and no job is left, every closure that was
ever made has begun just once or was thrown away just once. -/
theorem started_or_discarded_once (keeper : Keeper moves yields fine held)
    (outlives : Outlives fine held) (new : fine pool) (empty : held pool = 0)
    (built : Scene.build config main pool = .ok s)
    (run : System.Chronicle moves yields (.idle s) h y) :
    (∀ ticket, y.scene.world.started.count ticket + y.scene.world.discarded.count ticket ≤ 1) ∧
    (y.Spent held → ∀ ticket < y.scene.world.nextTicket,
      y.scene.world.started.count ticket = 1 ∧ ticket ∉ y.scene.world.discarded ∨
      ticket ∉ y.scene.world.started ∧ y.scene.world.discarded.count ticket = 1) := by
  have placed := placed_chronicle keeper outlives built new empty run
  have once : ∀ ticket,
      y.scene.world.started.count ticket + y.scene.world.discarded.count ticket ≤ 1 := by
    intro ticket
    have among : (↑(y.scene.world.started ++ y.scene.world.discarded) : Multiset Nat)
        ≤ Multiset.range y.scene.world.nextTicket := by
      rw [← placed.account, Scene.traced, ← Multiset.coe_add, add_assoc _ (_ : Multiset Nat),
        ← add_assoc]
      exact Multiset.le_add_left _ _
    have distinct := Multiset.coe_nodup.mp
      (Multiset.nodup_of_le among (Multiset.nodup_range _))
    rw [← List.count_append]
    exact List.nodup_iff_count_le_one.mp distinct ticket
  refine ⟨once, ?_⟩
  intro spent ticket made
  have found : ticket ∈ y.scene.world.started ++ y.scene.world.discarded :=
    (placed.spent spent).mem_iff.mpr (List.mem_range.mpr made)
  have once := once ticket
  rw [← List.count_eq_zero, ← List.count_eq_zero]
  rcases List.mem_append.mp found with begun | thrown
  · have some := List.count_pos_iff.mpr begun
    exact .inl ⟨by omega, by omega⟩
  · have some := List.count_pos_iff.mpr thrown
    exact .inr ⟨by omega, by omega⟩

end Runs

open Sample in
/-- The second closure is thrown away with the executor; the first is in the pool then, and runs
once in a job that is run twice. -/
theorem started_or_discarded_once_after_letGo :
    ∃ h y, System.Chronicle HandPool.reorders HandPool.gives (.idle scene) h y ∧
      y.Spent (fun p : HandPool (Task Unit) => (p.held : Multiset (Task Unit))) ∧
      y.scene.world.nextTicket = 2 ∧ y.scene.world.started = [0] ∧
      y.scene.world.discarded = [1] ∧
      (∀ ticket, y.scene.world.started.count ticket + y.scene.world.discarded.count ticket ≤ 1) ∧
      ∀ ticket < y.scene.world.nextTicket,
        y.scene.world.started.count ticket = 1 ∧ ticket ∉ y.scene.world.discarded ∨
        ticket ∉ y.scene.world.started ∧ y.scene.world.discarded.count ticket = 1 := by
  have played : ∃ y₁ y₂ y₃ job pool y₄ h₃ h₄,
      System.turns? (.caller 1) 12
        ((System.idle scene).ask (.caller 1) (.plain "a" (.value ()))) = some ([], y₁) ∧
      y₁.scene.alive = true ∧
      System.turns? (.caller 1) 10 (y₁.ask (.caller 1) (.plain "b" (.value ())))
        = some ([], y₂) ∧
      y₂.threads.entries = [] ∧
      System.turns? (.caller 1) 3 (y₂.letGo.interrupt (.caller 1)
        (y₂.scene.exec.backlog.map fun job => .job job FinishMode.dropOnly.acts))
          = some (h₃, y₃) ∧
      y₃.threads.entries = [] ∧ y₃.scene.exec.pool.take? 0 = some (job, pool) ∧
      System.turns? (.caller 1) 8
        { scene := { y₃.scene with exec := { y₃.scene.exec with pool } }
          threads := y₃.threads.set (.caller 1) [.job job FinishMode.runTwice.acts] }
        = some (h₄, y₄) ∧
      (y₄.scene.alive = false ∧ y₄.scene.exec.pool.held = [] ∧ y₄.scene.returned = [] ∧
        y₄.threads.entries = []) ∧
      y₄.scene.world.nextTicket = 2 ∧ y₄.scene.world.started = [0] ∧
      y₄.scene.world.discarded = [1] :=
    ⟨_, _, _, _, _, _, _, _, rfl, rfl, rfl, rfl, rfl, rfl, rfl, rfl, ⟨rfl, rfl, rfl, rfl⟩, rfl, rfl,
      rfl⟩
  obtain ⟨y₁, y₂, y₃, job, pool, y₄, h₃, h₄, first, alive, second, quiet, dropped, entries, taken,
    finished, ⟨gone, empty, returned, rest⟩, made, started, discarded⟩ := played
  have free : ∀ u, ∀ f ∈ y₂.threads.get u, f.engages = false := by
    intro u f mem
    rw [System.idle_of_entries quiet u] at mem
    cases mem
  have asked : System.Chronicle HandPool.reorders HandPool.gives (.idle scene) _ y₁ :=
    System.Chronicle.turns (.tail .refl (.submit (.caller 1) _ rfl)) first
  have waits := System.Chronicle.turns (asked.tail (.submit (.caller 1) _ alive)) second
  have gone' := System.Chronicle.turns (waits.tail (.letGo (.caller 1) free)) dropped
  have run := System.Chronicle.turns (gone'.tail (.finish (.caller 1) job .runTwice pool
    (System.idle_of_entries entries _) ⟨0, taken⟩)) finished
  have spent : y₄.Spent fun p : HandPool (Task Unit) => (p.held : Multiset (Task Unit)) :=
    ⟨gone, by rw [empty]; rfl, returned, System.idle_of_entries rest⟩
  obtain ⟨once, fate⟩ := started_or_discarded_once HandPool.owner.keeper
    HandPool.owner.outlives trivial rfl scene_built run
  exact ⟨_, y₄, run, spent, made, started, discarded, once, fate spent⟩

end TwoTier
