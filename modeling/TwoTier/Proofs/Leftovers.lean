import TwoTier.Proofs.Register

/-!
What the register keeps of a task that is gone.

A task is gone when neither the pool nor the backlog has it, no stop has handed it back and no
thread has it in hand (`Gone`). It never comes back, so nobody can complete it or offer it any more
(`Left`). What is recorded of it then stays as it is: a task that the pool refused, that was
completed, or that never got to the pool has no record, but one that the pool took, that a stop
handed back and that was thrown away without being completed keeps its record for ever, and every
scan reports it once it is old enough (`record_outlives_task_iff`).

Nothing is asked of the order in which threads take turns, and the register is read at any moment,
also in the middle of a pass.
-/

namespace TwoTier

variable {σ ν : Type}

/-- The tasks that a frame has in hand. -/
def Frame.tasks : Frame ν → List TaskId
  | .push t | .job t _ => [t.id]
  | .handOver t _ refused | .offer t _ refused => t.id :: refused.map Task.id
  | .drain refused | .leave refused => refused.map Task.id
  | .completed id => [id]
  | .stopPool backlog => backlog.map Task.id
  | _ => []

/-- A task was made and is nowhere any more. -/
structure Gone (knows : σ → TaskId → Prop) (id : TaskId) (bag : Multiset (Frame ν))
    (s : Scene σ ν) : Prop where
  made : id.number < s.world.nextTask
  pool : ¬ knows s.exec.pool id
  backlog : ∀ t ∈ s.exec.backlog, t.id ≠ id
  returned : ∀ t ∈ s.returned, t.id ≠ id
  hands : ∀ f ∈ bag, id ∉ f.tasks

/-- A task is gone, and neither accepted nor completed but if it was at an earlier moment. -/
structure Left (knows : σ → TaskId → Prop) (id : TaskId) (before : World ν)
    (bag : Multiset (Frame ν)) (s : Scene σ ν) : Prop where
  gone : Gone knows id bag s
  accepted : id ∈ s.world.accepted ↔ id ∈ before.accepted
  completed : id ∈ s.world.completed ↔ id ∈ before.completed

/-! ### What steps do with tasks -/

namespace Frame

theorem marked_subset_tasks (f : Frame ν) : f.marked ⊆ f.tasks := by
  cases f with
  | offer t draining refused => exact List.cons_subset_cons t.id (List.nil_subset _)
  | _ => exact List.nil_subset _

theorem tasks_submitAll {works : List (Work ν)} {f : Frame ν} (mem : f ∈ submitAll works) :
    f.tasks = [] := by
  obtain ⟨work, -, rfl⟩ := List.mem_map.mp mem
  rfl

theorem tasks_afterOffer (draining : Bool) (refused : List (Task ν)) :
    (Scene.afterOffer draining refused).tasks = refused.map Task.id := by
  cases draining <;> rfl

theorem tasks_call (c : Call ν) : c.frame.tasks = [] := by
  cases c <;> rfl

end Frame

namespace Scene

variable [WorkerPool σ (Task ν)] {me : ThreadId} {f g : Frame ν} {new : List (Frame ν)}
  {s s' : Scene σ ν} {id : TaskId}

/-- A pass gets tasks from the backlog only, and puts none there. -/
theorem PassStep.tasks (h : PassStep me s f g s') :
    (∀ id ∈ g.tasks, id ∈ f.tasks ∨ ∃ t ∈ s.exec.backlog, t.id = id) ∧
      s'.exec.backlog ⊆ s.exec.backlog := by
  cases h with
  | tuned active queued | untuned active queued =>
      exact ⟨nofun, (keeps_retune active queued s).backlog ▸ List.Subset.refl _⟩
  | mark t draining refused =>
      refine ⟨?_, (keeps_marked t s).backlog ▸ List.Subset.refl _⟩
      simp only [Frame.tasks, enterFlight_id]
      exact fun id => .inl
  | accepted t draining refused =>
      refine ⟨?_, List.Subset.refl _⟩
      rw [Frame.tasks_afterOffer]
      exact fun id mem => .inl (List.mem_cons_of_mem _ mem)
  | turnedDown t draining refused =>
      refine ⟨?_, List.Subset.refl _⟩
      rw [Frame.tasks_afterOffer, List.map_append]
      intro id mem
      refine .inl ?_
      rcases List.mem_append.mp mem with earlier | own
      · exact List.mem_cons_of_mem _ earlier
      · exact List.mem_singleton.mp own ▸ List.mem_cons_self
  | empty _ takes =>
      refine ⟨?_, List.Subset.refl _⟩
      cases takes with
      | drain => exact fun id => .inl
      | bypass | decide => exact nofun
  | @takeHead _ draining refused rest t head takes =>
      rw [head]
      refine ⟨?_, List.subset_cons_self t rest⟩
      intro id mem
      rcases List.mem_cons.mp mem with rfl | earlier
      · exact .inr ⟨t, List.mem_cons_self, rfl⟩
      · cases takes with
        | drain => exact .inl earlier
        | bypass | decide => exact absurd earlier List.not_mem_nil
  | _ => exact ⟨nofun, List.Subset.refl _⟩

/-- Whether a task has been accepted changes only for one in hand. -/
theorem PassStep.accepted_iff (h : PassStep me s f g s') (apart : id ∉ f.tasks) :
    id ∈ s'.world.accepted ↔ id ∈ s.world.accepted := by
  cases h with
  | tuned active queued | untuned active queued => rw [(keeps_retune active queued s).accepted]
  | mark t => rw [(keeps_marked t s).accepted]
  | setCore => simp
  | accepted t draining refused =>
      have other : id ≠ t.id := fun same => apart (same ▸ List.mem_cons_self)
      simp [other]
  | turnedDown => simp
  | _ => rfl

/-- Outside passes a survey makes a task; else threads keep those that they have. -/
theorem QuietStep.tasks (h : QuietStep me s f new s') :
    ∀ g ∈ new, ∀ id ∈ g.tasks, id ∈ f.tasks ∨ id = ⟨s.world.nextTask⟩ := by
  intro g mem id among
  cases h with
  | survey c =>
      obtain rfl := List.mem_singleton.mp mem
      refine .inr ((List.mem_singleton.mp among).trans ?_)
      simp [makeTask, World.takeTaskId, nextTask_scan]
  | pastGate c | discard c =>
      rcases List.mem_append.mp mem with mem | mem
      · rw [Frame.tasks_submitAll mem] at among
        exact absurd among List.not_mem_nil
      · obtain rfl := List.mem_singleton.mp mem
        exact absurd among List.not_mem_nil
  | rerun t acts =>
      obtain rfl := List.mem_singleton.mp mem
      exact .inl among
  | run t acts c =>
      rcases List.mem_cons.mp mem with rfl | mem
      · exact absurd among List.not_mem_nil
      · obtain rfl := List.mem_singleton.mp mem
        exact .inl among
  | complete t acts =>
      rcases List.mem_cons.mp mem with rfl | mem
      · exact .inl among
      · obtain rfl := List.mem_singleton.mp mem
        exact .inl among
  | lost | spent | tooLate | finish | hangUp => exact absurd mem List.not_mem_nil
  | submit | turnAway | letIn | unrun | completed | start =>
      obtain rfl := List.mem_singleton.mp mem
      exact absurd among List.not_mem_nil

end Scene

/-- A scan reports the entries that are too old. -/
theorem FlightRecorder.reported_iff {τ : Type} (r : FlightRecorder τ) {now : Instant}
    {id : TaskId} : id ∈ (r.scan now).1.map StaleTask.id ↔
      ∃ e ∈ r.entries, e.id = id ∧ r.threshold.total < (now.since e.admittedAt).total := by
  simp only [List.mem_map, mem_scan, overdue_iff]
  constructor
  · rintro ⟨_, ⟨e, mem, old, rfl⟩, rfl⟩
    exact ⟨e, mem, rfl, old⟩
  · rintro ⟨e, mem, rfl, old⟩
    exact ⟨_, ⟨e, mem, old, rfl⟩, rfl⟩

/-! ### Gone for good -/

namespace Left

variable {knows : σ → TaskId → Prop} {id : TaskId} {before : World ν}
  {bag bag' : Multiset (Frame ν)} {s s' : Scene σ ν}

/-- Nothing that is new anywhere is the task, and it is neither accepted nor completed. -/
theorem mono (h : Left knows id before bag s) (ids : s.world.nextTask ≤ s'.world.nextTask)
    (pool : knows s'.exec.pool id → knows s.exec.pool id)
    (backlog : ∀ t ∈ s'.exec.backlog, t ∈ s.exec.backlog ∨ t.id ≠ id)
    (returned : ∀ t ∈ s'.returned, t ∈ s.returned ∨ t.id ≠ id)
    (hands : ∀ f ∈ bag', id ∉ f.tasks)
    (accepted : id ∈ s'.world.accepted ↔ id ∈ s.world.accepted)
    (completed : id ∈ s'.world.completed ↔ id ∈ s.world.completed) :
    Left knows id before bag' s' where
  gone :=
    { made := Nat.lt_of_lt_of_le h.gone.made ids
      pool := fun has => h.gone.pool (pool has)
      backlog := fun t mem => (backlog t mem).elim (h.gone.backlog t) fun other => other
      returned := fun t mem => (returned t mem).elim (h.gone.returned t) fun other => other
      hands }
  accepted := accepted.trans h.accepted
  completed := completed.trans h.completed

/-- The frames of a thread are replaced by others without the task. -/
theorem hands {f : Frame ν} {rest : Multiset (Frame ν)}
    (h : Left knows id before (f ::ₘ rest) s) (new : List (Frame ν))
    (own : ∀ g ∈ new, id ∉ g.tasks) : ∀ g ∈ (new : Multiset (Frame ν)) + rest, id ∉ g.tasks := by
  intro g mem
  rcases Multiset.mem_add.mp mem with mem | mem
  · exact own g (Multiset.mem_coe.mp mem)
  · exact h.gone.hands g (Multiset.mem_cons_of_mem mem)

/-- A thread gets a frame without the task. -/
theorem takeUp (h : Left knows id before bag s) {f : Frame ν} (own : id ∉ f.tasks)
    (world : s'.world = s.world) (pool : knows s'.exec.pool id → knows s.exec.pool id)
    (backlog : s'.exec.backlog = s.exec.backlog) (returned : s'.returned ⊆ s.returned) :
    Left knows id before (f ::ₘ bag) s' := by
  refine h.mono (Nat.le_of_eq (by rw [world])) pool (by rw [backlog]; exact fun t => .inl)
    (fun t mem => .inl (returned mem)) (Multiset.forall_mem_cons.mpr ⟨own, h.gone.hands⟩) ?_ ?_
  · rw [world]
  · rw [world]

variable [WorkerPool σ (Task ν)] {rules : Rules σ ν} {me : ThreadId} {f g : Frame ν}
  {new : List (Frame ν)} {rest : Multiset (Frame ν)}

theorem pass (faithful : Faithful rules knows) (step : Scene.PassStep me s f g s')
    (h : Left knows id before (f ::ₘ rest) s) : Left knows id before (g ::ₘ rest) s' := by
  obtain ⟨taken, backlog⟩ := step.tasks
  have apart : id ∉ f.tasks := h.gone.hands f (Multiset.mem_cons_self f rest)
  have pool : knows s'.exec.pool id → knows s.exec.pool id := by
    cases step with
    | tuned active queued | untuned active queued =>
        rw [(Scene.keeps_retune active queued s).pool]
        exact fun has => has
    | mark t =>
        rw [(Scene.keeps_marked t s).pool]
        exact fun has => has
    | setCore => exact faithful.setCoreSize
    | accepted t draining refused answer =>
        intro has
        rcases faithful.accepts answer has with rfl | old
        · exact absurd List.mem_cons_self apart
        · exact old
    | turnedDown t draining refused answer => exact faithful.refuses answer
    | _ => exact fun has => has
  refine h.mono step.nextTask pool (fun t mem => .inl (backlog mem)) ?_ ?_
    (step.accepted_iff apart) ?_
  · rw [step.setting.2.2.2]
    exact fun t => .inl
  · refine h.hands [g] ?_
    intro g' mem among
    obtain rfl := List.mem_singleton.mp mem
    rcases taken id among with own | ⟨t, waits, same⟩
    · exact apart own
    · exact h.gone.backlog t waits same
  · rw [step.completed]

omit [WorkerPool σ (Task ν)] in
theorem enter (step : Scene.EnterStep me s f s') (h : Left knows id before (f ::ₘ rest) s) :
    Left knows id before (.pass ::ₘ rest) s' := by
  have apart : id ∉ f.tasks := h.gone.hands f (Multiset.mem_cons_self f rest)
  have hands := h.hands [.pass] fun g mem => List.mem_singleton.mp mem ▸ List.not_mem_nil
  cases step with
  | push t =>
      refine h.mono (Nat.le_refl _) (fun has => has) ?_ (fun t => .inl) hands (by simp) (by simp)
      intro u mem
      rcases List.mem_append.mp mem with old | own
      · exact .inl old
      · obtain rfl := List.mem_singleton.mp own
        exact .inr (List.ne_of_not_mem_cons apart).symm
  | resume =>
      exact h.mono (Nat.le_refl _) (fun has => has) (fun t => .inl) (fun t => .inl) hands .rfl .rfl
  | shutting =>
      exact h.mono (Nat.le_refl _) (fun has => has) (fun t => .inl) (fun t => .inl) hands (by simp)
        (by simp)

theorem quiet (alive : s.alive = true) (step : Scene.QuietStep me s f new s')
    (h : Left knows id before (f ::ₘ rest) s) : Left knows id before (↑new + rest) s' := by
  have keeps := step.keeps
  have apart : id ∉ f.tasks := h.gone.hands f (Multiset.mem_cons_self f rest)
  refine h.mono keeps.nextTask (by rw [keeps.pool]; exact fun has => has)
    (by rw [keeps.backlog]; exact fun t => .inl) (by rw [keeps.returned]; exact fun t => .inl)
    (h.hands _ ?_) (by rw [keeps.accepted]) ?_
  · intro g mem among
    rcases step.tasks g mem id among with own | new
    · exact apart own
    · exact absurd (new ▸ h.gone.made) (Nat.lt_irrefl _)
  · rcases step.completing alive with ⟨other, rfl, -, done⟩ | ⟨-, same⟩
    · have differs : id ≠ other := fun same => apart (List.mem_singleton.mpr same)
      simp [done, differs]
    · rw [same]

theorem outside (faithful : Faithful rules knows) (alive : s.alive = true)
    (step : Scene.OutsideStep me s f new s') (h : Left knows id before (f ::ₘ rest) s) :
    Left knows id before (↑new + rest) s' := by
  have apart : id ∉ f.tasks := h.gone.hands f (Multiset.mem_cons_self f rest)
  cases step with
  | quiet quiet => exact h.quiet alive quiet
  | shutdown =>
      refine h.mono (Nat.le_refl _) faithful.shutdown (fun t => .inl) (fun t => .inl)
        (h.hands _ ?_) .rfl .rfl
      exact fun g mem => List.mem_singleton.mp mem ▸ List.not_mem_nil
  | withdraw =>
      refine h.mono (Nat.le_refl _) (fun has => has) nofun (fun t => .inl) (h.hands _ ?_) (by simp)
        (by simp)
      intro g mem among
      obtain rfl := List.mem_singleton.mp mem
      obtain ⟨t, waits, same⟩ := List.mem_map.mp among
      exact h.gone.backlog t waits same
  | stop backlog stopped =>
      obtain ⟨given, kept⟩ := faithful.stop stopped
      refine h.mono (Nat.le_refl _) (kept id) (fun t => .inl) ?_ (h.hands [] nofun) (by simp)
        (by simp)
      intro t mem
      refine (List.mem_append.mp mem).imp_right fun handed same => ?_
      rcases List.mem_append.mp handed with own | waited
      · exact h.gone.pool (same ▸ given t own)
      · exact apart (List.mem_map.mpr ⟨t, waited, same⟩)

/-- A task that is gone does not come back. -/
theorem upheld (faithful : Faithful rules knows) (id : TaskId) (before : World ν) :
    Upheld (σ := σ) rules (fun _ s => s.alive = true) (Left knows id before) where
  step {me f new rest s s'} _ alive h step := by
    cases Scene.step_cases step with
    | pass pass => exact h.pass faithful pass
    | leave refused =>
        refine h.mono (Nat.le_refl _) (fun has => has) (fun t => .inl) (fun t => .inl)
          (h.hands _ ?_) .rfl .rfl
        intro g mem among
        obtain ⟨t, turned, rfl⟩ := List.mem_map.mp mem
        refine h.gone.hands _ (Multiset.mem_cons_self _ rest) ?_
        exact List.mem_map.mpr ⟨t, turned, (List.mem_singleton.mp among).symm⟩
    | enter _ enter => exact h.enter enter
    | outside outside => exact h.outside faithful alive outside
  call {c bag s} _ _ h :=
    h.takeUp (by rw [Frame.tasks_call]; exact List.not_mem_nil) rfl (fun has => has) rfl
      (List.Subset.refl _)
  finish {job mode pool bag s} _ given _ h := by
    obtain ⟨own, kept⟩ := faithful.yields given
    refine h.takeUp ?_ rfl (kept id) rfl (List.Subset.refl _)
    intro mem
    exact h.gone.pool (List.mem_singleton.mp mem ▸ own)
  finishReturned {job mode before' after bag s} _ split _ h := by
    have handed : job ∈ s.returned := split ▸ List.mem_append_right _ List.mem_cons_self
    refine h.takeUp ?_ rfl (fun has => has) rfl ?_
    · intro mem
      exact h.gone.returned job handed (List.mem_singleton.mp mem).symm
    · intro t mem
      rw [split]
      refine (List.mem_append.mp mem).elim (List.mem_append_left _) fun later => ?_
      exact List.mem_append_right _ (List.mem_cons_of_mem _ later)
  pool moved _ h :=
    h.mono (Nat.le_refl _) (faithful.moves moved) (fun t => .inl) (fun t => .inl) h.gone.hands
      .rfl .rfl

end Left

/-! ### The record of a task that is gone -/

section Runs

variable [WorkerPool σ (Task ν)] {rules : Rules σ ν} {knows : σ → TaskId → Prop}
  {config : Config} {main : Option ThreadId} {pool : σ} {s : Scene σ ν} {y z : System σ ν}

theorem handled_reaches (faithful : Faithful rules knows) (new : ∀ id, ¬ knows pool id)
    (built : Scene.build config main pool = .ok s) (run : System.Reaches rules (.idle s) y) :
    Handled knows y.bag y.scene := by
  have basis : ∀ w, System.Reaches rules (.idle s) w → w.scene.alive = true :=
    fun w before => (situated_reaches built before).alive
  obtain ⟨-, flight, rfl⟩ := Scene.build_ok built
  refine (handled_outline faithful).always basis rfl ?_ run
  exact ⟨by simp, fun id mem => absurd mem (new id), by simp, by simp, by simp⟩

theorem recorded_reaches (faithful : Faithful rules knows) (new : ∀ id, ¬ knows pool id)
    (debug : config.debug = true) (built : Scene.build config main pool = .ok s)
    (run : System.Reaches rules (.idle s) y) :
    Assertion.Stands (fun o _ s => Recorded o s) y.bag y.scene := by
  have basis : ∀ w, System.Reaches rules (.idle s) w → Backed knows w.bag w.scene :=
    fun w before => ⟨fresh_reaches built before, (ordered_reaches built before).2,
      handled_reaches faithful new built before⟩
  obtain ⟨-, register, rfl⟩ := Scene.build_ok built
  have flight := Scene.build_debug debug built
  refine recorded_outline.reaches basis rfl ⟨?_, by simp⟩ run
  rw [Scene.recorded, flight]
  rfl

theorem left_reaches (faithful : Faithful rules knows)
    (built : Scene.build config main pool = .ok s) (run : System.Reaches rules (.idle s) y)
    {id : TaskId} (gone : Gone knows id y.bag y.scene) (later : System.Reaches rules y z) :
    Left knows id y.scene.world z.bag z.scene := by
  refine (Left.upheld faithful id y.scene.world).reaches ?_ ⟨gone, .rfl, .rfl⟩ later
  exact fun w more => (situated_reaches built (run.trans more)).alive

omit [WorkerPool σ (Task ν)] in
/-- A task that no frame has in hand is recorded exactly if it was accepted and not completed,
wherever a pass stands. -/
theorem recorded_iff_of_hands {bag : Multiset (Frame ν)} {id : TaskId}
    (stands : Assertion.Stands (fun o _ s => Recorded o s) bag s) (alone : Exclusive bag s)
    (hands : ∀ f ∈ bag, id ∉ f.tasks) : ∃ r, s.exec.flight = some r ∧
      (id ∈ r.taskIds ↔ id ∈ s.world.accepted ∧ id ∉ s.world.completed) := by
  obtain ⟨o, recorded, apart⟩ : ∃ o, Recorded o s ∧ id ∉ o.elim [] Frame.marked := by
    by_cases free : s.exec.holder = none
    · exact ⟨none, stands.1 free, List.not_mem_nil⟩
    · obtain ⟨f, mem, inside⟩ := alone.exists_pass free
      refine ⟨some f, stands.2 f mem inside, ?_⟩
      exact fun marked => hands f mem (f.marked_subset_tasks marked)
  obtain ⟨r, flight, entries⟩ := Option.map_eq_some_iff.mp recorded.entries
  refine ⟨r, flight, ?_⟩
  rw [r.taskIds_perm.mem_iff, entries, List.mem_append, World.mem_outstanding]
  exact or_iff_left apart

/-- With diagnostics on, over any pool that gives up and hands back only what it has taken: a task
that is gone stays gone, and at any later moment the register has a record of it exactly if the pool
had taken it and nobody had completed it when it was gone. Then, and only then, scans report it, as
soon as it is old enough. -/
theorem record_outlives_task_iff (faithful : Faithful rules knows) (new : ∀ id, ¬ knows pool id)
    (debug : config.debug = true) (built : Scene.build config main pool = .ok s)
    (run : System.Reaches rules (.idle s) y) {id : TaskId} (gone : Gone knows id y.bag y.scene)
    (later : System.Reaches rules y z) :
    Gone knows id z.bag z.scene ∧ ∃ r, z.scene.exec.flight = some r ∧
      (id ∈ r.taskIds ↔ id ∈ y.scene.world.accepted ∧ id ∉ y.scene.world.completed) ∧
      ∀ now, id ∈ (r.scan now).1.map StaleTask.id ↔
        (id ∈ y.scene.world.accepted ∧ id ∉ y.scene.world.completed) ∧
          ∃ e ∈ r.entries, e.id = id ∧ r.threshold.total < (now.since e.admittedAt).total := by
  have left := left_reaches faithful built run gone later
  have all := run.trans later
  obtain ⟨r, flight, recorded⟩ := recorded_iff_of_hands
    (recorded_reaches faithful new debug built all) (exclusive_reaches built all) left.gone.hands
  rw [left.accepted, left.completed] at recorded
  refine ⟨left.gone, r, flight, recorded, ?_⟩
  intro now
  rw [r.reported_iff, ← recorded]
  constructor
  · rintro ⟨e, mem, same, old⟩
    refine ⟨?_, e, mem, same, old⟩
    exact r.taskIds_perm.mem_iff.mpr (List.mem_map.mpr ⟨e, mem, same⟩)
  · rintro ⟨-, slow⟩
    exact slow

end Runs

/-! ### A pool that hands back its jobs, driven by hand -/

namespace Sample

/-- One worker, and a stop hands back what the pool holds. -/
def draining : HandPool (Task Unit) := { HandPool.new 1 with drain := true }

def drainScene : Scene (HandPool (Task Unit)) Unit :=
  { debugScene with exec := { debugScene.exec with pool := draining } }

theorem drainScene_built : Scene.build debugging none draining = .ok drainScene := rfl

/-- A job that a stop handed back is taken up by a thread, which then takes some turns. -/
theorem reaches_takeUp {x y z : System (HandPool (Task Unit)) Unit} {t : ThreadId}
    {job : Task Unit} {mode : FinishMode} {turns : Nat}
    (before : System.Reaches Bounds.none.rules x y) (idle : y.threads.get t = [])
    (returned : y.scene.returned = [job])
    (after : System.replay .none (Act.turns t turns)
      { scene := { y.scene with returned := [] }
        threads := y.threads.set t [.job job mode.acts] } = some z) :
    System.Reaches Bounds.none.rules x z :=
  System.replay_reaches (before.tail rfl (.finishReturned t [] [] job mode idle rfl returned)) after

end Sample

open Sample in
/-- The first task completes and is gone. The pool takes a second one later, and the register has
no record of the first. -/
theorem record_outlives_task_iff_after_completion :
    ∃ y z r, System.Reaches (Bounds.none (ν := Unit)).rules (.idle drainScene) y ∧
      System.Reaches (Bounds.none (ν := Unit)).rules y z ∧
      y.scene.world.completed = [⟨1⟩] ∧ z.scene.world.accepted = [⟨1⟩, ⟨2⟩] ∧
      z.scene.exec.flight = some r ∧ ⟨1⟩ ∉ r.taskIds ∧
      ∀ now, ⟨1⟩ ∉ (r.scan now).1.map StaleTask.id := by
  obtain ⟨y, z, first, second, quiet, waits, held, returned, made, accepted, completed, more⟩ :
      ∃ y z, System.replay .none (calls 1 12 (submit "a") ++
          .finish (.caller 1) 0 .runComplete :: Act.turns (.caller 1) 14) (.idle drainScene)
            = some y ∧
        System.replay .none (calls 1 12 (submit "b")) y = some z ∧ y.threads.entries = [] ∧
        y.scene.exec.backlog = [] ∧ y.scene.exec.pool.held = [] ∧ y.scene.returned = [] ∧
        1 < y.scene.world.nextTask ∧ y.scene.world.accepted = [⟨1⟩] ∧
        y.scene.world.completed = [⟨1⟩] ∧ z.scene.world.accepted = [⟨1⟩, ⟨2⟩] :=
    ⟨_, _, rfl, rfl, rfl, rfl, rfl, rfl, by decide, rfl, rfl, rfl⟩
  have run := System.replay_reaches .refl first
  have later := System.replay_reaches (x := y) .refl second
  have gone : Gone (fun p id => id ∈ (p.held : Multiset (Task Unit)).map Task.id) ⟨1⟩ y.bag
      y.scene := by
    refine ⟨made, ?_, ?_, ?_, ?_⟩
    · simp [held]
    · simp [waits]
    · simp [returned]
    · simp [System.bag_eq_zero (System.idle_of_entries quiet)]
  obtain ⟨-, r, flight, recorded, reported⟩ := record_outlives_task_iff (HandPool.faithful _)
    (by simp [draining, HandPool.new]) rfl drainScene_built run gone later
  have done : ¬ ((⟨1⟩ : TaskId) ∈ y.scene.world.accepted ∧ ⟨1⟩ ∉ y.scene.world.completed) := by
    simp [accepted, completed]
  exact ⟨y, z, r, run, later, completed, more, flight, fun mem => done (recorded.mp mem),
    fun now mem => done ((reported now).mp mem).1⟩

open Sample in
/-- A task that the pool took is handed back and thrown away without being completed. Nobody has it
any more, and its record is still there; half a minute later scans begin to report it. -/
theorem record_outlives_dropped_task :
    ∃ z r, System.Reaches (Bounds.none (ν := Unit)).rules (.idle drainScene) z ∧
      z.scene.world.marks Event.stopped? = [([⟨1⟩], [])] ∧ z.scene.world.discarded = [0] ∧
      z.scene.world.completed = [] ∧
      Gone (fun p id => id ∈ (p.held : Multiset (Task Unit)).map Task.id) ⟨1⟩ z.bag z.scene ∧
      z.scene.exec.flight = some r ∧ ⟨1⟩ ∈ r.taskIds ∧
      ⟨1⟩ ∈ (r.scan ⟨31000000000⟩).1.map StaleTask.id := by
  obtain ⟨y, z, r, job, first, idle, returned, taken, quiet, stopped, dropped, completed, waits,
      held, left, made, flight, entries, reports⟩ :
      ∃ y z r job, System.replay .none (calls 1 12 (submit "a") ++ calls 1 2 .shutdownNow)
          (.idle drainScene) = some y ∧
        y.threads.get (.caller 1) = [] ∧ y.scene.returned = [job] ∧
        System.replay .none (Act.turns (.caller 1) 3)
          { scene := { y.scene with returned := [] }
            threads := y.threads.set (.caller 1) [.job job FinishMode.dropOnly.acts] } = some z ∧
        z.threads.entries = [] ∧ z.scene.world.marks Event.stopped? = [([⟨1⟩], [])] ∧
        z.scene.world.discarded = [0] ∧ z.scene.world.completed = [] ∧
        z.scene.exec.backlog = [] ∧
        z.scene.exec.pool.held = [] ∧ z.scene.returned = [] ∧ 1 < z.scene.world.nextTask ∧
        z.scene.exec.flight = some r ∧ r.entries.map FlightEntry.id = [⟨1⟩] ∧
        (r.scan ⟨31000000000⟩).1.map StaleTask.id = [⟨1⟩] :=
    ⟨_, _, _, _, rfl, rfl, rfl, rfl, rfl, rfl, rfl, rfl, rfl, rfl, rfl, by decide, rfl, rfl, rfl⟩
  have run := reaches_takeUp (System.replay_reaches .refl first) idle returned taken
  refine ⟨z, r, run, stopped, dropped, completed, ⟨made, ?_, ?_, ?_, ?_⟩, flight, ?_, ?_⟩
  · simp [held]
  · simp [waits]
  · simp [left]
  · simp [System.bag_eq_zero (System.idle_of_entries quiet)]
  · rw [r.taskIds_perm.mem_iff, entries]
    exact List.mem_singleton_self _
  · rw [reports]
    exact List.mem_singleton_self _

end TwoTier
