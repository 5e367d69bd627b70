import TwoTier.Buffer.Calls
import TwoTier.Proofs.Journal
import TwoTier.Proofs.Outline
import TwoTier.Proofs.Replay

/-!
The backlog is a queue, whoever uses the executor.

Tasks go to the pool in the order in which they joined the backlog. None is offered twice, and only
a stop can take one away. Nothing is asked of the pool, and any thread may do anything at any time.

The invariant has two parts. Ids are new (`Fresh`): a task on its way to the backlog has an id that
no other task had. And the tasks that joined are those offered, then the one in the hands of a pass,
then those that wait (`Ordered`).
-/

namespace TwoTier

variable {σ ν : Type}

/-- A new executor: nothing waits, the lock is free, and the journal is blank but for its making. -/
theorem Scene.build_ok [WorkerPool σ (Task ν)] {config : Config} {main : Option ThreadId} {pool : σ}
    {s : Scene σ ν} (h : Scene.build config main pool = .ok s) :
    config.validate = .ok () ∧ ∃ flight, s =
      { exec := ⟨config, pool, [], none, .steady, flight, main, 0, 0, 0, 0, none⟩
        alive := true, world := World.fresh.record (.created config), returned := [] } := by
  unfold build Buffer.build at h
  cases valid : config.validate with
  | error why => rw [valid] at h; contradiction
  | ok =>
      rw [valid] at h
      exact ⟨rfl, _, (Except.ok.inj h).symm⟩

namespace Frame

/-- The task that is on its way to the backlog. -/
def arriving : Frame ν → Multiset TaskId
  | .push t => {t.id}
  | _ => 0

/-- The task that a pass has taken from the backlog and not offered yet. -/
def inHand : Frame ν → List TaskId
  | .handOver t _ _ | .offer t _ _ => [t.id]
  | _ => []

theorem arriving_of_inPass {f : Frame ν} (inside : f.inPass = true) : f.arriving = 0 := by
  cases f with
  | push t => simp [inPass] at inside
  | _ => rfl

theorem arriving_call (c : Call ν) : c.frame.arriving = 0 := by
  cases c <;> rfl

end Frame

/-! ### New ids -/

/-- The tasks that have joined the backlog or are about to. -/
def joining (bag : Multiset (Frame ν)) (s : Scene σ ν) : Multiset TaskId :=
  ↑s.world.pushed + tally Frame.arriving bag

/-- They are all different, and older than the next task to be made. -/
structure Fresh (bag : Multiset (Frame ν)) (s : Scene σ ν) : Prop where
  distinct : (joining bag s).Nodup
  older : ∀ id ∈ joining bag s, id.number < s.world.nextTask

namespace Fresh

variable {bag bag' : Multiset (Frame ν)} {s s' : Scene σ ν}

/-- Nothing is made. -/
theorem of_eq (h : Fresh bag s) (same : joining bag' s' = joining bag s)
    (ids : s.world.nextTask ≤ s'.world.nextTask) : Fresh bag' s' := by
  refine ⟨same ▸ h.distinct, ?_⟩
  rw [same]
  intro id mem
  exact Nat.lt_of_lt_of_le (h.older id mem) ids

/-- A task is made. -/
theorem of_make (h : Fresh bag s) (more : joining bag' s' = ⟨s.world.nextTask⟩ ::ₘ joining bag s)
    (ids : s'.world.nextTask = s.world.nextTask + 1) : Fresh bag' s' := by
  constructor <;> rw [more]
  · refine Multiset.nodup_cons.mpr ⟨fun mem => ?_, h.distinct⟩
    exact absurd (h.older _ mem) (Nat.lt_irrefl _)
  · intro id mem
    rw [ids]
    rcases Multiset.mem_cons.mp mem with rfl | mem
    · exact Nat.lt_succ_self _
    · exact Nat.lt_succ_of_lt (h.older id mem)

theorem pushed_nodup (h : Fresh bag s) : s.world.pushed.Nodup :=
  Multiset.coe_nodup.mp (Multiset.nodup_of_le (Multiset.le_add_right _ _) h.distinct)

/-- A task about to join has not joined before. -/
theorem not_pushed {t : Task ν} (h : Fresh (.push t ::ₘ bag) s) : t.id ∉ s.world.pushed := by
  intro mem
  have apart := Multiset.disjoint_of_nodup_add h.distinct
  exact Multiset.disjoint_left.mp apart (Multiset.mem_coe.mpr mem) (by simp [Frame.arriving])

end Fresh

namespace Scene

variable [WorkerPool σ (Task ν)] {me : ThreadId} {f : Frame ν} {new : List (Frame ν)}
  {s s' : Scene σ ν}

/-- Outside passes a survey makes a task, and nothing else does. -/
theorem QuietStep.arriving (h : QuietStep me s f new s') :
    f.arriving = 0 ∧ (tally Frame.arriving (new : Multiset (Frame ν)) = 0 ∨
      tally Frame.arriving (new : Multiset (Frame ν)) = {⟨s.world.nextTask⟩} ∧
        s'.world.nextTask = s.world.nextTask + 1) := by
  cases h with
  | survey c =>
      have id := congrArg (· + 1) (nextTask_scan s)
      refine ⟨rfl, .inr ⟨?_, id⟩⟩
      simp [Frame.arriving, makeTask, World.takeTaskId, nextTask_scan]
  | pastGate c | discard c =>
      refine ⟨rfl, .inl ?_⟩
      rw [tally_submitAll_append fun _ _ => rfl]
      rfl
  | _ => exact ⟨rfl, .inl (by simp [Frame.arriving])⟩

end Scene

theorem fresh_outline [WorkerPool σ (Task ν)] {rules : Rules σ ν} :
    Outline rules (fun _ _ => True) fun _ => Fresh where
  enter {me f rest s s'} _ _ step fresh := by
    cases step with
    | push t =>
        refine fresh.of_eq ?_ (Nat.le_refl _)
        simp [joining, Frame.arriving, ← Multiset.coe_add, add_assoc]
    | resume => exact fresh.of_eq (by simp [joining, Frame.arriving]) (Nat.le_refl _)
    | shutting => exact fresh.of_eq (by simp [joining, Frame.arriving]) (Nat.le_refl _)
  pass {me f g rest s s'} _ _ step fresh := by
    refine fresh.of_eq ?_ step.nextTask
    simp [joining, step.pushed, Frame.arriving_of_inPass step.inPass,
      Frame.arriving_of_inPass step.inPass_before]
  leave {refused rest s} _ _ fresh := by
    refine fresh.of_eq ?_ (Nat.le_refl _)
    rw [joining, tally_add, tally_discards fun _ => rfl]
    simp [joining, Frame.arriving]
  quiet {o me f new rest s s'} _ _ step fresh := by
    obtain ⟨none, none' | ⟨one, ids⟩⟩ := step.arriving
    · refine fresh.of_eq ?_ step.keeps.nextTask
      simp only [joining, step.keeps.pushed, tally_add, tally_cons, none, none']
    · refine fresh.of_make ?_ ids
      simp only [joining, step.keeps.pushed, tally_add, tally_cons, none, one, zero_add]
      rw [Multiset.singleton_add, Multiset.add_cons]
  shutdown _ _ fresh := fresh.of_eq (by simp [joining, Frame.arriving]) (Nat.le_refl _)
  withdraw _ _ _ fresh := fresh.of_eq (by simp [joining, Frame.arriving]) (Nat.le_refl _)
  stop _ _ _ fresh := fresh.of_eq (by simp [joining, Frame.arriving]) (Nat.le_refl _)
  call _ _ fresh := fresh.of_eq (by simp [joining, Frame.arriving_call]) (Nat.le_refl _)
  finish _ _ _ fresh := fresh.of_eq (by simp [joining, Frame.arriving]) (Nat.le_refl _)
  finishReturned _ _ _ fresh := fresh.of_eq (by simp [joining, Frame.arriving]) (Nat.le_refl _)
  pool _ _ fresh := fresh.of_eq rfl (Nat.le_refl _)

/-! ### The order -/

/-- The tasks that joined, but for those that stops took back, are those offered, the one in hand
and those that wait, in this order; and stops take back only what has joined. -/
structure Ordered (o : Option (Frame ν)) (s : Scene σ ν) : Prop where
  line : s.world.retained
    = s.world.offered ++ o.elim [] Frame.inHand ++ s.exec.backlog.map Task.id
  joined : ∀ id ∈ s.world.withdrawn, id ∈ s.world.pushed

theorem World.retained_push {id : TaskId} {n : Nat} {w : World ν} (new : id ∉ w.withdrawn) :
    (w.record (.pushed id n)).retained = w.retained ++ [id] := by
  simp [World.retained, List.filter_append, new]

theorem World.retained_withdraw (ids : List TaskId) (w : World ν) :
    (w.record (.withdrawn ids)).retained = w.retained.filter (· ∉ ids) := by
  simp [World.retained, List.filter_filter, and_comm]

theorem World.retained_sublist (w : World ν) : w.retained.Sublist w.pushed :=
  List.filter_sublist

namespace Ordered

variable {o : Option (Frame ν)} {s s' : Scene σ ν}

/-- What is read off the journal and the backlog decides. -/
theorem of_eq (h : Ordered o s) {o' : Option (Frame ν)}
    (hand : o'.elim [] Frame.inHand = o.elim [] Frame.inHand)
    (offered : s'.world.offered = s.world.offered) (pushed : s'.world.pushed = s.world.pushed)
    (withdrawn : s'.world.withdrawn = s.world.withdrawn)
    (backlog : s'.exec.backlog = s.exec.backlog) : Ordered o' s' := by
  constructor
  · rw [World.retained, pushed, withdrawn, offered, hand, backlog]
    exact h.line
  · rw [pushed, withdrawn]
    exact h.joined

theorem of_keeps (h : Ordered o s) {o' : Option (Frame ν)}
    (hand : o'.elim [] Frame.inHand = o.elim [] Frame.inHand) (keeps : Scene.Keeps s s') :
    Ordered o' s' :=
  h.of_eq hand keeps.offered keeps.pushed keeps.withdrawn keeps.backlog

/-- A new task goes to the back. -/
theorem push {t : Task ν} (h : Ordered none s) (new : t.id ∉ s.world.pushed) (me : ThreadId)
    (n : Nat) : Ordered (some .pass)
      { s with exec := (s.exec.lock me).push t, world := s.world.record (.pushed t.id n) } := by
  have kept : t.id ∉ s.world.withdrawn := fun mem => new (h.joined _ mem)
  constructor
  · rw [World.retained_push kept, h.line]
    simp [Buffer.push, Buffer.lock, Frame.inHand]
  · intro id mem
    rw [World.pushed_record]
    refine List.mem_append_left _ (h.joined id ?_)
    simpa using mem

/-- A stop takes exactly what waits. -/
theorem withdraw (h : Ordered none s) (distinct : s.world.pushed.Nodup) : Ordered none
    { s with exec := { s.exec with backlog := [] }
             world := s.world.record (.withdrawn (s.exec.backlog.map Task.id)) } := by
  have line : s.world.retained = s.world.offered ++ s.exec.backlog.map Task.id := by
    simpa using h.line
  have apart : (s.world.offered ++ s.exec.backlog.map Task.id).Nodup :=
    line ▸ distinct.sublist s.world.retained_sublist
  have disjoint := List.disjoint_of_nodup_append apart
  constructor
  · have front : s.world.offered.filter (· ∉ s.exec.backlog.map Task.id) = s.world.offered := by
      refine List.filter_eq_self.mpr fun id mem => decide_eq_true ?_
      intro waits
      exact disjoint mem waits
    have back : (s.exec.backlog.map Task.id).filter (· ∉ s.exec.backlog.map Task.id) = [] := by
      apply List.filter_eq_nil_iff.mpr
      intro id mem
      simpa using mem
    rw [World.retained_withdraw, line, List.filter_append, front, back]
    simp
  · intro id mem
    rw [World.withdrawn_record] at mem
    rw [World.pushed_record]
    refine List.mem_append_left _ ?_
    rcases List.mem_append.mp mem with mem | mem
    · exact h.joined id mem
    · apply s.world.retained_sublist.subset
      rw [line]
      exact List.mem_append_right _ mem

end Ordered

theorem ordered_pass [WorkerPool σ (Task ν)] {me : ThreadId} {f g : Frame ν} {s s' : Scene σ ν}
    (step : Scene.PassStep me s f g s') (h : Ordered (some f) s) : Ordered (some g) s' := by
  refine ⟨?_, by rw [step.withdrawn, step.pushed]; exact h.joined⟩
  rw [step.retained, h.line]
  cases step with
  | tuned active queued _ | untuned active queued _ =>
      have keeps := Scene.keeps_retune active queued s
      simp [keeps.offered, keeps.backlog, Frame.inHand]
  | empty none hf => cases hf <;> simp [none, Frame.inHand]
  | takeHead head hf => cases hf <;> simp [head, Frame.inHand]
  | mark t draining refused =>
      have keeps := Scene.keeps_marked t s
      simp [keeps.offered, keeps.backlog, Frame.inHand, Scene.enterFlight_id]
  | accepted t draining refused h => cases draining <;> simp [Frame.inHand, Scene.afterOffer]
  | turnedDown t draining refused h =>
      cases draining <;> simp [Frame.inHand, Scene.afterOffer, Buffer.forget]
  | _ => simp [Frame.inHand]

theorem ordered_outline [WorkerPool σ (Task ν)] {rules : Rules σ ν} :
    Outline (σ := σ) (ν := ν) rules Fresh fun o _ s => Ordered o s where
  enter {me f rest s s'} _ fresh step inv := by
    cases step with
    | push t => exact inv.push fresh.not_pushed me _
    | resume => exact inv.of_eq rfl rfl rfl rfl rfl
    | shutting => exact inv.of_eq rfl (by simp) (by simp) (by simp) rfl
  pass _ _ step inv := ordered_pass step inv
  leave _ _ inv := inv.of_eq rfl rfl rfl rfl rfl
  quiet _ _ step inv := inv.of_keeps rfl step.keeps
  shutdown _ _ inv := inv.of_eq rfl rfl rfl rfl rfl
  withdraw _ fresh _ inv := inv.withdraw fresh.pushed_nodup
  stop _ _ _ inv := inv.of_eq rfl (by simp) (by simp) (by simp) rfl
  call _ _ inv := inv
  finish _ _ _ inv := inv.of_eq rfl rfl rfl rfl rfl
  finishReturned _ _ _ inv := inv.of_eq rfl rfl rfl rfl rfl
  pool _ _ inv := inv.of_eq rfl rfl rfl rfl rfl

section Runs

variable [WorkerPool σ (Task ν)] {rules : Rules σ ν} {config : Config} {main : Option ThreadId}
  {pool : σ} {s : Scene σ ν} {y : System σ ν}

theorem exclusive_reaches (built : Scene.build config main pool = .ok s)
    (run : System.Reaches rules (.idle s) y) : Exclusive y.bag y.scene := by
  obtain ⟨-, flight, rfl⟩ := Scene.build_ok built
  exact exclusive rfl run

theorem fresh_reaches (built : Scene.build config main pool = .ok s)
    (run : System.Reaches rules (.idle s) y) : Fresh y.bag y.scene := by
  obtain ⟨-, flight, rfl⟩ := Scene.build_ok built
  refine fresh_outline.always (fun _ _ => trivial) rfl ⟨?_, ?_⟩ run
  · simp [joining]
  · simp [joining]

theorem ordered_reaches (built : Scene.build config main pool = .ok s)
    (run : System.Reaches rules (.idle s) y) :
    Assertion.Stands (fun o _ s => Ordered o s) y.bag y.scene := by
  have basis : ∀ w, System.Reaches rules (.idle s) w → Fresh w.bag w.scene :=
    fun w before => fresh_reaches built before
  obtain ⟨-, flight, rfl⟩ := Scene.build_ok built
  refine ordered_outline.reaches basis rfl ⟨?_, ?_⟩ run
  · simp [World.retained]
  · simp

/-- Stops take back only what has joined the backlog. -/
theorem joined_reaches (built : Scene.build config main pool = .ok s)
    (run : System.Reaches rules (.idle s) y) :
    ∀ id ∈ y.scene.world.withdrawn, id ∈ y.scene.world.pushed := by
  obtain ⟨o, ordered⟩ := (ordered_reaches built run).due (exclusive_reaches built run)
  exact ordered.joined

/-- Between passes nothing is in hand. -/
theorem line_reaches (built : Scene.build config main pool = .ok s)
    (run : System.Reaches rules (.idle s) y) (free : y.scene.exec.holder = none) :
    y.scene.world.retained = y.scene.world.offered ++ y.scene.exec.backlog.map Task.id ∧
      y.scene.world.retained.Nodup := by
  constructor
  · simpa using ((ordered_reaches built run).1 free).line
  · exact (fresh_reaches built run).pushed_nodup.sublist y.scene.world.retained_sublist

/-- Whatever the pool reports and refuses, and whoever submits, finishes jobs, shuts down and stops:
between passes the tasks that joined the backlog, but for those that stops took out of it to hand
them back, are those offered to the pool, in the order of the offers, and then those that wait. No
task joins twice, and none is offered twice. -/
theorem offered_in_order (built : Scene.build config main pool = .ok s)
    (run : System.Reaches rules (.idle s) y) (free : y.scene.exec.holder = none) :
    y.scene.world.retained = y.scene.world.offered ++ y.scene.exec.backlog.map Task.id ∧
      y.scene.world.pushed.Nodup ∧ y.scene.world.offered.Nodup := by
  obtain ⟨line, apart⟩ := line_reaches built run free
  refine ⟨line, (fresh_reaches built run).pushed_nodup, ?_⟩
  rw [line] at apart
  exact (List.nodup_append.mp apart).1

end Runs

open Sample in
/-- A stop that overtakes a submission: what waits is taken back, and the task that joins meanwhile
is offered all the same. -/
theorem offered_in_order_around_stop :
    ∃ y, System.Reaches (Bounds.none (ν := Unit)).rules (.idle scene) y ∧
      y.scene.exec.holder = none ∧ y.scene.world.pushed = [⟨1⟩, ⟨2⟩, ⟨3⟩] ∧
      y.scene.world.withdrawn = [⟨2⟩] ∧
      (y.scene.world.retained = y.scene.world.offered ++ y.scene.exec.backlog.map Task.id ∧
        y.scene.world.pushed.Nodup ∧ y.scene.world.offered.Nodup) := by
  have replayed : ∃ y, System.replay .none (calls 1 12 (submit "a") ++ calls 1 10 (submit "b")
      ++ calls 2 3 (submit "c") ++ calls 1 2 .shutdownNow ++ Act.turns (.caller 2) 7)
      (.idle scene) = some y ∧ y.scene.exec.holder = none ∧
        y.scene.world.pushed = [⟨1⟩, ⟨2⟩, ⟨3⟩] ∧ y.scene.world.withdrawn = [⟨2⟩] :=
    ⟨_, rfl, rfl, rfl, rfl⟩
  obtain ⟨y, replayed, free, pushed, withdrawn⟩ := replayed
  have run := System.replay_reaches .refl replayed
  exact ⟨y, run, free, pushed, withdrawn, offered_in_order scene_built run free⟩

end TwoTier
