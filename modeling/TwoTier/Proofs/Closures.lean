import Mathlib.Tactic.Abel
import TwoTier.Proofs.Custody
import TwoTier.Proofs.StopRace

/-!
Where closures are.

A closure that nobody has started yet is in one place: in a frame of some thread, in the backlog, in
the pool, or among the jobs that a stop handed back. To follow closures of some kind, give each a
value and add up the values wherever closures are (`Frame.bears`, `Scene.stores`): most steps of a
thread only move closures, so that the sum stays as it is (`Scene.step_moves`). The others are a
submission, the beginning and the end of a run, and the end of a closure that is thrown away.

The pool must keep its jobs (`KeepsJobs`): what it accepts it holds, what it hands back it does not
hold any more, and it makes no copies.
-/

namespace TwoTier

variable {σ ν M : Type} [AddCommMonoid M]

/-! ### Closures that have not been started -/

/-- The value of a task's closure; a task that has been started has none. -/
def Task.bears (g : Closure ν → M) (t : Task ν) : M := t.closure.elim 0 g

/-- The value of the closures of several tasks. -/
def Task.bearsAll (g : Closure ν → M) (l : List (Task ν)) : M := (l.map (bears g)).sum

section Tasks

variable (g : Closure ν → M) (t : Task ν) (l l' : List (Task ν))

@[simp] theorem Task.bears_spent : ({ t with closure := none } : Task ν).bears g = 0 := rfl

theorem Task.bears_of_closure {t : Task ν} {c : Closure ν} (own : t.closure = some c) :
    t.bears g = g c := by
  rw [bears, own]
  rfl

theorem Task.bears_of_none {t : Task ν} (spent : t.closure = none) : t.bears g = 0 := by
  rw [bears, spent]
  rfl

@[simp] theorem Task.bearsAll_nil : bearsAll g [] = 0 := rfl

@[simp] theorem Task.bearsAll_cons : bearsAll g (t :: l) = t.bears g + bearsAll g l := by
  simp [bearsAll]

@[simp] theorem Task.bearsAll_append : bearsAll g (l ++ l') = bearsAll g l + bearsAll g l' := by
  simp [bearsAll]

end Tasks

namespace Frame

/-- The value of the closures of a frame that have not been started. -/
@[simp] def bears (g : Closure ν → M) : Frame ν → M
  | .arrive c | .survey c | .start c | .discard c => g c
  | .push t | .job t _ => t.bears g
  | .handOver t _ refused | .offer t _ refused => t.bears g + Task.bearsAll g refused
  | .drain tasks | .leave tasks | .stopPool tasks => Task.bearsAll g tasks
  | _ => 0

/-- The value of a closure that has been started and has not ended. -/
@[simp] def runs (g : Closure ν → M) : Frame ν → M
  | .atGate c | .finish c => g c
  | _ => 0

/-- The frames that at most move closures from one place to another. -/
def carries : Frame ν → Bool
  | .submit _ _ | .start _ | .atGate _ | .finish _ | .discard _ | .hangUp _ => false
  | _ => true

/-- A frame that only bears closures, be it to start them or to throw them away. -/
def Calm (f : Frame ν) : Prop := f.carries = true ∨ ∃ c, f = .start c ∨ f = .discard c

theorem Calm.runs {f : Frame ν} (calm : f.Calm) (g : Closure ν → M) : f.runs g = 0 := by
  rcases calm with moves | ⟨c, rfl | rfl⟩
  · cases f with
    | atGate | finish => simp [carries] at moves
    | _ => rfl
  · rfl
  · rfl

theorem carries_of_inPass {f : Frame ν} (inside : f.inPass = true) : f.carries = true := by
  cases f with
  | submit | start | atGate | finish | discard | hangUp => simp [inPass] at inside
  | _ => rfl

end Frame

/-- The value of the closures that wait in the backlog or in the pool, or were handed back. -/
def Scene.stores (g : Closure ν → M) (held : σ → Multiset (Task ν)) (s : Scene σ ν) : M :=
  Task.bearsAll g s.exec.backlog + ((held s.exec.pool).map (Task.bears g)).sum
    + Task.bearsAll g s.returned

/-- The frames that throw refused tasks away bear their closures. -/
theorem tally_bears_discards (g : Closure ν → M) (refused : List (Task ν)) :
    tally (Frame.bears g) (refused.map (fun t => .job t []) : List (Frame ν))
      = Task.bearsAll g refused := by
  rw [tally_coe, List.map_map]
  rfl

section Steps

variable [WorkerPool σ (Task ν)]

/-- A pool that keeps its jobs, whatever it is asked next. -/
structure KeepsJobs (held : σ → Multiset (Task ν)) (p : σ) : Prop where
  accepts : ∀ {t : Task ν} {q : σ}, WorkerPool.offer t p = (none, q) → held q = t ::ₘ held p
  refuses : ∀ {t : Task ν} {q : σ} {why : Error}, WorkerPool.offer t p = (some why, q) →
    held q = held p
  setCoreSize : ∀ n : Nat, held (WorkerPool.setCoreSize n p) = held p
  shutdown : held (WorkerPool.shutdown p) = held p
  shutdownNow : ∀ {q : σ} {jobs : List (Task ν)}, WorkerPool.shutdownNow p = (jobs, q) →
    held p = ↑jobs + held q

/-- A pool that keeps its jobs as long as it is fine, and that stays so, whatever it is asked and
when it changes by itself or gives jobs up. What it gives up it does not hold any more, unless it
has started it already. -/
structure Keeper (moves : σ → σ → Prop) (yields : σ → Task ν → σ → Prop) (fine : σ → Prop)
    (held : σ → Multiset (Task ν)) : Prop where
  keeps : ∀ {p}, fine p → KeepsJobs held p
  lasting : Lasting fine
  moves : ∀ {p q}, fine p → moves p q → fine q ∧ held q = held p
  yields : ∀ {p t q}, fine p → yields p t q →
    fine q ∧ (held p = t ::ₘ held q ∨ t.closure = none ∧ held q = held p)

namespace Scene

variable {held : σ → Multiset (Task ν)} {me : ThreadId} {f : Frame ν} {new : List (Frame ν)}
  {s s' : Scene σ ν}

omit [WorkerPool σ (Task ν)] in
theorem stores_congr (g : Closure ν → M) (backlog : s'.exec.backlog = s.exec.backlog)
    (pool : held s'.exec.pool = held s.exec.pool) (returned : s'.returned = s.returned) :
    s'.stores g held = s.stores g held := by
  rw [stores, stores, backlog, pool, returned]

omit [WorkerPool σ (Task ν)] in
theorem Keeps.stores (h : Keeps s s') (g : Closure ν → M) : s'.stores g held = s.stores g held :=
  stores_congr g h.backlog (by rw [h.pool]) h.returned

/-- What the pool gives up was stored before. -/
theorem stores_given {moves : σ → σ → Prop} {yields : σ → Task ν → σ → Prop} {fine : σ → Prop}
    (keeper : Keeper moves yields fine held) (sound : fine s.exec.pool) {t : Task ν} {pool : σ}
    (given : yields s.exec.pool t pool) (g : Closure ν → M) :
    t.bears g + Scene.stores g held { s with exec := { s.exec with pool } } = s.stores g held := by
  rcases (keeper.yields sound given).2 with given | ⟨spent, given⟩
  · simp only [stores, given, Multiset.map_cons, Multiset.sum_cons]
    abel
  · simp [stores, given, Task.bears_of_none _ spent]

omit [WorkerPool σ (Task ν)] in
/-- And so was a job that is taken from those handed back. -/
theorem stores_returned {t : Task ν} {before after : List (Task ν)}
    (split : s.returned = before ++ t :: after) (g : Closure ν → M) :
    t.bears g + Scene.stores g held { s with returned := before ++ after } = s.stores g held := by
  simp only [stores, split, Task.bearsAll_append, Task.bearsAll_cons]
  abel

/-- A step that moves closures at most, and makes none, starts none and ends none. -/
structure Moves (held : σ → Multiset (Task ν)) (s : Scene σ ν) (f : Frame ν)
    (new : List (Frame ν)) (s' : Scene σ ν) : Prop where
  bears : ∀ {M : Type} [AddCommMonoid M] (g : Closure ν → M),
    tally (Frame.bears g) (new : Multiset (Frame ν)) + s'.stores g held
      = f.bears g + s.stores g held
  /-- What was only borne may be about to start or to be thrown away. -/
  after : ∀ h ∈ new, h.Calm
  replies : s'.world.replies = s.world.replies
  nextTicket : s'.world.nextTicket = s.world.nextTicket
  alive : s'.alive = s.alive

theorem replies_reportAll (reports : List (StaleTask (Option Capture))) (w : World ν) :
    (reports.foldl (fun w r => w.record (.stale r)) w).replies = w.replies := by
  induction reports generalizing w with
  | nil => rfl
  | cons r reports ih => exact ih _

omit [WorkerPool σ (Task ν)] in
theorem replies_scan (s : Scene σ ν) : s.scan.2.world.replies = s.world.replies := by
  unfold scan
  cases s.exec.flight with
  | none => rfl
  | some flight => exact replies_reportAll _ _

omit [WorkerPool σ (Task ν)] in
/-- A step that leaves the places of closures alone, but for the frames. -/
theorem Moves.of_keeps (keeps : Keeps s s') (bears : ∀ {M : Type} [AddCommMonoid M]
      (g : Closure ν → M), tally (Frame.bears g) (new : Multiset (Frame ν)) = f.bears g)
    (after : ∀ h ∈ new, h.Calm)
    (replies : s'.world.replies = s.world.replies)
    (nextTicket : s'.world.nextTicket = s.world.nextTicket) : Moves held s f new s' :=
  ⟨fun g => by rw [bears g, keeps.stores g], after, replies, nextTicket, keeps.alive⟩

theorem PassStep.replies {g : Frame ν} (h : PassStep me s f g s') :
    s'.world.replies = s.world.replies := by
  cases h with
  | tuned active queued _ | untuned active queued _ =>
      unfold retune
      dsimp only
      split <;> rfl
  | mark t _ _ =>
      unfold marked enterFlight
      cases s.exec.flight <;> rfl
  | _ => rfl

/-- A pass takes a task from the backlog, and then the pool has it or it is thrown away. -/
theorem PassStep.bears {g : Frame ν} (keeps : KeepsJobs held s.exec.pool) (h : PassStep me s f g s')
    (v : Closure ν → M) : g.bears v + s'.stores v held = f.bears v + s.stores v held := by
  cases h with
  | tuned active queued _ | untuned active queued _ =>
      rw [(keeps_retune active queued s).stores]
      rfl
  | setCore active queued target =>
      simp only [Frame.bears, stores, keeps.setCoreSize]
  | empty none hf => cases hf <;> rfl
  | takeHead head hf =>
      cases hf <;> simp [Frame.bears, stores, head, add_assoc, add_comm, add_left_comm]
  | mark t draining refused =>
      rw [(keeps_marked t s).stores]
      simp only [Frame.bears, Task.bears, enterFlight_closure]
  | accepted t draining refused taken =>
      cases draining <;>
        simp [Frame.bears, afterOffer, stores, keeps.accepts taken] <;> abel
  | turnedDown t draining refused answer =>
      cases draining <;>
        simp [Frame.bears, afterOffer, stores, keeps.refuses answer, Buffer.forget] <;> abel
  | _ => rfl

theorem PassStep.moves {g : Frame ν} (keeps : KeepsJobs held s.exec.pool)
    (h : PassStep me s f g s') : Moves held s f [g] s' where
  bears v := by
    rw [Multiset.coe_singleton, tally_singleton]
    exact h.bears keeps v
  after := by simpa using .inl (Frame.carries_of_inPass h.inPass)
  replies := h.replies
  nextTicket := h.submissions.1
  alive := h.setting.1

theorem QuietStep.moves (h : QuietStep me s f new s') (carries : f.carries = true) :
    Moves held s f new s' := by
  cases h with
  | submit | lost | start | pastGate | finish | discard | hangUp => simp [Frame.carries] at carries
  | turnAway c shut =>
      exact ⟨fun g => by simp [Frame.bears, stores], by simp [Frame.Calm], rfl, rfl, rfl⟩
  | survey c =>
      have keeps : Keeps s (s.scan.2.makeTask c).2 :=
        (keeps_scan s).trans (keeps_world rfl rfl (Nat.le_succ _))
      refine .of_keeps keeps ?_ (by simp [Frame.Calm, Frame.carries]) (replies_scan s)
        (nextTicket_scan s)
      intro M _ g
      rw [Multiset.coe_singleton, tally_singleton]
      rfl
  | spent t none =>
      refine .of_keeps (.refl s) ?_ (by simp) rfl rfl
      intro M _ g
      simp [Frame.bears, Task.bears_of_none g none]
  | unrun t c own =>
      refine .of_keeps (.refl s) ?_ (by simp [Frame.Calm]) rfl rfl
      intro M _ g
      simp [Frame.bears, Task.bears_of_closure g own]
  | run t acts c own =>
      refine .of_keeps (.refl s) ?_ (by simp [Frame.Calm, Frame.carries]) rfl rfl
      intro M _ g
      simp [Frame.bears, Task.bears_of_closure g own]
  | completed id alive =>
      exact ⟨fun g => by simp [Frame.bears, stores, Buffer.forget],
        by simp [Frame.Calm, Frame.carries], rfl, rfl, rfl⟩
  | letIn | rerun | complete | tooLate =>
      refine .of_keeps (.refl s) ?_ (by simp [Frame.Calm, Frame.carries]) rfl rfl
      intro M _ g
      simp [Frame.bears]

omit [WorkerPool σ (Task ν)] in
/-- A task that joins the backlog takes its closure along. -/
theorem EnterStep.moves (h : EnterStep me s f s') : Moves held s f [.pass] s' := by
  cases h with
  | push t =>
      refine ⟨fun g => ?_, by simp [Frame.Calm, Frame.carries], rfl, rfl, rfl⟩
      simp only [Multiset.coe_singleton, tally_singleton, Frame.bears, stores, Buffer.push,
        Buffer.lock, Task.bearsAll_append, Task.bearsAll_cons, Task.bearsAll_nil]
      abel
  | resume | shutting =>
      exact ⟨fun g => by simp [Frame.bears, stores, Buffer.lock],
        by simp [Frame.Calm, Frame.carries], rfl, rfl, rfl⟩

/-- A frame that only carries closures moves them at most. -/
theorem step_moves (keeps : KeepsJobs held s.exec.pool) (carries : f.carries = true)
    (h : s.step me f = some (new, s')) : Moves held s f new s' := by
  cases step_cases h with
  | pass pass => exact pass.moves keeps
  | leave =>
      refine ⟨fun g => ?_, ?_, rfl, rfl, rfl⟩
      · rw [tally_bears_discards]
        rfl
      · intro h mem
        obtain ⟨t, -, rfl⟩ := List.mem_map.mp mem
        exact .inl rfl
  | enter _ enter => exact enter.moves
  | outside outside =>
      cases outside with
      | quiet quiet => exact quiet.moves carries
      | shutdown =>
          refine ⟨fun g => ?_, by simp [Frame.Calm, Frame.carries], rfl, rfl, rfl⟩
          simp [Frame.bears, stores, keeps.shutdown]
      | withdraw free =>
          refine ⟨fun g => ?_, by simp [Frame.Calm, Frame.carries], rfl, rfl, rfl⟩
          simp [Frame.bears, stores, add_assoc]
      | stop backlog stopped =>
          refine ⟨fun g => ?_, by simp, rfl, rfl, rfl⟩
          simp only [Multiset.coe_nil, tally_zero, Frame.bears, stores,
            keeps.shutdownNow stopped, Task.bearsAll_append, Multiset.map_add,
            Multiset.sum_add, Multiset.map_coe, Multiset.sum_coe]
          simp only [Task.bearsAll]
          abel

/-- Any other frame is outside of passes. -/
theorem step_quiet (acts : f.carries = false) (h : s.step me f = some (new, s')) :
    QuietStep me s f new s' := by
  have outside : f.inPass = false := by
    cases f with
    | submit | start | atGate | finish | discard | hangUp => rfl
    | _ => simp [Frame.carries] at acts
  have waits : f.entersPass = false := by
    cases f with
    | submit | start | atGate | finish | discard | hangUp => rfl
    | _ => simp [Frame.carries] at acts
  cases step_outside outside waits h with
  | quiet quiet => exact quiet
  | shutdown | withdraw | stop => simp [Frame.carries] at acts

end Scene

end Steps

end TwoTier
