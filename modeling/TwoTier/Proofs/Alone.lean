import TwoTier.Proofs.Fifo

/-!
Runs of one thread.

Nobody but one thread ever has business (`System.Alone`). All frames are on its stack then, so while
it is busy nothing can happen but its own next step and changes of the pool by itself
(`System.Next.alone`). When it is idle it may make any call and finish any job.
-/

namespace TwoTier

variable {σ ν : Type}

namespace System

/-- No thread has business, save perhaps one. -/
def Only (me : ThreadId) (y : System σ ν) : Prop := ∀ t, t ≠ me → y.threads.get t = []

theorem only_idle (me : ThreadId) (s : Scene σ ν) : (idle s).Only me := fun _ _ => rfl

namespace Only

variable {me t : ThreadId} {f : Frame ν} {y z : System σ ν}

/-- A thread with business is the one. -/
theorem eq (only : y.Only me) (busy : y.threads.get t ≠ []) : t = me := by
  by_contra other
  exact busy (only t other)

theorem set {s : Scene σ ν} (only : y.Only me) (stack : List (Frame ν)) :
    Only me ⟨s, y.threads.set me stack⟩ := by
  intro t other
  rw [Stacks.get_set_of_ne other]
  exact only t other

/-- All frames are on one stack. -/
theorem bag (only : y.Only me) : y.bag = ↑(y.threads.get me) := by
  have none : y.threads.others me = [] := by
    apply List.eq_nil_iff_forall_not_mem.mpr
    intro f mem
    have left : f ∈ (y.threads.set me []).frames := by
      rw [Stacks.frames_set]
      exact mem
    obtain ⟨t, own⟩ := Stacks.get_of_mem_frames left
    by_cases mine : t = me
    · subst mine
      rw [Stacks.get_set_self] at own
      cases own
    · rw [Stacks.get_set_of_ne mine, only t mine] at own
      cases own
  have perm := y.threads.frames_perm me
  rw [none, List.append_nil] at perm
  exact Multiset.coe_eq_coe.mpr perm

/-- When the thread is idle, all are. -/
theorem rest (only : y.Only me) (returned : y.threads.get me = []) :
    ∀ t, y.threads.get t = [] := by
  intro t
  by_cases mine : t = me
  · rwa [mine]
  · exact only t mine

end Only

variable [WorkerPool σ (Task ν)] {rules : Rules σ ν} {me : ThreadId} {x y z : System σ ν}

/-- While the thread is idle nobody takes a step. -/
theorem Only.turn?_idle (only : y.Only me) (idle : y.threads.get me = []) (t : ThreadId) :
    y.turn? t = none := by
  rw [turn?, only.rest idle t]

/-- Runs in which other threads get no business. -/
inductive Alone (rules : Rules σ ν) (me : ThreadId) (x : System σ ν) : System σ ν → Prop where
  | refl : Alone rules me x x
  | tail {y z : System σ ν} : Alone rules me x y → rules.fit y.scene → Next rules y z →
      z.Only me → Alone rules me x z

namespace Alone

theorem reaches (run : Alone rules me x y) : Reaches rules x y := by
  induction run with
  | refl => exact .refl
  | tail _ fit next _ ih => exact ih.tail fit next

theorem only (run : Alone rules me x y) (start : x.Only me) : y.Only me := by
  cases run with
  | refl => exact start
  | tail _ _ _ only => exact only

end Alone

/-- While the thread is busy it takes its next step, or the pool changes by itself. -/
theorem Next.alone {f : Frame ν} {rest : List (Frame ν)} (next : Next rules y z)
    (before : y.Only me) (after : z.Only me) (top : y.threads.get me = f :: rest) :
    (∃ new, y.scene.step me f = some (new, z.scene) ∧ z.threads.get me = new ++ rest) ∨
      ∃ pool, rules.moves y.scene.exec.pool pool ∧
        z = { y with scene := { y.scene with exec := { y.scene.exec with pool } } } := by
  have other {t : ThreadId} {g : Frame ν} (idle : y.threads.get t = [])
      (busy : z.threads.get t = [g]) : False := by
    obtain rfl : t = me := after.eq (by simp [busy])
    rw [top] at idle
    contradiction
  cases next with
  | turn t turn =>
      obtain ⟨g, new, rest', gets, step, threads, -, -⟩ := turn_stack turn
      obtain rfl : t = me := before.eq (by simp [gets])
      rw [top] at gets
      obtain ⟨rfl, rfl⟩ := List.cons.inj gets
      refine .inl ⟨new, step, ?_⟩
      rw [threads, Stacks.get_set_self]
  | call t c idle => exact (other idle (Stacks.get_set_self ..)).elim
  | finish t job mode pool idle => exact (other idle (Stacks.get_set_self ..)).elim
  | finishReturned t earlier later job mode idle =>
      exact (other idle (Stacks.get_set_self ..)).elim
  | pool pool moved => exact .inr ⟨pool, moved, rfl⟩

end System

/-! ### Replays of one thread -/

/-- Whether an act is one of the given thread or of the pool. -/
def Act.by (me : ThreadId) : Act ν → Bool
  | .turn t | .call t _ | .finish t _ _ => t = me
  | .refuse _ => true

namespace System

variable {b : Bounds ν} {me : ThreadId} {x y z : System (HandPool (Task ν)) ν}

theorem act_only {a : Act ν} (own : a.by me = true) (only : y.Only me) (h : y.act? b a = some z) :
    z.Only me := by
  cases a with
  | turn t =>
      obtain rfl : t = me := of_decide_eq_true own
      obtain ⟨f, new, rest, -, -, threads, -⟩ := turn_stack h
      intro u other
      rw [threads, Stacks.get_set_of_ne other]
      exact only u other
  | call t c =>
      obtain rfl : t = me := of_decide_eq_true own
      obtain ⟨-, h⟩ := Option.ite_none_right_eq_some.mp h
      obtain rfl := Option.some.inj h
      exact only.set _
  | finish t index mode =>
      obtain rfl : t = me := of_decide_eq_true own
      obtain ⟨-, h⟩ := Option.ite_none_right_eq_some.mp h
      obtain ⟨-, -, rfl⟩ := Option.map_eq_some_iff.mp h
      exact only.set _
  | refuse n =>
      obtain rfl := Option.some.inj h
      exact only

/-- A replay of one thread's acts is a run of that thread. -/
theorem replay_alone {acts : List (Act ν)} (own : ∀ a ∈ acts, a.by me = true)
    (before : Alone b.rules me x y) (only : y.Only me) (h : replay b acts y = some z) :
    Alone b.rules me x z := by
  induction acts generalizing y with
  | nil =>
      obtain rfl := Option.some.inj h
      exact before
  | cons a acts ih =>
      obtain ⟨fit, h⟩ := Option.ite_none_right_eq_some.mp h
      obtain ⟨w, step, rest⟩ := Option.bind_eq_some_iff.mp h
      have after := act_only (own a List.mem_cons_self) only step
      exact ih (fun a mem => own a (List.mem_cons_of_mem _ mem))
        (before.tail fit (act_next step) after) after rest

end System

end TwoTier
