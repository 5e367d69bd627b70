import TwoTier.Buffer.Calls
import TwoTier.Buffer.Interleaving
import TwoTier.Pool.HandDriven

/-!
Runs in a given order.

Over a pool that is driven by hand a list of acts says who does what next, and the run can be
computed (`System.replay`). Whatever it comes to, threads that take turns freely can come to it
too (`System.replay_reaches`). The converse is not claimed.
-/

namespace TwoTier

variable {ν : Type}

/-- What a replay allows: which calls, which ways to finish a job, and from which scenes it goes
on. -/
structure Bounds (ν : Type) where
  calls : Call ν → Bool
  modes : FinishMode → Bool
  fit : Scene (HandPool (Task ν)) ν → Bool

namespace Bounds

def none : Bounds ν := ⟨fun _ => true, fun _ => true, fun _ => true⟩

/-- Refusals may be ordered at any time, and held jobs taken out in any order. -/
def rules (b : Bounds ν) : Rules (HandPool (Task ν)) ν where
  moves p q := ∃ n, q = { p with reject := n }
  yields p t q := ∃ index, p.take? index = some (t, q)
  calls c := b.calls c = true
  modes m := b.modes m = true
  fit s := b.fit s = true

end Bounds

/-- What happens next. -/
inductive Act (ν : Type) where
  | turn (t : ThreadId)
  | call (t : ThreadId) (c : Call ν)
  /-- A thread takes a held job out of the pool and finishes it. -/
  | finish (t : ThreadId) (index : Nat) (mode : FinishMode)
  /-- The next so many offers will be refused. -/
  | refuse (n : Nat)

/-- A thread takes several turns. -/
def Act.turns (t : ThreadId) (n : Nat) : List (Act ν) := List.replicate n (.turn t)

namespace System

variable (b : Bounds ν)

def act? (y : System (HandPool (Task ν)) ν) : Act ν → Option (System (HandPool (Task ν)) ν)
  | .turn t => y.turn? t
  | .call t c =>
    if (y.threads.get t).isEmpty && b.calls c then some (y.assign t [c.frame]) else .none
  | .finish t index mode =>
    if (y.threads.get t).isEmpty && b.modes mode then
      (y.scene.exec.pool.take? index).map fun (job, pool) =>
        { scene := { y.scene with exec := { y.scene.exec with pool } }
          threads := y.threads.set t [.job job mode.acts] }
    else .none
  | .refuse n => some { y with scene := { y.scene with exec := { y.scene.exec with
      pool := { y.scene.exec.pool with reject := n } } } }

def replay : List (Act ν) → System (HandPool (Task ν)) ν → Option (System (HandPool (Task ν)) ν)
  | [], y => some y
  | a :: acts, y => if b.fit y.scene then (y.act? b a).bind (replay acts) else .none

variable {b} {y z : System (HandPool (Task ν)) ν}

theorem act_next {a : Act ν} (h : y.act? b a = some z) : Next b.rules y z := by
  cases a with
  | turn t => exact .turn t h
  | call t c =>
      obtain ⟨may, h⟩ := Option.ite_none_right_eq_some.mp h
      obtain rfl := Option.some.inj h
      obtain ⟨idle, allowed⟩ := Bool.and_eq_true_iff.mp may
      exact .call t c (List.isEmpty_iff.mp idle) allowed
  | finish t index mode =>
      obtain ⟨may, h⟩ := Option.ite_none_right_eq_some.mp h
      obtain ⟨idle, allowed⟩ := Bool.and_eq_true_iff.mp may
      obtain ⟨⟨job, pool⟩, taken, h⟩ := Option.map_eq_some_iff.mp h
      obtain rfl := h
      exact .finish t job mode pool (List.isEmpty_iff.mp idle) allowed ⟨index, taken⟩
  | refuse n =>
      obtain rfl := Option.some.inj h
      exact .pool _ ⟨n, rfl⟩

/-- No thread has business without a stack. -/
theorem idle_of_entries (none : y.threads.entries = []) (t : ThreadId) : y.threads.get t = [] := by
  rw [Stacks.get, none]
  rfl

theorem replay_reaches {x : System (HandPool (Task ν)) ν} {acts : List (Act ν)}
    (before : Reaches b.rules x y) (h : replay b acts y = some z) : Reaches b.rules x z := by
  induction acts generalizing y with
  | nil =>
      obtain rfl := Option.some.inj h
      exact before
  | cons a acts ih =>
      obtain ⟨fit, h⟩ := Option.ite_none_right_eq_some.mp h
      obtain ⟨w, step, rest⟩ := Option.bind_eq_some_iff.mp h
      exact ih (before.tail fit (act_next step)) rest

end System

/-! ### A small executor to replay on -/

namespace Sample

/-- One worker at most, and one place in the ready queue. -/
def config : Config := ⟨1, 1, 1, 1, .ofSeconds 30, "worker", false⟩

def scene : Scene (HandPool (Task Unit)) Unit :=
  { exec := ⟨config, .new 1, [], none, .steady, none, none, 0, 0, 0, 0, none⟩
    alive := true, world := World.fresh.record (.created config), returned := [] }

theorem scene_built : Scene.build config none (.new 1) = .ok scene := rfl

def submit (name : String) : Call Unit := .submit (.plain name (.value ())) none

/-- A thread calls and takes some turns. -/
def calls (thread turns : Nat) (c : Call Unit) : List (Act Unit) :=
  .call (.caller thread) c :: Act.turns (.caller thread) turns

end Sample

end TwoTier
