import TwoTier.Proofs.Outline
import TwoTier.Proofs.PoolSteps
import TwoTier.Proofs.Replay
import TwoTier.Service.Interleaving

/-!
What a step of an executor with workers comes to.

A worker that begins a job gets a stack of its own to run it, one whose job has run gets a stack to
complete it, and other acts change the pool only (`Acted`). So every run is a run of threads at an
executor in which the pool changes by itself and gives up jobs (`Runs.reaches`), and what is known
of those holds here. `Service.replay` computes runs that are given step by step.
-/

namespace TwoTier.Service

variable {ν : Type}

/-- A new executor over a pool of its own. -/
theorem make?_ok {config : Config} {main : Option ThreadId} {y : Service ν}
    (made : make? config main = some (.ok y)) : config.validate = .ok () ∧
      ∃ s, Scene.build config main (.ofConfig config) = .ok s ∧ y = .idle s := by
  unfold make? at made
  cases valid : config.validate with
  | error why =>
      rw [valid] at made
      simp at made
  | ok =>
      rw [valid] at made
      obtain ⟨pool, opened, built⟩ := Option.map_eq_some_iff.mp made
      obtain ⟨-, opened⟩ := Option.ite_none_right_eq_some.mp opened
      obtain rfl := Option.some.inj opened
      unfold build at built
      cases scene : Scene.build config main (ThreadPool.ofConfig config) with
      | error why =>
          rw [scene] at built
          contradiction
      | ok s =>
          rw [scene] at built
          exact ⟨rfl, s, rfl, (Except.ok.inj built).symm⟩

/-- For a valid configuration nothing but making the pool can fail. -/
theorem make?_of_valid {config : Config} {main : Option ThreadId} {r : Except Error (Service ν)}
    (valid : config.validate = .ok ()) (made : make? config main = some r) : ∃ y, r = .ok y := by
  unfold make? at made
  rw [valid] at made
  obtain ⟨pool, -, rfl⟩ := Option.map_eq_some_iff.mp made
  rw [build, Scene.build, Buffer.build, valid]
  exact ⟨_, rfl⟩

/-- Making the pool fails only by a ready queue that is too long. -/
theorem make?_eq_none {config : Config} {main : Option ThreadId}
    (valid : config.validate = .ok ()) :
    make? (ν := ν) config main = none ↔ ThreadPool.maxCapacity < config.maxQueueSize := by
  unfold make? ThreadPool.make?
  rw [valid]
  dsimp only
  rw [Option.map_eq_none_iff, ite_eq_right_iff, ← Nat.not_le]
  exact imp_congr_right fun _ => iff_of_false nofun nofun

/-! ### Acts of workers -/

/-- What a worker's act comes to, and the tasks that begin to run with it. -/
inductive Acted (number : Nat) (y : Service ν) :
    WorkerAct → List (Task ν) → Service ν → Prop where
  | begin {job : Task ν} {pool : ThreadPool (Task ν)}
      (found : y.pool.phase? number = some (.assigned job))
      (did : y.pool.act? number .begin = some pool) :
      Acted number y .begin [job] ((withPool pool y).assign (.worker number) [.job job [.run]])
  | count {job : Task ν} {pool : ThreadPool (Task ν)}
      (found : y.pool.phase? number = some (.received job))
      (did : y.pool.act? number .count = some pool) :
      Acted number y .count [job] ((withPool pool y).assign (.worker number) [.job job [.run]])
  /-- The task keeps nothing of its closure. -/
  | endRun {job : Task ν} {pool : ThreadPool (Task ν)}
      (found : y.pool.phase? number = some (.running job))
      (did : y.pool.act? number .endRun = some pool) :
      Acted number y .endRun []
        ((withPool pool y).assign (.worker number) [.job { job with closure := none } [.complete]])
  | other {act : WorkerAct} {pool : ThreadPool (Task ν)}
      (plain : act ≠ .begin ∧ act ≠ .count ∧ act ≠ .endRun)
      (did : y.pool.act? number act = some pool) : Acted number y act [] (withPool pool y)

theorem Acted.pool {number : Nat} {act : WorkerAct} {more : List (Task ν)} {y z : Service ν}
    (h : Acted number y act more z) :
    z.world = y.world ∧ ThreadPool.Acts number y.pool act z.pool := by
  cases h with
  | begin _ did | count _ did | endRun _ did | other _ did => exact ⟨rfl, ThreadPool.acts did⟩

theorem acted {number : Nat} {act : WorkerAct} {y z : Service ν} (h : act? number act y = some z) :
    y.threads.get (.worker number) = [] ∧
      Acted number y act (y.pool.begins? number act).toList z := by
  unfold act? at h
  dsimp only at h
  split at h
  · contradiction
  rename_i idle
  refine ⟨by simpa using idle, ?_⟩
  obtain ⟨pool, did, h⟩ := Option.map_eq_some_iff.mp h
  have step := ThreadPool.acts did
  subst h
  cases step with
  | begin found =>
      simp only [ThreadPool.begins?, found]
      exact .begin found did
  | count found =>
      simp only [ThreadPool.begins?, found]
      exact .count found did
  | endRun found =>
      simp only [ThreadPool.begins?, found]
      exact .endRun found did
  | _ => exact .other (by simp) did

/-! ### Runs of threads -/

/-- The pool changes by acts of its workers, and with them it gives up jobs. -/
def rules (calls : Call ν → Prop) : Rules (ThreadPool (Task ν)) ν where
  moves p q := ∃ number act, p.act? number act = some q
  yields p _ q := ∃ number act, p.act? number act = some q
  calls := calls
  modes _ := True
  fit _ := True

variable {calls : Call ν → Prop} {x y z : Service ν} {begun more : List (Task ν)}

theorem Next.system (h : Next calls y more z) : System.Next (rules calls) y z := by
  cases h with
  | turn t h => exact .turn t h
  | call n c idle allowed => exact .call (.caller n) c idle allowed
  | act number act h =>
      obtain ⟨idle, step⟩ := acted h
      generalize (y.pool.begins? number act).toList = more at step
      cases step with
      | begin _ did => exact .finish _ _ .runOnly _ idle trivial ⟨number, .begin, did⟩
      | count _ did => exact .finish _ _ .runOnly _ idle trivial ⟨number, .count, did⟩
      | endRun _ did => exact .finish _ _ .completeOnly _ idle trivial ⟨number, .endRun, did⟩
      | other _ did => exact .pool _ ⟨number, act, did⟩

theorem Runs.reaches (h : Runs calls x begun y) : System.Reaches (rules calls) x y := by
  induction h with
  | refl => exact .refl
  | tail _ next ih => exact .tail ih trivial next.system

/-! ### Runs that are given step by step -/

/-- Who does something next. -/
inductive Move (ν : Type) where
  | turn (t : ThreadId)
  | call (n : Nat) (c : Call ν)
  | act (number : Nat) (act : WorkerAct)

/-- A thread takes several turns. -/
def Move.turns (t : ThreadId) (n : Nat) : List (Move ν) := List.replicate n (.turn t)

def move? (calls : Call ν → Bool) (y : Service ν) :
    Move ν → Option (List (Task ν) × Service ν)
  | .turn t => (y.turn? t).map ([], ·)
  | .call n c =>
    if (y.threads.get (.caller n)).isEmpty && calls c then
      some ([], y.assign (.caller n) [c.frame])
    else none
  | .act number act => (act? number act y).map ((y.pool.begins? number act).toList, ·)

def replay (calls : Call ν → Bool) :
    List (Move ν) → Service ν → Option (List (Task ν) × Service ν)
  | [], y => some ([], y)
  | m :: moves, y =>
    (move? calls y m).bind fun (more, y) =>
      (replay calls moves y).map fun (later, y) => (more ++ later, y)

section

variable {calls : Call ν → Bool}

theorem move_next {m : Move ν} (h : move? calls y m = some (more, z)) :
    Next (fun c => calls c = true) y more z := by
  cases m with
  | turn t =>
      obtain ⟨w, step, h⟩ := Option.map_eq_some_iff.mp h
      obtain ⟨rfl, rfl⟩ := Prod.mk.inj h
      exact .turn t step
  | call n c =>
      obtain ⟨may, h⟩ := Option.ite_none_right_eq_some.mp h
      obtain ⟨rfl, rfl⟩ := Prod.mk.inj (Option.some.inj h)
      obtain ⟨idle, allowed⟩ := Bool.and_eq_true_iff.mp may
      exact .call n c (List.isEmpty_iff.mp idle) allowed
  | act number act =>
      obtain ⟨w, did, h⟩ := Option.map_eq_some_iff.mp h
      obtain ⟨rfl, rfl⟩ := Prod.mk.inj h
      exact .act number act did

theorem replay_runs {moves : List (Move ν)} {later : List (Task ν)}
    (before : Runs (fun c => calls c = true) x begun y)
    (h : replay calls moves y = some (later, z)) :
    Runs (fun c => calls c = true) x (begun ++ later) z := by
  induction moves generalizing y begun later with
  | nil =>
      obtain ⟨rfl, rfl⟩ := Prod.mk.inj (Option.some.inj h)
      rwa [List.append_nil]
  | cons m moves ih =>
      obtain ⟨⟨more, w⟩, step, h⟩ := Option.bind_eq_some_iff.mp h
      obtain ⟨⟨rest, w'⟩, replayed, h⟩ := Option.map_eq_some_iff.mp h
      obtain ⟨rfl, rfl⟩ := Prod.mk.inj h
      rw [← List.append_assoc]
      exact ih (before.tail (move_next step)) replayed

end

end TwoTier.Service

/-! ### A small executor to replay on -/

namespace TwoTier.Sample

/-- One worker as long as there is room for its jobs, and one place in the ready queue. -/
def service : Service Unit :=
  .idle { exec := ⟨config, .ofConfig config, [], none, .steady, none, none, 0, 0, 0, 0, none⟩
          alive := true, world := World.fresh.record (.created config), returned := [] }

theorem service_made : Service.make? config none = some (.ok service) := rfl

/-- A thread calls and takes some turns. -/
def asks (n turns : Nat) (c : Call Unit) : List (Service.Move Unit) :=
  .call n c :: Service.Move.turns (.caller n) turns

/-- A worker does an act and takes some turns. -/
def acts (number turns : Nat) (act : WorkerAct) : List (Service.Move Unit) :=
  .act number act :: Service.Move.turns (.worker number) turns

end TwoTier.Sample
