import TwoTier.Service

/-!
A buffering executor that settles between calls.

Work is submitted and gates are opened only when nothing moves (`Service.Resting`): every worker
waits for a job or at a shut gate, and all that may still happen is that a keep-alive runs out.
From there callers and workers take their steps in any order until nothing moves again
(`Service.Stride`). Jobs submit nothing themselves.

A run may be held to conditions on its steps (`Service.Paced`). Two are named here. Nobody loses
patience if keep-alives run out only between calls: else a worker might leave before it sees the job
that a call has queued for it. And gates may be opened sparingly, so that no more jobs go at a time
than the ready queue has places.
-/

namespace TwoTier.Service

variable {ν : Type}

/-- Nothing moves. Keep-alives of idle workers may still run out. -/
structure Resting (y : Service ν) : Prop where
  uncalled : ∀ n, y.threads.get (.caller n) = []
  turns : ∀ t, y.turn? t = none
  acts : ∀ number act, act ≠ .timeOut → act? number act y = none

/-- Whether a stack waits at the gate. -/
def waitsAt (gate : String) : List (Frame ν) → Bool
  | .atGate c :: _ => c.work.gated && c.work.name == gate
  | _ => false

/-- How many workers wait at a gate. -/
def waitersAt (gate : String) (y : Service ν) : Nat :=
  y.pool.workers.countP fun w => waitsAt gate (y.threads.get (.worker w.number))

/-- A gate is opened, and nothing else happens. -/
def unlatch (gate : String) (y : Service ν) : Service ν :=
  { y with scene := { y.scene with world := y.scene.world.openGate gate } }

/-- What is done next. -/
inductive Pace (ν : Type) where
  /-- A thread takes a step. -/
  | turn (t : ThreadId)
  /-- A worker does an act on the pool. -/
  | act (number : Nat) (act : WorkerAct)
  /-- A thread outside the pool submits work. -/
  | submit (n : Nat) (work : Work ν) (reply : Option Nat)
  /-- A gate lets jobs go. -/
  | release (gate : String)

/-- What may be done, and what it comes to. Submissions and gates wait until nothing moves, and the
work that is submitted submits nothing when it runs. -/
inductive Stride (y : Service ν) : Pace ν → Service ν → Prop where
  | turn {z : Service ν} (t : ThreadId) (h : y.turn? t = some z) : Stride y (.turn t) z
  | act {z : Service ν} (number : Nat) (act : WorkerAct) (h : act? number act y = some z) :
      Stride y (.act number act) z
  | submit (n : Nat) (work : Work ν) (reply : Option Nat) (rests : Resting y)
      (plain : work.thenSubmit = []) :
      Stride y (.submit n work reply) (y.assign (.caller n) [.submit work reply])
  | release (gate : String) (rests : Resting y) : Stride y (.release gate) (unlatch gate y)

/-- No keep-alive runs out while a call is under way. -/
def Patient (y : Service ν) : Pace ν → Prop
  | .act _ .timeOut => ∀ n, y.threads.get (.caller n) = []
  | _ => True

/-- A gate lets at most as many jobs go as the ready queue has places. -/
def Sparing (y : Service ν) : Pace ν → Prop
  | .release gate => waitersAt gate y ≤ y.scene.exec.config.maxQueueSize
  | _ => True

/-- What can come of an executor that settles between calls, if all that is done is allowed. -/
inductive Paced (may : Service ν → Pace ν → Prop) (y : Service ν) : Service ν → Prop where
  | refl : Paced may y y
  | tail {z w : Service ν} {m : Pace ν} (before : Paced may y z) (allowed : may z m)
      (stride : Stride z m w) : Paced may y w

end TwoTier.Service
