import TwoTier.Service

/-!
A buffering executor whose workers take turns with everybody else.

`Service.settle` lets the workers go on between calls, always the first that can. Here callers and
workers take their steps in any order, a worker's acts on the pool among them: `Service.Next` says
what one step may be, and `Service.Runs` lists the tasks that have begun to run, in their order.
Closures that wait at a shut gate wait for ever, as if their threads got no more turns.
-/

namespace TwoTier.Service

variable {ν : Type}

/-- What may happen at any moment, and the tasks that begin to run with it. -/
inductive Next (calls : Call ν → Prop) (y : Service ν) : List (Task ν) → Service ν → Prop where
  /-- A thread takes a step. -/
  | turn {z : Service ν} (t : ThreadId) (h : y.turn? t = some z) : Next calls y [] z
  /-- An idle thread outside the pool calls the executor. -/
  | call (n : Nat) (c : Call ν) (idle : y.threads.get (.caller n) = []) (allowed : calls c) :
      Next calls y [] (y.assign (.caller n) [c.frame])
  /-- A worker does an act on the pool. -/
  | act {z : Service ν} (number : Nat) (act : WorkerAct) (h : act? number act y = some z) :
      Next calls y (y.pool.begins? number act).toList z

/-- What can come of an executor in any number of moments, and the tasks that have begun to run,
in their order. -/
inductive Runs (calls : Call ν → Prop) (y : Service ν) : List (Task ν) → Service ν → Prop where
  | refl : Runs calls y [] y
  | tail {begun more : List (Task ν)} {z w : Service ν} :
      Runs calls y begun z → Next calls z more w → Runs calls y (begun ++ more) w

end TwoTier.Service
