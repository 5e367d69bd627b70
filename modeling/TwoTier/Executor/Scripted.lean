import TwoTier.Executor
import TwoTier.World

/-!
An executor that follows a plan.

Each call of `execute` uses the next entry of the plan. When the plan is used up its last entry is
repeated, and without a plan work is run at once. Entries cover all that an executor may do with
work: run it before the call returns, keep it for later, throw it away, refuse it. Work does not
submit further work here.
-/

namespace TwoTier

/-- What is done with the work of one call. -/
inductive Handling where
  /-- Run on the calling thread, before the call returns. -/
  | runHere
  /-- Run on a thread of its own, before the call returns. -/
  | runApart
  | keep
  | discard
  | refuse (why : Error)
deriving DecidableEq, Repr

/-- The entry of a plan for call number `n`, counted from zero. -/
def Handling.ofPlan (plan : List Handling) (n : Nat) : Handling :=
  (plan[n]?.or plan.getLast?).getD .runHere

structure Scripted (ν : Type) where
  plan : List Handling
  /-- Calls so far. -/
  calls : Nat
  /-- Work kept for later, in the order of its arrival. -/
  kept : List (Closure ν)
  world : World ν

namespace Scripted

variable {ν : Type}

def ofPlan (plan : List Handling) : Scripted ν := ⟨plan, 0, [], .fresh⟩

/-- Runs a closure on a thread. -/
def runOn (thread : ThreadId) (c : Closure ν) (s : Scripted ν) : Scripted ν :=
  { s with world := (s.world.record (.started c.ticket c.work.name thread)).finish c thread }

def throwAway (c : Closure ν) (s : Scripted ν) : Scripted ν :=
  { s with world := s.world.throwAway c }

/-- Whether running a closure panics: with a handle, its panic is a result. -/
def panics (c : Closure ν) : Bool :=
  match c.reply, c.work.ending with
  | none, .panic _ => true
  | _, _ => false

/-- Handles a closure that arrives with a call. -/
def handle (me : ThreadId) (c : Closure ν) (s : Scripted ν) : Handling → Outcome × Scripted ν
  | .runHere => (if panics c then .panicked else .taken, s.runOn me c)
  | .runApart => (.taken, s.runOn (.worker s.calls) c)
  | .keep => (.taken, { s with kept := s.kept ++ [c] })
  | .discard => (.taken, s.throwAway c)
  | .refuse why => (.refused why, s.throwAway c)

def execute (me : ThreadId) (work : Work ν) (reply : Option Nat) (s : Scripted ν) :
    Outcome × Scripted ν :=
  let (c, world) := s.world.makeClosure work reply
  handle me c { s with calls := s.calls + 1, world } (.ofPlan s.plan s.calls)

instance : Executor (Scripted ν) ν where
  execute me work reply s :=
    let (outcome, s) := s.execute me work reply
    (outcome.result, s)
  replies s := s.world.replies
  setReplies r s := { s with world := { s.world with replies := r } }

/-- Takes out the work that has been kept longest, or the latest. -/
def takeKept? (latest : Bool) (s : Scripted ν) : Option (Closure ν × Scripted ν) :=
  if latest then s.kept.getLast?.map fun c => (c, { s with kept := s.kept.dropLast })
  else s.kept.head?.map fun c => (c, { s with kept := s.kept.tail })

end Scripted

end TwoTier
