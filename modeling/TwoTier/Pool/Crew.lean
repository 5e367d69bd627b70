import TwoTier.Executor
import TwoTier.Job
import TwoTier.Pool.Worker
import TwoTier.World

/-!
A thread pool at work on plain jobs.

Workers run closures, wait at gates and complete their jobs. `Crew.settle` lets the workers act one
after the other until none can go on by itself: every job is then queued, before its gate or over.
Calls are made between settlings, and work is not submitted by jobs here.
-/

namespace TwoTier

structure Crew (ν : Type) where
  pool : ThreadPool (Job ν)
  world : World ν

/-- The log line of a panic that a worker of `pool` caught. -/
def Event.panicLine? (pool : String) : Event → Option LogLine
  | .panicked _ payload (.worker n) => some (line "Pool job panicked" payload n)
  | .completionPanicked payload (.worker n) => some (line "Pool job completion panicked" payload n)
  | _ => none
where
  line (message : String) (payload : Payload) (n : Nat) : LogLine :=
    ⟨.error, message,
      [("thread", "Some(" ++ Text.quote (PoolEvent.threadName pool n) ++ ")"),
       ("panic", payload.message)]⟩

namespace Crew

variable {ν : Type}

def new (pool : ThreadPool (Job ν)) : Crew ν := ⟨pool, .fresh⟩

/-- Whether a started closure may go on. -/
def passes (c : Closure ν) (w : World ν) : Bool := !c.work.gated || w.isOpen c.work.name

/-- What a worker does after it was given a job to run: the closure begins. -/
def begins (number : Nat) (job : Job ν) (s : Crew ν) : Crew ν :=
  match job.closure with
  | none => s
  | some c => { s with world := s.world.record (.started c.ticket c.work.name (.worker number)) }

/-- The closure of a running job ends, unless it waits at its gate. -/
def ends? (number : Nat) (job : Job ν) (s : Crew ν) : Option (Crew ν) :=
  match job.closure with
  | none => some s
  | some c =>
    if passes c s.world then some { s with world := s.world.finish c (.worker number) } else none

def completes (number : Nat) (job : Job ν) (s : Crew ν) : Crew ν :=
  match job.completion with
  | none => s
  | some payload => { s with world := s.world.record (.completionPanicked payload (.worker number)) }

/-- Lets the pool take a worker's act. -/
def actPool? (number : Nat) (act : WorkerAct) (s : Crew ν) : Option (Crew ν) :=
  (s.pool.act? number act).map fun pool => { s with pool }

/-- What a worker does next, if it can do something. -/
def workerStep? (w : Worker (Job ν)) (s : Crew ν) : Option (Crew ν) :=
  match w.phase with
  | .running job => (ends? w.number job s).bind (actPool? w.number .endRun)
  | .completing job => actPool? w.number .endCompletion (completes w.number job s)
  | .assigned job => (actPool? w.number .begin s).map (begins w.number job)
  | .received job => (actPool? w.number .count s).map (begins w.number job)
  | _ => (s.pool.idleAct? w).bind fun act => actPool? w.number act s

/-- The first worker that can do something does it. -/
def step? (s : Crew ν) : Option (Crew ν) := s.pool.workers.findSome? fun w => workerStep? w s

def settleFor : Nat → Crew ν → Crew ν
  | 0, s => s
  | fuel + 1, s =>
    match s.step? with
    | none => s
    | some s => settleFor fuel s

/-- More acts than the workers can still do: a job takes at most six, and a worker at most six
around its jobs. -/
def settle (s : Crew ν) : Crew ν :=
  settleFor (12 * (s.pool.ready.length + s.pool.workers.length + 1)) s

/-- Hands a job to the pool; a refused closure is thrown away. -/
def execute (work : Work ν) (reply : Option Nat) (completion : Option Payload) (s : Crew ν) :
    Except Error Unit × Crew ν :=
  let (c, world) := s.world.makeClosure work reply
  match s.pool.execute ⟨some c, completion⟩ with
  | (.ok (), pool) => (.ok (), settle { pool, world })
  | (.error rejected, pool) => (.error rejected.error, settle { pool, world := world.throwAway c })

instance : Executor (Crew ν) ν where
  execute _ work reply s := s.execute work reply none
  replies s := s.world.replies
  setReplies r s := { s with world := { s.world with replies := r } }

/-- A call on the pool, and what the workers do after it. -/
def onPool (f : ThreadPool (Job ν) → ThreadPool (Job ν)) (s : Crew ν) : Crew ν :=
  settle { s with pool := f s.pool }

/-- Throws jobs away. -/
def dropAll (jobs : List (Job ν)) (s : Crew ν) : Crew ν :=
  { s with world := (jobs.filterMap Job.closure).foldl (fun w c => w.throwAway c) s.world }

/-- Stops the pool and takes the jobs that it hands back. -/
def shutdownNow (s : Crew ν) : List (Job ν) × Crew ν :=
  let (jobs, pool) := s.pool.shutdownNow
  (jobs, settle { s with pool })

def openGate (gate : String) (s : Crew ν) : Crew ν :=
  settle { s with world := s.world.openGate gate }

/-- The closures that wait at their gates. -/
def blocked (s : Crew ν) : List (Closure ν) :=
  s.pool.workers.filterMap fun w =>
    match w.phase with
    | .running job => job.closure.filter fun c => !passes c s.world
    | _ => none

/-- The closure that was submitted first. -/
def earliest? (cs : List (Closure ν)) : Option (Closure ν) :=
  (cs.mergeSort fun a b => decide (a.ticket ≤ b.ticket)).head?

/-- Opens gates, always that of the closure submitted first, until none waits. -/
def releaseAll : Nat → Crew ν → Crew ν
  | 0, s => s
  | fuel + 1, s =>
    match earliest? s.blocked with
    | none => s
    | some c => releaseAll fuel (s.openGate c.work.name)

/-- As many gates as there are jobs in the pool. -/
def release (s : Crew ν) : Crew ν := releaseAll (s.pool.ready.length + s.pool.workers.length) s

end Crew

end TwoTier
