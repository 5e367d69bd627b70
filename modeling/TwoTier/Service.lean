import TwoTier.Buffer.Calls
import TwoTier.Buffer.Interleaving
import TwoTier.Pool.Crew

/-!
A buffering executor over a pool of worker threads, with its workers at work.

A worker that is given a job works off the frames of running it, stops counting as active, works
off the frames of completing it, among them an admission pass, and looks for the next job. Calls
from outside are followed to their end, and `Service.settle` then lets the workers go on until
none can.
-/

namespace TwoTier

abbrev Service (ν : Type) := System (ThreadPool (Task ν)) ν

namespace Service

variable {ν : Type}

/-- The executor of a valid configuration over a pool. -/
def build (config : Config) (mainThread : Option ThreadId) (pool : ThreadPool (Task ν)) :
    Except Error (Service ν) := do
  return ⟨← Scene.build config mainThread pool, .empty⟩

/-- The executor of a valid configuration over a pool of its own: `none` if making the pool
panics. -/
def make? (config : Config) (mainThread : Option ThreadId) : Option (Except Error (Service ν)) :=
  match config.validate with
  | .error why => some (.error why)
  | .ok () => (ThreadPool.make? config).map (build config mainThread)

def pool (y : Service ν) : ThreadPool (Task ν) := y.scene.exec.pool

def world (y : Service ν) : World ν := y.scene.world

def withPool (pool : ThreadPool (Task ν)) (y : Service ν) : Service ν :=
  { y with scene := { y.scene with exec := { y.scene.exec with pool } } }

/-- A worker's act on the pool. Beginning a job puts its run on the worker's stack, and the end of
the run puts its completion there; neither act is possible with work left on the stack. -/
def act? (number : Nat) (act : WorkerAct) (y : Service ν) : Option (Service ν) :=
  let t := ThreadId.worker number
  if !(y.threads.get t).isEmpty then none
  else (y.pool.act? number act).map fun pool =>
    let y' := withPool pool y
    match act, y.pool.phase? number with
    | .begin, some (.assigned job) => y'.assign t [.job job [.run]]
    | .count, some (.received job) => y'.assign t [.job job [.run]]
    | .endRun, some (.running job) => y'.assign t [.job { job with closure := none } [.complete]]
    | _, _ => y'

/-- What a worker does next, if it can do something. -/
def workerStep? (w : Worker (Task ν)) (y : Service ν) : Option (Service ν) :=
  if (y.threads.get (.worker w.number)).isEmpty then
    match w.phase with
    | .running _ => act? w.number .endRun y
    | .completing _ => act? w.number .endCompletion y
    | _ => (y.pool.idleAct? w).bind fun act => act? w.number act y
  else y.turn? (.worker w.number)

/-- The first worker that can do something does it. -/
def step? (y : Service ν) : Option (Service ν) :=
  y.pool.workers.findSome? fun w => workerStep? w y

def settleFor : Nat → Service ν → Service ν
  | 0, y => y
  | fuel + 1, y =>
    match step? y with
    | none => y
    | some y => settleFor fuel y

/-- What a worker's own job weighs. -/
def phaseWeight : Phase (Task ν) → Nat
  | .assigned job => 60 + job.weight
  | .received job => 60 + job.weight
  | .running job => 60 + job.weight
  | _ => 30

/-- More steps than the workers can still take: every waiting or running job counts with all that
it may submit, and with the acts of the worker that gets it. -/
def fuel (y : Service ν) : Nat :=
  let queued := weigh (fun t => 60 + t.weight) y.pool.ready
  let held := weigh (fun w => phaseWeight w.phase) y.pool.workers
  let stacked := weigh (fun e => Frame.weights e.2) y.threads.entries
  let waiting := weigh (fun t => 60 + t.weight) y.scene.exec.backlog
  4 * (1 + queued + held + stacked + waiting)

def settle (y : Service ν) : Service ν := settleFor (fuel y) y

/-- A call from outside, and what the workers do after it. -/
def perform (me : ThreadId) (stack : List (Frame ν)) (y : Service ν) : Service ν :=
  settle { y with scene := y.scene.perform me stack }

instance : Executor (Service ν) ν where
  execute me work reply y := (.ok (), perform me [.submit work reply] y)
  replies y := y.scene.world.replies
  setReplies r y := { y with scene := { y.scene with world := { y.scene.world with replies := r } } }

/-- A call on the pool itself, and what the workers do after it. -/
def onPool (f : ThreadPool (Task ν) → ThreadPool (Task ν)) (y : Service ν) : Service ν :=
  settle (withPool (f y.pool) y)

def shutdown (me : ThreadId) (y : Service ν) : Service ν := perform me [.shutdown] y

/-- Stops the executor and takes the jobs that it hands back. -/
def shutdownNow (me : ThreadId) (y : Service ν) : List (Task ν) × Service ν :=
  let (jobs, scene) := y.scene.shutdownNow me
  (jobs, settle { y with scene })

def finishAll (me : ThreadId) (mode : FinishMode) (jobs : List (Task ν)) (y : Service ν) :
    Service ν :=
  settle { y with scene := y.scene.finishAll me mode jobs }

def openGate (gate : String) (y : Service ν) : Service ν :=
  settle { y with scene := { y.scene with world := y.scene.world.openGate gate } }

/-- The closure that a stack waits with at a gate. -/
def gated? (w : World ν) : List (Frame ν) → Option (Closure ν)
  | .atGate c :: _ => if Crew.passes c w then none else some c
  | _ => none

/-- The closures that wait at their gates. -/
def blocked (y : Service ν) : List (Closure ν) :=
  y.threads.entries.filterMap fun e => gated? y.scene.world e.2

/-- Opens gates, always that of the closure submitted first, until none waits. -/
def releaseAll : Nat → Service ν → Service ν
  | 0, y => y
  | fuel + 1, y =>
    match Crew.earliest? (blocked y) with
    | none => y
    | some c => releaseAll fuel (openGate c.work.name y)

def release (y : Service ν) : Service ν := releaseAll (fuel y) y

/-- The log lines of everything that has happened, newest first; the executor's own lines come
before the pool's. -/
def logLines (y : Service ν) : List LogLine :=
  y.scene.world.journal.filterMap (fun e => (e.logLine?).or (e.panicLine? y.pool.name))
    ++ y.pool.journal.map (PoolEvent.logLine y.pool.name)

end Service

end TwoTier
