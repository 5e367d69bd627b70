import TwoTier.Config
import TwoTier.Log
import TwoTier.Pool

/-!
A pool of worker threads before a bounded ready queue.

A job goes to a new worker while there are fewer workers than the core size, else into the ready
queue, else to a new worker beyond the core size while the pool's maximum allows one, and else it
is refused. A thread may fail to start: `startFault` says which attempt fails and why.

This module holds the pool's state and the calls that threads outside the pool make. Each runs
under the pool's lock. Only a stop is cut into steps, because workers may take jobs out of the
ready queue while it is being emptied. What the workers do is in `Pool.Worker`.
-/

namespace TwoTier

/-- The life of a pool, which never goes back. -/
inductive RunState where
  /-- Takes jobs. -/
  | running
  /-- Takes no jobs; the ready queue is still worked off. -/
  | shutdown
  /-- Takes no jobs; the ready queue was emptied. -/
  | stopped
  /-- Shut down, with no worker left. -/
  | terminated
deriving DecidableEq, Repr

def RunState.rank : RunState → Nat
  | .running => 0
  | .shutdown => 1
  | .stopped => 2
  | .terminated => 3

/-- Where a worker thread stands. -/
inductive Phase (J : Type) where
  /-- Started with a job of its own, which counts as active already. -/
  | assigned (job : J)
  /-- About to look whether the pool was stopped. -/
  | checking
  /-- Waits at the ready queue. -/
  | waiting
  /-- Has taken a job and does not count as active yet. -/
  | received (job : J)
  | running (job : J)
  /-- The job has run; it is being completed, and no longer counts as active. -/
  | completing (job : J)
  /-- Has waited for the keep-alive in vain. -/
  | timedOut
  /-- Found the ready queue closed and empty. -/
  | disconnected

/-- A worker thread, with its number in the order of the attempts to start one. -/
structure Worker (J : Type) where
  number : Nat
  phase : Phase J

/-- What a pool writes to the log. -/
inductive PoolEvent where
  | workerStarted (number workers : Nat)
  | noWorkerAvailable (why : StartFault)
  | growthFailed (why : StartFault)
  | coreSizeChanged (old new : Nat)
  | shuttingDown (workers : Nat)
  | stopping (workers : Nat)
  | terminated
deriving DecidableEq, Repr

structure ThreadPool (J : Type) where
  name : String
  keepAlive : Duration
  /-- The bound of the ready queue; a queue of size zero hands jobs over to waiting workers. -/
  capacity : Nat
  /-- The bound on workers beyond the core size. -/
  maxSize : Nat
  /-- Whether workers within the core size may leave after the keep-alive. -/
  allowCoreTimeout : Bool
  runState : RunState
  /-- Whether the ready queue can still be given jobs. -/
  senderOpen : Bool
  /-- The ready queue, oldest job first. -/
  ready : List J
  /-- The live workers; of those that wait, the one that has waited longest comes first. -/
  workers : List (Worker J)
  coreSize : Nat
  largestWorkers : Nat
  active : Nat
  completed : Nat
  /-- The attempts to start a thread so far. -/
  attempts : Nat
  startFault : Nat → Option StartFault
  /-- The jobs that a stop under way has taken out of the ready queue; it holds the lock. -/
  stopping : Option (List J)
  /-- Newest first. -/
  journal : List PoolEvent

namespace PoolEvent

/-- The name of a worker thread. -/
def threadName (pool : String) (number : Nat) : String := pool ++ " #" ++ toString number

def logLine (pool : String) : PoolEvent → LogLine
  | .workerStarted number workers =>
    ⟨.debug, "Started pool worker",
      [("thread", threadName pool number), ("workers", toString workers)]⟩
  | .noWorkerAvailable why =>
    ⟨.warn, "No worker available for queued job", [("pool", pool), ("error", why.message)]⟩
  | .growthFailed why => ⟨.warn, "Failed to grow pool", [("pool", pool), ("error", why.message)]⟩
  | .coreSizeChanged old new =>
    ⟨.debug, "Core size changed",
      [("pool", pool), ("from", toString old), ("to", toString new)]⟩
  | .shuttingDown workers =>
    ⟨.info, "Pool shutting down", [("pool", pool), ("workers", toString workers)]⟩
  | .stopping workers =>
    ⟨.info, "Pool stopping", [("pool", pool), ("workers", toString workers)]⟩
  | .terminated => ⟨.info, "Pool terminated", [("pool", pool)]⟩

end PoolEvent

namespace ThreadPool

variable {J : Type}

/-- A running pool without workers. At least one worker is always allowed. -/
def new (coreSize maxSize : Nat) (keepAlive : Duration) (capacity : Nat) (name : String) :
    ThreadPool J :=
  { name, keepAlive, capacity, maxSize := max maxSize 1, allowCoreTimeout := true,
    runState := .running, senderOpen := true, ready := [], workers := [], coreSize,
    largestWorkers := 0, active := 0, completed := 0, attempts := 0,
    startFault := fun _ => none, stopping := none, journal := [] }

/-- The longest ready queue that can be made. Its places are made with it, each of 24 bytes, and
together they must stay below 2⁶³ bytes. -/
def maxCapacity : Nat := 384307168202282325

/-- The pool for a buffering executor: no bound on the workers, and a ready queue of the
configured size. -/
def ofConfig (config : Config) : ThreadPool J :=
  new config.coreSize wordMax config.keepAlive config.maxQueueSize config.threadName

/-- The same pool, made: `none` if that panics because the ready queue is too long. -/
def make? (config : Config) : Option (ThreadPool J) :=
  if config.maxQueueSize ≤ maxCapacity then some (ofConfig config) else none

def record (e : PoolEvent) (p : ThreadPool J) : ThreadPool J :=
  { p with journal := e :: p.journal }

def workerCount (p : ThreadPool J) : Nat := p.workers.length

/-! ### Starting workers -/

/-- Tries to start a thread that begins in `phase`. An attempt uses up a number and counts for the
largest number of workers even if it fails. -/
def startWorker (phase : Phase J) (p : ThreadPool J) : Option StartFault × ThreadPool J :=
  let number := p.attempts + 1
  let workers := p.workerCount + 1
  let p := { p with attempts := number, largestWorkers := max p.largestWorkers workers }
  match p.startFault number with
  | some why => (some why, p)
  | none =>
    (none, record (.workerStarted number workers)
      { p with workers := p.workers ++ [⟨number, phase⟩] })

/-- Starts a worker for a job, which then counts as active at once. -/
def startWith (job : J) (p : ThreadPool J) : Except (RejectedJob J) Unit × ThreadPool J :=
  match p.startWorker (.assigned job) with
  | (some why, p) => (.error ⟨.threadSpawn why, job⟩, p)
  | (none, p) => (.ok (), { p with active := p.active + 1 })

/-! ### The ready queue -/

/-- Changes the phase of a worker. -/
def setPhase (number : Nat) (phase : Phase J) (p : ThreadPool J) : ThreadPool J :=
  { p with workers := p.workers.map fun w => if w.number = number then ⟨number, phase⟩ else w }

def Phase.isWaiting : Phase J → Bool
  | .waiting => true
  | _ => false

/-- The worker that has waited longest. -/
def firstWaiting? (p : ThreadPool J) : Option (Worker J) :=
  p.workers.find? fun w => Phase.isWaiting w.phase

/-- Puts a job into the ready queue if there is room. A queue of size zero has room only in the
hands of a waiting worker. -/
def enqueue? (job : J) (p : ThreadPool J) : Option (ThreadPool J) :=
  if p.capacity = 0 then
    p.firstWaiting?.map fun w => p.setPhase w.number (.received job)
  else if p.ready.length < p.capacity then some { p with ready := p.ready ++ [job] }
  else none

/-! ### Calls from outside -/

def refuse (job : J) (p : ThreadPool J) : Except (RejectedJob J) Unit × ThreadPool J :=
  (.error ⟨.rejected (.poolShutDown p.name), job⟩, p)

/-- Sees to it that a queued job has a worker. -/
def ensureWorker (p : ThreadPool J) : ThreadPool J :=
  if p.workerCount = 0 then
    match p.startWorker .checking with
    | (some why, p) => p.record (.noWorkerAvailable why)
    | (none, p) => p
  else p

/-- Hands a job to the pool, or gives it back with the reason. -/
def execute (job : J) (p : ThreadPool J) : Except (RejectedJob J) Unit × ThreadPool J :=
  if p.runState ≠ .running then p.refuse job
  else if p.workerCount < p.coreSize then p.startWith job
  else if !p.senderOpen then p.refuse job
  else match p.enqueue? job with
    | some p => (.ok (), p.ensureWorker)
    | none =>
      if p.workerCount < p.maxSize then p.startWith job
      else (.error ⟨.rejected (.poolSaturated p.name p.workerCount p.capacity), job⟩, p)

/-- Starts workers for queued jobs, at most `pending` and none beyond the core size; the first
failure ends it. -/
def grow : Nat → ThreadPool J → ThreadPool J
  | 0, p => p
  | pending + 1, p =>
    if p.workerCount < p.coreSize then
      match p.startWorker .checking with
      | (some why, p) => p.record (.growthFailed why)
      | (none, p) => grow pending p
    else p

/-- Sets the core size. If it goes up, queued jobs get workers at once; if it goes down, surplus
workers are left to the keep-alive. -/
def setCoreSize (size : Nat) (p : ThreadPool J) : ThreadPool J :=
  let previous := p.coreSize
  if previous = size then p
  else
    let p := record (.coreSizeChanged previous size) { p with coreSize := size }
    if previous < size ∧ p.runState = .running then
      grow (min (size - previous) p.ready.length) p
    else p

/-- A pool that is shut down terminates when no worker and no queued job is left. -/
def tryTerminate (p : ThreadPool J) : ThreadPool J :=
  if (p.runState = .shutdown ∨ p.runState = .stopped) ∧ p.workers.isEmpty ∧ p.ready.isEmpty then
    record .terminated { p with runState := .terminated }
  else p

def shutdown (p : ThreadPool J) : ThreadPool J :=
  let p := if p.runState = .running then
      record (.shuttingDown p.workerCount) { p with runState := .shutdown }
    else p
  tryTerminate { p with senderOpen := false }

/-- A stop begins: it takes the lock and closes the ready queue. -/
def beginStop (p : ThreadPool J) : ThreadPool J :=
  let p := if p.runState.rank < RunState.stopped.rank then
      record (.stopping p.workerCount) { p with runState := .stopped }
    else p
  { p with senderOpen := false, stopping := some [] }

/-- A stop takes the oldest job out of the ready queue. -/
def drainOne (p : ThreadPool J) : ThreadPool J :=
  match p.stopping, p.ready with
  | some drained, job :: rest => { p with ready := rest, stopping := some (drained ++ [job]) }
  | _, _ => p

/-- A stop ends: it gives up the lock and hands back what it took. -/
def endStop (p : ThreadPool J) : List J × ThreadPool J :=
  (p.stopping.getD [], tryTerminate { p with stopping := none })

/-- Takes `count` jobs out. -/
def drain : Nat → ThreadPool J → ThreadPool J
  | 0, p => p
  | count + 1, p => drain count p.drainOne

/-- A stop with nothing in between. -/
def shutdownNow (p : ThreadPool J) : List J × ThreadPool J :=
  let p := p.beginStop
  (drain p.ready.length p).endStop

def isShutdown (p : ThreadPool J) : Bool := p.runState ≠ .running

def isTerminated (p : ThreadPool J) : Bool := p.runState = .terminated

/-- Waiting needs a deadline, and computing it panics beyond the end of the clock. -/
def awaitTermination (now : Instant) (timeout : Duration) (p : ThreadPool J) : Option Bool :=
  (now.add? timeout).map fun _ => p.isTerminated

def stats (p : ThreadPool J) : PoolStats where
  workers := p.workerCount
  active := p.active
  queued := p.ready.length
  coreSize := p.coreSize
  largestWorkers := p.largestWorkers
  completed := p.completed

/-- The error of a refused call. -/
def refusal : Except (RejectedJob J) Unit → Option Error
  | .ok () => none
  | .error rejected => some rejected.error

instance : WorkerPool (ThreadPool J) J where
  offer job p := let (r, p) := p.execute job; (refusal r, p)
  activeCount p := p.active
  queueLength p := p.ready.length
  queueCapacity p := p.capacity
  workerCount := workerCount
  coreSize p := p.coreSize
  setCoreSize := setCoreSize
  keepAlive p := p.keepAlive
  shutdown := shutdown
  shutdownNow := shutdownNow
  isShutdown := isShutdown
  isTerminated := isTerminated
  awaitTermination := awaitTermination
  stats := stats
  release := shutdown

end ThreadPool

end TwoTier
