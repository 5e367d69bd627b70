import TwoTier.Flight
import TwoTier.Task
import TwoTier.Tuning

/-!
What happens in a run, in order.

One journal holds what closures do and what the executor decides. The log, the reports of slow
tasks and the changes of the core size are read off it.
-/

namespace TwoTier

/-- Threads that call the executor, and worker threads by their number in the pool. -/
inductive ThreadId where
  | caller (n : Nat)
  | worker (n : Nat)
deriving DecidableEq, Repr, Inhabited

namespace ThreadId

/-- The thread that may be designated as the main one. -/
def main : ThreadId := .caller 0

/-- Some other thread. -/
def other : ThreadId := .caller 1

end ThreadId

inductive Event where
  /-- A closure begins to run. -/
  | started (ticket : Nat) (name : String) (on : ThreadId)
  /-- A closure without a handle ends in a panic, which reaches whoever ran the job. -/
  | panicked (name : String) (payload : Payload) (on : ThreadId)
  /-- Completing a job panics. -/
  | completionPanicked (payload : Payload) (on : ThreadId)
  /-- A closure is thrown away without having run. -/
  | discarded (ticket : Nat) (name : String)
  /-- Work is submitted to an executor that is gone; no closure is made. -/
  | lost (name : String)
  /-- A submission finds the executor shut down. -/
  | turnedAway (ticket : Nat)
  /-- A task joins a backlog, which then has this length. -/
  | pushed (id : TaskId) (backlog : Nat)
  /-- The pool takes a task, with this backlog left. -/
  | admitted (id : TaskId) (backlog : Nat)
  /-- The pool refuses a task. -/
  | refused (id : TaskId) (why : Error)
  /-- Whoever finishes a job completes it. -/
  | completed (id : TaskId)
  | bandChanged (band : CoreBand) (backlog target : Nat)
  /-- The executor sets the pool's core size. -/
  | coreSizeSet (n : Nat)
  | stale (report : StaleTask (Option Capture))
  | shuttingDown (backlog : Nat)
  /-- A stop takes the whole backlog. -/
  | withdrawn (ids : List TaskId)
  /-- The pool is stopped; the jobs that it still held and the tasks that were taken from the
  backlog are handed back. -/
  | stopped (held waiting : List TaskId)
  | created (config : Config)

namespace Event

/-- The log line of an event that has one whatever the executor's sink. -/
def logLine? : Event → Option LogLine
  | .turnedAway _ => some ⟨.warn, "Executor is shut down; dropping task", []⟩
  | .admitted id backlog =>
    some ⟨.debug, "Task admitted to pool", [("task", id.text), ("backlog", toString backlog)]⟩
  | .refused id why =>
    some ⟨.warn, "Pool rejected task; dropping it", [("task", id.text), ("error", why.message)]⟩
  | .bandChanged band backlog target =>
    some ⟨.debug, "Core band changed",
      [("band", band.name), ("backlog", toString backlog), ("core_size", toString target)]⟩
  | .shuttingDown backlog =>
    some ⟨.info, "Executor shutting down", [("backlog", toString backlog)]⟩
  | .stopped held waiting =>
    some ⟨.info, "Executor stopped",
      [("pool_queued", toString held.length), ("backlog", toString waiting.length)]⟩
  | .created config =>
    some ⟨.info, "Buffer executor created",
      [("core_size", toString config.coreSize),
       ("bigger_core_size", toString config.biggerCoreSize),
       ("max_core_size", toString config.maxCoreSize),
       ("max_primary_queue_size", toString config.maxQueueSize),
       ("debug", if config.debug then "true" else "false")]⟩
  | _ => none

/-- The name that a closure leaves behind: that it ran, was thrown away, or was lost. -/
def mark? : Event → Option String
  | .started _ name _ => some ("run:" ++ name)
  | .discarded _ name => some ("drop:" ++ name)
  | .lost name => some ("lost:" ++ name)
  | _ => none

end Event

end TwoTier
