import TwoTier.Pool
import TwoTier.World

/-!
The buffering executor: an unbounded backlog before a bounded pool.

Every task joins the back of the backlog. An admission pass, made by a submission, a completion or
a shutdown under the executor's lock, first sets the pool's core size from the length of the
backlog and then offers the pool at most the head: on a shut pool the whole backlog, on the main
thread the head whatever the readings, and else the head only if the ready queue is within its
bound and fewer workers are active than the core size asked for.

This module holds the executor's state and the decisions of a pass. `Buffer.Step` says in which
steps a thread carries them out.
-/

namespace TwoTier

structure Buffer (σ ν : Type) where
  config : Config
  pool : σ
  /-- Tasks that wait for the pool, oldest first. -/
  backlog : List (Task ν)
  /-- The task that is being offered to the pool. -/
  handoff : Option TaskId
  /-- The band that the pool was last tuned to. -/
  band : CoreBand
  /-- The register of tasks in flight, with diagnostics on. -/
  flight : Option (FlightRecorder (Option Capture))
  mainThread : Option ThreadId
  admitted : Nat
  rejected : Nat
  dropped : Nat
  /-- The longest backlog right after a push. -/
  peakBacklog : Nat
  /-- The thread inside the critical section. -/
  holder : Option ThreadId

namespace Buffer

variable {σ ν : Type}

/-- The executor of a valid configuration over a given pool. With diagnostics on, a task counts as
slow after the pool's keep-alive. -/
def build [WorkerPool σ (Task ν)] (config : Config) (mainThread : Option ThreadId) (pool : σ) :
    Except Error (Buffer σ ν) := do
  config.validate
  return { config, pool, backlog := [], handoff := none, band := .steady,
           flight := if config.debug then some (.new (WorkerPool.keepAlive pool)) else none,
           mainThread, admitted := 0, rejected := 0, dropped := 0, peakBacklog := 0,
           holder := none }

def onMainThread (me : ThreadId) (b : Buffer σ ν) : Bool := b.mainThread = some me

/-- A task joins the backlog. -/
def push (t : Task ν) (b : Buffer σ ν) : Buffer σ ν :=
  { b with backlog := b.backlog ++ [t]
           peakBacklog := max b.peakBacklog (b.backlog.length + 1) }

def lock (me : ThreadId) (b : Buffer σ ν) : Buffer σ ν := { b with holder := some me }

def unlock (b : Buffer σ ν) : Buffer σ ν := { b with holder := none }

/-- The condition under which a gated pass offers the head. -/
def mayAdmit (active queued target : Nat) (b : Buffer σ ν) : Bool :=
  decide (queued ≤ b.config.maxQueueSize) && decide (active < target)

def forget (id : TaskId) (b : Buffer σ ν) : Buffer σ ν :=
  { b with flight := b.flight.map (FlightRecorder.completed id) }

end Buffer

/-- A snapshot of an executor's counters. -/
structure BufferStats where
  backlog : Nat
  admitted : Nat
  rejected : Nat
  dropped : Nat
  peakBacklog : Nat
  /-- Tasks in flight, with diagnostics on. -/
  inFlight : Option Nat
  pool : PoolStats
deriving DecidableEq, Repr

namespace Buffer

variable {σ ν : Type} [WorkerPool σ (Task ν)]

def stats (b : Buffer σ ν) : BufferStats where
  backlog := b.backlog.length
  admitted := b.admitted
  rejected := b.rejected
  dropped := b.dropped
  peakBacklog := b.peakBacklog
  inFlight := b.flight.map FlightRecorder.size
  pool := WorkerPool.stats b.pool

def debugText (b : Buffer σ ν) : String :=
  "BufferExecutor \x7b backlog: " ++ toString b.backlog.length
    ++ ", core_size: " ++ toString (WorkerPool.coreSize b.pool)
    ++ ", debug: " ++ (if b.flight.isSome then "true" else "false") ++ " \x7d"

end Buffer

end TwoTier
