import TwoTier.Error
import TwoTier.Time

/-!
The configuration of an executor.

Sizes are derived from the number of hardware threads, and every field can be set. Setting checks
nothing; `Config.validate` does, and its faults come in a fixed order.
-/

namespace TwoTier

structure Config where
  /-- Workers kept while the backlog is short. -/
  coreSize : Nat
  /-- Workers kept once the backlog is beyond ten ready queues. -/
  biggerCoreSize : Nat
  /-- Workers kept once the backlog is beyond a hundred ready queues. -/
  maxCoreSize : Nat
  /-- The bound of the pool's ready queue. -/
  maxQueueSize : Nat
  keepAlive : Duration
  threadName : String
  /-- Whether tasks in flight are tracked. -/
  debug : Bool
deriving DecidableEq, Repr, Inhabited

namespace Config

def defaultKeepAlive : Duration := .ofSeconds 30

def defaultQueueSize : Nat := 10

def defaultThreadName : String := "spillway-worker"

/-- Three to six core workers, one fewer than the hardware threads where that lies between; four
and eight times the hardware threads for the raised sizes. No hardware thread counts as one. -/
def forParallelism (parallelism : Nat) : Config :=
  let p := max parallelism 1
  { coreSize := max 3 (min (p - 1) 6)
    biggerCoreSize := p * 4
    maxCoreSize := p * 8
    maxQueueSize := defaultQueueSize
    keepAlive := defaultKeepAlive
    threadName := defaultThreadName
    debug := false }

/-- The first fault in the order: no core worker, sizes out of order, no room in the ready queue,
no thread name. -/
def validate (c : Config) : Except Error Unit :=
  if c.coreSize = 0 then .error (.invalidConfig .coreSizeZero)
  else if c.coreSize > c.biggerCoreSize ∨ c.biggerCoreSize > c.maxCoreSize then
    .error (.invalidConfig (.sizesUnordered c.coreSize c.biggerCoreSize c.maxCoreSize))
  else if c.maxQueueSize = 0 then .error (.invalidConfig .queueBoundZero)
  else if c.threadName.isEmpty then .error (.invalidConfig .threadNameEmpty)
  else .ok ()

/-- The form that diagnostics show: every field in order. -/
def debugText (c : Config) : String :=
  "ExecutorConfig \x7b core_size: " ++ toString c.coreSize
    ++ ", bigger_core_size: " ++ toString c.biggerCoreSize
    ++ ", max_core_size: " ++ toString c.maxCoreSize
    ++ ", max_primary_queue_size: " ++ toString c.maxQueueSize
    ++ ", keep_alive: " ++ c.keepAlive.text
    ++ ", thread_name: " ++ Text.quote c.threadName
    ++ ", debug: " ++ (if c.debug then "true" else "false") ++ " \x7d"

end Config

end TwoTier
