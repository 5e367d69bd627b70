import TwoTier.Config.Environment
import TwoTier.Service

/-!
Bursts of sleeping tasks.

A burst submits a number of tasks at once to a new executor and lets them sleep, each as long as
every other, until all are done or a deadline has come. It takes place on a clock of its own on
which only sleeping takes time, so tasks wake in the order in which they began.
-/

namespace TwoTier

structure BurstOptions where
  tasks : Nat
  /-- How long each task sleeps. -/
  taskMs : Nat
  coreSize : Option Nat
  maxQueueSize : Option Nat
  keepAliveSecs : Option Nat
  debug : Bool
  /-- The time between two samples. -/
  sampleMs : Nat
deriving DecidableEq, Repr

namespace BurstOptions

/-- Lays the options over a configuration. A core size raises the two larger sizes as far as their
order needs it. -/
def layOver (o : BurstOptions) (c : Config) : Config :=
  let c := match o.coreSize with
    | none => c
    | some core =>
      let bigger := max c.biggerCoreSize core
      { c with coreSize := core, biggerCoreSize := bigger
               maxCoreSize := max c.maxCoreSize bigger }
  { c with maxQueueSize := o.maxQueueSize.getD c.maxQueueSize
           keepAlive := (o.keepAliveSecs.map Duration.ofSeconds).getD c.keepAlive
           debug := o.debug || c.debug }

/-- The configuration of a burst: the environment's, under the options. -/
def config (parallelism : Nat) (env : Environment) (o : BurstOptions) : Except Error Config := do
  let c := o.layOver (← Config.ofEnvironment parallelism env)
  c.validate
  return c

def taskTime (o : BurstOptions) : Duration := .ofMillis o.taskMs

def sampleTime (o : BurstOptions) : Duration := .ofMillis (max o.sampleMs 1)

/-- Enough time to run every task after the other, and a minute. Tasks are counted up to the largest
word of 32 bits. -/
def budget (o : BurstOptions) : Duration :=
  (o.taskTime.saturatingScale (min o.tasks 4294967295)).saturatingAdd (.ofSeconds 60)

/-- The moment at which a burst gives up; `none` if the clock cannot hold it. -/
def deadline? (start : Instant) (o : BurstOptions) : Option Instant := start.add? o.budget

end BurstOptions

namespace Burst

/-- A task that sleeps. -/
structure Sleeper where
  task : Closure Unit
  wakes : Instant

/-- A burst on its way. -/
structure Course where
  service : Service Unit
  /-- The tasks that have begun and not ended, in the order of their waking. -/
  sleepers : List Sleeper
  now : Instant
  completed : Nat

def start (service : Service Unit) : Course := ⟨service, [], ⟨0⟩, 0⟩

/-- Notes the tasks that have begun by now. -/
def noteSleepers (taskTime : Duration) (c : Course) : Course :=
  let known := c.sleepers.map (·.task.ticket)
  let new := (Service.blocked c.service).filter fun t => !known.contains t.ticket
  let sorted := new.mergeSort fun a b => decide (a.ticket ≤ b.ticket)
  { c with sleepers := c.sleepers ++ sorted.map fun t => ⟨t, c.now.advance taskTime.total⟩ }

/-- Submits a task, which begins to sleep when it runs. -/
def submit (taskTime : Duration) (number : Nat) (c : Course) : Course :=
  let work : Work Unit := ⟨"task " ++ toString number, true, [], [], .value ()⟩
  noteSleepers taskTime { c with service := (Executor.execute .main work none c.service).2 }

/-- Shuts all gates again: a task that has passed its gate does not need it any more. -/
def shutGates (y : Service Unit) : Service Unit :=
  { y with scene := { y.scene with world := { y.scene.world with openGates := [] } } }

/-- The next task wakes, if that is before the deadline. -/
def wake? (taskTime : Duration) (deadline : Instant) (c : Course) : Option Course :=
  match c.sleepers with
  | [] => none
  | s :: rest =>
    if s.wakes.nanos < deadline.nanos then
      some (noteSleepers taskTime
        { service := shutGates (Service.openGate s.task.work.name c.service)
          sleepers := rest
          now := s.wakes
          completed := c.completed + 1 })
    else none

/-- Lets tasks wake while a condition holds, at most `count` of them. -/
def wakeWhile (p : Course → Bool) (taskTime : Duration) (deadline : Instant) :
    Nat → Course → Course
  | 0, c => c
  | count + 1, c =>
    if p c then
      match wake? taskTime deadline c with
      | none => c
      | some c => wakeWhile p taskTime deadline count c
    else c

/-- What a burst comes to. -/
structure Summary where
  tasks : Nat
  completed : Nat
  submissionTime : Duration
  elapsed : Duration
  coreAfterSubmit : Nat
  peakCore : Nat
  peakWorkers : Nat
  peakBacklog : Nat
  samples : Nat
  /-- Tasks still in flight, with diagnostics. -/
  inFlight : Option Nat
  terminated : Bool
  budget : Duration
deriving DecidableEq, Repr

/-- Runs a burst to its end, with the deadline that it has. The executor is shut down when its
backlog is empty. -/
def run (config : Config) (o : BurstOptions) (deadline : Instant) (service : Service Unit) :
    Summary :=
  let submitted := (List.range o.tasks).foldl (fun c i => submit o.taskTime i c) (start service)
  let after := submitted.service.pool.coreSize
  let drained := wakeWhile (fun c => !c.service.scene.exec.backlog.isEmpty) o.taskTime deadline
    o.tasks submitted
  let shut := { drained with service := Service.shutdown .main drained.service }
  let last := wakeWhile (fun _ => true) o.taskTime deadline o.tasks shut
  let stats := last.service.scene.exec.stats
  { tasks := o.tasks
    completed := last.completed
    submissionTime := .zero
    elapsed := ⟨last.now.nanos⟩
    coreAfterSubmit := after
    peakCore := max config.coreSize after
    peakWorkers := stats.pool.largestWorkers
    peakBacklog := stats.peakBacklog
    samples := 1 + last.now.nanos / o.sampleTime.total
    inFlight := stats.inFlight
    terminated := last.service.pool.isTerminated
    budget := o.budget }

/-- The report of a burst. -/
def Summary.lines (s : Summary) : List String :=
  ["", "Burst summary",
   "  Tasks completed:      " ++ toString s.completed ++ "/" ++ toString s.tasks,
   "  Submission time:      " ++ s.submissionTime.text,
   "  Elapsed:              " ++ s.elapsed.text,
   "  Core after submit:    " ++ toString s.coreAfterSubmit,
   "  Peak core size:       " ++ toString s.peakCore,
   "  Peak workers:         " ++ toString s.peakWorkers,
   "  Peak backlog:         " ++ toString s.peakBacklog,
   "  Samples:              " ++ toString s.samples]
  ++ match s.inFlight with
    | none => []
    | some n => ["  Still in flight:      " ++ toString n]

/-- What is wrong with a burst that is over. -/
def Summary.complaint? (s : Summary) : Option String :=
  if !s.terminated then some ("executor did not terminate within " ++ s.budget.text)
  else if s.completed ≠ s.tasks then
    some (toString s.completed ++ " of " ++ toString s.tasks ++ " tasks completed")
  else none

end Burst

end TwoTier
