import TwoTier.Buffer

/-!
What one thread does next.

A thread's business is a stack of frames, the next one on top. `Scene.step` carries out the top
frame in one atomic step and says which frames take its place; it has no answer while the thread
must wait, for the executor's lock or at a gate. A pass is cut at every call to the pool, so the
pool may change between any two of them. Closures are started and thrown away by frames of their
own, never inside a step of a pass.

The module fixes single steps only. `Buffer.Run` takes one thread to its end, and
`Buffer.Interleaving` lets any number of threads take turns.
-/

namespace TwoTier

/-- An executor, the world that its closures act on, and the jobs in the hands of callers. -/
structure Scene (σ ν : Type) where
  exec : Buffer σ ν
  /-- Whether somebody still has the executor. -/
  alive : Bool
  world : World ν
  /-- Jobs that a stop handed back and nobody has taken up yet. -/
  returned : List (Task ν)

/-- One piece of a thread's business. -/
inductive Frame (ν : Type) where
  /-- Submit work, with a handle on the given inbox. -/
  | submit (work : Work ν) (reply : Option Nat)
  /-- A closure arrives at the executor, which first looks whether it is shut down. -/
  | arrive (c : Closure ν)
  /-- Look for slow tasks, take a trace, make a task. -/
  | survey (c : Closure ν)
  /-- Enter the critical section with a new task. -/
  | push (t : Task ν)
  /-- Enter the critical section after a completion. -/
  | enter
  /-- Enter the critical section after the pool was shut down. -/
  | enterShutdown
  /-- Begin a pass. -/
  | pass
  /-- Offer the rest of the backlog to the shut pool. -/
  | drain (refused : List (Task ν))
  /-- Offer the head from the main thread. -/
  | bypass
  | readActive
  | readQueued (active : Nat)
  | retune (active queued : Nat)
  | setCore (active queued target : Nat)
  | decide (active queued target : Nat)
  /-- Mark a task as being handed over. -/
  | handOver (t : Task ν) (draining : Bool) (refused : List (Task ν))
  /-- Offer the marked task to the pool. -/
  | offer (t : Task ν) (draining : Bool) (refused : List (Task ν))
  /-- Leave the critical section, then throw away what the pool refused. -/
  | leave (refused : List (Task ν))
  /-- Finish a job: do the acts in order, then throw it away. -/
  | job (t : Task ν) (acts : List JobAct)
  /-- A job has completed. -/
  | completed (id : TaskId)
  | start (c : Closure ν)
  /-- A started closure before its gate. -/
  | atGate (c : Closure ν)
  | finish (c : Closure ν)
  /-- Throw a closure away without running it. -/
  | discard (c : Closure ν)
  | hangUp (reply : Option Nat)
  | shutdown
  | shutdownNow
  /-- Stop the pool, with the backlog already taken. -/
  | stopPool (backlog : List (Task ν))

/-- The frames that submit a list of work, without handles. -/
def Frame.submitAll {ν : Type} (works : List (Work ν)) : List (Frame ν) :=
  works.map fun w => .submit w none

namespace Scene

variable {σ ν : Type}

def record (e : Event) (s : Scene σ ν) : Scene σ ν := { s with world := s.world.record e }

/-- Scans the register of tasks in flight and reports to the sink. -/
def scan (s : Scene σ ν) : Nat × Scene σ ν :=
  match s.exec.flight with
  | none => (0, s)
  | some flight =>
    let (now, world) := s.world.readClock
    let (reports, flight) := flight.scan now
    let world := reports.foldl (fun w r => w.record (.stale r)) world
    (reports.length, { s with exec := { s.exec with flight := some flight }, world })

/-- Makes the task of a closure: it has the next id, and a trace with diagnostics on. -/
def makeTask (c : Closure ν) (s : Scene σ ν) : Task ν × Scene σ ν :=
  let (id, world) := s.world.takeTaskId
  (⟨id, some c, s.exec.flight.map fun _ => ⟨c.ticket⟩⟩, { s with world })

/-- Enters a task into the register of tasks in flight, which takes over its trace. -/
def enterFlight (t : Task ν) (s : Scene σ ν) : Task ν × Scene σ ν :=
  match s.exec.flight with
  | none => (t, s)
  | some flight =>
    let (now, world) := s.world.readClock
    ({ t with capture := none },
     { s with exec := { s.exec with flight := some (flight.admitted t.id t.capture now) }, world })

/-- Takes the head of the backlog for the pool, or leaves the pass as it stands. -/
def takeHead (draining : Bool) (refused : List (Task ν)) (s : Scene σ ν) :
    List (Frame ν) × Scene σ ν :=
  match s.exec.backlog with
  | [] => ([.leave refused], s)
  | t :: rest =>
    ([.handOver t draining refused], { s with exec := { s.exec with backlog := rest } })

/-- How a pass goes on after an offer. -/
def afterOffer (draining : Bool) (refused : List (Task ν)) : Frame ν :=
  if draining then .drain refused else .leave refused

variable [WorkerPool σ (Task ν)]

/-- Offers the marked task and clears the mark. A refused task leaves the register again. -/
def offer (t : Task ν) (draining : Bool) (refused : List (Task ν)) (s : Scene σ ν) :
    List (Frame ν) × Scene σ ν :=
  match WorkerPool.offer t s.exec.pool with
  | (none, pool) =>
    ([afterOffer draining refused],
     { s with
       exec := { s.exec with pool, admitted := s.exec.admitted + 1, handoff := none }
       world := s.world.record (.admitted t.id s.exec.backlog.length) })
  | (some why, pool) =>
    ([afterOffer draining (refused ++ [t])],
     { s with
       exec := { s.exec.forget t.id with
                 pool, rejected := s.exec.rejected + 1, handoff := none }
       world := s.world.record (.refused t.id why) })

/-- Notes the band of the backlog and compares the pool's core size with it. -/
def retune (active queued : Nat) (s : Scene σ ν) : List (Frame ν) × Scene σ ν :=
  let backlog := s.exec.backlog.length
  let band := CoreBand.ofBacklog backlog s.exec.config
  let target := band.coreSize s.exec.config
  let next : Frame ν :=
    if WorkerPool.coreSize s.exec.pool = target then .decide active queued target
    else .setCore active queued target
  if band = s.exec.band then ([next], s)
  else
    ([next], { s with exec := { s.exec with band }
                      world := s.world.record (.bandChanged band backlog target) })

/-- The step of a frame that must have the executor's lock; it waits while another has it. -/
def locking (me : ThreadId) (s : Scene σ ν)
    (go : Scene σ ν → List (Frame ν) × Scene σ ν) : Option (List (Frame ν) × Scene σ ν) :=
  match s.exec.holder with
  | some _ => none
  | none => some (go { s with exec := s.exec.lock me })

/-- One step of thread `me`: the frames that take the place of `frame`, and the scene after it. -/
def step (me : ThreadId) (frame : Frame ν) (s : Scene σ ν) :
    Option (List (Frame ν) × Scene σ ν) :=
  match frame with
  | .submit work reply =>
    if s.alive then
      let (c, world) := s.world.makeClosure work reply
      some ([.arrive c], { s with world })
    else some ([], s.record (.lost work.name))
  | .arrive c =>
    if WorkerPool.isShutdown s.exec.pool then
      some ([.discard c],
        { s with exec := { s.exec with dropped := s.exec.dropped + 1 }
                 world := s.world.record (.turnedAway c.ticket) })
    else some ([.survey c], s)
  | .survey c =>
    let (t, s) := s.scan.2.makeTask c
    some ([.push t], s)
  | .push t => s.locking me fun s =>
      ([.pass], { s with exec := s.exec.push t
                         world := s.world.record (.pushed t.id (s.exec.backlog.length + 1)) })
  | .enter => s.locking me fun s => ([.pass], s)
  | .enterShutdown => s.locking me fun s =>
      ([.pass], s.record (.shuttingDown s.exec.backlog.length))
  | .pass =>
    if WorkerPool.isShutdown s.exec.pool then some ([.drain []], s)
    else if s.exec.onMainThread me then some ([.bypass], s)
    else some ([.readActive], s)
  | .drain refused => some (s.takeHead true refused)
  | .bypass => some (s.takeHead false [])
  | .readActive => some ([.readQueued (WorkerPool.activeCount s.exec.pool)], s)
  | .readQueued active => some ([.retune active (WorkerPool.queueLength s.exec.pool)], s)
  | .retune active queued => some (s.retune active queued)
  | .setCore active queued target =>
    some ([.decide active queued target],
      { s with exec := { s.exec with pool := WorkerPool.setCoreSize target s.exec.pool }
               world := s.world.record (.coreSizeSet target) })
  | .decide active queued target =>
    if s.exec.mayAdmit active queued target then some (s.takeHead false [])
    else some ([.leave []], s)
  | .handOver t draining refused =>
    let (t', s) := s.enterFlight t
    some ([.offer t' draining refused], { s with exec := { s.exec with handoff := some t.id } })
  | .offer t draining refused => some (s.offer t draining refused)
  | .leave refused =>
    some (refused.map fun t => .job t [], { s with exec := s.exec.unlock })
  | .job t acts =>
    match acts, t.closure with
    | [], none => some ([], s)
    | [], some c => some ([.discard c], s)
    | .run :: acts, none => some ([.job t acts], s)
    | .run :: acts, some c => some ([.start c, .job { t with closure := none } acts], s)
    | .complete :: _, _ => some ([.completed t.id, .job t []], s)
  | .completed id =>
    if s.alive then
      some ([.enter], { s with exec := s.exec.forget id
                               world := s.world.record (.completed id) })
    else some ([], s)
  | .start c => some ([.atGate c], s.record (.started c.ticket c.work.name me))
  | .atGate c =>
    if !c.work.gated || s.world.isOpen c.work.name then
      some (Frame.submitAll c.work.thenSubmit ++ [.finish c], s)
    else none
  | .finish c => some ([], { s with world := s.world.finish c me })
  | .discard c =>
    some (Frame.submitAll c.work.onDrop ++ [.hangUp c.reply],
      s.record (.discarded c.ticket c.work.name))
  | .hangUp reply =>
    some ([], { s with world := { s.world with replies := s.world.replies.hangUp reply } })
  | .shutdown =>
    some ([.enterShutdown],
      { s with exec := { s.exec with pool := WorkerPool.shutdown s.exec.pool } })
  | .shutdownNow =>
    match s.exec.holder with
    | some _ => none
    | none =>
      some ([.stopPool s.exec.backlog],
        { s with exec := { s.exec with backlog := [] }
                 world := s.world.record (.withdrawn (s.exec.backlog.map Task.id)) })
  | .stopPool backlog =>
    let (jobs, pool) := WorkerPool.shutdownNow s.exec.pool
    some ([], { s with exec := { s.exec with pool }
                       returned := s.returned ++ (jobs ++ backlog)
                       world := s.world.record
                         (.stopped (jobs.map Task.id) (backlog.map Task.id)) })

end Scene

end TwoTier
