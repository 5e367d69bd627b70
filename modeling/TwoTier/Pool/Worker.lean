import TwoTier.Pool.Threads

/-!
What worker threads do between jobs.

A worker runs the job it was started with, or one from the ready queue, stops counting as active,
completes the job and looks for the next. It leaves when the pool was stopped, when the closed
queue is empty, or when its keep-alive ran out, unless it is a core worker that must stay or the
last one before a queue with jobs.

Each act is one atomic step, and `act?` has no answer where the step cannot be taken. Running and
completing the job itself is not described here: those acts say only that it is over.
-/

namespace TwoTier

inductive WorkerAct where
  /-- Begin the job that the worker was started with. -/
  | begin
  /-- Look, under the lock, whether the pool was stopped: leave, or wait at the queue. -/
  | check
  /-- Take the oldest job out of the ready queue. -/
  | receive
  /-- Count as active and begin the job that was taken. -/
  | count
  /-- The job has run: the worker no longer counts as active, and the job counts as completed. -/
  | endRun
  /-- The job has been completed. -/
  | endCompletion
  /-- The keep-alive runs out before an empty queue. -/
  | timeOut
  /-- Decide, under the lock, whether to leave after the keep-alive. -/
  | decide
  /-- Find the ready queue closed and empty. -/
  | notice
  /-- Leave, under the lock, after the queue was closed. -/
  | leave
deriving DecidableEq, Repr

namespace ThreadPool

variable {J : Type}

def phase? (number : Nat) (p : ThreadPool J) : Option (Phase J) :=
  (p.workers.find? (·.number = number)).map Worker.phase

/-- A worker leaves. -/
def retire (number : Nat) (p : ThreadPool J) : ThreadPool J :=
  tryTerminate { p with workers := p.workers.filter (·.number ≠ number) }

/-- A worker begins to wait, behind those that wait already. -/
def beginWaiting (number : Nat) (p : ThreadPool J) : ThreadPool J :=
  { p with workers := p.workers.filter (·.number ≠ number) ++ [⟨number, .waiting⟩] }

/-- Whether a worker whose keep-alive ran out may leave: core workers only if core workers may,
and the last worker only from an empty queue. -/
def mayTimeOut (p : ThreadPool J) : Bool :=
  (p.allowCoreTimeout || decide (p.coreSize < p.workerCount)) &&
    (decide (1 < p.workerCount) || p.ready.isEmpty)

/-- One act of a worker, if it can be done now. -/
def act? (number : Nat) (act : WorkerAct) (p : ThreadPool J) : Option (ThreadPool J) :=
  match act, p.phase? number with
  | .begin, some (.assigned job) => some (p.setPhase number (.running job))
  | .check, some .checking =>
    if p.stopping.isSome then none
    else if RunState.stopped.rank ≤ p.runState.rank then some (p.retire number)
    else some (p.beginWaiting number)
  | .receive, some .waiting =>
    match p.ready with
    | [] => none
    | job :: rest => some (setPhase number (.received job) { p with ready := rest })
  | .count, some (.received job) =>
    some (setPhase number (.running job) { p with active := p.active + 1 })
  | .endRun, some (.running job) =>
    some (setPhase number (.completing job)
      { p with active := p.active - 1, completed := p.completed + 1 })
  | .endCompletion, some (.completing _) => some (p.setPhase number .checking)
  | .timeOut, some .waiting =>
    if p.ready.isEmpty && p.senderOpen then some (p.setPhase number .timedOut) else none
  | .decide, some .timedOut =>
    if p.stopping.isSome then none
    else if p.mayTimeOut then some (p.retire number)
    else some (p.setPhase number .checking)
  | .notice, some .waiting =>
    if p.ready.isEmpty && !p.senderOpen then some (p.setPhase number .disconnected) else none
  | .leave, some .disconnected => if p.stopping.isSome then none else some (p.retire number)
  | _, _ => none

/-- The job that a worker begins to run with an act. -/
def begins? (number : Nat) (act : WorkerAct) (p : ThreadPool J) : Option J :=
  match act, p.phase? number with
  | .begin, some (.assigned job) => some job
  | .count, some (.received job) => some job
  | _, _ => none

/-- Keep-alives that settling waits for. -/
def shortKeepAlive (p : ThreadPool J) : Bool := decide (p.keepAlive.total < nanosPerSecond)

/-- The act with which a worker goes on by itself, once everything has settled down: an idle
worker leaves if its keep-alive is short and it may. A worker that runs or completes a job is not
asked. -/
def idleAct? (w : Worker J) (p : ThreadPool J) : Option WorkerAct :=
  match w.phase with
  | .assigned _ => some .begin
  | .checking => some .check
  | .received _ => some .count
  | .timedOut => some .decide
  | .disconnected => some .leave
  | .waiting =>
    if !p.ready.isEmpty then some .receive
    else if !p.senderOpen then some .notice
    else if p.shortKeepAlive && p.mayTimeOut then some .timeOut
    else none
  | .running _ => none
  | .completing _ => none

end ThreadPool

end TwoTier
