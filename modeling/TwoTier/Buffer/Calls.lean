import TwoTier.Buffer.Run
import TwoTier.Executor

/-!
The calls of a buffering executor, each followed to its end on one thread.

A closure that waits at a shut gate, or a thread that waits for the lock, ends a call early; with
ungated work and no other thread at work neither happens.
-/

namespace TwoTier.Scene

variable {σ ν : Type} [WorkerPool σ (Task ν)]

/-- A new executor over a pool. -/
def build (config : Config) (mainThread : Option ThreadId) (pool : σ) :
    Except Error (Scene σ ν) := do
  let exec ← Buffer.build config mainThread pool
  return { exec, alive := true, world := World.fresh.record (.created config), returned := [] }

/-- Carries out frames on a thread. -/
def perform (me : ThreadId) (stack : List (Frame ν)) (s : Scene σ ν) : Scene σ ν :=
  (s.call me stack).2

instance : Executor (Scene σ ν) ν where
  execute me work reply s := (.ok (), s.perform me [.submit work reply])
  replies s := s.world.replies
  setReplies r s := { s with world := { s.world with replies := r } }

/-- Finishes jobs in order, each in the same mode. -/
def finishAll (me : ThreadId) (mode : FinishMode) (jobs : List (Task ν)) (s : Scene σ ν) :
    Scene σ ν :=
  s.perform me (jobs.map fun t => .job t mode.acts)

def shutdown (me : ThreadId) (s : Scene σ ν) : Scene σ ν := s.perform me [.shutdown]

/-- Stops the executor and takes the jobs that it hands back. -/
def shutdownNow (me : ThreadId) (s : Scene σ ν) : List (Task ν) × Scene σ ν :=
  let s := s.perform me [.shutdownNow]
  (s.returned, { s with returned := [] })

/-- The last holder lets the executor go: its pool is released, and the tasks in its backlog are
thrown away in order. -/
def dropExecutor (me : ThreadId) (s : Scene σ ν) : Scene σ ν :=
  let waiting := s.exec.backlog
  let s := { s with alive := false
                    exec := { s.exec with pool := WorkerPool.release s.exec.pool
                                          backlog := []
                                          flight := none } }
  s.finishAll me .dropOnly waiting

/-- Waits for a clock to go on. -/
def sleep (d : Duration) (s : Scene σ ν) : Scene σ ν := { s with world := s.world.sleep d }

end TwoTier.Scene
