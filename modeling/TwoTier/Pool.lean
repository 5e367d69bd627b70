import TwoTier.Error
import TwoTier.Time

/-!
What an executor needs from a pool of workers.

A pool is any state with the readings and calls of `WorkerPool`. Nothing ties the readings to the
jobs, and a pool may refuse any job for any reason: `offer` says whether it takes the job, and a
job that is refused stays with the caller.
-/

namespace TwoTier

/-- A snapshot of a pool's counters. -/
structure PoolStats where
  workers : Nat
  active : Nat
  queued : Nat
  coreSize : Nat
  largestWorkers : Nat
  completed : Nat
deriving DecidableEq, Repr

/-- A pool of workers for jobs of type `J`, with states of type `σ`. -/
class WorkerPool (σ : Type) (J : outParam Type) where
  /-- Offers a job: `none` if the pool takes it, and else why not. -/
  offer : J → σ → Option Error × σ
  /-- Workers that run a job. -/
  activeCount : σ → Nat
  /-- Jobs in the ready queue. -/
  queueLength : σ → Nat
  queueCapacity : σ → Nat
  workerCount : σ → Nat
  coreSize : σ → Nat
  setCoreSize : Nat → σ → σ
  keepAlive : σ → Duration
  /-- Stops taking jobs; queued jobs still run. -/
  shutdown : σ → σ
  /-- Stops taking jobs and hands back those still queued. -/
  shutdownNow : σ → List J × σ
  isShutdown : σ → Bool
  /-- Shut down, and no worker left. -/
  isTerminated : σ → Bool
  /-- Waits, from a moment of the clock and at most for a duration, until the pool has terminated,
  and says whether it has; the answer is that of a pool in which nothing moves any more. `none` if
  the call panics. -/
  awaitTermination : Instant → Duration → σ → Option Bool := fun _ _ s => some (isTerminated s)
  stats : σ → PoolStats := fun s =>
    ⟨workerCount s, activeCount s, queueLength s, coreSize s, workerCount s, 0⟩
  /-- What becomes of the pool when its executor is gone. -/
  release : σ → σ := id

end TwoTier
