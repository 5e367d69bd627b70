import TwoTier.Pool.Worker

/-!
A thread pool in the hands of many threads.

Calls from outside and acts of the workers come in any order, each as one step. A stop is several
steps: it holds the pool's lock while it takes the jobs out of the ready queue one by one, and the
workers that need no lock go on meanwhile. `ThreadPool.Next` says what one step may be and what it
comes to, as a `Deed`; `ThreadPool.Runs` lists the deeds of a whole run, oldest first. Which threads
fail to start is up to the pool's `startFault`.
-/

namespace TwoTier

/-- What a step comes to. -/
inductive Deed (J : Type) where
  | accepted (job : J)
  | refused (why : RejectedJob J)
  | coreSizeSet (size : Nat)
  | coreTimeoutSet (allowed : Bool)
  | shutdown
  | stopBegun
  /-- A stop takes a job out of the ready queue. -/
  | drained (job : J)
  /-- A stop returns, with the jobs that it took. -/
  | handedBack (jobs : List J)
  /-- A worker has run and completed a job. -/
  | finished (job : J)
  | worked (number : Nat) (act : WorkerAct)

namespace ThreadPool

variable {J : Type}

/-- A new pool, some of whose threads will not start. -/
def opened (coreSize maxSize : Nat) (keepAlive : Duration) (capacity : Nat) (name : String)
    (startFault : Nat → Option StartFault) : ThreadPool J :=
  { new coreSize maxSize keepAlive capacity name with startFault }

/-- What may happen at any moment. Whatever needs the lock waits while a stop holds it. -/
inductive Next : ThreadPool J → Deed J → ThreadPool J → Prop where
  | accept {p q : ThreadPool J} (job : J) (free : p.stopping = none)
      (h : p.execute job = (.ok (), q)) : Next p (.accepted job) q
  | refuse {p q : ThreadPool J} (job : J) (why : RejectedJob J) (free : p.stopping = none)
      (h : p.execute job = (.error why, q)) : Next p (.refused why) q
  | setCoreSize {p : ThreadPool J} (size : Nat) (free : p.stopping = none) :
      Next p (.coreSizeSet size) (p.setCoreSize size)
  | setCoreTimeout {p : ThreadPool J} (allowed : Bool) :
      Next p (.coreTimeoutSet allowed) { p with allowCoreTimeout := allowed }
  | shutdown {p : ThreadPool J} (free : p.stopping = none) : Next p .shutdown p.shutdown
  | beginStop {p : ThreadPool J} (free : p.stopping = none) : Next p .stopBegun p.beginStop
  | drain {p : ThreadPool J} {job : J} {drained rest : List J} (held : p.stopping = some drained)
      (h : p.ready = job :: rest) : Next p (.drained job) p.drainOne
  /-- A stop ends when it finds the ready queue empty. -/
  | endStop {p q : ThreadPool J} {jobs : List J} (held : p.stopping.isSome = true)
      (empty : p.ready = []) (h : p.endStop = (jobs, q)) : Next p (.handedBack jobs) q
  | finish {p q : ThreadPool J} {job : J} (number : Nat)
      (busy : p.phase? number = some (.completing job))
      (h : p.act? number .endCompletion = some q) : Next p (.finished job) q
  | work {p q : ThreadPool J} (number : Nat) (act : WorkerAct) (other : act ≠ .endCompletion)
      (h : p.act? number act = some q) : Next p (.worked number act) q

/-- What can come of a pool in any number of moments, with the deeds in their order. -/
inductive Runs (p : ThreadPool J) : List (Deed J) → ThreadPool J → Prop where
  | refl : Runs p [] p
  | tail {deeds : List (Deed J)} {deed : Deed J} {q r : ThreadPool J} :
      Runs p deeds q → Next q deed r → Runs p (deeds ++ [deed]) r

theorem Runs.head {deeds : List (Deed J)} {deed : Deed J} {p q r : ThreadPool J}
    (first : Next p deed q) (run : Runs q deeds r) : Runs p (deed :: deeds) r := by
  induction run with
  | refl => exact .tail .refl first
  | tail _ step ih => exact .tail ih step

end ThreadPool

namespace Deed

variable {J : Type}

@[simp] def accepted? : Deed J → Option J
  | .accepted job => some job
  | _ => none

@[simp] def finished? : Deed J → Option J
  | .finished job => some job
  | _ => none

@[simp] def handedBack? : Deed J → Option (List J)
  | .handedBack jobs => some jobs
  | _ => none

/-- The jobs that the pool has taken, in order. -/
def acceptances (deeds : List (Deed J)) : List J := deeds.filterMap accepted?

/-- The jobs that workers have run and completed. -/
def finishes (deeds : List (Deed J)) : List J := deeds.filterMap finished?

/-- The jobs that each stop has handed back. -/
def returns (deeds : List (Deed J)) : List (List J) := deeds.filterMap handedBack?

end Deed

end TwoTier
