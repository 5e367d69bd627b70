import TwoTier.Work

/-!
Plain jobs: a closure handed to a pool as it is.

A job runs its closure the first time it is asked to and does nothing after that. Completing a
job, or dropping it, is the end of it.
-/

namespace TwoTier

structure Job (ν : Type) where
  /-- `none` once the closure has been started. -/
  closure : Option (Closure ν)
  /-- What completing the job panics with, if it does. -/
  completion : Option Payload

namespace Job

variable {ν : Type}

def ofClosure (c : Closure ν) : Job ν := ⟨some c, none⟩

/-- What the owner of a job can ask of it. -/
inductive Call where
  | run
  | complete
  | drop
deriving DecidableEq, Repr

/-- What a call comes to. -/
inductive Answer where
  /-- The job was there, and the call returned. -/
  | returned
  /-- The job was there, and the call panicked. -/
  | panicked
  /-- There is no job any more. -/
  | gone
deriving DecidableEq, Repr

/-- The closure that a call starts. -/
def starts (call : Call) (job : Option (Job ν)) : Option (Closure ν) :=
  match call with
  | .run => job.bind Job.closure
  | _ => none

/-- How a call ends, and the job after it. -/
def call (call : Call) (job : Option (Job ν)) : Answer × Option (Job ν) :=
  match call, job with
  | _, none => (.gone, none)
  | .run, some j =>
    match j.closure with
    | none => (.returned, some j)
    | some c =>
      match c.work.ending with
      | .value _ => (.returned, some { j with closure := none })
      | .panic _ => (.panicked, some { j with closure := none })
  | .complete, some j => (if j.completion.isSome then .panicked else .returned, none)
  | .drop, some _ => (.returned, none)

end Job

end TwoTier
