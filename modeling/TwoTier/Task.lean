import TwoTier.Flight
import TwoTier.Work

/-!
Tasks: closures on their way through the backlog and the pool.

A task keeps its closure until it is run or thrown away, and the trace taken at its submission
until the register of tasks in flight takes that over.
-/

namespace TwoTier

/-- A stack trace taken at a submission; all that is kept of it is which submission it was. -/
structure Capture where
  ticket : Nat
deriving DecidableEq, Repr

/-- A trace as text: never empty. -/
def Capture.text (c : Capture) : String := "submission " ++ toString c.ticket

structure Task (ν : Type) where
  id : TaskId
  /-- `none` once the closure has been started. -/
  closure : Option (Closure ν)
  /-- `none` without diagnostics, and once the register has it. -/
  capture : Option Capture

/-- What the holder of a job may do to it. -/
inductive JobAct where
  | run
  | complete
deriving DecidableEq, Repr

/-- The ways in which a holder finishes a job; after its acts the job is thrown away. -/
inductive FinishMode where
  | runComplete
  | runOnly
  | runTwice
  | completeOnly
  | dropOnly
deriving DecidableEq, Repr

def FinishMode.acts : FinishMode → List JobAct
  | .runComplete => [.run, .complete]
  | .runOnly => [.run]
  | .runTwice => [.run, .run, .complete]
  | .completeOnly => [.complete]
  | .dropOnly => []

end TwoTier
