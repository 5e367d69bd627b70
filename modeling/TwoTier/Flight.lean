import TwoTier.Log
import TwoTier.Time

/-!
The register of tasks in flight.

A task is entered when the pool is offered it and erased when it completes. A scan reports every
entry that is older than the threshold and leaves the entries as they are, so a slow task is
reported by each scan until it completes. An entry keeps the trace taken at the submission, of
whatever type traces have.
-/

namespace TwoTier

structure TaskId where
  number : Nat
deriving DecidableEq, Repr, Inhabited

def TaskId.text (id : TaskId) : String := "task-" ++ toString id.number

structure FlightEntry (τ : Type) where
  id : TaskId
  trace : τ
  admittedAt : Instant

/-- A report of a task that has been in flight for longer than the threshold. -/
structure StaleTask (τ : Type) where
  id : TaskId
  trace : τ
  admittedAt : Instant
  /-- When the scan took place. -/
  now : Instant
  age : Duration

/-- The report as a warning. The simulated calendar begins with the simulated clock. -/
def StaleTask.logLine {τ : Type} (traceText : τ → String) (r : StaleTask τ) : LogLine where
  level := .warn
  message := "Task has been running longer than the pool keep-alive; it is slow itself or the "
    ++ "pool is saturated by slow tasks. Submitted from:\n" ++ traceText r.trace
  fields :=
    [("task", r.id.text),
     ("admitted_at_ms", toString (WallTime.epochMillis ⟨r.admittedAt.nanos⟩)),
     ("now_ms", toString (WallTime.epochMillis ⟨r.now.nanos⟩)),
     ("age_ms", toString r.age.saturatingMillis)]

structure FlightRecorder (τ : Type) where
  /-- At most one entry for an id. -/
  entries : List (FlightEntry τ)
  threshold : Duration
  scans : Nat
  /-- The reports of all scans together. -/
  reported : Nat

namespace FlightRecorder

variable {τ : Type}

def new (threshold : Duration) : FlightRecorder τ := ⟨[], threshold, 0, 0⟩

/-- Enters a task; an entry that its id already has is replaced. -/
def admitted (id : TaskId) (trace : τ) (now : Instant) (r : FlightRecorder τ) :
    FlightRecorder τ :=
  { r with entries := r.entries.filter (·.id ≠ id) ++ [⟨id, trace, now⟩] }

def get? (id : TaskId) (r : FlightRecorder τ) : Option (FlightEntry τ) :=
  r.entries.find? (·.id = id)

def contains (id : TaskId) (r : FlightRecorder τ) : Bool := (r.get? id).isSome

/-- Erases a task. -/
def completed (id : TaskId) (r : FlightRecorder τ) : FlightRecorder τ :=
  { r with entries := r.entries.filter (·.id ≠ id) }

/-- The report on one entry, if it is older than the threshold. -/
def stale? (threshold : Duration) (now : Instant) (e : FlightEntry τ) : Option (StaleTask τ) :=
  let age := now.since e.admittedAt
  if threshold.total < age.total then some ⟨e.id, e.trace, e.admittedAt, now, age⟩ else none

/-- Reports the entries older than the threshold, and counts the scan and the reports. -/
def scan (now : Instant) (r : FlightRecorder τ) : List (StaleTask τ) × FlightRecorder τ :=
  let reports := r.entries.filterMap (stale? r.threshold now)
  (reports, { r with scans := r.scans + 1, reported := r.reported + reports.length })

/-- Earlier admissions come first, and of equally old ones the smaller id. -/
def admittedBefore (a b : FlightEntry τ) : Bool :=
  decide (a.admittedAt.nanos < b.admittedAt.nanos) ||
    (a.admittedAt.nanos == b.admittedAt.nanos && decide (a.id.number ≤ b.id.number))

/-- The ids in flight, oldest admission first. -/
def taskIds (r : FlightRecorder τ) : List TaskId :=
  (r.entries.mergeSort admittedBefore).map (·.id)

def size (r : FlightRecorder τ) : Nat := r.entries.length

def debugText (r : FlightRecorder τ) : String :=
  "FlightRecorder \x7b in_flight: " ++ toString r.size ++ ", threshold: " ++ r.threshold.text
    ++ " \x7d"

end FlightRecorder

end TwoTier
