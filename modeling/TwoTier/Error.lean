import TwoTier.Error.SystemCode
import TwoTier.Text.Quoted

/-!
What can go wrong, by cause.

An error is a value that names its cause; the wording is in `Error.message`, and the form that
diagnostics show is in `Error.debugText`. Errors fall into seven kinds, and several causes may
share a kind.
-/

namespace TwoTier

/-- Why a configuration is refused. -/
inductive ConfigFault where
  | coreSizeZero
  | sizesUnordered (core bigger max : Nat)
  | queueBoundZero
  | threadNameEmpty
  /-- A variable's text is no number in range. -/
  | unreadableNumber (variableName raw : String)
  | unreadableFlag (variableName raw : String)
  | other (text : String)
deriving DecidableEq, Repr

def ConfigFault.message : ConfigFault → String
  | .coreSizeZero => "core_size must be at least 1"
  | .sizesUnordered core bigger max =>
    "expected core_size <= bigger_core_size <= max_core_size, got " ++ toString core ++ " / "
      ++ toString bigger ++ " / " ++ toString max
  | .queueBoundZero => "max_primary_queue_size must be at least 1"
  | .threadNameEmpty => "thread_name must not be empty"
  | .unreadableNumber variableName raw => variableName ++ ": cannot parse " ++ Text.quote raw
  | .unreadableFlag variableName raw =>
    variableName ++ ": expected a boolean, got " ++ Text.quote raw
  | .other text => text

/-- Why work is not taken. -/
inductive Refusal where
  | poolShutDown (pool : String)
  | poolSaturated (pool : String) (workers queued : Nat)
  /-- The first of no tasks was asked for. -/
  | noTasks
  | other (text : String)
deriving DecidableEq, Repr

def Refusal.message : Refusal → String
  | .poolShutDown pool => "pool " ++ pool ++ " is shut down"
  | .poolSaturated pool workers queued =>
    "pool " ++ pool ++ " is saturated (" ++ toString workers ++ " workers, " ++ toString queued
      ++ " queued)"
  | .noTasks => "invoke_any called without tasks"
  | .other text => text

/-- Why a thread does not start. -/
inductive StartFault where
  | system (code : Int)
  | other (text : String)
deriving DecidableEq, Repr

def StartFault.message : StartFault → String
  | .system code => SystemCode.describe code ++ " (os error " ++ toString code ++ ")"
  | .other text => text

inductive Error where
  | invalidConfig (why : ConfigFault)
  | rejected (why : Refusal)
  | threadSpawn (why : StartFault)
  | taskPanicked (text : String)
  | taskDropped
  | timeout
  | alreadyInitialized
deriving DecidableEq, Repr

namespace Error

/-- The name of the error's kind. -/
def kind : Error → String
  | .invalidConfig _ => "InvalidConfig"
  | .rejected _ => "Rejected"
  | .threadSpawn _ => "ThreadSpawn"
  | .taskPanicked _ => "TaskPanicked"
  | .taskDropped => "TaskDropped"
  | .timeout => "Timeout"
  | .alreadyInitialized => "AlreadyInitialized"

def message : Error → String
  | .invalidConfig why => "Invalid configuration: " ++ why.message
  | .rejected why => "Rejected: " ++ why.message
  | .threadSpawn why => "Failed to spawn worker thread: " ++ why.message
  | .taskPanicked text => "Task panicked: " ++ text
  | .taskDropped => "Task was dropped before completion"
  | .timeout => "Timed out"
  | .alreadyInitialized => "Process executor already initialized"

/-- The error of a kind, from a text where the kind has one. An unknown kind is a refusal. -/
def ofKind (kind text : String) : Error :=
  if kind = "InvalidConfig" then .invalidConfig (.other text)
  else if kind = "ThreadSpawn" then .threadSpawn (.other text)
  else if kind = "TaskPanicked" then .taskPanicked text
  else if kind = "TaskDropped" then .taskDropped
  else if kind = "Timeout" then .timeout
  else if kind = "AlreadyInitialized" then .alreadyInitialized
  else .rejected (.other text)

/-- The form that diagnostics show: the kind, with its cause quoted where it has one. The system's
own failures have no form here, since theirs is the system's. -/
def debugText? : Error → Option String
  | .invalidConfig why => some ("InvalidConfig(" ++ Text.quote why.message ++ ")")
  | .rejected why => some ("Rejected(" ++ Text.quote why.message ++ ")")
  | .threadSpawn (.other text) =>
    some ("ThreadSpawn(Custom \x7b kind: Other, error: " ++ Text.quote text ++ " \x7d)")
  | .threadSpawn (.system _) => none
  | .taskPanicked text => some ("TaskPanicked(" ++ Text.quote text ++ ")")
  | e => some e.kind

end Error

/-- A job that was not taken, handed back with the reason. -/
structure RejectedJob (J : Type) where
  error : Error
  job : J

/-- The job itself is not shown. -/
def RejectedJob.debugText? {J : Type} (r : RejectedJob J) : Option String :=
  r.error.debugText?.map fun e => "RejectedJob \x7b error: " ++ e ++ ", .. \x7d"

end TwoTier
