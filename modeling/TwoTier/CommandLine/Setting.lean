import TwoTier.Text.Control
import TwoTier.Text.Unsigned
import TwoTier.Text.Utf8

/-!
The options of the command line, and what can be wrong with them.

An option has a long name, perhaps a short one, and takes a number or nothing. A page of the
command line, the whole program or one of its commands, has its own list of options.
-/

namespace TwoTier.CommandLine

open TwoTier.Text

inductive Setting where
  | tasks
  | taskMs
  | coreSize
  | maxQueueSize
  | keepAliveSecs
  | debug
  | sampleMs
  | help
  | version
deriving DecidableEq, Repr

namespace Setting

def long : Setting → String
  | .tasks => "tasks"
  | .taskMs => "task-ms"
  | .coreSize => "core-size"
  | .maxQueueSize => "max-queue-size"
  | .keepAliveSecs => "keep-alive-secs"
  | .debug => "debug"
  | .sampleMs => "sample-ms"
  | .help => "help"
  | .version => "version"

def short? : Setting → Option Char
  | .tasks => some 't'
  | .help => some 'h'
  | .version => some 'V'
  | _ => none

/-- What the number that an option takes is called. -/
def valueName? : Setting → Option String
  | .tasks => some "TASKS"
  | .taskMs => some "TASK_MS"
  | .coreSize => some "CORE_SIZE"
  | .maxQueueSize => some "MAX_QUEUE_SIZE"
  | .keepAliveSecs => some "KEEP_ALIVE_SECS"
  | .sampleMs => some "SAMPLE_MS"
  | _ => none

def takesNumber (s : Setting) : Bool := s.valueName?.isSome

/-- An option as messages show it: its long name, and its number. -/
def shown (s : Setting) : String :=
  "--" ++ s.long ++ (match s.valueName? with
    | some name => " <" ++ name ++ ">"
    | none => "")

end Setting

/-- A page: the program, or one of its commands. -/
inductive Page where
  | program
  | burst
  | config
  | help
deriving DecidableEq, Repr

/-- The options of a page. -/
def Page.settings : Page → List Setting
  | .program => [.help, .version]
  | .burst =>
    [.tasks, .taskMs, .coreSize, .maxQueueSize, .keepAliveSecs, .debug, .sampleMs, .help]
  | .config => [.help]
  | .help => []

/-- The command of a name. -/
def Page.ofCommand? (name : String) : Option Page :=
  if name = "burst" then some .burst
  else if name = "config" then some .config
  else if name = "help" then some .help
  else none

/-- Why arguments are refused. -/
inductive Fault where
  | unknownCommand (text : String)
  | unexpectedArgument (text : String)
  /-- A value for an option that takes none. -/
  | unexpectedValue (value : String) (setting : Setting)
  | valueMissing (setting : Setting)
  | repeated (setting : Setting)
  | unreadable (value : String) (setting : Setting) (why : NumeralFault)
  /-- A value is not UTF-8. -/
  | notText
deriving DecidableEq, Repr

/-- An argument as messages repeat it: quoted, and without its control sequences. -/
def quotedArgument (text : String) : String := "'" ++ stripControls text ++ "'"

def Fault.message : Fault → String
  | .unknownCommand text => "unrecognized subcommand " ++ quotedArgument text
  | .unexpectedArgument text => "unexpected argument " ++ quotedArgument text ++ " found"
  | .unexpectedValue value setting =>
    "unexpected value " ++ quotedArgument value ++ " for '" ++ setting.shown
      ++ "' found; no more were expected"
  | .valueMissing setting =>
    "a value is required for '" ++ setting.shown ++ "' but none was supplied"
  | .repeated setting => "the argument '" ++ setting.shown ++ "' cannot be used multiple times"
  | .unreadable value setting why =>
    "invalid value " ++ quotedArgument value ++ " for '" ++ setting.shown ++ "': " ++ why.message
  | .notText => "invalid UTF-8 was detected in one or more arguments"

end TwoTier.CommandLine
