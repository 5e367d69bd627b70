/-!
Lines of the log: a level, a message and named fields, all of them text.
-/

namespace TwoTier

inductive Level where
  | trace
  | debug
  | info
  | warn
  | error
deriving DecidableEq, Repr

def Level.name : Level → String
  | .trace => "TRACE"
  | .debug => "DEBUG"
  | .info => "INFO"
  | .warn => "WARN"
  | .error => "ERROR"

structure LogLine where
  level : Level
  message : String
  fields : List (String × String)
deriving DecidableEq, Repr

end TwoTier
