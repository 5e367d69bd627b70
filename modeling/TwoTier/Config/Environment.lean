import TwoTier.Config
import TwoTier.Text.Unsigned
import TwoTier.Text.Utf8

/-!
The configuration that an environment asks for.

Seven variables override the defaults. They are read in a fixed order and the first that cannot be
read is reported; what they give together is then validated. A variable whose bytes are not UTF-8
counts as unset. Numbers may have blanks around them, a flag is one of nine words in any case of
ASCII letters, and a thread name is taken as it is.
-/

namespace TwoTier

/-- The variables that are set, each with its bytes. -/
abbrev Environment := List (String × Text.RawText)

namespace Environment

/-- The text of a variable that is set and readable. -/
def text? (env : Environment) (name : String) : Option String :=
  (env.lookup name).bind Text.RawText.text?

def coreSizeName : String := "SPILLWAY_CORE_SIZE"
def biggerCoreSizeName : String := "SPILLWAY_BIGGER_CORE_SIZE"
def maxCoreSizeName : String := "SPILLWAY_MAX_CORE_SIZE"
def maxQueueSizeName : String := "SPILLWAY_MAX_QUEUE_SIZE"
def keepAliveName : String := "SPILLWAY_KEEP_ALIVE_SECS"
def threadNameName : String := "SPILLWAY_THREAD_NAME"
def debugName : String := "SPILLWAY_DEBUG"

/-- The variables in the order in which they are read. -/
def variableNames : List String :=
  [coreSizeName, biggerCoreSizeName, maxCoreSizeName, maxQueueSizeName, keepAliveName,
   threadNameName, debugName]

/-- A number with blanks around it, `none` if the variable is unset. -/
def number? (env : Environment) (name : String) : Except Error (Option Nat) :=
  match env.text? name with
  | none => .ok none
  | some raw =>
    match Text.readWord (Text.trim raw) with
    | .ok n => .ok (some n)
    | .error _ => .error (.invalidConfig (.unreadableNumber name raw))

def trueWords : List String := ["1", "true", "yes", "on"]

def falseWords : List String := ["0", "false", "no", "off", ""]

/-- A flag's value from its text. -/
def readFlag? (raw : String) : Option Bool :=
  let word := Text.lowerAscii (Text.trim raw)
  if word ∈ trueWords then some true else if word ∈ falseWords then some false else none

def flag? (env : Environment) (name : String) : Except Error (Option Bool) :=
  match env.text? name with
  | none => .ok none
  | some raw =>
    match readFlag? raw with
    | some b => .ok (some b)
    | none => .error (.invalidConfig (.unreadableFlag name raw))

/-- The fields of `base`, each replaced where its variable is set; not yet validated. -/
def override (env : Environment) (base : Config) : Except Error Config := do
  let core ← env.number? coreSizeName
  let bigger ← env.number? biggerCoreSizeName
  let max ← env.number? maxCoreSizeName
  let queue ← env.number? maxQueueSizeName
  let keepAlive ← env.number? keepAliveName
  let debug ← env.flag? debugName
  return { coreSize := core.getD base.coreSize
           biggerCoreSize := bigger.getD base.biggerCoreSize
           maxCoreSize := max.getD base.maxCoreSize
           maxQueueSize := queue.getD base.maxQueueSize
           keepAlive := (keepAlive.map Duration.ofSeconds).getD base.keepAlive
           threadName := (env.text? threadNameName).getD base.threadName
           debug := debug.getD base.debug }

end Environment

/-- The configuration that `env` asks for on a machine with `parallelism` hardware threads. -/
def Config.ofEnvironment (parallelism : Nat) (env : Environment) : Except Error Config := do
  let config ← env.override (.forParallelism parallelism)
  config.validate
  return config

end TwoTier
