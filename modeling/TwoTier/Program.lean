import TwoTier.Config.Environment
import TwoTier.Executor.Scripted
import TwoTier.Service

/-!
The executor of a program.

A program has one configuration and one current executor, both fixed late. The configuration is the
one given to `configure`, or, if it is read before that, the environment's; once fixed it stays.
The executor is built from it when it is first asked for, unless one was installed. Asking takes
two atomic steps: a look at the current executor and, if there is none, a section of its own that
looks again and builds.
-/

namespace TwoTier

/-- An executor that a program can have. -/
inductive ProgramExecutor (ν : Type) where
  | buffering (y : Service ν)
  /-- A bare pool, if no buffering executor can be built. -/
  | pool (s : Crew ν)
  | scripted (s : Scripted ν)

namespace ProgramExecutor

variable {ν : Type}

/-- Hands work in from a thread. -/
def execute (me : ThreadId) (work : Work ν) : ProgramExecutor ν → Outcome × ProgramExecutor ν
  | .buffering y =>
    let (r, y) := Executor.execute me work none y
    (.ofResult r, .buffering y)
  | .pool s =>
    let (r, s) := Executor.execute me work none s
    (.ofResult r, .pool s)
  | .scripted s =>
    let (outcome, s) := s.execute me work none
    (outcome, .scripted s)

/-- Everything that its closures have done, newest first. -/
def journal : ProgramExecutor ν → List Event
  | .buffering y => y.world.journal
  | .pool s => s.world.journal
  | .scripted s => s.world.journal

/-- The name of its pool, if it has one. -/
def poolName : ProgramExecutor ν → String
  | .buffering y => y.pool.name
  | .pool s => s.pool.name
  | .scripted _ => ""

/-- The log lines of everything that has happened, newest first. -/
def logLines (e : ProgramExecutor ν) : List LogLine :=
  e.journal.filterMap fun event => (event.logLine?).or (event.panicLine? e.poolName)

end ProgramExecutor

/-- What happens to a program. Executors have numbers, in the order in which they were made. -/
inductive ProgramEvent where
  | configured (config : Config)
  /-- The configuration was fixed, or found fixed, and read. -/
  | configRead (config : Config)
  | environmentIgnored (why : Error)
  | built (executor : Nat) (config : Config)
  | buildFailed (executor : Nat) (why : Error)
  /-- Somebody asked for the executor and got this one. -/
  | obtained (executor : Nat)
  | installed (executor : Nat)
  | taskRejected (why : Error)

def ProgramEvent.logLine? : ProgramEvent → Option LogLine
  | .environmentIgnored why =>
    some ⟨.warn, "Ignoring SPILLWAY_* environment, using defaults", [("error", why.message)]⟩
  | .buildFailed _ why =>
    some ⟨.error, "Cannot build process executor, falling back to a plain pool",
      [("error", why.message)]⟩
  | .taskRejected why =>
    some ⟨.debug, "Process executor rejected task", [("error", why.message)]⟩
  | _ => none

structure Program (ν : Type) where
  /-- The number of hardware threads. -/
  parallelism : Nat
  environment : Environment
  /-- The configuration, once it is fixed. -/
  config : Option Config
  executors : List (ProgramExecutor ν)
  /-- The number of the current executor. -/
  current : Option Nat
  /-- Newest first. -/
  history : List ProgramEvent

namespace Program

variable {ν : Type}

def start (parallelism : Nat) (environment : Environment) : Program ν :=
  ⟨parallelism, environment, none, [], none, []⟩

def record (e : ProgramEvent) (p : Program ν) : Program ν := { p with history := e :: p.history }

/-- Fixes the configuration, if it is valid and none has been fixed. -/
def configure (config : Config) (p : Program ν) : Except Error Unit × Program ν :=
  match config.validate, p.config with
  | .error why, _ => (.error why, p)
  | .ok (), some _ => (.error .alreadyInitialized, p)
  | .ok (), none => (.ok (), record (.configured config) { p with config := some config })

/-- The configuration that a program has if none is given. -/
def ambientConfig (p : Program ν) : Except Error Config :=
  Config.ofEnvironment p.parallelism p.environment

/-- Reads the configuration, and fixes it with that. -/
def readConfig (p : Program ν) : Config × Program ν :=
  match p.config, p.ambientConfig with
  | some config, _ => (config, p.record (.configRead config))
  | none, .ok config => (config, record (.configRead config) { p with config := some config })
  | none, .error why =>
    let config := Config.forParallelism p.parallelism
    (config, record (.configRead config)
      (record (.environmentIgnored why) { p with config := some config }))

/-- A new executor becomes the current one. -/
def adopt (e : ProgramExecutor ν) (p : Program ν) : Program ν :=
  { p with executors := p.executors ++ [e], current := some p.executors.length }

/-- The second step of asking for the executor: looks again, and builds one if there is none. There
is no answer if building panics; the configuration is fixed all the same. -/
def currentOrBuild (p : Program ν) : Option Nat × Program ν :=
  match p.current with
  | some n => (some n, p.record (.obtained n))
  | none =>
    let (config, p) := p.readConfig
    let n := p.executors.length
    match Service.make? config none with
    | some (.ok y) =>
      (some n, record (.obtained n) (record (.built n config) (p.adopt (.buffering y))))
    | some (.error why) =>
      let pool := ThreadPool.ofConfig (.forParallelism p.parallelism)
      (some n, record (.obtained n) (record (.buildFailed n why) (p.adopt (.pool (.new pool)))))
    | none => (none, p)

/-- The number of the current executor, which is built if there is none; no answer if building it
panics. -/
def executor (p : Program ν) : Option Nat × Program ν :=
  match p.current with
  | some n => (some n, p.record (.obtained n))
  | none => p.currentOrBuild

/-- Installs an executor made by hand. -/
def setExecutor (e : ProgramExecutor ν) (p : Program ν) : Program ν :=
  record (.installed p.executors.length) (p.adopt e)

/-- Hands work to the executor of a number, if there is one. -/
def executeOn (n : Nat) (me : ThreadId) (work : Work ν) (p : Program ν) :
    Option (Outcome × Program ν) :=
  p.executors[n]?.map fun e =>
    let (outcome, e) := e.execute me work
    (outcome, { p with executors := p.executors.set n e })

/-- Hands work to the current executor. A refusal goes to the log only, and a panic comes out. -/
def execute (me : ThreadId) (work : Work ν) (p : Program ν) : Outcome × Program ν :=
  match p.executor with
  | (none, p) => (.panicked, p)
  | (some n, p) =>
    match p.executeOn n me work with
    | some (.refused why, p) => (.refused why, p.record (.taskRejected why))
    | some (outcome, p) => (outcome, p)
    | none => (.taken, p)

end Program

end TwoTier
