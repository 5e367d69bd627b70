import TwoTier.CommandLine.Arguments
import TwoTier.CommandLine.Help
import TwoTier.Tuning

/-!
The command line: what is printed for given arguments in a given environment.
-/

namespace TwoTier.CommandLine

open TwoTier.Text

/-- What a run of the program leaves behind. -/
structure Output where
  exitCode : Nat
  out : List String
  err : List String
deriving DecidableEq, Repr

/-- The answer to arguments that name no command to run. -/
def Halt.output : Halt → Output
  | .help page => ⟨0, helpLines page, []⟩
  | .version => ⟨0, [versionLine], []⟩
  | .nothing => ⟨2, [], helpLines .program⟩
  | .fault why =>
    ⟨2, [], ["error: " ++ why.message, "", "For more information, try '--help'."]⟩

/-- The answer to a failure, after what was printed already. -/
def failed (out : List String) (message : String) : Output := ⟨1, out, ["Error: " ++ message]⟩

/-- The effective configuration, and the variables that it comes from. -/
def configLines (env : Environment) (c : Config) : List String :=
  ["Spillway v" ++ programVersion,
   "",
   "Core size:          " ++ toString c.coreSize,
   "Bigger core size:   " ++ toString c.biggerCoreSize ++ " (backlog > "
     ++ toString (saturatingMul c.maxQueueSize 10) ++ ")",
   "Max core size:      " ++ toString c.maxCoreSize ++ " (backlog > "
     ++ toString (saturatingMul c.maxQueueSize 100) ++ ")",
   "Ready queue bound:  " ++ toString c.maxQueueSize,
   "Keep-alive:         " ++ c.keepAlive.text,
   "Thread name:        " ++ c.threadName,
   "Diagnostics:        " ++ (if c.debug then "on" else "off"),
   "",
   "Environment:"]
  ++ Environment.variableNames.map fun name =>
    "  " ++ padRight 26 name ++ " " ++ (env.text? name).getD "(not set)"

def runConfig (parallelism : Nat) (env : Environment) : Output :=
  match Config.ofEnvironment parallelism env with
  | .error why => failed [] why.message
  | .ok c => ⟨0, configLines env c, []⟩

/-- The answer to a panic. -/
def panicked (message : String) : Output := ⟨101, [], ["", message]⟩

def runBurst (parallelism : Nat) (env : Environment) (o : BurstOptions) : Output :=
  match o.config parallelism env with
  | .error why => failed [] why.message
  | .ok c =>
    match Service.make? c none with
    | none => panicked "capacity overflow"
    | some (.error _) => failed [] "building executor"
    | some (.ok service) =>
      match o.deadline? ⟨0⟩ with
      | none => panicked "overflow when adding duration to instant"
      | some deadline =>
        let summary := Burst.run c o deadline service
        match summary.complaint? with
        | none => ⟨0, summary.lines, []⟩
        | some complaint => failed summary.lines complaint

/-- Runs the program on a machine with `parallelism` hardware threads. -/
def run (parallelism : Nat) (env : Environment) (args : List RawText) : Output :=
  match readArguments args with
  | .error halt => halt.output
  | .ok .config => runConfig parallelism env
  | .ok (.burst o) => runBurst parallelism env o

end TwoTier.CommandLine
