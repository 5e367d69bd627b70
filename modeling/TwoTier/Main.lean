import TwoTier.CommandLine

/-!
The program: reads the arguments and the environment, prints, and gives the exit code.
-/

open TwoTier

/-- The hardware threads of the machine, one if they cannot be counted. -/
def hardwareThreads : IO Nat := do
  try
    let lines := (← IO.FS.readFile "/proc/cpuinfo").splitOn "\n"
    return max 1 (lines.filter (·.startsWith "processor")).length
  catch _ => return 1

/-- The variables that are set. -/
def readEnvironment : IO Environment := do
  let entries ← Environment.variableNames.mapM fun name => do
    return (← IO.getEnv name).map fun value => (name, Text.RawText.ofString value)
  return entries.filterMap id

def main (args : List String) : IO UInt32 := do
  let output := CommandLine.run (← hardwareThreads) (← readEnvironment)
    (args.map Text.RawText.ofString)
  for line in output.out do IO.println line
  for line in output.err do IO.eprintln line
  return output.exitCode.toUInt32
