import TwoTier.CommandLine.Setting

/-!
The help pages, line by line.
-/

namespace TwoTier.CommandLine

def programName : String := "spillway"

def programVersion : String := "0.2.0"

/-- What a command is for. -/
def Page.about : Page → String
  | .program => "Two-tier buffering executor toolkit"
  | .burst => "Push a burst of sleeping tasks through the executor"
  | .config => "Print the effective executor configuration"
  | .help => "Print this message or the help of the given subcommand(s)"

def Page.usage : Page → String
  | .program => programName ++ " <COMMAND>"
  | .burst => programName ++ " burst [OPTIONS]"
  | .config => programName ++ " config"
  | .help => programName ++ " help [COMMAND]..."

/-- What an option is for. -/
def Setting.about : Setting → String
  | .tasks => "Number of tasks to submit [default: 1000]"
  | .taskMs => "How long each task sleeps, in milliseconds [default: 10]"
  | .coreSize => "Steady-state core size"
  | .maxQueueSize => "Bound of the pool's ready queue"
  | .keepAliveSecs => "Idle keep-alive of pool threads, in seconds"
  | .debug => "Track in-flight tasks and report stuck ones"
  | .sampleMs => "Interval between progress samples, in milliseconds [default: 100]"
  | .help => "Print help"
  | .version => "Print version"

/-- An option with its short name, or the room for one. -/
def Setting.entry (s : Setting) : String :=
  (match s.short? with
    | some c => "  -" ++ String.singleton c ++ ", "
    | none => "      ") ++ s.shown

/-- Pads with blanks on the right. -/
def padRight (width : Nat) (s : String) : String :=
  s ++ String.ofList (List.replicate (width - s.length) ' ')

/-- Entries with their descriptions in a column of their own. -/
def columns (entries : List (String × String)) : List String :=
  let width := (entries.map (·.1.length)).foldl max 0
  entries.map fun e => padRight (width + 2) e.1 ++ e.2

/-- Entries with their descriptions on lines of their own. -/
def stacked (entries : List (String × String)) : List String :=
  entries.flatMap fun e => [e.1, "          " ++ e.2]

def optionLines (page : Page) : List String :=
  let entries := page.settings.map fun s => (s.entry, s.about)
  "Options:" :: if page = .burst then stacked entries else columns entries

def commandLines : List String :=
  "Commands:" :: columns [("  burst", Page.about .burst), ("  config", Page.about .config),
    ("  help", Page.about .help)]

def helpLines (page : Page) : List String :=
  [page.about, "", "Usage: " ++ page.usage, ""] ++
    match page with
    | .program => commandLines ++ [""] ++ optionLines page
    | .help => ["Arguments:", "  [COMMAND]...  Print help for the subcommand(s)"]
    | page => optionLines page

def versionLine : String := programName ++ " " ++ programVersion

end TwoTier.CommandLine
