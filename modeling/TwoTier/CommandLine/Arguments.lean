import TwoTier.Burst
import TwoTier.CommandLine.Setting

/-!
Reading the arguments of a command line.

Arguments are read from the left. The first that names no option of its page decides over an option
whose number was given in an argument of its own and is not read yet: such a number is read when
the next option, or the end, is reached. `--` makes every later argument a plain one, and no
command takes plain arguments.
-/

namespace TwoTier.CommandLine

open TwoTier.Text

/-- What an argument looks like. -/
inductive Shape where
  /-- `--` -/
  | separator
  /-- `--name` or `--name=value` -/
  | long (name : RawText) (value : Option RawText)
  /-- `-` and something after it -/
  | short (flags : List (Option Char))
  | plain
deriving DecidableEq, Repr

/-- Cuts at the first `=`. -/
def cutAtEquals : List (Option Char) → List (Option Char) × Option RawText
  | [] => ([], none)
  | some '=' :: rest => ([], some ⟨rest⟩)
  | c :: rest => (c :: (cutAtEquals rest).1, (cutAtEquals rest).2)

def Shape.of (arg : RawText) : Shape :=
  match arg.pieces with
  | [some '-', some '-'] => .separator
  | some '-' :: some '-' :: rest => .long ⟨(cutAtEquals rest).1⟩ (cutAtEquals rest).2
  | [some '-'] => .plain
  | some '-' :: rest => .short rest
  | _ => .plain

/-- What is asked for instead of a command. -/
inductive Halt where
  | help (page : Page)
  | version
  /-- There are no arguments. -/
  | nothing
  | fault (why : Fault)
deriving DecidableEq, Repr

/-- The options found, each with its number if it takes one; the latest first. -/
abbrev Found := List (Setting × Option Nat)

/-- An option whose number is still to be found, or still to be read. -/
inductive Open where
  | none
  | wanting (setting : Setting)
  | given (setting : Setting) (value : RawText)
deriving DecidableEq, Repr

namespace Found

def has (setting : Setting) (found : Found) : Bool := found.any (·.1 = setting)

/-- The number of an option. -/
def number? (setting : Setting) (found : Found) : Option Nat := (found.lookup setting).join

/-- Reads the number of an option, which must be the first of its name. -/
def store (setting : Setting) (value : RawText) (found : Found) : Except Halt Found :=
  if found.has setting then .error (.fault (.repeated setting))
  else match value.text? with
    | none => .error (.fault .notText)
    | some text =>
      match readWord text with
      | .ok n => .ok ((setting, some n) :: found)
      | .error why => .error (.fault (.unreadable text setting why))

/-- Does what an option without a number stands for. -/
def enact (page : Page) (setting : Setting) (found : Found) : Except Halt Found :=
  match setting with
  | .help => .error (.help page)
  | .version => .error .version
  | setting =>
    if found.has setting then .error (.fault (.repeated setting))
    else .ok ((setting, none) :: found)

/-- Reads the number that is still open. -/
def settle (pending : Open) (found : Found) : Except Halt Found :=
  match pending with
  | .none => .ok found
  | .wanting setting => .error (.fault (.valueMissing setting))
  | .given setting value => found.store setting value

end Found

def unexpected (text : String) : Halt := .fault (.unexpectedArgument text)

/-- Reads an argument of the form `--name` or `--name=value`. -/
def readLong (page : Page) (name : RawText) (value : Option RawText) (pending : Open)
    (found : Found) : Except Halt (Open × Found) :=
  match name.text?.bind fun n => page.settings.find? (·.long = n) with
  | none => .error (unexpected ("--" ++ name.lossy))
  | some setting =>
    if setting.takesNumber then do
      let found ← found.settle pending
      match value with
      | some v => return (.none, ← found.store setting v)
      | none => return (.wanting setting, found)
    else match value with
      | some v => .error (.fault (.unexpectedValue v.lossy setting))
      | none => do return (.none, ← (← found.settle pending).enact page setting)

/-- A number that follows a short name at once, with or without `=`. -/
def attached : List (Option Char) → RawText
  | some '=' :: rest => ⟨rest⟩
  | rest => ⟨rest⟩

/-- Reads what follows `-`: short names, the last of them perhaps with a number. -/
def readShort (page : Page) : List (Option Char) → Open → Found → Except Halt (Open × Found)
  | [], pending, found => .ok (pending, found)
  | none :: rest, _, _ => .error (unexpected ("-" ++ RawText.lossy ⟨none :: rest⟩))
  | some c :: rest, pending, found =>
    match page.settings.find? (·.short? = some c) with
    | none => .error (unexpected ("-" ++ String.singleton c))
    | some setting => do
      let found ← found.settle pending
      if setting.takesNumber then
        if rest.isEmpty then return (.wanting setting, found)
        else return (.none, ← found.store setting (attached rest))
      else readShort page rest .none (← found.enact page setting)

/-- Reads the arguments of a command. -/
def readOptions (page : Page) : List RawText → Open → Found → Except Halt Found
  | [], pending, found => found.settle pending
  | arg :: rest, pending, found =>
    match Shape.of arg, pending with
    | .separator, pending =>
      match rest with
      | [] => found.settle pending
      | next :: _ => .error (unexpected next.lossy)
    | .long name value, pending => do
      let (pending, found) ← readLong page name value pending found
      readOptions page rest pending found
    | .short flags, pending => do
      let (pending, found) ← readShort page flags pending found
      readOptions page rest pending found
    | .plain, .wanting setting => readOptions page rest (.given setting arg) found
    | .plain, _ => .error (unexpected arg.lossy)

inductive Command where
  | burst (options : BurstOptions)
  | config
deriving DecidableEq, Repr

/-- The options of a burst: those found, and the defaults of the others. -/
def burstOptions (found : Found) : BurstOptions :=
  { tasks := (found.number? .tasks).getD 1000
    taskMs := (found.number? .taskMs).getD 10
    coreSize := found.number? .coreSize
    maxQueueSize := found.number? .maxQueueSize
    keepAliveSecs := found.number? .keepAliveSecs
    debug := found.has .debug
    sampleMs := (found.number? .sampleMs).getD 100 }

/-- The page that `help` is asked for: the commands named after it, each inside the one before. -/
def helpPage (page : Page) : List RawText → Halt
  | [] => .help page
  | arg :: rest =>
    match page, arg.text?.bind Page.ofCommand? with
    | .program, some command => helpPage command rest
    | _, _ => .fault (.unknownCommand arg.lossy)

/-- Reads the arguments of the program. -/
def readArguments : List RawText → Except Halt Command
  | [] => .error .nothing
  | arg :: rest =>
    match arg.text?.bind Page.ofCommand? with
    | some .burst => return .burst (burstOptions (← readOptions .burst rest .none []))
    | some .config => do
      let _ ← readOptions .config rest .none []
      return .config
    | some page => .error (if page = .help then helpPage .program rest else .help page)
    | none =>
      match Shape.of arg with
      | .separator =>
        match rest with
        | [] => .error .nothing
        | next :: _ =>
          if (next.text?.bind Page.ofCommand?).isSome then .error (unexpected next.lossy)
          else .error (.fault (.unknownCommand next.lossy))
      | .long name value => do
        let _ ← readLong .program name value .none []
        readArguments rest
      | .short flags => do
        let _ ← readShort .program flags .none []
        readArguments rest
      | .plain => .error (.fault (.unknownCommand arg.lossy))

end TwoTier.CommandLine
