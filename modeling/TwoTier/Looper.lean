import TwoTier.Event

/-!
The loop of the main thread.

A looper takes closures from a queue and runs them, on its own thread only. Others reach it through
handles, which are counted. When the count falls to nothing the last holder also leaves a message,
so that a loop that waits for work looks at the count again. The two are separate steps.

What a thread has still to do is a list of acts; `Looper.step` carries out the first in one atomic
step and says which acts take its place. It has no answer while a loop must wait. What a closure
does when it runs is fixed beforehand (`Errand.run`), a panic included: one that comes out of an
errand run at once ends the errand that sent it too. The module fixes single steps only:
`Looper.Run` takes one thread to its end, and `Looper.Interleaving` lets threads take turns.
-/

namespace TwoTier

/-- A closure for the main thread. -/
structure Errand where
  name : String
  /-- Whether it is run at once where the sender is the main thread. -/
  inline : Bool
  /-- Whether it owns a handle though it sends nothing. -/
  keep : Bool
  /-- Sent in order while it runs, before it ends. -/
  sends : List Errand
  /-- What it panics with at its end, if it does. -/
  panic : Option Payload

instance : Inhabited Errand := ⟨⟨"", false, false, [], none⟩⟩

/-- Whether the closure owns a handle. -/
def Errand.ownsHandle (e : Errand) : Bool := e.keep || !e.sends.isEmpty

/-- What the queue holds. -/
inductive Message where
  | errand (ticket : Nat) (e : Errand)
  /-- The last handle went away. -/
  | released

/-- How long a loop waits for work. -/
inductive Patience where
  | forever
  | until (deadline : Instant)

namespace Looper

/-- One thing that a thread does at a looper. -/
inductive Act where
  /-- A closure begins to run. -/
  | begin (name : String)
  /-- A closure comes to its end. -/
  | finish (name : String)
  /-- A handle is cloned. -/
  | clone
  /-- A handle is let go. -/
  | letGo
  /-- The last holder leaves its message. -/
  | release
  /-- Queue a closure; `noted` if a closure reports it. -/
  | post (e : Errand) (noted : Bool)
  /-- A closure is thrown away without having run. -/
  | discard (e : Errand)
  /-- A closure reports a sending. -/
  | sent (name : String) (accepted : Bool)
  /-- The loop catches a panic. -/
  | caught (payload : Payload)
  /-- The loop, having run so many closures, looks for handles. -/
  | check (patience : Patience) (ran : Nat)
  /-- The loop takes a message, or waits for one. -/
  | receive (patience : Patience) (ran : Nat)
  /-- The loop takes what is left in the queue. -/
  | drain (ran : Nat)
  /-- The loop is over. -/
  | done (ran : Nat)

/-- What happens at a looper, in order. -/
inductive Event where
  /-- A closure joins the queue. -/
  | posted (ticket : Nat)
  /-- The loop takes a closure out to run it. -/
  | taken (ticket : Nat) (time : Instant)
  | started (name : String) (on : ThreadId)
  | sent (name : String) (accepted : Bool)
  | ended (name : String)
  | discarded (name : String)
  | panicked (payload : Payload)
  /-- A loop without a deadline finds no handle, having run so many closures. -/
  | finished (ran : Nat)

end Looper

/-! ### What a closure does -/

mutual

/-- What running a closure comes to, and the panic that comes out of it. -/
def Errand.run (e : Errand) : List Looper.Act × Option Payload :=
  match e with
  | ⟨name, _, keep, sends, panic⟩ =>
    let owned := if keep || !sends.isEmpty then [Looper.Act.letGo] else []
    match runSends sends with
    | (acts, some payload) => (.begin name :: acts ++ owned, some payload)
    | (acts, none) => (.begin name :: acts ++ .finish name :: owned, panic)

/-- Sending errands from a closure that runs: up to the first that panics at once. -/
def Errand.runSends (sends : List Errand) : List Looper.Act × Option Payload :=
  match sends with
  | [] => ([], none)
  | e :: rest =>
    let owned := if e.ownsHandle then [Looper.Act.clone] else []
    if e.inline then
      match e.run with
      | (acts, some payload) => (owned ++ acts, some payload)
      | (acts, none) =>
        (owned ++ acts ++ .sent e.name true :: (runSends rest).1, (runSends rest).2)
    else (owned ++ .post e true :: (runSends rest).1, (runSends rest).2)

end

structure Looper where
  /-- The main thread. -/
  thread : ThreadId
  /-- Whether the looper is still there to take messages. -/
  present : Bool
  /-- Handles alive. -/
  handles : Nat
  queue : List Message
  nextTicket : Nat
  now : Instant
  /-- Newest first. -/
  journal : List Looper.Event

namespace Looper

/-- The thread becomes a main thread. -/
def new (thread : ThreadId) : Looper := ⟨thread, true, 0, [], 0, ⟨0⟩, []⟩

def record (e : Event) (s : Looper) : Looper := { s with journal := e :: s.journal }

/-- Whether a thread is the main one. -/
def isCurrent (me : ThreadId) (s : Looper) : Bool := me = s.thread

/-- The number that diagnostics show for a thread: they count from one. -/
def threadNumber : ThreadId → Nat
  | .caller n => n + 1
  | .worker n => n + 1

/-- The form of a handle in diagnostics. -/
def handleText (s : Looper) : String :=
  "MainHandle \x7b thread_id: ThreadId(" ++ toString (threadNumber s.thread) ++ ") \x7d"

/-- Puts a closure into the queue. -/
def enqueue (e : Errand) (s : Looper) : Looper :=
  { s with queue := s.queue ++ [.errand s.nextTicket e]
           nextTicket := s.nextTicket + 1
           journal := .posted s.nextTicket :: s.journal }

/-- What running a closure comes to on the loop, which catches panics. -/
def runCaught (e : Errand) : List Act := e.run.1 ++ (e.run.2.map Act.caught).toList

/-- Carries out an act: `none` if the thread must wait, or is done. -/
def step (a : Act) (s : Looper) : Option (List Act × Looper) :=
  match a with
  | .begin name => some ([], s.record (.started name s.thread))
  | .finish name => some ([], s.record (.ended name))
  | .clone => some ([], { s with handles := s.handles + 1 })
  | .letGo => some (if s.handles = 1 then [.release] else [], { s with handles := s.handles - 1 })
  | .release => some ([], if s.present then { s with queue := s.queue ++ [.released] } else s)
  | .post e noted =>
    if s.present then some (if noted then [.sent e.name true] else [], s.enqueue e)
    else some (.discard e :: if noted then [.sent e.name false] else [], s)
  | .discard e =>
    some (if e.ownsHandle then [.letGo] else [], s.record (.discarded e.name))
  | .sent name accepted => some ([], s.record (.sent name accepted))
  | .caught payload => some ([], s.record (.panicked payload))
  | .check patience ran =>
    if 0 < s.handles then some ([.receive patience ran], s)
    else match patience with
      | .forever => some ([.drain ran], s.record (.finished ran))
      | .until _ => some ([.drain ran], s)
  | .receive patience ran =>
    match s.queue, patience with
    | .errand ticket e :: rest, _ =>
      some (runCaught e ++ [.check patience (ran + 1)],
        { s with queue := rest, journal := .taken ticket s.now :: s.journal })
    | .released :: rest, _ => some ([.check patience ran], { s with queue := rest })
    | [], .forever => none
    | [], .until deadline => if deadline.nanos ≤ s.now.nanos then some ([.done ran], s) else none
  | .drain ran =>
    match s.queue with
    | .errand ticket e :: rest =>
      some (runCaught e ++ [.drain (ran + 1)],
        { s with queue := rest, journal := .taken ticket s.now :: s.journal })
    | .released :: rest => some ([.drain ran], { s with queue := rest })
    | [] => some ([.done ran], s)
  | .done _ => none

/-- The log line of an event that has one. -/
def Event.logLine? : Event → Option LogLine
  | .panicked payload => some ⟨.error, "Main thread task panicked", [("panic", payload.message)]⟩
  | .finished ran => some ⟨.trace, "Main looper finished", [("ran", toString ran)]⟩
  | _ => none

end Looper

end TwoTier
