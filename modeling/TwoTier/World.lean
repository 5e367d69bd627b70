import TwoTier.Event
import TwoTier.Reply

/-!
What closures and executors share: a clock, numbers not yet given out, the inboxes of handles, the
gates that have been opened, and the journal.
-/

namespace TwoTier

structure World (ν : Type) where
  now : Instant
  nextTicket : Nat
  nextTask : Nat
  replies : Replies ν
  /-- The names of the gates that stand open. -/
  openGates : List String
  /-- Newest first. -/
  journal : List Event

namespace World

variable {ν : Type}

/-- Nothing has happened; the first task will have number one. -/
def fresh : World ν := ⟨⟨0⟩, 0, 1, .empty, [], []⟩

def record (e : Event) (w : World ν) : World ν := { w with journal := e :: w.journal }

@[simp] theorem journal_record (e : Event) (w : World ν) :
    (w.record e).journal = e :: w.journal := rfl

@[simp] theorem nextTask_record (e : Event) (w : World ν) :
    (w.record e).nextTask = w.nextTask := rfl

@[simp] theorem nextTicket_record (e : Event) (w : World ν) :
    (w.record e).nextTicket = w.nextTicket := rfl

@[simp] theorem openGates_record (e : Event) (w : World ν) :
    (w.record e).openGates = w.openGates := rfl

/-- The nanoseconds that a reading of the clock takes. -/
def clockTick : Nat := 1000

/-- Reads the clock, which is later with every reading. -/
def readClock (w : World ν) : Instant × World ν :=
  let now := w.now.advance clockTick
  (now, { w with now })

def sleep (d : Duration) (w : World ν) : World ν := { w with now := w.now.advance d.total }

/-- Makes a closure, with a ticket of its own. -/
def makeClosure (work : Work ν) (reply : Option Nat) (w : World ν) : Closure ν × World ν :=
  (⟨w.nextTicket, work, reply⟩, { w with nextTicket := w.nextTicket + 1 })

def takeTaskId (w : World ν) : TaskId × World ν :=
  (⟨w.nextTask⟩, { w with nextTask := w.nextTask + 1 })

def isOpen (gate : String) (w : World ν) : Bool := w.openGates.contains gate

def openGate (gate : String) (w : World ν) : World ν :=
  { w with openGates := gate :: w.openGates }

/-- A closure is thrown away without having run. -/
def throwAway (c : Closure ν) (w : World ν) : World ν :=
  let w := w.record (.discarded c.ticket c.work.name)
  { w with replies := w.replies.hangUp c.reply }

/-- A closure ends: its ending goes to its inbox, and a panic that no inbox takes reaches whoever
ran it. -/
def finish (c : Closure ν) (on : ThreadId) (w : World ν) : World ν :=
  match c.reply, c.work.ending with
  | some i, e => { w with replies := w.replies.deliver (some i) e }
  | none, .panic payload => w.record (.panicked c.work.name payload on)
  | none, .value _ => w

end World

end TwoTier
