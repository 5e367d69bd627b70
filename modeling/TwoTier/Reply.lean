import TwoTier.Error
import TwoTier.Work

/-!
Inboxes for results.

An inbox receives the endings of the closures that were made for it. It knows how many of them can
still send, so a reader can tell an ending that has not come from one that never will. A handle is
the number of an inbox with a single sender. Reading an ending takes it out, and reading again
then finds the inbox closed.
-/

namespace TwoTier

/-- What a caller learns from an ending. -/
def Ending.result {ν : Type} : Ending ν → Except Error ν
  | .value v => .ok v
  | .panic payload => .error (.taskPanicked payload.message)

structure Inbox (ν : Type) where
  /-- Endings sent and not yet read, oldest first. -/
  arrived : List (Ending ν)
  /-- Closures, and callers still submitting, that may yet send. -/
  senders : Nat

/-- What reading an inbox finds. -/
inductive Received (ν : Type) where
  | ending (e : Ending ν)
  /-- Nothing has come and nothing will. -/
  | closed
  /-- Nothing has come yet. -/
  | nothingYet

namespace Inbox

variable {ν : Type}

def withSenders (n : Nat) : Inbox ν := ⟨[], n⟩

def send (e : Ending ν) (b : Inbox ν) : Inbox ν := { b with arrived := b.arrived ++ [e] }

/-- One sender fewer. -/
def hangUp (b : Inbox ν) : Inbox ν := { b with senders := b.senders - 1 }

/-- One sender more. -/
def share (b : Inbox ν) : Inbox ν := { b with senders := b.senders + 1 }

def receive (b : Inbox ν) : Received ν × Inbox ν :=
  match b.arrived with
  | e :: rest => (.ending e, { b with arrived := rest })
  | [] => (if b.senders = 0 then .closed else .nothingYet, b)

/-- Whether an ending lies there unread. -/
def isFinished (b : Inbox ν) : Bool := !b.arrived.isEmpty

/-- A read that does not wait: a result, the loss of the task, or a timeout. -/
def joinNow (b : Inbox ν) : Except Error ν × Inbox ν :=
  match b.receive with
  | (.ending e, b) => (e.result, b)
  | (.closed, b) => (.error .taskDropped, b)
  | (.nothingYet, b) => (.error .timeout, b)

end Inbox

/-- All inboxes, by number. -/
structure Replies (ν : Type) where
  boxes : List (Inbox ν)

namespace Replies

variable {ν : Type}

def empty : Replies ν := ⟨[]⟩

/-- Opens an inbox with `senders` senders; its number is new. -/
def openBox (senders : Nat) (r : Replies ν) : Nat × Replies ν :=
  (r.boxes.length, ⟨r.boxes ++ [.withSenders senders]⟩)

def get? (i : Nat) (r : Replies ν) : Option (Inbox ν) := r.boxes[i]?

def modify (i : Nat) (f : Inbox ν → Inbox ν) (r : Replies ν) : Replies ν := ⟨r.boxes.modify i f⟩

/-- Sends an ending and lets the sender go: a closure's last act. -/
def deliver (box : Option Nat) (e : Ending ν) (r : Replies ν) : Replies ν :=
  match box with
  | none => r
  | some i => r.modify i fun b => (b.send e).hangUp

/-- A sender lets go without having sent. -/
def hangUp (box : Option Nat) (r : Replies ν) : Replies ν :=
  match box with
  | none => r
  | some i => r.modify i Inbox.hangUp

/-- Reads without waiting; `none` if there is no such inbox. -/
def joinNow? (i : Nat) (r : Replies ν) : Option (Except Error ν × Replies ν) :=
  (r.get? i).map fun b => (b.joinNow.1, r.modify i fun _ => b.joinNow.2)

def isFinished? (i : Nat) (r : Replies ν) : Option Bool := (r.get? i).map Inbox.isFinished

end Replies

end TwoTier
