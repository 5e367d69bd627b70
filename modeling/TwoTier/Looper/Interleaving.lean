import TwoTier.Looper.Run

/-!
Many threads at one looper.

The main thread and any number of other threads each have a list of acts to carry out, and take
turns act by act in any order. A thread that sends closures does so through a handle, which it
holds meanwhile; `Looper.Threads.spare` counts the handles that nobody is using. Time passes
between any two acts.
-/

namespace TwoTier.Looper

/-- What one call of a thread has still to do. -/
structure Business where
  acts : List Act
  /-- Whether the thread uses a handle for it, which is spare again afterwards. -/
  borrows : Bool

/-- A looper with all the threads that use it. -/
structure Threads where
  looper : Looper
  /-- The call that the main thread is in. -/
  main : Option Business
  /-- The calls that other threads are in. -/
  others : List Business
  spare : Nat

namespace Threads

def start (thread : ThreadId) : Threads := ⟨.new thread, none, [], 0⟩

/-- The number of a handle that a call gives back. -/
def Business.returns (b : Business) : Nat := if b.borrows then 1 else 0

/-- What may happen at any moment. -/
inductive Next : Threads → Threads → Prop where
  /-- The main thread carries out an act. -/
  | turn {y : Threads} {a : Act} {rest new : List Act} {borrows : Bool} {looper : Looper}
      (busy : y.main = some ⟨a :: rest, borrows⟩) (h : y.looper.step a = some (new, looper)) :
      Next y { y with looper, main := some ⟨new ++ rest, borrows⟩ }
  /-- A call of the main thread is over. -/
  | ends {y : Threads} {b : Business} (busy : y.main = some b)
      (ended : b.acts = [] ∨ ∃ n, b.acts = [.done n]) :
      Next y { y with main := none, spare := y.spare + Business.returns b }
  /-- Another thread carries out an act. -/
  | turnOther {y : Threads} {before after : List Business} {a : Act} {rest new : List Act}
      {borrows : Bool} {looper : Looper} (busy : y.others = before ++ ⟨a :: rest, borrows⟩ :: after)
      (h : y.looper.step a = some (new, looper)) :
      Next y { y with looper, others := before ++ ⟨new ++ rest, borrows⟩ :: after }
  /-- A call of another thread is over. -/
  | endsOther {y : Threads} {before after : List Business} {borrows : Bool}
      (busy : y.others = before ++ ⟨[], borrows⟩ :: after) :
      Next y { y with others := before ++ after
                      spare := y.spare + Business.returns ⟨[], borrows⟩ }
  /-- The main thread asks for a handle. -/
  | handle {y : Threads} (idle : y.main = none) :
      Next y { y with looper := y.looper.handle, spare := y.spare + 1 }
  /-- The holder of a handle clones it. -/
  | clone {y : Threads} (held : 0 < y.spare) :
      Next y { y with looper := y.looper.handle, spare := y.spare + 1 }
  /-- Another thread lets a handle go. -/
  | letGoOther {y : Threads} (held : 0 < y.spare) :
      Next y { y with others := ⟨[.letGo], false⟩ :: y.others, spare := y.spare - 1 }
  /-- The main thread lets a handle go. -/
  | letGo {y : Threads} (idle : y.main = none) (held : 0 < y.spare) :
      Next y { y with main := some ⟨[.letGo], false⟩, spare := y.spare - 1 }
  /-- Another thread sends a closure. -/
  | sendOther {y : Threads} (me : ThreadId) (e : Errand) (other : me ≠ y.looper.thread)
      (held : 0 < y.spare) :
      Next y { y with others := ⟨y.looper.sendActs me e, true⟩ :: y.others, spare := y.spare - 1 }
  /-- The main thread sends a closure. -/
  | send {y : Threads} (e : Errand) (idle : y.main = none) (held : 0 < y.spare) :
      Next y { y with main := some ⟨y.looper.sendActs y.looper.thread e, true⟩
                      spare := y.spare - 1 }
  /-- The main thread enters the loop. -/
  | loop {y : Threads} (patience : Patience) (idle : y.main = none) :
      Next y { y with main := some ⟨[.check patience 0], false⟩ }
  /-- The main thread runs what is in the queue. -/
  | pending {y : Threads} (idle : y.main = none) :
      Next y { y with main := some ⟨[.drain 0], false⟩ }
  /-- Time passes. -/
  | time {y : Threads} (nanos : Nat) :
      Next y { y with looper := { y.looper with now := y.looper.now.advance nanos } }

/-- What can come of a looper in any number of moments. -/
inductive Reaches (y : Threads) : Threads → Prop where
  | refl : Reaches y y
  | tail {z w : Threads} : Reaches y z → Next z w → Reaches y w

/-- The loop waits for a message, with an empty queue and no deadline. -/
def Blocked (y : Threads) : Prop :=
  y.looper.queue = [] ∧ ∃ ran rest borrows, y.main = some ⟨.receive .forever ran :: rest, borrows⟩

/-- Some thread is about to leave the message of the last holder. -/
def Releasing (y : Threads) : Prop :=
  ∃ b ∈ y.others, ∃ rest, b.acts = .release :: rest

end Threads

end TwoTier.Looper
