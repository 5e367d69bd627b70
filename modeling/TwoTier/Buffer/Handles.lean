import TwoTier.Buffer.Interleaving

/-!
Runs in which handles are read.

Work is submitted with a handle or without, handles are read, collective calls share inboxes, and
the executor may be let go with tasks in its backlog. `System.Happens` says what one moment may
bring and notes what it means for handles: that a closure begins to run, ends, is about to be thrown
away, or is gone. `System.Chronicle` collects the notes of a run.

A thread may submit work with a handle whatever it is doing, also where no closure would. The
executor is let go only while no thread has hold of it.
-/

namespace TwoTier

variable {σ ν : Type}

/-- What becomes of a closure. -/
inductive Mark (ν : Type) where
  | started
  | ended (e : Ending ν)
  /-- It is being thrown away without having run. -/
  | condemned
  | gone
deriving DecidableEq, Repr

/-- What happens to the handle of a given number. -/
inductive Note (ν : Type) where
  | submitted (handle : Nat) (work : Work ν)
  | fate (handle : Nat) (m : Mark ν)
  | read (handle : Nat) (result : Except Error ν)

namespace Note

variable (i : Nat)

@[simp] def work? : Note ν → Option (Work ν)
  | .submitted j work => if j = i then some work else none
  | .fate _ _ | .read _ _ => none

@[simp] def mark? : Note ν → Option (Mark ν)
  | .fate j m => if j = i then some m else none
  | .submitted _ _ | .read _ _ => none

@[simp] def result? : Note ν → Option (Except Error ν)
  | .read j result => if j = i then some result else none
  | .submitted _ _ | .fate _ _ => none

/-- The work submitted with a handle, what became of its closure, and what was read. -/
def works (h : List (Note ν)) : List (Work ν) := h.filterMap (work? i)

def marks (h : List (Note ν)) : List (Mark ν) := h.filterMap (mark? i)

def results (h : List (Note ν)) : List (Except Error ν) := h.filterMap (result? i)

end Note

namespace Frame

/-- What a step from a frame notes. -/
@[simp] def notes : Frame ν → List (Note ν)
  | .start c => c.reply.toList.map (.fate · .started)
  | .finish c => c.reply.toList.map (.fate · (.ended c.work.ending))
  | .discard c => c.reply.toList.map (.fate · .condemned)
  | .hangUp reply => reply.toList.map (.fate · .gone)
  | _ => []

/-- A call that still has to make the closure of a handle. -/
def asking : Frame ν → Bool
  | .submit _ (some _) => true
  | _ => false

/-- The frames whose thread has hold of the executor. A closure has not, nor has a completion that
has still to look whether the executor is there. -/
def engages : Frame ν → Bool
  | .submit _ none | .job _ _ | .completed _ | .start _ | .atGate _ | .finish _ | .discard _
  | .hangUp _ => false
  | _ => true

end Frame

/-- Whether a call comes without a handle. -/
def Call.bare : Call ν → Bool
  | .submit _ (some _) => false
  | _ => true

namespace System

/-- Puts frames on top of a thread's stack. -/
def interrupt (t : ThreadId) (stack : List (Frame ν)) (y : System σ ν) : System σ ν :=
  y.assign t (stack ++ y.threads.get t)

def withReplies (r : Replies ν) (y : System σ ν) : System σ ν :=
  { y with scene := { y.scene with world := { y.scene.world with replies := r } } }

/-- A thread submits work whose ending goes to an inbox that others share. -/
def enlist (t : ThreadId) (work : Work ν) (j : Nat) (y : System σ ν) : System σ ν :=
  (y.withReplies (y.scene.world.replies.modify j Inbox.share)).interrupt t [.submit work (some j)]

/-- A thread submits work with a new handle. -/
def ask (t : ThreadId) (work : Work ν) (y : System σ ν) : System σ ν :=
  (y.withReplies (y.scene.world.replies.openBox 1).2).interrupt t
    [.submit work (some (y.scene.world.replies.openBox 1).1)]

def notes (t : ThreadId) (y : System σ ν) : List (Note ν) :=
  match y.threads.get t with
  | [] => []
  | f :: _ => f.notes

variable [WorkerPool σ (Task ν)]

/-- The scene in which the last holder has let the executor go. -/
def letGo (y : System σ ν) : System σ ν :=
  { y with scene := { y.scene with
      alive := false
      exec := { y.scene.exec with
        pool := WorkerPool.release y.scene.exec.pool, backlog := [], flight := none } } }

/-- What may happen at any moment after a history, and what it means for handles. How the pool may
change by itself and which jobs it may give up are parameters. -/
inductive Happens (moves : σ → σ → Prop) (yields : σ → Task ν → σ → Prop) (past : List (Note ν))
    (y : System σ ν) : List (Note ν) → System σ ν → Prop where
  /-- A thread takes a step. -/
  | turn {z : System σ ν} (t : ThreadId) (h : y.turn? t = some z) :
      Happens moves yields past y (y.notes t) z
  /-- A thread submits work with a new handle, whatever it was doing. -/
  | submit (t : ThreadId) (work : Work ν) (alive : y.scene.alive = true) :
      Happens moves yields past y [.submitted (y.scene.world.replies.openBox 1).1 work] (y.ask t work)
  /-- An idle thread makes another call. -/
  | call (t : ThreadId) (c : Call ν) (idle : y.threads.get t = []) (bare : c.bare = true) :
      Happens moves yields past y [] (y.assign t [c.frame])
  /-- A collective call opens an inbox for several endings. -/
  | gather (n : Nat) :
      Happens moves yields past y [] (y.withReplies (y.scene.world.replies.openBox n).2)
  /-- A collective call submits one of its works. -/
  | enlist (t : ThreadId) (work : Work ν) (j : Nat) (alive : y.scene.alive = true)
      (opened : y.scene.world.replies.get? j ≠ none) (shared : Note.works j past = []) :
      Happens moves yields past y [] (y.enlist t work j)
  /-- A collective call reads its inbox, or will send nothing to it any more. -/
  | tend (j : Nat) (change : Inbox ν → Inbox ν) (shared : Note.works j past = []) :
      Happens moves yields past y [] (y.withReplies (y.scene.world.replies.modify j change))
  /-- An idle thread finishes a job that it takes from the pool. -/
  | finish (t : ThreadId) (job : Task ν) (mode : FinishMode) (pool : σ)
      (idle : y.threads.get t = []) (h : yields y.scene.exec.pool job pool) :
      Happens moves yields past y []
        { scene := { y.scene with exec := { y.scene.exec with pool } }
          threads := y.threads.set t [.job job mode.acts] }
  /-- An idle thread finishes a job that a stop handed back. -/
  | finishReturned (t : ThreadId) (before after : List (Task ν)) (job : Task ν)
      (mode : FinishMode) (idle : y.threads.get t = [])
      (h : y.scene.returned = before ++ job :: after) :
      Happens moves yields past y []
        { scene := { y.scene with returned := before ++ after }
          threads := y.threads.set t [.job job mode.acts] }
  /-- The pool changes by itself. -/
  | pool (pool : σ) (h : moves y.scene.exec.pool pool) :
      Happens moves yields past y []
        { y with scene := { y.scene with exec := { y.scene.exec with pool } } }
  /-- A handle is read without waiting. -/
  | read (i : Nat) (result : Except Error ν) (replies : Replies ν)
      (h : y.scene.world.replies.joinNow? i = some (result, replies)) :
      Happens moves yields past y [.read i result] (y.withReplies replies)
  /-- The last holder of the executor lets it go, and its thread throws the backlog away. -/
  | letGo (t : ThreadId) (free : ∀ u, ∀ f ∈ y.threads.get u, f.engages = false) :
      Happens moves yields past y []
        (y.letGo.interrupt t (y.scene.exec.backlog.map fun job => .job job FinishMode.dropOnly.acts))

/-- What can come of a system in any number of moments, with all that was noted. -/
inductive Chronicle (moves : σ → σ → Prop) (yields : σ → Task ν → σ → Prop) (y : System σ ν) :
    List (Note ν) → System σ ν → Prop where
  | refl : Chronicle moves yields y [] y
  | tail {h more : List (Note ν)} {z w : System σ ν} : Chronicle moves yields y h z →
      Happens moves yields h z more w → Chronicle moves yields y (h ++ more) w

end System

end TwoTier
