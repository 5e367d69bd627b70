import TwoTier.Event
import TwoTier.Reply

/-!
Submitting work and waiting for it, over any executor.

An `Executor` takes work, with the inbox for its ending if somebody waits for it, or refuses it
with an error. On top of that stand submission with a handle, all results of a list of tasks in
their order, and the first result of a list of tasks. Waiting for something that will never come
has no answer: these functions then give `none`.
-/

namespace TwoTier

/-- How the call that hands work to an executor ends. -/
inductive Outcome where
  | taken
  | refused (why : Error)
  /-- A panic comes out of the call: that of work that ran at once, or one of the call's own. -/
  | panicked
deriving DecidableEq, Repr

/-- What a call answers when it returns. -/
def Outcome.result : Outcome → Except Error Unit
  | .refused why => .error why
  | _ => .ok ()

def Outcome.ofResult : Except Error Unit → Outcome
  | .ok () => .taken
  | .error why => .refused why

/-- Something that takes work. -/
class Executor (ε : Type) (ν : outParam Type) where
  /-- Work is handed in by a thread; the call is followed to its end. A closure that is refused
  is thrown away. -/
  execute : ThreadId → Work ν → Option Nat → ε → Except Error Unit × ε
  replies : ε → Replies ν
  setReplies : Replies ν → ε → ε
  /-- What goes on by itself while a caller waits for a result. -/
  whileWaiting : ε → ε := id

namespace Inbox

variable {ν : Type}

/-- Waits for an ending: `none` if it would wait for ever as things stand. -/
def join? (b : Inbox ν) : Option (Except Error ν) :=
  match b.receive.1 with
  | .ending e => some e.result
  | .closed => some (.error .taskDropped)
  | .nothingYet => none

/-- Waits for the first ending that is a value. If there is none, the last error is the answer,
counting from `lastError`; no error at all means that every task was thrown away. -/
def firstValue? (lastError : Option Error) (b : Inbox ν) : Option (Except Error ν) :=
  go lastError b.arrived
where
  go (lastError : Option Error) : List (Ending ν) → Option (Except Error ν)
    | [] => if b.senders = 0 then some (.error (lastError.getD .taskDropped)) else none
    | e :: rest =>
      match e.result with
      | .ok v => some (.ok v)
      | .error why => go (some why) rest

end Inbox

namespace Executor

variable {ε ν : Type} [Executor ε ν]

/-- Changes the inboxes of an executor. -/
def onReplies {α : Type} (f : Replies ν → α × Replies ν) (e : ε) : α × ε :=
  let (a, r) := f (replies e)
  (a, setReplies r e)

/-- Submits work and gives the number of the inbox for its result. -/
def submit (me : ThreadId) (work : Work ν) (e : ε) : Except Error Nat × ε :=
  let (i, e) := onReplies (Replies.openBox 1) e
  let (taken, e) := execute me work (some i) e
  (taken.map fun _ => i, e)

/-- Submits a list of works, one after the other. -/
def submitAll (me : ThreadId) : List (Work ν) → ε → List (Except Error Nat) × ε
  | [], e => ([], e)
  | w :: ws, e =>
    let (h, e) := submit me w e
    let (hs, e) := submitAll me ws e
    (h :: hs, e)

/-- The result of a submission: the refusal, or what the handle gives. -/
def joinSubmitted? (r : Replies ν) : Except Error Nat → Option (Except Error ν)
  | .error why => some (.error why)
  | .ok i => (r.get? i).bind Inbox.join?

/-- Submits all works, then waits for each in turn. -/
def invokeAll (me : ThreadId) (works : List (Work ν)) (e : ε) :
    Option (List (Except Error ν)) × ε :=
  let (handles, e) := submitAll me works e
  let e := whileWaiting e
  (handles.mapM (joinSubmitted? (replies e)), e)

/-- Submits works that share an inbox. The result counts those that were taken, and has the error
of the last that was not. -/
def submitShared (me : ThreadId) (box : Nat) :
    List (Work ν) → Nat → Option Error → ε → (Nat × Option Error) × ε
  | [], taken, lastError, e => ((taken, lastError), e)
  | w :: ws, taken, lastError, e =>
    let e := setReplies ((replies e).modify box Inbox.share) e
    match execute me w (some box) e with
    | (.ok (), e) => submitShared me box ws (taken + 1) lastError e
    | (.error why, e) => submitShared me box ws taken (some why) e

/-- The first result among those of a list of works. Without works there is nothing to run, and
if none was taken the last refusal is the answer. -/
def invokeAny (me : ThreadId) (works : List (Work ν)) (e : ε) : Option (Except Error ν) × ε :=
  let (box, e) := onReplies (Replies.openBox 1) e
  let ((taken, lastError), e) := submitShared me box works 0 none e
  let e := setReplies ((replies e).modify box Inbox.hangUp) e
  if taken = 0 then (some (.error (lastError.getD (.rejected .noTasks))), e)
  else
    let e := whileWaiting e
    (((replies e).get? box).bind (Inbox.firstValue? lastError), e)

end Executor

end TwoTier
