import TwoTier.Buffer.Handles
import TwoTier.Proofs.Onlookers

/-!
Schedules, and what onlookers see of them.

A schedule says moment by moment what threads and pool do and what callers ask for, so that it fixes
a run (`System.after?`). After each moment an onlooker notes whether it could come, what was read
from an inbox, and how executor, pool and journal then stand (`Onlooker.watch`).

If two executors look alike to an onlooker, and so do their schedules, then the onlooker notes the
same (`Onlooker.watch_alike`).
-/

namespace TwoTier

/-! ### Notes -/

section Notes

variable {M N S T V : Type}

/-- What is noted in the course of a schedule: moment by moment, what there is to see before and
after it. What cannot come changes nothing. -/
def notes (after? : S → M → Option S) (look : Bool → M → S → S → V) : List M → S → List V
  | [], _ => []
  | m :: schedule, s =>
    let s' := (after? s m).getD s
    look (after? s m).isSome m s s' :: notes after? look schedule s'

variable {after? : S → M → Option S} {look : Bool → M → S → S → V}

/-- The same is noted of alike schedules from alike states, as long as alike moments lead from alike
states to alike states. -/
theorem notes_alike {g : M → N} {h : S → T} {P : S → Prop}
    (kept : ∀ s m s', P s → after? s m = some s' → P s')
    (step : ∀ s t m n, P s → P t → h s = h t → g m = g n →
      (after? s m).map h = (after? t n).map h)
    (same : ∀ came s t s' t' m n, h s = h t → h s' = h t' → g m = g n →
      look came m s s' = look came n t t')
    {schedule schedule' : List M} (schedules : schedule.map g = schedule'.map g) {s t : S}
    (hs : P s) (ht : P t) (states : h s = h t) :
    notes after? look schedule s = notes after? look schedule' t := by
  induction schedule generalizing schedule' s t with
  | nil =>
      obtain rfl := List.map_eq_nil_iff.mp schedules.symm
      rfl
  | cons m rest ih =>
      obtain ⟨n, rest', rfl, one, more⟩ := List.map_eq_cons_iff.mp schedules.symm
      have after := step s t m n hs ht states one.symm
      unfold notes
      cases left : after? s m with
      | none =>
          rw [left] at after
          obtain right : after? t n = none := Option.map_eq_none_iff.mp after.symm
          rw [right]
          exact congrArg₂ List.cons (same false s t s t m n states states one.symm)
            (ih more.symm hs ht states)
      | some s' =>
          rw [left] at after
          obtain ⟨t', right, alike⟩ := Option.map_eq_some_iff.mp after.symm
          rw [right]
          exact congrArg₂ List.cons (same true s t s' t' m n states alike.symm one.symm)
            (ih more.symm (kept s m s' hs left) (kept t n t' ht right) alike.symm)

end Notes

variable {σ σ' ν μ π π' : Type}

/-! ### Moments -/

/-- What may happen at a moment. What the pool may do is a parameter. -/
inductive Moment (ν π : Type) where
  /-- A thread takes a step. -/
  | turn (t : ThreadId)
  /-- An idle thread makes a call without a new handle. -/
  | call (t : ThreadId) (c : Call ν)
  /-- A thread submits work with a new handle, whatever it was doing. -/
  | ask (t : ThreadId) (work : Work ν)
  /-- A collective call opens an inbox for several endings. -/
  | gather (senders : Nat)
  /-- A collective call submits one of its works. -/
  | enlist (t : ThreadId) (work : Work ν) (box : Nat)
  /-- A collective call will send nothing to its inbox any more. -/
  | hangUp (box : Nat)
  /-- An inbox is read without waiting. -/
  | read (box : Nat)
  /-- An idle thread finishes a job that a stop handed back. -/
  | finishReturned (t : ThreadId) (index : Nat) (mode : FinishMode)
  | openGate (gate : String)
  | sleep (d : Duration)
  /-- Somebody has the register scanned. -/
  | scan
  /-- The last holder of the executor lets it go, and its thread throws the backlog away. -/
  | letGo (t : ThreadId)
  | pool (move : π)

def Call.map (f : Ending ν → Ending μ) : Call ν → Call μ
  | .submit work reply => .submit (work.map f) reply
  | .shutdown => .shutdown
  | .shutdownNow => .shutdownNow

def Received.map (f : Ending ν → Ending μ) : Received ν → Received μ
  | .ending e => .ending (f e)
  | .closed => .closed
  | .nothingYet => .nothingYet

/-- The same moment with other endings, and with another pool's move. -/
def Moment.map (f : Ending ν → Ending μ) (g : π → π') : Moment ν π → Moment μ π'
  | .turn t => .turn t
  | .call t c => .call t (c.map f)
  | .ask t work => .ask t (work.map f)
  | .gather senders => .gather senders
  | .enlist t work box => .enlist t (work.map f) box
  | .hangUp box => .hangUp box
  | .read box => .read box
  | .finishReturned t index mode => .finishReturned t index mode
  | .openGate gate => .openGate gate
  | .sleep d => .sleep d
  | .scan => .scan
  | .letGo t => .letGo t
  | .pool move => .pool (g move)

theorem Inbox.found_map (f : Ending ν → Ending μ) (b : Inbox ν) :
    (b.map f).receive.1 = b.receive.1.map f := by
  rcases b with ⟨_ | ⟨e, rest⟩, senders⟩
  · by_cases none : senders = 0 <;> simp [map, receive, Received.map, none]
  · rfl

/-- What is found in an inbox with other endings is what was found there, with other endings. -/
theorem Replies.found_map (f : Ending ν → Ending μ) (r : Replies ν) (box : Nat) :
    ((r.map f).get? box).map (fun b => b.receive.1)
      = ((r.get? box).map fun b => b.receive.1).map (Received.map f) := by
  simp only [get?, map, List.getElem?_map, Option.map_map]
  exact Option.map_congr fun b _ => b.found_map f

namespace System

/-- Whether a thread has nothing to do. -/
def rests (t : ThreadId) (y : System σ ν) : Bool := (y.threads.get t).isEmpty

/-- Whether no thread has hold of the executor. -/
def unheld (y : System σ ν) : Bool := y.threads.entries.all fun e => e.2.all fun f => !f.engages

/-- What a moment finds in an inbox. -/
def found? (y : System σ ν) : Moment ν π → Option (Received ν)
  | .read box => (y.scene.world.replies.get? box).map fun b => b.receive.1
  | _ => none

variable [WorkerPool σ (Task ν)]

/-- What comes of a moment, if it can come. What the moves of the pool do is a parameter. -/
def after? (play : π → System σ ν → Option (System σ ν)) (y : System σ ν) :
    Moment ν π → Option (System σ ν)
  | .turn t => y.turn? t
  | .call t c => if y.rests t then some (y.assign t [c.frame]) else none
  | .ask t work => if y.scene.alive then some (y.ask t work) else none
  | .gather senders => some (y.withReplies (y.scene.world.replies.openBox senders).2)
  | .enlist t work box => if y.scene.alive then some (y.enlist t work box) else none
  | .hangUp box => some (y.withReplies (y.scene.world.replies.hangUp (some box)))
  | .read box =>
    some (y.withReplies (y.scene.world.replies.modify box fun b => b.receive.2))
  | .finishReturned t index mode =>
    if y.rests t then
      y.scene.returned[index]?.map fun job =>
        { scene := { y.scene with returned := y.scene.returned.eraseIdx index }
          threads := y.threads.set t [.job job mode.acts] }
    else none
  | .openGate gate => some { y with scene := { y.scene with world := y.scene.world.openGate gate } }
  | .sleep d => some { y with scene := y.scene.sleep d }
  | .scan => if y.scene.alive then some { y with scene := y.scene.scan.2 } else none
  | .letGo t =>
    if y.scene.alive && y.unheld then
      some (y.letGo.interrupt t
        (y.scene.exec.backlog.map fun job => .job job FinishMode.dropOnly.acts))
    else none
  | .pool move => play move y

end System

/-! ### What is seen -/

/-- What an onlooker notes at a moment. -/
structure Sight (π ν : Type) where
  /-- Whether the moment could come; else nothing happens. -/
  came : Bool
  found : Option (Received ν)
  pool : π
  /-- Newest first, like all journals. -/
  events : List Event
  replies : Replies ν
  alive : Bool
  band : CoreBand
  backlog : List TaskId
  /-- The jobs that stops have handed back. -/
  returned : List TaskId
  admitted : Nat
  rejected : Nat
  dropped : Nat
  peakBacklog : Nat

namespace Onlooker

variable (o : Onlooker σ ν σ' μ)

def sight (came : Bool) (found : Option (Received ν)) (y : System σ ν) : Sight σ' μ where
  came := came
  found := found.map (Received.map o.ending)
  pool := o.pool y.scene.exec.pool
  events := y.scene.world.journal.filter o.sees
  replies := y.scene.world.replies.map o.ending
  alive := y.scene.alive
  band := y.scene.exec.band
  backlog := y.scene.exec.backlog.map Task.id
  returned := y.scene.returned.map Task.id
  admitted := y.scene.exec.admitted
  rejected := y.scene.exec.rejected
  dropped := y.scene.exec.dropped
  peakBacklog := y.scene.exec.peakBacklog

/-- What an onlooker notes in the course of a schedule. -/
def watch [WorkerPool σ (Task ν)] (play : π → System σ ν → Option (System σ ν)) :
    List (Moment ν π) → System σ ν → List (Sight σ' μ) :=
  notes (System.after? play) fun came m y z => o.sight came (y.found? m) z

end Onlooker

/-! ### Threads and systems that are seen -/

namespace Stacks

/-- Stacks of frames that are seen otherwise. -/
def map (f : Frame ν → Frame μ) (k : Stacks ν) : Stacks μ where
  entries := k.entries.map fun e => (e.1, e.2.map f)
  distinct := by
    rw [List.map_map]
    exact k.distinct

variable (f : Frame ν → Frame μ)

theorem find_map (t : ThreadId) (l : List (ThreadId × List (Frame ν))) :
    find t (l.map fun e => (e.1, e.2.map f)) = (find t l).map f := by
  induction l with
  | nil => rfl
  | cons e l ih =>
      simp only [List.map_cons, find, ih]
      split <;> rfl

theorem without_map (t : ThreadId) (l : List (ThreadId × List (Frame ν))) :
    without t (l.map fun e => (e.1, e.2.map f)) = (without t l).map fun e => (e.1, e.2.map f) := by
  induction l with
  | nil => rfl
  | cons e l ih =>
      simp only [List.map_cons, without, ih]
      split <;> rfl

@[simp] theorem get_map (t : ThreadId) (k : Stacks ν) : (k.map f).get t = (k.get t).map f :=
  find_map f t k.entries

theorem set_map (t : ThreadId) (stack : List (Frame ν)) (k : Stacks ν) :
    (k.map f).set t (stack.map f) = (k.set t stack).map f := by
  cases stack <;> simp [set, map, without_map]

end Stacks

namespace Onlooker

variable (o : Onlooker σ ν σ' μ) {x y z : System σ ν} {t : ThreadId}

def system (y : System σ ν) : System σ' μ := ⟨o.scene y.scene, y.threads.map o.frame⟩

@[simp] theorem rests_system : (o.system y).rests t = y.rests t := by
  simp [System.rests, system]

@[simp] theorem engages_frame (f : Frame ν) : (o.frame f).engages = f.engages := by
  cases f with
  | submit work reply => cases reply <;> rfl
  | _ => rfl

@[simp] theorem unheld_system : (o.system y).unheld = y.unheld := by
  simp [System.unheld, system, Stacks.map, Function.comp_def]

theorem frame_call (c : Call ν) : o.frame c.frame = (c.map o.ending).frame := by
  cases c <;> rfl

theorem system_assign (stack : List (Frame ν)) :
    (o.system y).assign t (stack.map o.frame) = o.system (y.assign t stack) :=
  congrArg (System.mk _) (Stacks.set_map o.frame t stack y.threads)

theorem system_interrupt (stack : List (Frame ν)) :
    (o.system y).interrupt t (stack.map o.frame) = o.system (y.interrupt t stack) := by
  have under : (o.system y).threads.get t = (y.threads.get t).map o.frame :=
    Stacks.get_map o.frame t y.threads
  unfold System.interrupt
  rw [under, ← List.map_append, system_assign]

/-- Sights of what looks alike are the same. -/
theorem sight_alike (alike : o.system x = o.system y) (came : Bool) {a b : Option (Received ν)}
    (found : a.map (Received.map o.ending) = b.map (Received.map o.ending)) :
    o.sight came a x = o.sight came b y := by
  have ids (ts : List (Task ν)) : ts.map Task.id = (ts.map o.task).map Task.id := by
    rw [List.map_map]
    rfl
  have seen (a : Option (Received ν)) (y : System σ ν) : o.sight came a y =
      { came := came
        found := a.map (Received.map o.ending)
        pool := (o.system y).scene.exec.pool
        events := (o.system y).scene.world.journal
        replies := (o.system y).scene.world.replies
        alive := (o.system y).scene.alive
        band := (o.system y).scene.exec.band
        backlog := (o.system y).scene.exec.backlog.map Task.id
        returned := (o.system y).scene.returned.map Task.id
        admitted := (o.system y).scene.exec.admitted
        rejected := (o.system y).scene.exec.rejected
        dropped := (o.system y).scene.exec.dropped
        peakBacklog := (o.system y).scene.exec.peakBacklog } := by
    unfold sight
    rw [ids, ids]
    rfl
  rw [seen, seen, alike, found]

theorem found_system (g : π → π') (m : Moment ν π) :
    (o.system y).found? (m.map o.ending g) = (y.found? m).map (Received.map o.ending) := by
  cases m with
  | read box => exact Replies.found_map o.ending y.scene.world.replies box
  | _ => rfl

theorem ask_system (work : Work ν) :
    (o.system y).ask t (work.map o.ending) = o.system (y.ask t work) := by
  have opened := Replies.openBox_map o.ending y.scene.world.replies 1
  have box : (o.system y).scene.world.replies.openBox 1 = _ := opened.symm
  unfold System.ask
  rw [box]
  exact o.system_interrupt (y := y.withReplies (y.scene.world.replies.openBox 1).2)
    [.submit work (some (y.scene.world.replies.openBox 1).1)]

theorem enlist_system (work : Work ν) (box : Nat) :
    (o.system y).enlist t (work.map o.ending) box = o.system (y.enlist t work box) := by
  have shared : (o.system y).scene.world.replies.modify box Inbox.share = _ :=
    (Replies.modify_map o.ending _ box (Inbox.map_share o.ending)).symm
  unfold System.enlist
  rw [shared]
  exact o.system_interrupt (y := y.withReplies (y.scene.world.replies.modify box Inbox.share))
    [.submit work (some box)]

theorem finishReturned_system (job : Task ν) (mode : FinishMode) (left : List (Task ν)) :
    ({ scene := { (o.system y).scene with returned := left.map o.task }
       threads := (o.system y).threads.set t [.job (o.task job) mode.acts] } : System σ' μ)
      = o.system { scene := { y.scene with returned := left }
                   threads := y.threads.set t [.job job mode.acts] } :=
  congrArg (System.mk _) (Stacks.set_map o.frame t [.job job mode.acts] y.threads)

/-! ### Moments that are seen -/

section Moments

variable [WorkerPool σ (Task ν)] [WorkerPool σ' (Task μ)]

/-- The pool answers alike all offers that are about to be made. -/
def Offering (y : System σ ν) : Prop :=
  ∀ t f under, y.threads.get t = f :: under →
    ∀ job draining refused, f = .offer job draining refused → o.Offers job y.scene.exec.pool

theorem turn_system (sound : o.Sound) (fair : o.Fair) (offering : o.Offering y) :
    (o.system y).turn? t = (y.turn? t).map o.system := by
  have get : (o.system y).threads.get t = (y.threads.get t).map o.frame :=
    Stacks.get_map o.frame t y.threads
  unfold System.turn?
  rw [get]
  cases top : y.threads.get t with
  | nil => rfl
  | cons f under =>
      simp only [List.map_cons]
      have step : (o.system y).scene.step t (o.frame f) = (y.scene.step t f).map o.frames :=
        o.scene_step sound fair t f y.scene (offering t f under top)
      rw [step, Option.map_map, Option.map_map]
      refine Option.map_congr fun ⟨new, s⟩ _ => ?_
      have set := Stacks.set_map o.frame t (new ++ under) y.threads
      rw [List.map_append] at set
      exact congrArg (System.mk _) set

theorem letGo_system (fair : o.Fair) : (o.system y).letGo = o.system y.letGo := by
  simp [System.letGo, system, scene, buffer, fair.release]

/-- To see what comes of a moment is to have it come to what was seen before. Only the clock goes
on unseen. -/
theorem after_system (sound : o.Sound) (fair : o.Fair)
    {play : π → System σ ν → Option (System σ ν)} {play' : π' → System σ' μ → Option (System σ' μ)}
    {g : π → π'} (plays : ∀ x, play' (g x) (o.system y) = (play x y).map o.system)
    (offering : o.Offering y) (m : Moment ν π) (wakeful : ∀ d, m ≠ .sleep d) :
    (o.system y).after? play' (m.map o.ending g) = (y.after? play m).map o.system := by
  have alive : (o.system y).scene.alive = y.scene.alive := rfl
  cases m with
  | turn t => exact o.turn_system sound fair offering
  | call t c =>
      simp only [Moment.map, System.after?, rests_system]
      split
      · exact congrArg some (o.frame_call c ▸ o.system_assign [c.frame])
      · rfl
  | ask t work =>
      simp only [Moment.map, System.after?, alive]
      split
      · exact congrArg some (o.ask_system work)
      · rfl
  | gather senders =>
      have opened := congrArg Prod.snd (Replies.openBox_map o.ending y.scene.world.replies senders)
      exact congrArg (fun r => some ((o.system y).withReplies r)) opened.symm
  | enlist t work box =>
      simp only [Moment.map, System.after?, alive]
      split
      · exact congrArg some (o.enlist_system work box)
      · rfl
  | hangUp box =>
      have hungUp := Replies.hangUp_map o.ending y.scene.world.replies (some box)
      exact congrArg (fun r => some ((o.system y).withReplies r)) hungUp.symm
  | read box =>
      have taken := Replies.modify_map o.ending y.scene.world.replies box
        (g := fun b => b.receive.2) (h := fun b => b.receive.2) (Inbox.map_receive o.ending)
      exact congrArg (fun r => some ((o.system y).withReplies r)) taken.symm
  | finishReturned t index mode =>
      have found : (o.system y).scene.returned[index]? = y.scene.returned[index]?.map o.task :=
        List.getElem?_map
      have left : (o.system y).scene.returned.eraseIdx index
          = (y.scene.returned.eraseIdx index).map o.task := List.eraseIdx_map _ _ _
      simp only [Moment.map, System.after?, rests_system, found, left]
      split
      · rw [Option.map_map, Option.map_map]
        exact Option.map_congr fun job _ => o.finishReturned_system job mode _
      · rfl
  | openGate gate => rfl
  | sleep d => exact absurd rfl (wakeful d)
  | scan =>
      have scanned : o.system { y with scene := y.scene.scan.2 } = o.system y :=
        congrArg (fun s => System.mk s (y.threads.map o.frame)) (o.scene_scan y.scene sound)
      simp only [Moment.map, System.after?, alive]
      split
      · exact congrArg some scanned.symm
      · rfl
  | letGo t =>
      simp only [Moment.map, System.after?, alive, unheld_system]
      split
      · have left :
            (o.system y).scene.exec.backlog.map (fun job => .job job FinishMode.dropOnly.acts)
              = (y.scene.exec.backlog.map fun job =>
                  .job job FinishMode.dropOnly.acts).map o.frame := by
          simp [system, scene, buffer, frame]
        rw [o.letGo_system fair, left]
        exact congrArg some (o.system_interrupt _)
      · rfl
  | pool move => exact plays move

variable {play : π → System σ ν → Option (System σ ν)}
  {play' : π' → System σ' μ → Option (System σ' μ)} {g : π → π'}

/-- What comes of alike moments looks alike. -/
theorem after_alike (sound : o.Sound) (fair : o.Fair)
    (plays : ∀ move y, play' (g move) (o.system y) = (play move y).map o.system)
    (hx : o.Offering x) (hy : o.Offering y) (alike : o.system x = o.system y) {m m' : Moment ν π}
    (same : m.map o.ending g = m'.map o.ending g) :
    (x.after? play m).map o.system = (y.after? play m').map o.system := by
  by_cases asleep : ∃ d, m = .sleep d
  · obtain ⟨d, rfl⟩ := asleep
    cases m' with
    | sleep d' => exact congrArg some alike
    | _ => simp [Moment.map] at same
  · have wakeful : ∀ d, m ≠ .sleep d := fun d eq => asleep ⟨d, eq⟩
    have wakeful' : ∀ d, m' ≠ .sleep d := by
      rintro d rfl
      cases m with
      | sleep d' => exact wakeful d' rfl
      | _ => simp [Moment.map] at same
    rw [← o.after_system sound fair (fun move => plays move x) hx m wakeful,
      ← o.after_system sound fair (fun move => plays move y) hy m' wakeful', alike, same]

/-- Alike executors with alike schedules give the same sights, as long as the pool answers alike. -/
theorem watch_alike (sound : o.Sound) (fair : o.Fair)
    (plays : ∀ move y, play' (g move) (o.system y) = (play move y).map o.system)
    {P : System σ ν → Prop} (offering : ∀ y, P y → o.Offering y)
    (kept : ∀ y m z, P y → y.after? play m = some z → P z) {schedule schedule' : List (Moment ν π)}
    (same : schedule.map (Moment.map o.ending g) = schedule'.map (Moment.map o.ending g))
    (alike : o.system x = o.system y) (hx : P x) (hy : P y) :
    o.watch play schedule x = o.watch play schedule' y := by
  refine notes_alike kept ?_ ?_ same hx hy alike
  · intro x y m n hx hy alike one
    exact o.after_alike sound fair plays (offering x hx) (offering y hy) alike one
  · intro came x y x' y' m n before after one
    refine o.sight_alike after came ?_
    rw [← o.found_system g m, ← o.found_system g n, before, one]

end Moments

end Onlooker

end TwoTier
