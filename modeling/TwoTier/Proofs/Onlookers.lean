import TwoTier.Proofs.Traces

/-!
What an onlooker sees of a run.

An onlooker of an executor may be blind to some things. None sees the register of tasks in flight,
the traces kept for it, or the clock; beyond that an onlooker may be unable to tell some endings of
closures from others, may see only part of the pool, and overlooks some events (`Onlooker`).

Nothing that is overlooked has a say in what a thread does next: to see a step, and to take it from
what was seen before, is the same (`Onlooker.scene_step`). A pool is seen with the tasks in it, so
the pool has to go on alike too (`Onlooker.Fair`).
-/

namespace TwoTier

variable {σ σ' ν μ : Type}

/-! ### Work with other endings -/

section Endings

variable (f : Ending ν → Ending μ)

mutual

/-- The same work with other endings, that of all it may submit included. -/
def Work.map (w : Work ν) : Work μ :=
  match w with
  | ⟨name, gated, thenSubmit, onDrop, ending⟩ =>
    ⟨name, gated, mapAll thenSubmit, mapAll onDrop, f ending⟩

def Work.mapAll (ws : List (Work ν)) : List (Work μ) :=
  match ws with
  | [] => []
  | w :: ws => w.map :: mapAll ws

end

def Closure.map (c : Closure ν) : Closure μ := ⟨c.ticket, c.work.map f, c.reply⟩

def Inbox.map (b : Inbox ν) : Inbox μ := ⟨b.arrived.map f, b.senders⟩

def Replies.map (r : Replies ν) : Replies μ := ⟨r.boxes.map (Inbox.map f)⟩

theorem Work.mapAll_eq (ws : List (Work ν)) : mapAll f ws = ws.map (map f) := by
  induction ws with
  | nil => rfl
  | cons w ws ih => rw [mapAll, ih, List.map_cons]

@[simp] theorem Work.name_map (w : Work ν) : (w.map f).name = w.name := by cases w; rfl

@[simp] theorem Work.gated_map (w : Work ν) : (w.map f).gated = w.gated := by cases w; rfl

@[simp] theorem Work.ending_map (w : Work ν) : (w.map f).ending = f w.ending := by cases w; rfl

@[simp] theorem Work.thenSubmit_map (w : Work ν) :
    (w.map f).thenSubmit = w.thenSubmit.map (map f) := by
  cases w
  exact mapAll_eq f _

@[simp] theorem Work.onDrop_map (w : Work ν) : (w.map f).onDrop = w.onDrop.map (map f) := by
  cases w
  exact mapAll_eq f _

@[simp] theorem Closure.ticket_map (c : Closure ν) : (c.map f).ticket = c.ticket := rfl

@[simp] theorem Closure.work_map (c : Closure ν) : (c.map f).work = c.work.map f := rfl

@[simp] theorem Closure.reply_map (c : Closure ν) : (c.map f).reply = c.reply := rfl

mutual

theorem Work.map_id (w : Work ν) : w.map id = w := by
  match w with
  | ⟨name, gated, thenSubmit, onDrop, ending⟩ =>
    rw [map, mapAll_id thenSubmit, mapAll_id onDrop]
    rfl

theorem Work.mapAll_id (ws : List (Work ν)) : mapAll id ws = ws := by
  match ws with
  | [] => rfl
  | w :: ws => rw [mapAll, w.map_id, mapAll_id ws]

end

theorem Closure.map_id (c : Closure ν) : c.map id = c := by
  rw [map, Work.map_id]

theorem Inbox.map_share (b : Inbox ν) : b.share.map f = (b.map f).share := rfl

theorem Inbox.map_receive (b : Inbox ν) : b.receive.2.map f = (b.map f).receive.2 := by
  rcases b with ⟨_ | ⟨e, rest⟩, senders⟩ <;> rfl

namespace Replies

variable (r : Replies ν) (reply : Option Nat) (i : Nat)

theorem modify_map {g : Inbox ν → Inbox ν} {h : Inbox μ → Inbox μ}
    (same : ∀ b, (g b).map f = h (b.map f)) : (r.modify i g).map f = (r.map f).modify i h := by
  refine congrArg Replies.mk (List.ext_getElem? fun j => ?_)
  simp only [modify, map, List.getElem?_map, List.getElem?_modify]
  cases r.boxes[j]? with
  | none => rfl
  | some b =>
      split
      · exact congrArg some (same b)
      · rfl

theorem hangUp_map : (r.hangUp reply).map f = (r.map f).hangUp reply := by
  cases reply with
  | none => rfl
  | some i => exact modify_map f r i fun b => rfl

theorem deliver_map (e : Ending ν) :
    (r.deliver reply e).map f = (r.map f).deliver reply (f e) := by
  cases reply with
  | none => rfl
  | some i =>
      refine modify_map f r i fun b => ?_
      simp [Inbox.map, Inbox.send, Inbox.hangUp]

theorem openBox_map (senders : Nat) :
    ((r.openBox senders).1, (r.openBox senders).2.map f) = (r.map f).openBox senders := by
  simp [openBox, map, Inbox.map, Inbox.withSenders]

end Replies

end Endings

/-! ### What an onlooker sees -/

/-- A task with other endings, whose trace is not seen. -/
def Task.seen (f : Ending ν → Ending μ) (t : Task ν) : Task μ :=
  ⟨t.id, t.closure.map (Closure.map f), none⟩

/-- The world to somebody who sees some of its events only, and not its clock. -/
def World.seen (f : Ending ν → Ending μ) (sees : Event → Bool) (w : World ν) : World μ where
  now := ⟨0⟩
  nextTicket := w.nextTicket
  nextTask := w.nextTask
  replies := w.replies.map f
  openGates := w.openGates
  journal := w.journal.filter sees

/-- Events that some onlookers overlook. -/
def Event.mayBeOverlooked : Event → Bool
  | .panicked _ _ _ | .completionPanicked _ _ | .stale _ | .created _ => true
  | _ => false

structure Onlooker (σ ν σ' μ : Type) where
  /-- What it takes an ending for. -/
  ending : Ending ν → Ending μ
  pool : σ → σ'
  sees : Event → Bool

namespace Onlooker

variable (o : Onlooker σ ν σ' μ)

abbrev task : Task ν → Task μ := Task.seen o.ending

def frame : Frame ν → Frame μ
  | .submit work reply => .submit (work.map o.ending) reply
  | .arrive c => .arrive (c.map o.ending)
  | .survey c => .survey (c.map o.ending)
  | .push t => .push (o.task t)
  | .enter => .enter
  | .enterShutdown => .enterShutdown
  | .pass => .pass
  | .drain refused => .drain (refused.map o.task)
  | .bypass => .bypass
  | .readActive => .readActive
  | .readQueued active => .readQueued active
  | .retune active queued => .retune active queued
  | .setCore active queued target => .setCore active queued target
  | .decide active queued target => .decide active queued target
  | .handOver t draining refused => .handOver (o.task t) draining (refused.map o.task)
  | .offer t draining refused => .offer (o.task t) draining (refused.map o.task)
  | .leave refused => .leave (refused.map o.task)
  | .job t acts => .job (o.task t) acts
  | .completed id => .completed id
  | .start c => .start (c.map o.ending)
  | .atGate c => .atGate (c.map o.ending)
  | .finish c => .finish (c.map o.ending)
  | .discard c => .discard (c.map o.ending)
  | .hangUp reply => .hangUp reply
  | .shutdown => .shutdown
  | .shutdownNow => .shutdownNow
  | .stopPool backlog => .stopPool (backlog.map o.task)

abbrev world : World ν → World μ := World.seen o.ending o.sees

/-- Neither the register is seen, nor whether there is one. -/
def buffer (b : Buffer σ ν) : Buffer σ' μ where
  config := { b.config with debug := false }
  pool := o.pool b.pool
  backlog := b.backlog.map o.task
  handoff := b.handoff
  band := b.band
  flight := none
  mainThread := b.mainThread
  admitted := b.admitted
  rejected := b.rejected
  dropped := b.dropped
  peakBacklog := b.peakBacklog
  holder := b.holder

def scene (s : Scene σ ν) : Scene σ' μ where
  exec := o.buffer s.exec
  alive := s.alive
  world := o.world s.world
  returned := s.returned.map o.task

/-- Frames with the scene they are in. -/
def frames (p : List (Frame ν) × Scene σ ν) : List (Frame μ) × Scene σ' μ :=
  (p.1.map o.frame, o.scene p.2)

/-- Reports of slow tasks are overlooked, and endings only taken for other endings that nobody
hears of. What a pass or a submission does is seen. -/
structure Sound : Prop where
  stale : ∀ r, o.sees (.stale r) = false
  seen : ∀ e, e.mayBeOverlooked = false → o.sees e = true
  value : ∀ v, ∃ v', o.ending (.value v) = .value v'
  panic : ∀ p, (o.ending (.panic p) = .panic p ∧ ∀ name t, o.sees (.panicked name p t) = true) ∨
    (∃ v', o.ending (.panic p) = .value v') ∧ ∀ name t, o.sees (.panicked name p t) = false

/-- The pool reads alike and goes on alike. -/
structure Fair [WorkerPool σ (Task ν)] [WorkerPool σ' (Task μ)] : Prop where
  isShutdown : ∀ p : σ, WorkerPool.isShutdown (o.pool p) = WorkerPool.isShutdown p
  activeCount : ∀ p : σ, WorkerPool.activeCount (o.pool p) = WorkerPool.activeCount p
  queueLength : ∀ p : σ, WorkerPool.queueLength (o.pool p) = WorkerPool.queueLength p
  coreSize : ∀ p : σ, WorkerPool.coreSize (o.pool p) = WorkerPool.coreSize p
  setCoreSize : ∀ n (p : σ),
    WorkerPool.setCoreSize n (o.pool p) = o.pool (WorkerPool.setCoreSize n p)
  shutdown : ∀ p : σ, WorkerPool.shutdown (o.pool p) = o.pool (WorkerPool.shutdown p)
  release : ∀ p : σ, WorkerPool.release (o.pool p) = o.pool (WorkerPool.release p)
  shutdownNow : ∀ p : σ, WorkerPool.shutdownNow (o.pool p)
    = ((WorkerPool.shutdownNow p).1.map o.task, o.pool (WorkerPool.shutdownNow p).2)

/-- An offer is answered alike. -/
def Offers [WorkerPool σ (Task ν)] [WorkerPool σ' (Task μ)] (t : Task ν) (p : σ) : Prop :=
  WorkerPool.offer (o.task t) (o.pool p)
    = ((WorkerPool.offer t p).1, o.pool (WorkerPool.offer t p).2)

/-! ### Steps -/

section Steps

variable (w : World ν) (s : Scene σ ν)

theorem world_record {e : Event} (seen : o.sees e = true) :
    o.world (w.record e) = (o.world w).record e := by
  simp [World.seen, World.record, seen]

theorem world_overlooked {e : Event} (overlooked : o.sees e = false) :
    o.world (w.record e) = o.world w := by
  simp [World.seen, World.record, overlooked]

theorem world_finish (sound : o.Sound) (c : Closure ν) (t : ThreadId) :
    o.world (w.finish c t) = (o.world w).finish (c.map o.ending) t := by
  unfold World.finish
  cases reply : c.reply with
  | some i =>
      simp only [Closure.reply_map, reply, Closure.work_map, Work.ending_map]
      simp [World.seen, Replies.deliver_map]
  | none =>
      simp only [Closure.reply_map, reply, Closure.work_map, Work.ending_map, Work.name_map]
      cases c.work.ending with
      | value v =>
          obtain ⟨v', same⟩ := sound.value v
          rw [same]
      | panic p =>
          rcases sound.panic p with ⟨same, seen⟩ | ⟨⟨v', same⟩, overlooked⟩
          · rw [same]
            exact o.world_record w (seen _ _)
          · rw [same]
            exact o.world_overlooked w (overlooked _ _)

theorem world_throwAway (sound : o.Sound) (c : Closure ν) :
    o.world (w.throwAway c) = (o.world w).throwAway (c.map o.ending) := by
  have discarded := o.world_record w (sound.seen (.discarded c.ticket c.work.name) rfl)
  have hungUp := Replies.hangUp_map o.ending w.replies c.reply
  unfold World.throwAway
  simp only [Closure.ticket_map, Closure.work_map, Work.name_map, Closure.reply_map, ← discarded]
  exact congrArg
    (fun r => { o.world (w.record (.discarded c.ticket c.work.name)) with replies := r }) hungUp

/-- Nothing that a scan does is seen. -/
theorem scene_scan (sound : o.Sound) : o.scene s.scan.2 = o.scene s := by
  unfold Scene.scan
  cases flight : s.exec.flight with
  | none => rfl
  | some r =>
      have unseen (reports : List (StaleTask (Option Capture))) (w : World ν) :
          o.world (reports.foldl (fun w r => w.record (.stale r)) w) = o.world w := by
        induction reports generalizing w with
        | nil => rfl
        | cons r reports ih => exact (ih _).trans (o.world_overlooked w (sound.stale r))
      exact congrArg (fun w => { o.scene s with world := w }) (unseen _ _)

theorem scene_enterFlight (t : Task ν) :
    o.task (s.enterFlight t).1 = o.task t ∧ o.scene (s.enterFlight t).2 = o.scene s := by
  unfold Scene.enterFlight
  cases s.exec.flight <;> exact ⟨rfl, rfl⟩

theorem frame_submitAll (works : List (Work ν)) :
    (Frame.submitAll works).map o.frame = Frame.submitAll (works.map (Work.map o.ending)) := by
  simp [Frame.submitAll, Function.comp_def, frame]

theorem frames_takeHead (draining : Bool) (refused : List (Task ν)) :
    (o.scene s).takeHead draining (refused.map o.task)
      = o.frames (s.takeHead draining refused) := by
  unfold Scene.takeHead
  cases backlog : s.exec.backlog with
  | nil => simp [scene, buffer, backlog, frames, frame]
  | cons t rest => simp [scene, buffer, backlog, frames, frame]

theorem frame_afterOffer (draining : Bool) (refused : List (Task ν)) :
    o.frame (Scene.afterOffer draining refused)
      = Scene.afterOffer draining (refused.map o.task) := by
  cases draining <;> rfl

/-- What is offered has lost its trace, and nobody sees that it has been entered. -/
theorem frames_handOver (t : Task ν) (draining : Bool) (refused : List (Task ν)) :
    ([Frame.offer ((o.scene s).enterFlight (o.task t)).1 draining (refused.map o.task)],
        (o.scene s).marked (o.task t))
      = o.frames ([.offer (s.enterFlight t).1 draining refused], s.marked t) := by
  obtain ⟨task, scene⟩ := o.scene_enterFlight s t
  have marked : o.scene (s.marked t)
      = { o.scene s with exec := { (o.scene s).exec with handoff := some t.id } } := by
    rw [← scene]
    rfl
  have entered : o.task (s.enterFlight t).1 = ((o.scene s).enterFlight (o.task t)).1 := task
  rw [frames, marked, List.map_singleton, frame, entered]
  rfl

/-- What is seen of the lock is who has it. -/
theorem frames_locking (me : ThreadId) {go : Scene σ ν → List (Frame ν) × Scene σ ν}
    {go' : Scene σ' μ → List (Frame μ) × Scene σ' μ}
    (alike : ∀ s, go' (o.scene s) = o.frames (go s)) :
    (o.scene s).locking me go' = (s.locking me go).map o.frames := by
  have holder : (o.scene s).exec.holder = s.exec.holder := rfl
  unfold Scene.locking
  rw [holder]
  cases s.exec.holder with
  | none => exact congrArg some (alike { s with exec := s.exec.lock me })
  | some _ => rfl

end Steps

variable [WorkerPool σ (Task ν)] [WorkerPool σ' (Task μ)]

theorem frames_retune (sound : o.Sound) (fair : o.Fair) (active queued : Nat) (s : Scene σ ν) :
    (o.scene s).retune active queued = o.frames (s.retune active queued) := by
  have coreSize : WorkerPool.coreSize (o.scene s).exec.pool = WorkerPool.coreSize s.exec.pool :=
    fair.coreSize _
  have length : (o.scene s).exec.backlog.length = s.exec.backlog.length := List.length_map _
  have config (b : CoreBand) : b.coreSize (o.scene s).exec.config = b.coreSize s.exec.config := by
    cases b <;> rfl
  have band : CoreBand.ofBacklog s.exec.backlog.length (o.scene s).exec.config
      = CoreBand.ofBacklog s.exec.backlog.length s.exec.config := rfl
  have before : (o.scene s).exec.band = s.exec.band := rfl
  have noted (b : CoreBand) := o.world_record s.world
    (sound.seen (.bandChanged b s.exec.backlog.length (b.coreSize s.exec.config)) rfl)
  simp only [Scene.retune, length, band, config, coreSize, before]
  split <;> split <;> simp [frames, frame, scene, buffer, noted]

theorem frames_offer (sound : o.Sound) (t : Task ν) (draining : Bool) (refused : List (Task ν))
    (s : Scene σ ν) (offers : o.Offers t s.exec.pool) :
    (o.scene s).offer (o.task t) draining (refused.map o.task)
      = o.frames (s.offer t draining refused) := by
  have answer : WorkerPool.offer (o.task t) (o.scene s).exec.pool
      = ((WorkerPool.offer t s.exec.pool).1, o.pool (WorkerPool.offer t s.exec.pool).2) := offers
  unfold Scene.offer
  rw [answer]
  rcases WorkerPool.offer t s.exec.pool with ⟨none | why, pool⟩
  · have admitted := o.world_record s.world
      (sound.seen (.admitted t.id s.exec.backlog.length) rfl)
    simp [frames, scene, buffer, frame_afterOffer, Task.seen, admitted]
  · have refusal := o.world_record s.world (sound.seen (.refused t.id why) rfl)
    simp [frames, scene, buffer, frame_afterOffer, Buffer.forget, Task.seen, refusal]

/-- To see a step is to take it from what was seen before. -/
theorem scene_step (sound : o.Sound) (fair : o.Fair) (me : ThreadId) (f : Frame ν) (s : Scene σ ν)
    (offers : ∀ t draining refused, f = .offer t draining refused → o.Offers t s.exec.pool) :
    (o.scene s).step me (o.frame f) = (s.step me f).map o.frames := by
  have isShutdown :
      WorkerPool.isShutdown (o.scene s).exec.pool = WorkerPool.isShutdown s.exec.pool :=
    fair.isShutdown _
  have alive : (o.scene s).alive = s.alive := rfl
  have holder : (o.scene s).exec.holder = s.exec.holder := rfl
  have seen (w : World ν) (e : Event) (plain : e.mayBeOverlooked = false) :
      o.world (w.record e) = (o.world w).record e := o.world_record w (sound.seen e plain)
  cases f with
  | submit work reply =>
      simp only [frame, Scene.step, alive]
      cases s.alive with
      | true => rfl
      | false =>
          have lost := seen s.world (.lost work.name) rfl
          simp [frames, scene, Scene.record, lost]
  | arrive c =>
      simp only [frame, Scene.step, isShutdown]
      cases WorkerPool.isShutdown s.exec.pool with
      | true =>
          have turnedAway := seen s.world (.turnedAway c.ticket) rfl
          simp [frames, frame, scene, buffer, turnedAway]
      | false => simp [frames, frame]
  | survey c =>
      have step : (o.scene s).step me (.survey (c.map o.ending))
          = some ([.push (o.task (s.scan.2.makeTask c).1)], o.scene (s.scan.2.makeTask c).2) := by
        rw [← o.scene_scan s sound]
        rfl
      exact step
  | push t =>
      simp only [frame, Scene.step]
      refine o.frames_locking s me fun s => ?_
      have pushed := seen s.world (.pushed t.id (s.exec.backlog.length + 1)) rfl
      simp [frames, frame, scene, buffer, Buffer.push, Task.seen, pushed]
  | enter => exact o.frames_locking s me fun s => rfl
  | enterShutdown =>
      simp only [frame, Scene.step]
      refine o.frames_locking s me fun s => ?_
      have shutting := seen s.world (.shuttingDown s.exec.backlog.length) rfl
      simp [frames, frame, scene, buffer, Scene.record, shutting]
  | pass =>
      have main : (o.scene s).exec.onMainThread me = s.exec.onMainThread me := rfl
      simp only [frame, Scene.step, isShutdown, main]
      cases WorkerPool.isShutdown s.exec.pool <;> cases s.exec.onMainThread me <;> rfl
  | drain refused => exact congrArg some (o.frames_takeHead s true refused)
  | bypass => exact congrArg some (o.frames_takeHead s false [])
  | readActive =>
      exact congrArg (fun n => some ([Frame.readQueued n], o.scene s)) (fair.activeCount _)
  | readQueued active =>
      exact congrArg (fun n => some ([Frame.retune active n], o.scene s)) (fair.queueLength _)
  | retune active queued => exact congrArg some (o.frames_retune sound fair active queued s)
  | setCore active queued target =>
      have set := fair.setCoreSize target s.exec.pool
      have noted := seen s.world (.coreSizeSet target) rfl
      simp [frames, frame, scene, buffer, Scene.step, set, noted]
  | decide active queued target =>
      have may : (o.scene s).exec.mayAdmit active queued target
          = s.exec.mayAdmit active queued target := rfl
      simp only [frame, Scene.step, may]
      cases s.exec.mayAdmit active queued target with
      | true => exact congrArg some (o.frames_takeHead s false [])
      | false => rfl
  | handOver t draining refused => exact congrArg some (o.frames_handOver s t draining refused)
  | offer t draining refused =>
      exact congrArg some (o.frames_offer sound t draining refused s (offers t draining refused rfl))
  | leave refused =>
      simp [frames, frame, scene, buffer, Scene.step, Buffer.unlock, Function.comp_def]
  | job t acts =>
      have closure : (o.task t).closure = t.closure.map (Closure.map o.ending) := rfl
      simp only [frame, Scene.step, closure]
      cases acts with
      | nil => cases t.closure <;> rfl
      | cons act acts => cases act <;> cases t.closure <;> rfl
  | completed id =>
      simp only [frame, Scene.step, alive]
      cases s.alive with
      | true =>
          have completed := seen s.world (.completed id) rfl
          simp [frames, frame, scene, buffer, Buffer.forget, completed]
      | false => rfl
  | start c =>
      have started := seen s.world (.started c.ticket c.work.name me) rfl
      simp [frames, frame, scene, Scene.step, Scene.record, started]
  | atGate c =>
      have isOpen (gate : String) : (o.scene s).world.isOpen gate = s.world.isOpen gate := rfl
      simp only [frame, Scene.step, Closure.work_map, Work.gated_map, Work.name_map, isOpen]
      split
      · simp [frames, frame, o.frame_submitAll]
      · rfl
  | finish c => simp [frames, frame, scene, Scene.step, o.world_finish _ sound]
  | discard c =>
      have discarded := seen s.world (.discarded c.ticket c.work.name) rfl
      simp [frames, frame, scene, Scene.step, Scene.record, o.frame_submitAll, discarded]
  | hangUp reply => simp [frames, frame, scene, Scene.step, World.seen, Replies.hangUp_map]
  | shutdown => simp [frames, frame, scene, buffer, Scene.step, fair.shutdown]
  | shutdownNow =>
      simp only [frame, Scene.step, holder]
      cases s.exec.holder with
      | none =>
          have withdrawn := seen s.world (.withdrawn (s.exec.backlog.map Task.id)) rfl
          simp [frames, frame, scene, buffer, Task.seen, withdrawn, Function.comp_def]
      | some t => rfl
  | stopPool backlog =>
      have stops : WorkerPool.shutdownNow (o.scene s).exec.pool
          = ((WorkerPool.shutdownNow s.exec.pool).1.map o.task,
            o.pool (WorkerPool.shutdownNow s.exec.pool).2) := fair.shutdownNow _
      simp only [frame, Scene.step, stops]
      have stopped := seen s.world (.stopped ((WorkerPool.shutdownNow s.exec.pool).1.map Task.id)
        (backlog.map Task.id)) rfl
      simp [frames, scene, buffer, Task.seen, stopped, Function.comp_def]

end Onlooker

end TwoTier
