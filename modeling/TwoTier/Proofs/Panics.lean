import TwoTier.Proofs.Deafness
import TwoTier.Proofs.ServiceSteps

/-!
Panics and scheduling.

How closures end, and whether completing a plain job panics, is heard in the log and by those who
read handles, and nowhere else. So two schedules that differ in that only bring the same moment by
moment, be it for a thread pool at work on plain jobs or for an executor over one: the same jobs are
taken, queued, refused and started at the same moments and on the same threads, and all counters are
the same (`endings_change_no_schedule`).

For an executor this is what `Onlooker.watch_alike` says of somebody who hears no endings. A pool
has no executor around it and gets its own schedules and notes here (`Crew.watch`).
-/

namespace TwoTier

variable {ν : Type}

/-- A plain job of which nobody hears how it ends. -/
def Job.muted (job : Job ν) : Job Unit := ⟨job.closure.map (Closure.map Ending.muted), none⟩

namespace Crew

open Onlooker (deaf deaf_sound)

/-! ### Schedules of a pool -/

/-- What may happen to a pool at work on plain jobs. -/
inductive Moment (ν : Type) where
  /-- A job is handed in. The pool's workers do not go on by themselves. -/
  | submit (work : Work ν) (reply : Option Nat) (completion : Option Payload)
  /-- An inbox is opened. -/
  | gather (senders : Nat)
  /-- Somebody will send nothing to an inbox any more. -/
  | hangUp (box : Nat)
  /-- An inbox is read without waiting. -/
  | read (box : Nat)
  /-- The pool is asked for something; jobs that it hands back are thrown away. -/
  | request (r : ThreadPool.Request)
  /-- A worker goes on. -/
  | work (number : Nat)
  /-- The keep-alive of a worker runs out. -/
  | timeOut (number : Nat)
  | openGate (gate : String)
  /-- The workers go on until none can. -/
  | settle

/-- Hands a job to the pool, before the workers go on. -/
def hand (work : Work ν) (reply : Option Nat) (completion : Option Payload) (s : Crew ν) :
    Except Error Unit × Crew ν :=
  let (c, world) := s.world.makeClosure work reply
  match s.pool.execute ⟨some c, completion⟩ with
  | (.ok (), pool) => (.ok (), { pool, world })
  | (.error rejected, pool) => (.error rejected.error, { pool, world := world.throwAway c })

/-- A job that is executed is handed to the pool, and the workers go on until none can. -/
theorem execute_eq (work : Work ν) (reply : Option Nat) (completion : Option Payload) (s : Crew ν) :
    s.execute work reply completion
      = ((s.hand work reply completion).1, (s.hand work reply completion).2.settle) := by
  unfold execute hand
  rcases s.world.makeClosure work reply with ⟨c, world⟩
  dsimp only
  rcases ThreadPool.execute (⟨some c, completion⟩ : Job ν) s.pool with ⟨_ | _, pool⟩ <;> rfl

def withReplies (r : Replies ν) (s : Crew ν) : Crew ν :=
  { s with world := { s.world with replies := r } }

/-- What comes of a moment, if it can come. -/
def after? (s : Crew ν) : Moment ν → Option (Crew ν)
  | .submit work reply completion => some (s.hand work reply completion).2
  | .gather senders => some (s.withReplies (s.world.replies.openBox senders).2)
  | .hangUp box => some (s.withReplies (s.world.replies.hangUp (some box)))
  | .read box => some (s.withReplies (s.world.replies.modify box fun b => b.receive.2))
  | .request r => (s.pool.request? r).map fun (jobs, pool) => dropAll jobs { s with pool }
  | .work number =>
    (s.pool.workers.find? (·.number = number)).bind fun w => workerStep? w s
  | .timeOut number => actPool? number .timeOut s
  | .openGate gate => some { s with world := s.world.openGate gate }
  | .settle => some s.settle

/-- Whether the pool takes the job that is handed in. -/
def answer? (s : Crew ν) : Moment ν → Option (Except Error Unit)
  | .submit work reply completion => some (s.hand work reply completion).1
  | _ => none

/-- What is found in an inbox. -/
def found? (s : Crew ν) : Moment ν → Option (Received ν)
  | .read box => (s.world.replies.get? box).map fun b => b.receive.1
  | _ => none

/-! ### What is heard of no ending -/

/-- What somebody notes who hears of no ending. -/
structure Sight where
  /-- Whether the moment could come; else nothing happens. -/
  came : Bool
  answer : Option (Except Error Unit)
  found : Option (Received Unit)
  /-- The pool, with each job in its place. -/
  pool : ThreadPool (Job Unit)
  /-- Newest first. -/
  events : List Event
  replies : Replies Unit

def sight (came : Bool) (answer : Option (Except Error Unit)) (found : Option (Received ν))
    (s : Crew ν) : Sight where
  came := came
  answer := answer
  found := found.map (Received.map Ending.muted)
  pool := s.pool.map Job.muted
  events := s.world.journal.filter fun e => !e.mayBeOverlooked
  replies := s.world.replies.map Ending.muted

/-- What is noted in the course of a schedule by somebody who hears of no ending. -/
def watch : List (Moment ν) → Crew ν → List Sight :=
  notes after? fun came m s s' => sight came (s.answer? m) (s.found? m) s'

/-- The same moment, of which no ending is heard. -/
def Moment.muted : Moment ν → Moment Unit
  | .submit w reply _ => .submit (w.map Ending.muted) reply none
  | .gather senders => .gather senders
  | .hangUp box => .hangUp box
  | .read box => .read box
  | .request r => .request r
  | .work number => .work number
  | .timeOut number => .timeOut number
  | .openGate gate => .openGate gate
  | .settle => .settle

def muted (s : Crew ν) : Crew Unit := ⟨s.pool.map Job.muted, deaf.world s.world⟩

variable (s : Crew ν) (number : Nat) (job : Job ν)

theorem actPool_muted (act : WorkerAct) :
    actPool? number act s.muted = (actPool? number act s).map muted := by
  have did := ThreadPool.act?_map Job.muted s.pool number act
  simp only [actPool?, muted, did, Option.map_map]
  rfl

theorem begins_muted : begins number job.muted s.muted = (begins number job s).muted := by
  obtain ⟨closure, completion⟩ := job
  cases closure with
  | none => rfl
  | some c =>
      have started := deaf.world_record s.world
        (deaf_sound.seen (.started c.ticket c.work.name (.worker number)) rfl)
      simp [begins, Job.muted, muted, started]

theorem passes_muted (c : Closure ν) (w : World ν) :
    passes (c.map Ending.muted) (deaf.world w) = passes c w := by
  have isOpen (gate : String) : (deaf.world w).isOpen gate = w.isOpen gate := rfl
  simp [passes, isOpen]

theorem ends_muted : ends? number job.muted s.muted = (ends? number job s).map muted := by
  obtain ⟨closure, completion⟩ := job
  cases closure with
  | none => rfl
  | some c =>
      have finished := deaf.world_finish s.world deaf_sound c (.worker number)
      simp only [ends?, Job.muted, Option.map_some, muted, passes_muted]
      split
      · exact congrArg (fun w => some (Crew.mk _ w)) finished.symm
      · rfl

theorem completes_muted : completes number job.muted s.muted = (completes number job s).muted := by
  obtain ⟨closure, completion⟩ := job
  cases completion with
  | none => rfl
  | some payload => exact congrArg (Crew.mk _) (deaf.world_overlooked s.world rfl).symm

theorem workerStep_muted (w : Worker (Job ν)) :
    workerStep? (w.map Job.muted) s.muted = (workerStep? w s).map muted := by
  have next : (s.muted.pool.idleAct? (w.map Job.muted)).bind
        (fun act => actPool? w.number act s.muted)
      = ((s.pool.idleAct? w).bind fun act => actPool? w.number act s).map muted := by
    have act : s.muted.pool.idleAct? (w.map Job.muted) = s.pool.idleAct? w :=
      ThreadPool.idleAct?_map _ s.pool w
    rw [act, Option.map_bind]
    exact Option.bind_congr fun act _ => actPool_muted s w.number act
  have begun (job : Job ν) (act : WorkerAct) :
      (actPool? w.number act s.muted).map (begins w.number job.muted)
        = ((actPool? w.number act s).map (begins w.number job)).map muted := by
    rw [actPool_muted, Option.map_map, Option.map_map]
    exact Option.map_congr fun s _ => begins_muted s w.number job
  obtain ⟨number, phase⟩ := w
  cases phase with
  | running job =>
      have ended := ends_muted s number job
      simp only [workerStep?, Worker.map, Phase.map, ended, Option.map_bind, Option.bind_map]
      exact Option.bind_congr fun s _ => actPool_muted s number .endRun
  | completing job =>
      simp only [workerStep?, Worker.map, Phase.map, completes_muted, actPool_muted]
  | assigned job => exact begun job .begin
  | received job => exact begun job .count
  | _ => exact next

theorem step_muted : s.muted.step? = s.step?.map muted := by
  have workers : s.muted.pool.workers = s.pool.workers.map (Worker.map Job.muted) := rfl
  unfold step?
  rw [workers, List.findSome?_map, List.map_findSome?]
  exact congrArg (fun h => List.findSome? h _) (funext fun w => workerStep_muted s w)

theorem settleFor_muted (n : Nat) : settleFor n s.muted = (settleFor n s).muted := by
  induction n generalizing s with
  | zero => rfl
  | succ n ih =>
      unfold settleFor
      rw [step_muted]
      cases s.step? with
      | none => rfl
      | some s' => exact ih s'

theorem settle_muted : s.muted.settle = s.settle.muted := by
  have ready : s.muted.pool.ready.length = s.pool.ready.length := List.length_map _
  have workers : s.muted.pool.workers.length = s.pool.workers.length := List.length_map _
  rw [settle, ready, workers, settleFor_muted, settle]

theorem hand_muted (work : Work ν) (reply : Option Nat) (completion : Option Payload) :
    s.muted.hand (work.map Ending.muted) reply none
      = ((s.hand work reply completion).1, (s.hand work reply completion).2.muted) := by
  have made : s.muted.world.makeClosure (work.map Ending.muted) reply
      = ((s.world.makeClosure work reply).1.map Ending.muted,
        deaf.world (s.world.makeClosure work reply).2) := rfl
  unfold hand
  rw [made]
  rcases s.world.makeClosure work reply with ⟨c, world⟩
  have executed := ThreadPool.execute_map Job.muted s.pool ⟨some c, completion⟩
  have taken : s.muted.pool.execute ⟨some (c.map Ending.muted), none⟩ = _ := executed
  dsimp only
  rw [taken]
  rcases ThreadPool.execute (⟨some c, completion⟩ : Job ν) s.pool with ⟨rejected | _, pool⟩
  · exact congrArg (fun w => (Except.error rejected.error, Crew.mk _ w))
      (deaf.world_throwAway world deaf_sound c).symm
  · rfl

theorem dropAll_muted (jobs : List (Job ν)) :
    dropAll (jobs.map Job.muted) s.muted = (dropAll jobs s).muted := by
  have closures : (jobs.map Job.muted).filterMap Job.closure
      = (jobs.filterMap Job.closure).map (Closure.map Ending.muted) := by
    rw [List.filterMap_map, List.map_filterMap]
    rfl
  have dropped (cs : List (Closure ν)) (w : World ν) :
      (cs.map (Closure.map Ending.muted)).foldl (fun w c => w.throwAway c) (deaf.world w)
        = deaf.world (cs.foldl (fun w c => w.throwAway c) w) := by
    induction cs generalizing w with
    | nil => rfl
    | cons c cs ih =>
        rw [List.map_cons, List.foldl_cons, List.foldl_cons, ← ih]
        exact congrArg (List.foldl _ · _) (deaf.world_throwAway w deaf_sound c).symm
  unfold dropAll
  rw [closures]
  exact congrArg (Crew.mk _) (dropped _ s.world)

theorem answer_muted (m : Moment ν) : s.muted.answer? m.muted = s.answer? m := by
  cases m with
  | submit work reply completion =>
      exact congrArg (fun p => some p.1) (hand_muted s work reply completion)
  | _ => rfl

theorem found_muted (m : Moment ν) :
    s.muted.found? m.muted = (s.found? m).map (Received.map Ending.muted) := by
  cases m with
  | read box => exact Replies.found_map Ending.muted s.world.replies box
  | _ => rfl

/-- A moment of which no ending is heard goes on alike. -/
theorem after_muted (m : Moment ν) : s.muted.after? m.muted = (s.after? m).map muted := by
  cases m with
  | submit work reply completion =>
      exact congrArg (fun p => some p.2) (hand_muted s work reply completion)
  | gather senders =>
      have opened := congrArg Prod.snd (Replies.openBox_map Ending.muted s.world.replies senders)
      exact congrArg (fun r => some (s.muted.withReplies r)) opened.symm
  | hangUp box =>
      have hungUp := Replies.hangUp_map Ending.muted s.world.replies (some box)
      exact congrArg (fun r => some (s.muted.withReplies r)) hungUp.symm
  | read box =>
      have taken := Replies.modify_map Ending.muted s.world.replies box
        (g := fun b => b.receive.2) (h := fun b => b.receive.2) (Inbox.map_receive Ending.muted)
      exact congrArg (fun r => some (s.muted.withReplies r)) taken.symm
  | request r =>
      have asked := ThreadPool.request?_map Job.muted s.pool r
      have pool : s.muted.pool.request? r = _ := asked
      simp only [Moment.muted, after?, pool, Option.map_map]
      exact Option.map_congr fun ⟨jobs, pool⟩ _ => dropAll_muted { s with pool } jobs
  | work number =>
      have found : s.muted.pool.workers.find? (·.number = number)
          = (s.pool.workers.find? (·.number = number)).map (Worker.map Job.muted) := by
        simp only [muted, ThreadPool.map_workers, List.find?_map]
        rfl
      simp only [Moment.muted, after?, found, Option.bind_map, Option.map_bind]
      exact Option.bind_congr fun w _ => workerStep_muted s w
  | timeOut number => exact actPool_muted s number .timeOut
  | openGate gate => rfl
  | settle => exact congrArg some (settle_muted s)

/-- Alike pools with alike schedules give the same sights. -/
theorem watch_alike {s t : Crew ν} {schedule schedule' : List (Moment ν)}
    (same : schedule.map Moment.muted = schedule'.map Moment.muted) (alike : s.muted = t.muted) :
    watch schedule s = watch schedule' t := by
  refine notes_alike (h := muted) (P := fun _ => True) (fun _ _ _ _ _ => trivial) ?_ ?_ same trivial
    trivial alike
  · intro s t m n _ _ alike one
    rw [← s.after_muted m, ← t.after_muted n, alike, one]
  · intro came s t s' t' m n before after one
    have answer : s.answer? m = t.answer? n := by
      rw [← s.answer_muted m, ← t.answer_muted n, before, one]
    have found : (s.found? m).map (Received.map Ending.muted)
        = (t.found? n).map (Received.map Ending.muted) := by
      rw [← s.found_muted m, ← t.found_muted n, before, one]
    have seen (a : Option (Received ν)) (s : Crew ν) : sight came (t.answer? n) a s =
        { came, answer := t.answer? n, found := a.map (Received.map Ending.muted),
          pool := s.muted.pool, events := s.muted.world.journal,
          replies := s.muted.world.replies } := rfl
    rw [answer, seen, seen, found, after]

end Crew

/-! ### Two schedules -/

/-- Schedules that differ only in how jobs end, and in whether completing plain jobs panics, bring
the same to an executor over a pool of threads, and to a pool of threads alone: the same jobs are
taken, queued, refused and run at the same moments, and the same is read from all counters. -/
theorem endings_change_no_schedule :
    (∀ (y : Service ν) (schedule schedule' : List (Moment ν Service.PoolMove)),
      schedule.map (Moment.map Ending.muted id) = schedule'.map (Moment.map Ending.muted id) →
        Onlooker.deaf.watch Service.play schedule y
          = Onlooker.deaf.watch Service.play schedule' y) ∧
    (∀ (s : Crew ν) (schedule schedule' : List (Crew.Moment ν)),
      schedule.map Crew.Moment.muted = schedule'.map Crew.Moment.muted →
        Crew.watch schedule s = Crew.watch schedule' s) := by
  constructor
  · intro y schedule schedule' same
    exact Onlooker.deaf.watch_alike Onlooker.deaf_sound Onlooker.deaf_fair
      (fun move y => Service.play_muted y move) (fun y _ => Onlooker.deaf_offering y)
      (fun _ _ _ _ _ => trivial) same rfl trivial trivial
  · intro s schedule schedule' same
    exact Crew.watch_alike same rfl

namespace Sample

/-- A job is submitted to an executor, and its worker comes to rest. -/
def served (e : Ending Unit) : List (Moment Unit Service.PoolMove) :=
  .call (.caller 1) (.submit (.plain "job" e) none) :: List.replicate 12 (.turn (.caller 1))
    ++ [.pool .settle]

/-- The same for a pool alone. -/
def worked (e : Ending Unit) (completion : Option Payload) : List (Crew.Moment Unit) :=
  [.submit (.plain "job" e) none completion, .settle]

def crew : Crew Unit := .new (.ofConfig config)

end Sample

open Sample in
/-- A job returns, or it panics and its completion panics too. Either way it has been completed in
the end; only the log tells. -/
theorem endings_change_no_schedule_of_one_job :
    (Onlooker.deaf.watch Service.play (served (.value ())) service
        = Onlooker.deaf.watch Service.play (served (.panic .foreign)) service ∧
      (Onlooker.deaf.watch Service.play (served (.panic .foreign)) service).getLast?.map
        (fun v => v.pool.completed) = some 1) ∧
    (Crew.watch (worked (.value ()) none) crew
        = Crew.watch (worked (.panic .foreign) (some .foreign)) crew ∧
      (Crew.watch (worked (.panic .foreign) (some .foreign)) crew).getLast?.map
        (fun v => v.pool.completed) = some 1) ∧
    (crew.execute (.plain "job" (.panic .foreign)) none (some .foreign)).2.world.journal
      = [.completionPanicked .foreign (.worker 1), .panicked "job" .foreign (.worker 1),
        .started 0 "job" (.worker 1)] :=
  ⟨⟨endings_change_no_schedule.1 service _ _ rfl, by decide⟩,
    ⟨endings_change_no_schedule.2 crew _ _ rfl, by decide⟩, rfl⟩

end TwoTier
