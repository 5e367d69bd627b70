import TwoTier.Proofs.AllResults
import TwoTier.Proofs.CoreUse
import TwoTier.Proofs.Tickets

/-!
How a thread pool conducts itself.

A pool at work on plain jobs takes what it has room or a worker for, and refuses the rest. What it
has taken is queued or in the hands of a worker until it has been run; nothing is thrown away
(`Crew.conduct`). So whoever waits for all results of a list of works learns of each how it ended,
or why the pool refused it, whatever the workers did in the meantime (`Crew.invokeAll_loses_none`).
-/

namespace TwoTier

open Executor

namespace Phase

variable {J : Type}

/-- The job that a worker runs. -/
def run? : Phase J → Option J
  | .running job => some job
  | _ => none

/-- The job that a worker has in hand and has not run to its end. -/
def unended? : Phase J → Option J
  | .assigned job | .received job | .running job => some job
  | _ => none

end Phase

/-- A job leaves the pool's stock when it has been run. -/
theorem ThreadPool.Acts.unended {J : Type} {number : Nat} {act : WorkerAct} {phase : Phase J}
    {p q : ThreadPool J} (numbered : Numbered p) (found : p.phase? number = some phase)
    (step : Acts number p act q) :
    p.stock Phase.unended? = phase.run?.toList + q.stock Phase.unended? := by
  obtain ⟨phase', left, others, own, turn, before, after⟩ := step.turn numbered
  obtain rfl : phase' = phase := Option.some.inj (own.symm.trans found)
  refine stock_swap [⟨number, phase'⟩] (left.map (⟨number, ·⟩)) before after ?_
  generalize p.ready = ready, q.ready = ready' at turn
  cases turn <;> simp [Phase.run?, Phase.unended?]

namespace Crew

variable {ν : Type} {s t : Crew ν} {w : Worker (Job ν)} {p : Parcel ν} {me : ThreadId}

/-! ### What workers do -/

/-- The job's closure, if somebody waits for its ending. -/
def parcel? (job : Job ν) : Option (Parcel ν) := job.closure.bind Closure.parcel?

/-- The closures that were taken and have not ended. -/
def hands (s : Crew ν) : Multiset (Parcel ν) :=
  (s.pool.stock Phase.unended?).filterMap parcel?

/-- The closure that ends when a worker goes on. -/
def ending? (w : Worker (Job ν)) : Option (Closure ν) := w.phase.run?.bind Job.closure

/-- What is done with closures when a worker goes on. -/
def fates (w : Worker (Job ν)) : List (Fate ν) :=
  (((ending? w).bind Closure.parcel?).map .run).toList

theorem replies_begins (number : Nat) (job : Job ν) (s : Crew ν) :
    (begins number job s).world.replies = s.world.replies := by
  unfold begins
  split <;> rfl

theorem replies_completes (number : Nat) (job : Job ν) (s : Crew ν) :
    (completes number job s).world.replies = s.world.replies := by
  unfold completes
  split <;> rfl

theorem world_actPool {number : Nat} {act : WorkerAct} (h : actPool? number act s = some t) :
    t.world = s.world := by
  obtain ⟨pool, -, rfl⟩ := Option.map_eq_some_iff.mp h
  rfl

/-- A worker that goes on ends its closure or leaves the inboxes alone. -/
theorem replies_workerStep (h : workerStep? w s = some t) :
    (ending? w = none ∧ t.world.replies = s.world.replies) ∨
      ∃ c, ending? w = some c ∧
        t.world.replies = s.world.replies.deliver c.reply c.work.ending := by
  unfold workerStep? at h
  split at h
  · rename_i job phase
    obtain ⟨u, ended, took⟩ := Option.bind_eq_some_iff.mp h
    rw [world_actPool took]
    unfold ends? at ended
    cases closure : job.closure with
    | none =>
        rw [closure] at ended
        obtain rfl := Option.some.inj ended
        exact .inl ⟨by simp [ending?, phase, Phase.run?, closure], rfl⟩
    | some c =>
        rw [closure] at ended
        obtain ⟨-, ended⟩ := Option.ite_none_right_eq_some.mp ended
        obtain rfl := Option.some.inj ended
        refine .inr ⟨c, by simp [ending?, phase, Phase.run?, closure], ?_⟩
        exact World.replies_finish ..
  · rename_i job phase
    refine .inl ⟨by simp [ending?, phase, Phase.run?], ?_⟩
    rw [world_actPool h, replies_completes]
  · rename_i job phase
    obtain ⟨u, took, rfl⟩ := Option.map_eq_some_iff.mp h
    refine .inl ⟨by simp [ending?, phase, Phase.run?], ?_⟩
    rw [replies_begins, world_actPool took]
  · rename_i job phase
    obtain ⟨u, took, rfl⟩ := Option.map_eq_some_iff.mp h
    refine .inl ⟨by simp [ending?, phase, Phase.run?], ?_⟩
    rw [replies_begins, world_actPool took]
  · rename_i other _ _ _
    obtain ⟨act, -, took⟩ := Option.bind_eq_some_iff.mp h
    refine .inl ⟨?_, by rw [world_actPool took]⟩
    cases phase : w.phase with
    | running job => exact absurd phase (other job)
    | _ => simp [ending?, phase, Phase.run?]

theorem numbered_workerStep (numbered : s.pool.Numbered) (h : workerStep? w s = some t) :
    t.pool.Numbered := by
  obtain ⟨act, took⟩ := act_of_workerStep h
  exact numbered.acts (ThreadPool.acts took)

/-- When a worker goes on, the closure that ends leaves the pool's hands. -/
theorem workerStep_passage (numbered : s.pool.Numbered) (mem : w ∈ s.pool.workers)
    (h : workerStep? w s = some t) :
    Passage (fates w) (hands s) s.world.replies (hands t) t.world.replies := by
  obtain ⟨act, took⟩ := act_of_workerStep h
  have stock := (ThreadPool.acts took).unended numbered (numbered.phase?_eq mem)
  have split : hands s = ↑((ending? w).bind Closure.parcel?).toList + hands t := by
    rw [hands, stock, Multiset.filterMap_add, Multiset.filterMap_coe, ending?, Option.bind_assoc,
      Option.toList_bind, List.filterMap_eq_flatMap_toList]
    rfl
  rw [split, fates]
  rcases replies_workerStep h with ⟨none, replies⟩ | ⟨c, ends, replies⟩
  · rw [none, replies]
    simpa using Passage.refl
  · rw [ends, replies]
    exact .ran c

/-! ### Until none can go on -/

/-- The first worker that can do something, and what comes of it. -/
def moves? (s : Crew ν) : Option (Worker (Job ν) × Crew ν) :=
  s.pool.workers.findSome? fun w => (workerStep? w s).map (w, ·)

theorem step?_eq (s : Crew ν) : s.step? = s.moves?.map Prod.snd := by
  unfold step? moves?
  rw [List.map_findSome?]
  congr 1
  funext w
  simp

/-- What is done with closures while workers go on. -/
def fatesFor : Nat → Crew ν → List (Fate ν)
  | 0, _ => []
  | fuel + 1, s =>
    match s.moves? with
    | none => []
    | some (w, t) => fates w ++ fatesFor fuel t

theorem settleFor_passage (fuel : Nat) (numbered : s.pool.Numbered) :
    (settleFor fuel s).pool.Numbered ∧ Passage (fatesFor fuel s) (hands s) s.world.replies
      (hands (settleFor fuel s)) (settleFor fuel s).world.replies := by
  -- the numbers go along because without them an act might end two workers' jobs at once
  induction fuel generalizing s with
  | zero => exact ⟨numbered, .refl⟩
  | succ fuel ih =>
      unfold settleFor fatesFor
      rw [step?_eq]
      cases moved : s.moves? with
      | none => exact ⟨numbered, .refl⟩
      | some next =>
          obtain ⟨w, mem, found⟩ := List.exists_of_findSome?_eq_some moved
          obtain ⟨t, did, rfl⟩ := Option.map_eq_some_iff.mp found
          obtain ⟨sound, passage⟩ := ih (numbered_workerStep numbered did)
          exact ⟨sound, (workerStep_passage numbered mem did).trans passage⟩

/-- What is done with closures until no worker can go on. -/
def fatesUntilRest (s : Crew ν) : List (Fate ν) :=
  fatesFor (12 * (s.pool.ready.length + s.pool.workers.length + 1)) s

theorem settle_passage (numbered : s.pool.Numbered) :
    s.settle.pool.Numbered ∧ Passage s.fatesUntilRest (hands s) s.world.replies (hands s.settle)
      s.settle.world.replies :=
  settleFor_passage _ numbered

/-- No closure is thrown away. -/
theorem ran_of_mem_fatesFor {fuel : Nat} {f : Fate ν} (mem : f ∈ fatesFor fuel s) :
    ∃ p, f = .run p := by
  induction fuel generalizing s with
  | zero => cases mem
  | succ fuel ih =>
      unfold fatesFor at mem
      cases moved : s.moves? with
      | none => simp [moved] at mem
      | some next =>
          simp only [moved] at mem
          rcases List.mem_append.mp mem with mem | mem
          · obtain ⟨p, -, rfl⟩ := Option.map_eq_some_iff.mp (Option.mem_toList.mp mem)
            exact ⟨p, rfl⟩
          · exact ih mem

/-! ### Calls -/

/-- A closure that the pool takes comes to the others in its hands; one that it refuses lets go of
its inbox. -/
theorem hand_cases {r : Except Error Unit} (numbered : s.pool.Numbered)
    (call : s.hand p.work (some p.box) none = (r, t)) :
    t.pool.Numbered ∧ (r = .ok () ∧ hands t = p ::ₘ hands s ∧
        t.world.replies = s.world.replies ∨
      (∃ why, r = .error why) ∧ hands t = hands s ∧
        t.world.replies = s.world.replies.hangUp (some p.box)) := by
  unfold hand World.makeClosure at call
  rcases did : s.pool.execute ⟨some ⟨s.world.nextTicket, p.work, some p.box⟩, none⟩ with
    ⟨answer, pool⟩
  have step := ThreadPool.executes did
  have stock := step.stock Phase.unended? ⟨rfl, rfl⟩ ⟨rfl, rfl⟩ numbered
  simp only [did] at call
  cases answer with
  | ok =>
      obtain ⟨rfl, rfl⟩ := Prod.mk.inj call
      refine ⟨numbered.executes step, .inl ⟨rfl, ?_, rfl⟩⟩
      rw [hands, stock]
      simp [hands, parcel?, Closure.parcel?]
  | error why =>
      obtain ⟨rfl, rfl⟩ := Prod.mk.inj call
      refine ⟨numbered.executes step, .inr ⟨⟨_, rfl⟩, ?_, rfl⟩⟩
      rw [hands, stock, zero_add]
      rfl

/-- What is done with closures in the course of a call. -/
def fatesOfCall (p : Parcel ν) (s : Crew ν) : List (Fate ν) :=
  fatesUntilRest (s.hand p.work (some p.box) none).2

/-- When a call returns, the closure that it brought has been dealt with as the others have. -/
theorem execute_cases {r : Except Error Unit} (numbered : s.pool.Numbered)
    (call : s.execute p.work (some p.box) none = (r, t)) :
    t.pool.Numbered ∧
      (r = .ok () ∧ Passage (fatesOfCall p s) (p ::ₘ hands s) s.world.replies (hands t)
        t.world.replies ∨
      (∃ why, r = .error why) ∧ Passage (fatesOfCall p s) (hands s)
        (s.world.replies.hangUp (some p.box)) (hands t) t.world.replies) := by
  rw [execute_eq] at call
  obtain ⟨rfl, rfl⟩ := Prod.mk.inj call
  obtain ⟨sound, answer⟩ := hand_cases numbered rfl
  obtain ⟨settled, passage⟩ := settle_passage sound
  refine ⟨settled, answer.imp ?_ ?_⟩
  · rintro ⟨taken, held, replies⟩
    rw [held, replies] at passage
    exact ⟨taken, passage⟩
  · rintro ⟨refused, held, replies⟩
    rw [held, replies] at passage
    exact ⟨refused, passage⟩

/-- A pool at work on plain jobs: while a caller waits nothing more happens than what has happened
when the calls return. -/
def conduct : Conduct (Crew ν) ν where
  sound s := s.pool.Numbered
  hands := hands
  during _ := fatesOfCall
  meanwhile _ := []
  replies_set _ _ := rfl
  hands_set _ _ := rfl
  sound_set _ := id
  sound_execute numbered := (execute_cases numbered rfl).1
  taken numbered answer := by
    rcases (execute_cases numbered rfl).2 with ⟨-, passage⟩ | ⟨⟨why, refused⟩, -⟩
    · exact passage
    · cases answer.symm.trans refused
  refused numbered answer := by
    rcases (execute_cases numbered rfl).2 with ⟨taken, -⟩ | ⟨-, passage⟩
    · cases answer.symm.trans taken
    · exact passage
  waited _ := .refl

/-- Whoever asks a pool for all results of a list of works, and gets them, gets for each work how it
ended, or why the pool refused it, and never that it was lost. -/
theorem invokeAll_loses_none (works : List (Work ν)) (known : conduct.Known [] s)
    {outcomes : List (Except Error ν)} (found : (invokeAll me works s).1 = some outcomes) :
    List.Forall₂ (fun h o => o = h.answer.bind fun _ => h.parcel.work.ending.result)
      (conduct.submitRound me works s).handIns outcomes := by
  refine (conduct.invokeAll_learns me known found).imp ?_
  intro h o learns
  cases learns with
  | refused answer => rw [answer]; rfl
  | value answer _ ending | panic answer _ ending =>
      rw [answer, ending]
      rfl
  | dropped _ about =>
      -- a loss would be told of a closure that was thrown away, and workers only run closures
      have dropped : .drop h.parcel ∈ Fate.about h.parcel.box
          (conduct.submitRound me works s).fates := about ▸ List.mem_singleton_self _
      rcases handed : conduct.handIn me (Replies.openBox 1) works s with ⟨hs, e'⟩
      rw [(conduct.invokeAll_eq me handed).1] at dropped
      have ran := conduct.handIn_fates me (P := fun f => ∃ p, f = .run p)
        (fun _ _ _ mem => ran_of_mem_fatesFor mem) handed
      obtain ⟨p, same⟩ := ran _ (List.append_nil _ ▸ List.mem_of_mem_filter dropped)
      cases same

end Crew

end TwoTier
