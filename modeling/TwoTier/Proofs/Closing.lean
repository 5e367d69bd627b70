import TwoTier.Proofs.ServiceSteps
import TwoTier.Proofs.StopRace

/-!
What a shutdown leaves behind.

The pool refuses every job once it is shut, and it may be shut at any time (`Closing`). A shutdown
shuts the pool before it waits for the lock (`Sealed`), and every pass that begins on a shut pool
offers all that waits, so after a shutdown has come to its pass no pass ends with a backlog
(`Cleared`). What the pool has accepted by the moment it is shut is all that it ever accepts
(`accepted_fixed`).

The counters are those of the journal (`Counted`). Worker threads under an executor that nobody
stops are a pool of this kind (`Service.closing`).
-/

namespace TwoTier

variable {σ ν : Type}

/-! ### What is read off the journal -/

namespace Event

@[simp] def turnedAway? : Event → Option Nat
  | .turnedAway ticket => some ticket
  | _ => none

@[simp] def shuttingDown? : Event → Option Nat
  | .shuttingDown backlog => some backlog
  | _ => none

end Event

namespace World

/-- The tasks that the pool has refused. -/
def refused (w : World ν) : List TaskId := (w.offers.filter fun o => !o.2).map Prod.fst

/-- The submissions that found the executor shut down. -/
def turnedAway (w : World ν) : List Nat := w.marks Event.turnedAway?

/-- Whether some shutdown has come to its pass. -/
def closing (w : World ν) : Bool := !(w.marks Event.shuttingDown?).isEmpty

@[simp] theorem refused_record (e : Event) (w : World ν) :
    (w.record e).refused = w.refused ++ (e.offer?.toList.filter fun o => !o.2).map Prod.fst := by
  unfold refused
  rw [offers_record, List.filter_append, List.map_append]

@[simp] theorem turnedAway_record (e : Event) (w : World ν) :
    (w.record e).turnedAway = w.turnedAway ++ e.turnedAway?.toList :=
  marks_record _ e w

@[simp] theorem turnedAway_fresh : (fresh : World ν).turnedAway = [] := rfl

theorem closing_record (e : Event) (w : World ν) :
    (w.record e).closing = (w.closing || e.shuttingDown?.isSome) := by
  unfold closing
  rw [marks_record]
  cases e.shuttingDown? <;> simp

/-- Every offer was taken or refused. -/
theorem offered_perm (w : World ν) : w.offered.Perm (w.accepted ++ w.refused) := by
  unfold offered accepted refused
  rw [← List.map_append]
  exact (List.filter_append_perm _ _).symm.map Prod.fst

end World

namespace Scene

variable [WorkerPool σ (Task ν)] {me : ThreadId} {f g : Frame ν} {new : List (Frame ν)}
  {s s' : Scene σ ν}

theorem QuietStep.closing (h : QuietStep me s f new s') :
    s'.world.closing = s.world.closing := by
  cases h with
  | survey c => exact congrArg (!·.isEmpty) (marks_scan (p := Event.shuttingDown?) (fun _ => rfl) s)
  | finish c =>
      exact congrArg (!·.isEmpty)
        (marks_finish (p := Event.shuttingDown?) (fun _ _ _ => rfl) c me s.world)
  | lost | turnAway | completed | start | discard => simp [record, World.closing_record]
  | _ => rfl

theorem PassStep.closing (h : PassStep me s f g s') : s'.world.closing = s.world.closing := by
  unfold World.closing
  rw [h.marks fun e own => by cases e <;> simp_all [Event.ofPass]]

end Scene

namespace Frame

/-- The frames of a stop. -/
def halts : Frame ν → Bool
  | .shutdownNow | .stopPool _ => true
  | _ => false

theorem halts_of_not_stops {f : Frame ν} (calm : f.stops = false) : f.halts = false := by
  cases f with
  | shutdownNow | stopPool _ => simp [stops] at calm
  | _ => rfl

theorem halts_of_inPass {f : Frame ν} (inside : f.inPass = true) : f.halts = false := by
  cases f with
  | shutdownNow | stopPool _ => simp [inPass] at inside
  | _ => rfl

end Frame

/-! ### What holds in every run -/

section Runs

variable [WorkerPool σ (Task ν)] {rules : Rules σ ν}

/-- Threads submit, finish jobs and shut the executor down, and the pool refuses every job from the
moment at which it is shut, by whomever. -/
structure Closing (rules : Rules σ ν) : Prop extends StaysShut rules where
  calls : ∀ {c}, rules.calls c → c.frame.halts = false
  shuts : ∀ p : σ, WorkerPool.isShutdown (WorkerPool.shutdown p) = true
  refuses : ∀ (t : Task ν) (p : σ), WorkerPool.isShutdown p = true →
    (WorkerPool.offer t p).1 ≠ none

/-- Nobody stops the executor, and nothing is taken out of the backlog. -/
structure Unstopped (bag : Multiset (Frame ν)) (s : Scene σ ν) : Prop where
  frames : ∀ f ∈ bag, f.halts = false
  withdrawn : s.world.withdrawn = []

omit [WorkerPool σ (Task ν)] in
theorem Unstopped.retained {bag : Multiset (Frame ν)} {s : Scene σ ν} (h : Unstopped bag s) :
    s.world.retained = s.world.pushed := by
  rw [World.retained, h.withdrawn]
  exact List.filter_eq_self.mpr fun id _ => decide_eq_true List.not_mem_nil

theorem unstopped_outline (closing : Closing rules) :
    Outline (σ := σ) (ν := ν) rules (fun _ _ => True) fun _ => Unstopped where
  enter {me f rest s s'} _ _ step inv := by
    obtain ⟨-, others⟩ := Multiset.forall_mem_cons.mp inv.frames
    have frames : ∀ g ∈ .pass ::ₘ rest, g.halts = false :=
      Multiset.forall_mem_cons.mpr ⟨rfl, others⟩
    cases step with
    | push t => exact ⟨frames, by simpa using inv.withdrawn⟩
    | resume => exact ⟨frames, inv.withdrawn⟩
    | shutting => exact ⟨frames, by simpa using inv.withdrawn⟩
  pass {me f g rest s s'} _ _ step inv := by
    obtain ⟨-, others⟩ := Multiset.forall_mem_cons.mp inv.frames
    exact ⟨Multiset.forall_mem_cons.mpr ⟨Frame.halts_of_inPass step.inPass, others⟩,
      step.withdrawn.trans inv.withdrawn⟩
  leave {refused rest s} _ _ inv := by
    refine ⟨?_, inv.withdrawn⟩
    intro g mem
    rcases Multiset.mem_add.mp mem with mem | mem
    · obtain ⟨t, -, rfl⟩ := List.mem_map.mp (Multiset.mem_coe.mp mem)
      rfl
    · exact inv.frames g (Multiset.mem_cons_of_mem mem)
  quiet {o me f new rest s s'} _ _ step inv := by
    refine ⟨?_, step.keeps.withdrawn.trans inv.withdrawn⟩
    intro g mem
    rcases Multiset.mem_add.mp mem with mem | mem
    · exact Frame.halts_of_not_stops (step.calm g (Multiset.mem_coe.mp mem)).2
    · exact inv.frames g (Multiset.mem_cons_of_mem mem)
  shutdown _ _ inv := by
    obtain ⟨-, others⟩ := Multiset.forall_mem_cons.mp inv.frames
    exact ⟨Multiset.forall_mem_cons.mpr ⟨rfl, others⟩, inv.withdrawn⟩
  withdraw _ _ _ inv := by
    have never := inv.frames _ (Multiset.mem_cons_self _ _)
    contradiction
  stop _ _ _ inv := by
    have never := inv.frames _ (Multiset.mem_cons_self _ _)
    contradiction
  call allowed _ inv :=
    ⟨Multiset.forall_mem_cons.mpr ⟨closing.calls allowed, inv.frames⟩, inv.withdrawn⟩
  finish _ _ _ inv := ⟨Multiset.forall_mem_cons.mpr ⟨rfl, inv.frames⟩, inv.withdrawn⟩
  finishReturned _ _ _ inv := ⟨Multiset.forall_mem_cons.mpr ⟨rfl, inv.frames⟩, inv.withdrawn⟩
  pool _ _ inv := ⟨inv.frames, inv.withdrawn⟩

/-- Once a shutdown waits for the lock or has come to its pass, the pool is shut. -/
def Sealed (bag : Multiset (Frame ν)) (s : Scene σ ν) : Prop :=
  s.world.closing = true ∨ .enterShutdown ∈ bag → WorkerPool.isShutdown s.exec.pool = true

theorem sealed_outline (closing : Closing rules) :
    Outline (σ := σ) (ν := ν) rules (fun _ _ => True) fun _ => Sealed where
  enter {me f rest s s'} _ _ step inv := by
    cases step with
    | push t =>
        rintro (shut | mem)
        · exact inv (.inl (by simpa [World.closing_record] using shut))
        · have below := (Multiset.mem_cons.mp mem).resolve_left nofun
          exact inv (.inr (Multiset.mem_cons_of_mem below))
    | resume =>
        rintro (shut | mem)
        · exact inv (.inl shut)
        · have below := (Multiset.mem_cons.mp mem).resolve_left nofun
          exact inv (.inr (Multiset.mem_cons_of_mem below))
    | shutting => exact fun _ => inv (.inr (Multiset.mem_cons_self _ _))
  pass {me f g rest s s'} _ _ step inv := by
    rintro (shut | mem)
    · exact closing.pass step (inv (.inl (step.closing ▸ shut)))
    · refine closing.pass step (inv (.inr (Multiset.mem_cons_of_mem ?_)))
      refine (Multiset.mem_cons.mp mem).resolve_left ?_
      rintro rfl
      have never := step.inPass
      contradiction
  leave {refused rest s} _ _ inv := by
    rintro (shut | mem)
    · exact inv (.inl shut)
    · -- What a pass leaves behind are refused jobs, so the shutdown was there before.
      refine inv (.inr (Multiset.mem_cons_of_mem ?_))
      refine (Multiset.mem_add.mp mem).resolve_left ?_
      intro among
      obtain ⟨t, -, never⟩ := List.mem_map.mp (Multiset.mem_coe.mp among)
      contradiction
  quiet {o me f new rest s s'} _ _ step inv := by
    unfold Sealed
    rw [step.closing, step.keeps.pool]
    rintro (shut | mem)
    · exact inv (.inl shut)
    · refine inv (.inr (Multiset.mem_cons_of_mem ?_))
      refine (Multiset.mem_add.mp mem).resolve_left ?_
      intro among
      have never := (step.calm _ (Multiset.mem_coe.mp among)).2
      contradiction
  shutdown _ _ _ := fun _ => closing.shuts _
  withdraw {rest s} _ _ _ inv := by
    rintro (shut | mem)
    · exact inv (.inl (by simpa [World.closing_record] using shut))
    · exact inv (.inr (Multiset.mem_cons_of_mem ((Multiset.mem_cons.mp mem).resolve_left nofun)))
  stop {o backlog jobs pool rest s} _ _ h inv := by
    intro _
    have shut := closing.stop s.exec.pool
    rwa [h] at shut
  call {o c bag s} allowed _ inv := by
    rintro (shut | mem)
    · exact inv (.inl shut)
    · refine inv (.inr ((Multiset.mem_cons.mp mem).resolve_left ?_))
      cases c <;> exact nofun
  finish _ yields _ inv := by
    rintro (shut | mem)
    · exact closing.yields yields (inv (.inl shut))
    · exact closing.yields yields (inv (.inr ((Multiset.mem_cons.mp mem).resolve_left nofun)))
  finishReturned _ _ _ inv := by
    rintro (shut | mem)
    · exact inv (.inl shut)
    · exact inv (.inr ((Multiset.mem_cons.mp mem).resolve_left nofun))
  pool moves _ inv := fun shut => closing.moves moves (inv shut)

/-- After a shutdown has come to its pass, every pass clears the backlog. -/
def Cleared : Assertion σ ν
  | none, _, s | some (.leave _), _, s => s.world.closing = true → s.exec.backlog = []
  | some .pass, _, _ | some (.drain _), _, _ => True
  | some (.handOver _ draining _), _, s | some (.offer _ draining _), _, s =>
    s.world.closing = true → draining = true
  | _, _, s => s.world.closing = false

omit [WorkerPool σ (Task ν)] in
theorem Cleared.mono {o : Option (Frame ν)} {bag bag' : Multiset (Frame ν)} {s s' : Scene σ ν}
    (h : Cleared o bag s) (backlog : s'.exec.backlog = s.exec.backlog)
    (closing : s'.world.closing = s.world.closing) : Cleared o bag' s' := by
  cases o with
  | none => exact fun closed => backlog.trans (h (closing ▸ closed))
  | some f =>
      cases f with
      | pass => trivial
      | drain refused => trivial
      | leave refused => exact fun closed => backlog.trans (h (closing ▸ closed))
      | handOver t draining refused => exact fun closed => h (closing ▸ closed)
      | offer t draining refused => exact fun closed => h (closing ▸ closed)
      | _ => exact closing.trans h

theorem cleared_pass {me : ThreadId} {f g : Frame ν} {rest : Multiset (Frame ν)} {s s' : Scene σ ν}
    (step : Scene.PassStep me s f g s')
    (shut : s.world.closing = true → WorkerPool.isShutdown s.exec.pool = true)
    (h : Cleared (some f) (f ::ₘ rest) s) : Cleared (some g) (g ::ₘ rest) s' := by
  have closing := step.closing
  -- A pass that finds the pool running is ahead of every shutdown.
  have running (going : WorkerPool.isShutdown s.exec.pool = false) : s.world.closing = false := by
    apply Bool.eq_false_iff.mpr
    intro closed
    rw [shut closed] at going
    contradiction
  cases step with
  | shut _ => trivial
  | main going _ => exact running going
  | gated going _ => exact running going
  | tuned active queued _ | untuned active queued _ => exact closing.trans h
  | setCore active queued target => exact closing.trans h
  | closed active queued target _ =>
      intro closed
      rw [show s.world.closing = false from h] at closed
      contradiction
  | empty none hf => exact fun _ => none
  | takeHead head hf =>
      intro closed
      cases hf with
      | drain refused => rfl
      | bypass | decide _ _ =>
          rw [show s.world.closing = false from h] at closed
          contradiction
  | mark t draining refused => exact fun closed => h (closing ▸ closed)
  | accepted t draining refused _ | turnedDown t draining refused _ =>
      cases draining with
      | true => trivial
      | false =>
          intro closed
          have never := h (closing ▸ closed)
          contradiction
  | _ => exact h

theorem cleared_outline :
    Outline (σ := σ) (ν := ν) rules Sealed Cleared where
  enter _ _ _ _ := trivial
  pass _ sealed step h := cleared_pass step (fun closed => sealed (.inl closed)) h
  leave _ _ h := h
  quiet _ _ step h := h.mono step.keeps.backlog step.closing
  shutdown _ _ h := h.mono rfl rfl
  withdraw _ _ _ _ := fun _ => rfl
  stop _ _ _ h := h.mono rfl (by simp [World.closing_record])
  call _ _ h := h.mono rfl rfl
  finish _ _ _ h := h.mono rfl rfl
  finishReturned _ _ _ h := h.mono rfl rfl
  pool _ _ h := h.mono rfl rfl

/-- The executor's counters agree with the journal. -/
structure Counted (s : Scene σ ν) : Prop where
  admitted : s.exec.admitted = s.world.accepted.length
  rejected : s.exec.rejected = s.world.refused.length
  dropped : s.exec.dropped = s.world.turnedAway.length

omit [WorkerPool σ (Task ν)] in
theorem Counted.of_eq {s s' : Scene σ ν} (h : Counted s)
    (admitted : s'.exec.admitted = s.exec.admitted) (rejected : s'.exec.rejected = s.exec.rejected)
    (dropped : s'.exec.dropped = s.exec.dropped) (offers : s'.world.offers = s.world.offers)
    (turnedAway : s'.world.turnedAway = s.world.turnedAway) : Counted s' := by
  refine ⟨?_, ?_, ?_⟩
  · rw [admitted, World.accepted, offers]
    exact h.admitted
  · rw [rejected, World.refused, offers]
    exact h.rejected
  · rw [dropped, turnedAway]
    exact h.dropped

theorem counted_pass {me : ThreadId} {f g : Frame ν} {s s' : Scene σ ν}
    (step : Scene.PassStep me s f g s') (h : Counted s) : Counted s' := by
  have away : s'.world.turnedAway = s.world.turnedAway :=
    step.marks fun e own => by cases e <;> simp_all [Event.ofPass]
  cases step with
  | tuned active queued _ | untuned active queued _ =>
      have same : (s.retune active queued).2.exec.admitted = s.exec.admitted ∧
          (s.retune active queued).2.exec.rejected = s.exec.rejected ∧
          (s.retune active queued).2.exec.dropped = s.exec.dropped := by
        unfold Scene.retune
        dsimp only
        split <;> exact ⟨rfl, rfl, rfl⟩
      exact h.of_eq same.1 same.2.1 same.2.2 (Scene.keeps_retune active queued s).offers away
  | mark t _ _ =>
      have same : (s.marked t).exec.admitted = s.exec.admitted ∧
          (s.marked t).exec.rejected = s.exec.rejected ∧
          (s.marked t).exec.dropped = s.exec.dropped := by
        unfold Scene.marked Scene.enterFlight
        cases s.exec.flight <;> exact ⟨rfl, rfl, rfl⟩
      exact h.of_eq same.1 same.2.1 same.2.2 (Scene.keeps_marked t s).offers away
  | setCore => exact h.of_eq rfl rfl rfl (by simp) away
  | accepted => exact ⟨by simp [h.admitted], by simp [h.rejected], by simp [h.dropped]⟩
  | turnedDown =>
      exact ⟨by simp [h.admitted, Buffer.forget], by simp [h.rejected],
        by simp [h.dropped, Buffer.forget]⟩
  | _ => exact h.of_eq rfl rfl rfl rfl away

theorem counted_quiet {me : ThreadId} {f : Frame ν} {new : List (Frame ν)} {s s' : Scene σ ν}
    (step : Scene.QuietStep me s f new s') (h : Counted s) : Counted s' := by
  have offers := step.keeps.offers
  cases step with
  | turnAway c _ => exact ⟨by simp [h.admitted], by simp [h.rejected], by simp [h.dropped]⟩
  | survey c =>
      have same : (s.scan.2.makeTask c).2.exec.admitted = s.exec.admitted ∧
          (s.scan.2.makeTask c).2.exec.rejected = s.exec.rejected := by
        unfold Scene.scan
        cases s.exec.flight <;> exact ⟨rfl, rfl⟩
      exact h.of_eq same.1 same.2 (Scene.dropped_scan s) offers
        (Scene.marks_scan (fun _ => rfl) s)
  | finish c =>
      exact h.of_eq rfl rfl rfl offers (Scene.marks_finish (fun _ _ _ => rfl) c me s.world)
  | completed | start | discard | lost => exact h.of_eq rfl rfl rfl offers (by simp [Scene.record])
  | _ => exact h.of_eq rfl rfl rfl rfl rfl

theorem counted_outline : Outline (σ := σ) (ν := ν) rules (fun _ _ => True) fun _ _ => Counted where
  enter {me f rest s s'} _ _ step inv := by
    cases step with
    | push t => exact inv.of_eq rfl rfl rfl (by simp) (by simp)
    | resume => exact inv.of_eq rfl rfl rfl rfl rfl
    | shutting => exact inv.of_eq rfl rfl rfl (by simp) (by simp)
  pass _ _ step inv := counted_pass step inv
  leave _ _ inv := inv.of_eq rfl rfl rfl rfl rfl
  quiet _ _ step inv := counted_quiet step inv
  shutdown _ _ inv := inv.of_eq rfl rfl rfl rfl rfl
  withdraw _ _ _ inv := inv.of_eq rfl rfl rfl (by simp) (by simp)
  stop _ _ _ inv := inv.of_eq rfl rfl rfl (by simp) (by simp)
  call _ _ inv := inv
  finish _ _ _ inv := inv.of_eq rfl rfl rfl rfl rfl
  finishReturned _ _ _ inv := inv.of_eq rfl rfl rfl rfl rfl
  pool _ _ inv := inv.of_eq rfl rfl rfl rfl rfl

/-- Once the pool is shut it takes no more tasks. -/
theorem fixed_outline (closing : Closing rules) (ids : List TaskId) :
    Outline (σ := σ) (ν := ν) rules (fun _ _ => True) fun _ _ s =>
      WorkerPool.isShutdown s.exec.pool = true ∧ s.world.accepted = ids where
  enter {me f rest s s'} _ _ step inv := by
    cases step with
    | push t => exact ⟨inv.1, by simpa using inv.2⟩
    | resume => exact inv
    | shutting => exact ⟨inv.1, by simpa using inv.2⟩
  pass {me f g rest s s'} _ _ step inv := by
    refine ⟨closing.pass step inv.1, ?_⟩
    cases step with
    | tuned active queued _ | untuned active queued _ =>
        rw [(Scene.keeps_retune active queued s).accepted]
        exact inv.2
    | mark t _ _ =>
        rw [(Scene.keeps_marked t s).accepted]
        exact inv.2
    | accepted t draining refused taken =>
        have never := closing.refuses t s.exec.pool inv.1
        rw [taken] at never
        contradiction
    | setCore | turnedDown => simpa using inv.2
    | _ => exact inv.2
  leave _ _ inv := inv
  quiet {o me f new rest s s'} _ _ step inv := by
    rw [step.keeps.pool, step.keeps.accepted]
    exact inv
  shutdown _ _ inv := ⟨closing.shuts _, inv.2⟩
  withdraw _ _ _ inv := ⟨inv.1, by simpa using inv.2⟩
  stop {o backlog jobs pool rest s} _ _ h inv := by
    have shut := closing.stop s.exec.pool
    rw [h] at shut
    exact ⟨shut, by simpa using inv.2⟩
  call _ _ inv := inv
  finish _ yields _ inv := ⟨closing.yields yields inv.1, inv.2⟩
  finishReturned _ _ _ inv := inv
  pool moves _ inv := ⟨closing.moves moves inv.1, inv.2⟩

/-! ### Submissions that found the executor shut down -/

/-- The ticket of a submission that has not looked at the pool yet. -/
def Frame.calling : Frame ν → Multiset Nat
  | .arrive c => {c.ticket}
  | _ => 0

omit [WorkerPool σ (Task ν)] in
theorem Frame.calling_of_inPass {f : Frame ν} (inside : f.inPass = true) : f.calling = 0 := by
  cases f with
  | arrive _ => simp [inPass] at inside
  | _ => rfl

/-- The submissions that were turned away or have not looked at the pool yet. -/
def unplaced (bag : Multiset (Frame ν)) (s : Scene σ ν) : Multiset Nat :=
  ↑s.world.turnedAway + tally Frame.calling bag

/-- They are all different, and older than the next submission. -/
structure Ticketed (bag : Multiset (Frame ν)) (s : Scene σ ν) : Prop where
  distinct : (unplaced bag s).Nodup
  older : ∀ ticket ∈ unplaced bag s, ticket < s.world.nextTicket

omit [WorkerPool σ (Task ν)] in
theorem Ticketed.of_le {bag bag' : Multiset (Frame ν)} {s s' : Scene σ ν} (h : Ticketed bag s)
    (fewer : unplaced bag' s' ≤ unplaced bag s)
    (tickets : s.world.nextTicket ≤ s'.world.nextTicket) : Ticketed bag' s' := by
  refine ⟨Multiset.nodup_of_le fewer h.distinct, ?_⟩
  intro ticket mem
  exact Nat.lt_of_lt_of_le (h.older ticket (Multiset.mem_of_le fewer mem)) tickets

/-- Outside passes a submission gets its ticket, and no other step makes one. -/
theorem Scene.QuietStep.calling {me : ThreadId} {f : Frame ν} {new : List (Frame ν)}
    {s s' : Scene σ ν} (step : Scene.QuietStep me s f new s') :
    (s'.world.turnedAway : Multiset Nat) + tally Frame.calling (new : Multiset (Frame ν))
        ≤ ↑s.world.turnedAway + f.calling ∧ s'.world.nextTicket = s.world.nextTicket ∨
      (s'.world.turnedAway : Multiset Nat) + tally Frame.calling (new : Multiset (Frame ν))
        = s.world.nextTicket ::ₘ (↑s.world.turnedAway + f.calling) ∧
        s'.world.nextTicket = s.world.nextTicket + 1 := by
  cases step with
  | submit work reply alive =>
      refine .inr ⟨?_, rfl⟩
      simp only [World.makeClosure, World.turnedAway, World.marks, Multiset.coe_singleton,
        tally_singleton, Frame.calling, add_zero]
      rw [Multiset.add_comm, Multiset.singleton_add]
  | turnAway c h => exact .inl ⟨le_of_eq (by simp [Frame.calling, ← Multiset.coe_add]), rfl⟩
  | survey c =>
      refine .inl ⟨le_of_eq ?_, Scene.nextTicket_scan s⟩
      have away : s.scan.2.world.turnedAway = s.world.turnedAway :=
        Scene.marks_scan (fun _ => rfl) s
      change ((s.scan.2.world.turnedAway : Multiset Nat) + _) = _
      rw [away]
      simp [Frame.calling]
  | pastGate c | discard c =>
      refine .inl ⟨le_of_eq ?_, rfl⟩
      rw [tally_submitAll_append fun _ _ => rfl]
      simp [Frame.calling, Scene.record]
  | finish c =>
      refine .inl ⟨le_of_eq ?_, Scene.nextTicket_finish c me s.world⟩
      change (((s.world.finish c me).turnedAway : Multiset Nat) + _) = _
      rw [World.turnedAway, Scene.marks_finish fun _ _ _ => rfl]
      simp [Frame.calling, World.turnedAway]
  | lost | completed | start =>
      exact .inl ⟨le_of_eq (by simp [Frame.calling, Scene.record]), rfl⟩
  | hangUp => exact .inl ⟨le_of_eq (by simp [Frame.calling, World.turnedAway, World.marks]), rfl⟩
  | letIn => exact .inl ⟨by simp [Frame.calling], rfl⟩
  | _ => exact .inl ⟨le_of_eq (by simp [Frame.calling]), rfl⟩

theorem ticketed_outline : Outline (σ := σ) (ν := ν) rules (fun _ _ => True) fun _ => Ticketed where
  enter {me f rest s s'} _ _ step inv := by
    cases step with
    | push t => exact inv.of_le (le_of_eq (by simp [unplaced, Frame.calling])) (Nat.le_refl _)
    | resume => exact inv.of_le (le_of_eq (by simp [unplaced, Frame.calling])) (Nat.le_refl _)
    | shutting => exact inv.of_le (le_of_eq (by simp [unplaced, Frame.calling])) (Nat.le_refl _)
  pass {me f g rest s s'} _ _ step inv := by
    have away : s'.world.turnedAway = s.world.turnedAway :=
      step.marks fun e own => by cases e <;> simp_all [Event.ofPass]
    refine inv.of_le (le_of_eq ?_) (Nat.le_of_eq step.submissions.1.symm)
    simp only [unplaced, away, tally_cons, Frame.calling_of_inPass step.inPass,
      Frame.calling_of_inPass step.inPass_before]
  leave {refused rest s} _ _ inv := by
    refine inv.of_le (le_of_eq ?_) (Nat.le_refl _)
    rw [unplaced, tally_add, tally_discards fun _ => rfl]
    simp [unplaced, Frame.calling]
  quiet {o me f new rest s s'} _ _ step inv := by
    have split : unplaced (f ::ₘ rest) s
        = ↑s.world.turnedAway + f.calling + tally Frame.calling rest := by
      rw [unplaced, tally_cons, add_assoc]
    have split' : unplaced ((new : Multiset (Frame ν)) + rest) s' = ↑s'.world.turnedAway
        + tally Frame.calling (new : Multiset (Frame ν)) + tally Frame.calling rest := by
      rw [unplaced, tally_add, add_assoc]
    rcases step.calling with ⟨fewer, tickets⟩ | ⟨more, tickets⟩
    · refine inv.of_le ?_ (Nat.le_of_eq tickets.symm)
      rw [split, split']
      exact add_le_add_left fewer _
    · rw [more, Multiset.cons_add, ← split] at split'
      constructor <;> rw [split']
      · refine Multiset.nodup_cons.mpr ⟨fun mem => ?_, inv.distinct⟩
        exact absurd (inv.older _ mem) (Nat.lt_irrefl _)
      · intro ticket mem
        rw [tickets]
        rcases Multiset.mem_cons.mp mem with rfl | mem
        · exact Nat.lt_succ_self _
        · exact Nat.lt_succ_of_lt (inv.older ticket mem)
  shutdown _ _ inv :=
    inv.of_le (le_of_eq (by simp [unplaced, Frame.calling])) (Nat.le_refl _)
  withdraw _ _ _ inv :=
    inv.of_le (le_of_eq (by simp [unplaced, Frame.calling])) (Nat.le_refl _)
  stop _ _ _ inv := inv.of_le (le_of_eq (by simp [unplaced, Frame.calling])) (Nat.le_refl _)
  call {o c bag s} _ _ inv := by
    refine inv.of_le (le_of_eq ?_) (Nat.le_refl _)
    cases c <;> simp [unplaced, Call.frame, Frame.calling]
  finish _ _ _ inv := inv.of_le (le_of_eq (by simp [unplaced, Frame.calling])) (Nat.le_refl _)
  finishReturned _ _ _ inv :=
    inv.of_le (le_of_eq (by simp [unplaced, Frame.calling])) (Nat.le_refl _)
  pool _ _ inv := inv.of_le (le_of_eq rfl) (Nat.le_refl _)

/-! ### In all runs -/

variable {config : Config} {main : Option ThreadId} {pool : σ} {s : Scene σ ν} {y : System σ ν}

theorem sealed_reaches (closing : Closing rules) (built : Scene.build config main pool = .ok s)
    (run : System.Reaches rules (.idle s) y) : Sealed y.bag y.scene := by
  obtain ⟨-, flight, rfl⟩ := Scene.build_ok built
  refine (sealed_outline closing).always (fun _ _ => trivial) rfl ?_ run
  rintro (never | never)
  · contradiction
  · exact absurd never (Multiset.notMem_zero _)

theorem cleared_reaches (closing : Closing rules) (built : Scene.build config main pool = .ok s)
    (run : System.Reaches rules (.idle s) y) : Cleared.Stands y.bag y.scene := by
  have basis : ∀ w, System.Reaches rules (.idle s) w → Sealed w.bag w.scene :=
    fun w before => sealed_reaches closing built before
  obtain ⟨-, flight, rfl⟩ := Scene.build_ok built
  exact cleared_outline.reaches basis rfl (fun _ => rfl) run

theorem unstopped_reaches (closing : Closing rules) (built : Scene.build config main pool = .ok s)
    (run : System.Reaches rules (.idle s) y) : Unstopped y.bag y.scene := by
  obtain ⟨-, flight, rfl⟩ := Scene.build_ok built
  refine (unstopped_outline closing).always (fun _ _ => trivial) rfl ⟨?_, ?_⟩ run
  · exact fun f never => absurd never (Multiset.notMem_zero f)
  · rw [World.withdrawn_record]
    rfl

theorem counted_reaches (built : Scene.build config main pool = .ok s)
    (run : System.Reaches rules (.idle s) y) : Counted y.scene := by
  obtain ⟨-, flight, rfl⟩ := Scene.build_ok built
  exact counted_outline.always (fun _ _ => trivial) rfl ⟨rfl, rfl, rfl⟩ run

theorem ticketed_reaches (built : Scene.build config main pool = .ok s)
    (run : System.Reaches rules (.idle s) y) : Ticketed y.bag y.scene := by
  obtain ⟨-, flight, rfl⟩ := Scene.build_ok built
  refine ticketed_outline.always (fun _ _ => trivial) rfl ⟨?_, ?_⟩ run
  · simp [unplaced]
  · simp [unplaced]

/-- A pool that has been found shut takes nothing more. -/
theorem accepted_fixed (closing : Closing rules) (built : Scene.build config main pool = .ok s)
    {x : System σ ν} (before : System.Reaches rules (.idle s) x)
    (shut : WorkerPool.isShutdown x.scene.exec.pool = true) (after : System.Reaches rules x y) :
    y.scene.world.accepted = x.scene.world.accepted := by
  have alone : ∀ w, System.Reaches rules x w → Exclusive w.bag w.scene :=
    fun w later => exclusive_reaches built (before.trans later)
  have fixed := (fixed_outline closing x.scene.world.accepted).upheld.reaches
    (fun w later => ⟨alone w later, trivial⟩)
    ⟨fun _ => ⟨shut, rfl⟩, fun _ _ _ => ⟨shut, rfl⟩⟩ after
  obtain ⟨-, -, same⟩ := fixed.due (alone y after)
  exact same

end Runs

/-! ### A shutdown of a pool of worker threads -/

namespace ThreadPool

variable {J : Type}

theorem isShutdown_iff (p : ThreadPool J) : p.isShutdown = true ↔ 0 < p.runState.rank := by
  unfold isShutdown
  cases p.runState <;> decide

theorem rank_shutdown_pos (p : ThreadPool J) : 0 < p.shutdown.runState.rank := by
  unfold shutdown
  refine Nat.lt_of_lt_of_le ?_ (rank_tryTerminate _)
  change 0 < (ite _ _ p).runState.rank
  split
  · exact Nat.one_pos
  · rename_i past
    exact p.isShutdown_iff.mp (decide_eq_true past)

theorem rank_beginStop_pos (p : ThreadPool J) : 0 < p.beginStop.runState.rank := by
  unfold beginStop
  change 0 < (ite _ _ p).runState.rank
  split
  · exact Nat.two_pos
  · rename_i past
    exact Nat.lt_of_lt_of_le Nat.two_pos (Nat.le_of_not_lt past)

theorem rank_shutdownNow_pos (p : ThreadPool J) : 0 < p.shutdownNow.2.runState.rank := by
  refine Nat.lt_of_lt_of_le ?_ (rank_tryTerminate _)
  change 0 < (drain _ p.beginStop).runState.rank
  rw [drain_same runState_drainOne]
  exact p.rank_beginStop_pos

end ThreadPool

/-- Worker threads under an executor that nobody stops. -/
theorem Service.closing {calls : Call ν → Prop} (endures : ∀ c, calls c → c.frame.halts = false) :
    Closing (Service.rules calls) where
  stop p := p.shutdownNow.2.isShutdown_iff.mpr p.rank_shutdownNow_pos
  shutdown p _ := p.shutdown.isShutdown_iff.mpr p.rank_shutdown_pos
  offer t p shut := by
    have same := (ThreadPool.executed t p).runState
    exact (p.execute t).2.isShutdown_iff.mpr (same ▸ p.isShutdown_iff.mp shut)
  setCoreSize n p shut := by
    have same := ThreadPool.runState_setCoreSize n p
    exact (p.setCoreSize n).isShutdown_iff.mpr (same ▸ p.isShutdown_iff.mp shut)
  moves {p q} := by
    rintro ⟨number, act, did⟩ shut
    exact q.isShutdown_iff.mpr
      (Nat.lt_of_lt_of_le (p.isShutdown_iff.mp shut) (ThreadPool.acts did).rank_le)
  yields {p t q} := by
    rintro ⟨number, act, did⟩ shut
    exact q.isShutdown_iff.mpr
      (Nat.lt_of_lt_of_le (p.isShutdown_iff.mp shut) (ThreadPool.acts did).rank_le)
  calls allowed := endures _ allowed
  shuts p := p.shutdown.isShutdown_iff.mpr p.rank_shutdown_pos
  refuses t p shut := by
    have closed : p.runState ≠ .running := of_decide_eq_true shut
    change ThreadPool.refusal (p.execute t).1 ≠ none
    rw [ThreadPool.execute, if_pos closed]
    exact Option.some_ne_none _

end TwoTier
