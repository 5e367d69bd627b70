import Mathlib.Data.List.Chain
import TwoTier.Proofs.Closing

/-!
A shutdown among submissions and completions.

A submission that has looked at the pool in time may join the backlog after a shutdown, but its own
pass clears it, and a pass that was under way when the pool was shut is followed by that of the
shutdown. Passes of completions may go on after both have returned. Such a pass stands on a job
that is spent (`Linked`), and it finds nothing to offer.

So once all of them have returned nothing waits, and each submission has gone one of three ways
(`backlog_after_shutdown`).
-/

namespace TwoTier

variable {σ ν : Type}

/-! ### Calls that have returned -/

namespace Frame

/-- A job whose acts are all done. -/
def spent : Frame ν → Bool
  | .job _ [] => true
  | _ => false

/-- The frames of a submission or a shutdown before its pass. -/
def begins : Frame ν → Bool
  | .submit _ _ | .arrive _ | .survey _ | .push _ | .shutdown | .enterShutdown => true
  | _ => false

/-- The frames of a pass that finds the pool shut and nothing in the backlog. -/
def resumed : Frame ν → Bool
  | .pass | .drain [] | .leave [] => true
  | _ => false

theorem begins_of_inPass {f : Frame ν} (inside : f.inPass = true) : f.begins = false := by
  cases f with
  | submit | arrive | survey | push | shutdown | enterShutdown => simp [inPass] at inside
  | _ => rfl

theorem inHand_of_resumed {f : Frame ν} (resumed : f.resumed = true) : f.inHand = [] := by
  cases f with
  | handOver | offer => simp [Frame.resumed] at resumed
  | _ => rfl

end Frame

/-- No submission is under way on a thread, and a pass that it is in belongs to the completion of a
job, which it is about to throw away. -/
structure Returned (stack : List (Frame ν)) : Prop where
  calls : ∀ f ∈ stack, f.submitting = 0
  passes : ∀ above f below, stack = above ++ f :: below → f.inPass = true →
    ∃ t rest, below = .job t [] :: rest

theorem returned_nil : Returned ([] : List (Frame ν)) where
  calls _ mem := absurd mem List.not_mem_nil
  passes above f below split _ := by simp at split

/-- The pass of a completion may still be under way. -/
theorem returned_completing (t : Task ν) : Returned [.pass, .job t []] where
  calls f mem := by
    rcases List.mem_cons.mp mem with rfl | mem
    · rfl
    · rw [List.mem_singleton.mp mem]
      rfl
  passes above f below split inside := by
    rcases List.cons_eq_append_iff.mp split with ⟨-, own⟩ | ⟨above, -, rest⟩
    · exact ⟨t, [], (List.cons.inj own).2⟩
    · rcases List.singleton_eq_append_iff.mp rest with ⟨-, own⟩ | ⟨-, none⟩
      · obtain ⟨rfl, -⟩ := List.cons.inj own
        contradiction
      · contradiction

/-- What may stand above a job whose acts are done: nothing of a submission or a shutdown, and a
pass that leaves everything as it is once a shutdown has come to its own. -/
def Linked (s : Scene σ ν) (a b : Frame ν) : Prop :=
  b.spent = true → a.begins = false ∧
    (a.inPass = true → s.world.closing = true → s.exec.backlog = [] ∧ a.resumed = true)

namespace Linked

variable {s s' : Scene σ ν} {a b : Frame ν}

theorem of_calm (begins : a.begins = false) (inside : a.inPass = false) : Linked s a b :=
  fun _ => ⟨begins, fun inside' => by rw [inside] at inside'; contradiction⟩

theorem of_lasting (lasting : b.spent = false) : Linked s a b :=
  fun spent => by rw [lasting] at spent; contradiction

/-- Only a pass minds the backlog. -/
theorem mono (h : Linked s a b) (same : a.inPass = true →
    s'.exec.backlog = s.exec.backlog ∧ s'.world.closing = s.world.closing) : Linked s' a b := by
  intro spent
  refine ⟨(h spent).1, ?_⟩
  intro inside closing
  obtain ⟨backlog, closing'⟩ := same inside
  rw [backlog]
  exact (h spent).2 inside (closing' ▸ closing)

end Linked

section Runs

variable [WorkerPool σ (Task ν)] {rules : Rules σ ν}

/-- On every stack, each frame fits the one under it. -/
def Chained (y : System σ ν) : Prop := ∀ t, (y.threads.get t).IsChain (Linked y.scene)

/-- A frame that can stand above a spent job makes way for such frames, outside passes. -/
theorem Scene.OutsideStep.calm {me : ThreadId} {f : Frame ν} {new : List (Frame ν)}
    {s s' : Scene σ ν} (step : Scene.OutsideStep me s f new s') (h : f.begins = false) :
    ∀ a ∈ new.getLast?, a.begins = false := by
  intro a last
  cases step with
  | quiet quiet =>
      cases quiet with
      | submit | lost | turnAway | letIn | survey => simp [Frame.begins] at h
      | pastGate c | discard c =>
          rw [List.getLast?_concat] at last
          obtain rfl := Option.mem_some_iff.mp last
          rfl
      | spent | tooLate | finish | hangUp => simp at last
      | _ =>
          obtain rfl := Option.mem_some_iff.mp last
          rfl
  | shutdown => simp [Frame.begins] at h
  | withdraw free =>
      obtain rfl := Option.mem_some_iff.mp last
      rfl
  | stop => simp at last

theorem Scene.OutsideStep.linked {me : ThreadId} {f : Frame ν} {new : List (Frame ν)}
    {s s' s'' : Scene σ ν} (step : Scene.OutsideStep me s f new s') :
    new.IsChain (Linked s'') := by
  cases step with
  | quiet quiet =>
      cases quiet with
      | pastGate c | discard c =>
          apply List.Pairwise.isChain
          apply List.pairwise_of_forall_mem_list
          intro a _ b mem
          apply Linked.of_lasting
          rcases List.mem_append.mp mem with mem | mem
          · obtain ⟨work, -, rfl⟩ := List.mem_map.mp mem
            rfl
          · rw [List.mem_singleton.mp mem]
            rfl
      | run | complete => exact List.isChain_pair.mpr (.of_calm rfl rfl)
      | spent | tooLate | finish | hangUp | lost => exact .nil
      | _ => exact .singleton _
  | shutdown | withdraw => exact .singleton _
  | stop => exact .nil

/-- A pass that began on a spent job stays one that changes nothing. -/
theorem linked_pass {me : ThreadId} {f g b : Frame ν} {s s' : Scene σ ν}
    (step : Scene.PassStep me s f g s')
    (shut : s.world.closing = true → WorkerPool.isShutdown s.exec.pool = true)
    (h : Linked s f b) : Linked s' g b := by
  intro spent
  refine ⟨Frame.begins_of_inPass step.inPass, ?_⟩
  intro _ closing
  have closing : s.world.closing = true := step.closing ▸ closing
  obtain ⟨none, resumed⟩ := (h spent).2 step.inPass_before closing
  have shut := shut closing
  cases step with
  | shut _ => exact ⟨none, rfl⟩
  | main running _ | gated running _ =>
      rw [shut] at running
      contradiction
  | @empty _ _ refused _ head =>
      cases head with
      | drain =>
          cases refused with
          | nil => exact ⟨none, rfl⟩
          | cons => simp [Frame.resumed] at resumed
      | bypass | decide => simp [Frame.resumed] at resumed
  | takeHead some _ =>
      rw [none] at some
      contradiction
  | _ => simp [Frame.resumed] at resumed

/-- What takes the place of a frame fits the frame under it. -/
theorem linked_step {me : ThreadId} {f : Frame ν} {new : List (Frame ν)}
    {rest : Multiset (Frame ν)} {s s' : Scene σ ν} (sealed : Sealed (f ::ₘ rest) s)
    (cleared : s.exec.holder = none → Cleared none (f ::ₘ rest) s)
    (h : s.step me f = some (new, s')) :
    new.IsChain (Linked s') ∧
      ∀ b, Linked s f b → ∀ a ∈ new.getLast?, Linked s' a b := by
  cases Scene.step_cases h with
  | pass pass =>
      refine ⟨.singleton _, fun b fits a last => ?_⟩
      obtain rfl := Option.mem_some_iff.mp last
      exact linked_pass pass (fun closing => sealed (.inl closing)) fits
  | leave refused =>
      have calm : ∀ a ∈ refused.map (fun t => Frame.job t []), ∀ b,
          Linked { s with exec := s.exec.unlock } a b := by
        intro a mem b
        obtain ⟨t, -, rfl⟩ := List.mem_map.mp mem
        exact .of_calm rfl rfl
      refine ⟨?_, fun b _ a last => calm a (List.mem_of_getLast? last) b⟩
      apply List.Pairwise.isChain
      exact List.pairwise_of_forall_mem_list fun a mem b _ => calm a mem b
  | enter free enter =>
      refine ⟨.singleton _, fun b fits a last spent => ?_⟩
      obtain rfl := Option.mem_some_iff.mp last
      have calm := (fits spent).1
      cases enter with
      | push | shutting => simp [Frame.begins] at calm
      | resume => exact ⟨rfl, fun _ closing => ⟨cleared free closing, rfl⟩⟩
  | outside outside =>
      refine ⟨outside.linked, fun b fits a last spent => ?_⟩
      have calm := outside.calm (fits spent).1 a last
      exact Linked.of_calm calm (outside.outside a (List.mem_of_getLast? last)) spent

/-- While a pass is under way, other threads leave its backlog alone. -/
theorem backlog_of_step {me : ThreadId} {f : Frame ν} {new : List (Frame ν)}
    {rest : Multiset (Frame ν)} {s s' : Scene σ ν} (alone : Exclusive (f ::ₘ rest) s)
    (h : s.step me f = some (new, s')) {g : Frame ν} (mem : g ∈ rest) (inside : g.inPass = true) :
    s'.exec.backlog = s.exec.backlog ∧ s'.world.closing = s.world.closing := by
  have held : s.exec.holder ≠ none := by
    intro free
    rw [alone.no_pass free (Multiset.mem_cons_of_mem mem)] at inside
    contradiction
  cases within : f.inPass with
  | true =>
      rw [(alone.alone within).2 g mem] at inside
      contradiction
  | false =>
      cases waits : f.entersPass with
      | true => exact absurd (Scene.step_enter waits h).1 held
      | false =>
          cases Scene.step_outside within waits h with
          | quiet quiet => exact ⟨quiet.keeps.backlog, quiet.closing⟩
          | shutdown => exact ⟨rfl, rfl⟩
          | withdraw free => exact absurd free held
          | stop => exact ⟨rfl, by simp [World.closing_record]⟩

theorem chained_turn {y z : System σ ν} {t : ThreadId} (alone : Exclusive y.bag y.scene)
    (sealed : Sealed y.bag y.scene)
    (cleared : y.scene.exec.holder = none → Cleared none y.bag y.scene) (h : y.turn? t = some z)
    (chained : Chained y) : Chained z := by
  obtain ⟨f, new, rest, top, step, threads, bag, -⟩ := System.turn_stack h
  rw [bag] at alone sealed cleared
  have bystander : ∀ g ∈ rest ++ y.threads.others t, g.inPass = true →
      z.scene.exec.backlog = y.scene.exec.backlog ∧
        z.scene.world.closing = y.scene.world.closing :=
    fun g mem inside => backlog_of_step alone step (Multiset.mem_coe.mpr mem) inside
  obtain ⟨fits, across⟩ := linked_step sealed cleared step
  intro u
  by_cases own : u = t
  · subst own
    have before := chained u
    rw [top, List.isChain_cons] at before
    rw [threads, Stacks.get_set_self]
    refine List.isChain_append.mpr ⟨fits, ?_, ?_⟩
    · refine before.2.imp_of_mem_imp fun a b mem _ link => ?_
      exact link.mono (bystander a (List.mem_append_left _ mem))
    · exact fun a last b first => across b (before.1 b first) a last
  · rw [threads, Stacks.get_set_of_ne own]
    refine (chained u).imp_of_mem_imp fun a b mem _ link => ?_
    exact link.mono (bystander a (List.mem_append_right _ (Stacks.mem_others own mem)))

omit [WorkerPool σ (Task ν)] in
/-- A thread that was idle gets one frame. -/
theorem chained_assign {y : System σ ν} {t : ThreadId} {f : Frame ν} {s : Scene σ ν}
    (backlog : s.exec.backlog = y.scene.exec.backlog)
    (closing : s.world.closing = y.scene.world.closing) (chained : Chained y) :
    Chained { scene := s, threads := y.threads.set t [f] } := by
  intro u
  by_cases own : u = t
  · subst own
    change (Stacks.get u (Stacks.set u [f] y.threads)).IsChain _
    rw [Stacks.get_set_self]
    exact .singleton _
  · change (Stacks.get u (Stacks.set t [f] y.threads)).IsChain _
    rw [Stacks.get_set_of_ne own]
    exact (chained u).imp fun a b link => link.mono fun _ => ⟨backlog, closing⟩

variable {config : Config} {main : Option ThreadId} {pool : σ} {s : Scene σ ν} {y : System σ ν}

theorem chained_reaches (closing : Closing rules) (built : Scene.build config main pool = .ok s)
    (run : System.Reaches rules (.idle s) y) : Chained y := by
  induction run with
  | refl => exact fun t => .nil
  | @tail w z before _ next ih =>
      cases next with
      | turn t turned =>
          exact chained_turn (exclusive_reaches built before) (sealed_reaches closing built before)
            (cleared_reaches closing built before).1 turned ih
      | call | finish | finishReturned => exact chained_assign rfl rfl ih
      | pool p moved => exact fun t => (ih t).imp fun a b link => link.mono fun _ => ⟨rfl, rfl⟩

/-- A shutdown has come to its pass and all calls have returned: whoever has the lock finds nothing
to offer. -/
theorem nothing_waits (closing : Closing rules) (built : Scene.build config main pool = .ok s)
    (run : System.Reaches rules (.idle s) y) (begun : y.scene.world.closing = true)
    (returned : ∀ t, Returned (y.threads.get t)) :
    y.scene.exec.backlog = [] ∧ y.scene.world.retained = y.scene.world.offered := by
  have chained := chained_reaches closing built run
  have cleared := cleared_reaches closing built run
  have ordered := ordered_reaches built run
  by_cases free : y.scene.exec.holder = none
  · have none : y.scene.exec.backlog = [] := cleared.1 free begun
    refine ⟨none, ?_⟩
    simpa [none] using (ordered.1 free).line
  · obtain ⟨f, mem, inside⟩ := (exclusive_reaches built run).exists_pass free
    -- The pass is that of a completion, so it stands on a spent job.
    obtain ⟨u, own⟩ := Stacks.get_of_mem_frames (Multiset.mem_coe.mp mem)
    obtain ⟨above, below, split⟩ := List.append_of_mem own
    obtain ⟨job, rest, rfl⟩ := (returned u).passes above f below split inside
    have link : Linked y.scene f (.job job []) :=
      List.isChain_iff_forall_rel_of_append_cons_cons.mp (chained u) split
    obtain ⟨none, resumed⟩ := (link rfl).2 inside begun
    refine ⟨none, ?_⟩
    simpa [none, Frame.inHand_of_resumed resumed] using (ordered.2 f mem inside).line

/-- Submissions, completions and shutdowns in any order, over a pool that refuses everything once it
is shut and that may be shut at any moment. When a shutdown has been begun and all calls have
returned, the backlog is empty, and every submission went one of three ways: the pool accepted its
task, before it was shut; or the pool refused it; or the submission found the executor shut down.
The three counters say how many went which way. -/
theorem backlog_after_shutdown (closing : Closing rules)
    (built : Scene.build config main pool = .ok s) (run : System.Reaches rules (.idle s) y)
    (begun : y.scene.world.closing = true) (returned : ∀ t, Returned (y.threads.get t)) :
    y.scene.exec.backlog = [] ∧
      y.scene.world.pushed.Perm (y.scene.world.accepted ++ y.scene.world.refused) ∧
      (y.scene.world.accepted ++ y.scene.world.refused).Nodup ∧
      (∀ x, System.Reaches rules (.idle s) x → System.Reaches rules x y →
        WorkerPool.isShutdown x.scene.exec.pool = true →
          y.scene.world.accepted = x.scene.world.accepted) ∧
      (y.scene.world.turnedAway.Nodup ∧
        ∀ ticket ∈ y.scene.world.turnedAway, ticket < y.scene.world.nextTicket) ∧
      y.scene.exec.admitted = y.scene.world.accepted.length ∧
      y.scene.exec.rejected = y.scene.world.refused.length ∧
      y.scene.exec.dropped = y.scene.world.turnedAway.length ∧
      y.scene.world.nextTicket
        = y.scene.exec.admitted + y.scene.exec.rejected + y.scene.exec.dropped := by
  obtain ⟨none, line⟩ := nothing_waits closing built run begun returned
  have counted := counted_reaches built run
  have parted : y.scene.world.pushed.Perm (y.scene.world.accepted ++ y.scene.world.refused) := by
    rw [← (unstopped_reaches closing built run).retained, line]
    exact y.scene.world.offered_perm
  have tickets : y.scene.world.turnedAway.Nodup ∧
      ∀ ticket ∈ y.scene.world.turnedAway, ticket < y.scene.world.nextTicket := by
    have ticketed := ticketed_reaches built run
    refine ⟨Multiset.coe_nodup.mp (Multiset.nodup_of_le (Multiset.le_add_right _ _)
      ticketed.distinct), fun ticket mem => ?_⟩
    exact ticketed.older ticket (Multiset.mem_add.mpr (.inl (Multiset.mem_coe.mpr mem)))
  refine ⟨none, parted, parted.nodup_iff.mp (fresh_reaches built run).pushed_nodup,
    fun x before after shut => accepted_fixed closing built before shut after, tickets,
    counted.admitted, counted.rejected, counted.dropped, ?_⟩
  have submitted := (settled_reaches built run).submitted
  have nobody : tally Frame.submitting y.bag = 0 := by
    apply tally_eq_zero
    intro f mem
    obtain ⟨t, own⟩ := Stacks.get_of_mem_frames (Multiset.mem_coe.mp mem)
    exact (returned t).calls f own
  rw [nobody, parted.length_eq, List.length_append] at submitted
  rw [counted.admitted, counted.rejected]
  omega

end Runs

namespace Sample

/-- One task runs and another waits. A submission looks at the pool before it is shut and one after,
the shutdown clears the backlog, and then the first of these joins it after all. At last the running
task ends, and its completion begins a pass. -/
def overrun : List (Service.Move Unit) :=
  asks 1 12 (submit "a") ++ acts 1 3 .begin ++ asks 1 10 (submit "b") ++ asks 2 3 (submit "c")
    ++ asks 3 1 .shutdown ++ asks 1 4 (submit "d") ++ Service.Move.turns (.caller 3) 10
    ++ Service.Move.turns (.caller 2) 10 ++ Service.Move.turns (.worker 1) 2 ++ acts 1 3 .endRun

end Sample

set_option maxRecDepth 2000 in
open Sample in
/-- In that run the three ways are taken by one, two and one submission. -/
theorem backlog_after_shutdown_between_calls :
    Closing (Service.rules fun c : Call Unit => (!c.frame.halts) = true) ∧
      Scene.build config none (.ofConfig config) = .ok service.scene ∧
      ∃ y, System.Reaches (Service.rules fun c => (!c.frame.halts) = true)
          (.idle service.scene) y ∧
        y.scene.world.closing = true ∧ (∀ t, Returned (y.threads.get t)) ∧
        y.scene.world.accepted = [⟨1⟩] ∧ y.scene.world.refused = [⟨2⟩, ⟨3⟩] ∧
        y.scene.world.turnedAway = [3] ∧
        (y.scene.exec.backlog = [] ∧
          y.scene.world.pushed.Perm (y.scene.world.accepted ++ y.scene.world.refused) ∧
          (y.scene.world.accepted ++ y.scene.world.refused).Nodup ∧
          (∀ x, System.Reaches (Service.rules fun c => (!c.frame.halts) = true)
              (.idle service.scene) x →
            System.Reaches (Service.rules fun c => (!c.frame.halts) = true) x y →
            WorkerPool.isShutdown x.scene.exec.pool = true →
              y.scene.world.accepted = x.scene.world.accepted) ∧
          (y.scene.world.turnedAway.Nodup ∧
            ∀ ticket ∈ y.scene.world.turnedAway, ticket < y.scene.world.nextTicket) ∧
          y.scene.exec.admitted = y.scene.world.accepted.length ∧
          y.scene.exec.rejected = y.scene.world.refused.length ∧
          y.scene.exec.dropped = y.scene.world.turnedAway.length ∧
          y.scene.world.nextTicket
            = y.scene.exec.admitted + y.scene.exec.rejected + y.scene.exec.dropped) := by
  have closing : Closing (Service.rules fun c : Call Unit => (!c.frame.halts) = true) :=
    Service.closing fun c allowed => by simpa using allowed
  have built : Scene.build config none (.ofConfig config) = .ok service.scene := rfl
  have replayed : ∃ begun y, Service.replay (fun c => !c.frame.halts) overrun service
      = some (begun, y) ∧ (∃ t, y.threads.entries = [(.worker 1, [.pass, .job t []])]) ∧
      y.scene.world.closing = true ∧ y.scene.world.accepted = [⟨1⟩] ∧
      y.scene.world.refused = [⟨2⟩, ⟨3⟩] ∧ y.scene.world.turnedAway = [3] :=
    ⟨_, _, rfl, ⟨_, rfl⟩, rfl, rfl, rfl, rfl⟩
  obtain ⟨begun, y, replayed, ⟨job, entries⟩, closed, accepted, refused, turnedAway⟩ := replayed
  have run := (Service.replay_runs .refl replayed).reaches
  have returned : ∀ t, Returned (y.threads.get t) := by
    intro t
    rw [Stacks.get, entries]
    by_cases own : ThreadId.worker 1 = t
    · rw [Stacks.find, if_pos own]
      exact returned_completing job
    · rw [Stacks.find, if_neg own]
      exact returned_nil
  exact ⟨closing, built, y, run, closed, returned, accepted, refused, turnedAway,
    backlog_after_shutdown closing built run closed returned⟩

end TwoTier
