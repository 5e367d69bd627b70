import Mathlib.Tactic.Abel
import TwoTier.Proofs.Fifo

/-!
A stop among other calls.

A stop first takes the backlog and only then shuts the pool. A task that joins the backlog between
the two is exposed: nobody hands it back, and if the gate is shut its own pass does not offer it
either. Any pass that begins after the pool is shut offers all that waits.

So for stops, submissions and completions in any order, what is left in the backlog is exactly what
is exposed and not offered (`backlog_after_stop`), and every other submission is accounted for.
`backlog_left_by_stop` is a run in which a task is left behind.
-/

namespace TwoTier

variable {σ ν : Type}

/-! ### What stops leave in the journal -/

namespace Event

@[simp] def stopped? : Event → Option (List TaskId × List TaskId)
  | .stopped held waiting => some (held, waiting)
  | _ => none

/-- The tasks that joined the backlog since it was last taken and before the pool was first stopped.
The journal is given newest first. -/
def exposed : List Event → List TaskId
  | [] => []
  | .withdrawn _ :: _ => []
  | .pushed id _ :: before =>
    if before.any (·.stopped?.isSome) then exposed before else exposed before ++ [id]
  | _ :: before => exposed before

/-- Other events expose no task and protect none. -/
theorem exposed_append {es before : List Event}
    (blind : ∀ e ∈ es, e.pushed? = none ∧ e.withdrawn? = none) :
    exposed (es ++ before) = exposed before := by
  induction es with
  | nil => rfl
  | cons e es ih =>
      rw [List.cons_append]
      have later := ih fun e mem => blind e (List.mem_cons_of_mem _ mem)
      have passed := blind e List.mem_cons_self
      cases e with
      | pushed | withdrawn => simp at passed
      | _ => exact later

end Event

namespace World

/-- Whether a stop has reached the pool. -/
def stopped (w : World ν) : Bool := w.journal.any (·.stopped?.isSome)

def exposed (w : World ν) : List TaskId := Event.exposed w.journal

/-- The tasks of the backlog that stops have handed back. -/
def handedBack (w : World ν) : List TaskId := ((w.marks Event.stopped?).map Prod.snd).flatten

theorem exposed_push (id : TaskId) (n : Nat) (w : World ν) :
    (w.record (.pushed id n)).exposed = if w.stopped then w.exposed else w.exposed ++ [id] := rfl

@[simp] theorem stopped_record (e : Event) (w : World ν) :
    (w.record e).stopped = (e.stopped?.isSome || w.stopped) := rfl

theorem stopped_append {w w' : World ν} {es : List Event}
    (later : w'.journal = es ++ w.journal) (blind : ∀ e ∈ es, e.stopped? = none) :
    w'.stopped = w.stopped := by
  have none : es.any (·.stopped?.isSome) = false := by
    apply List.any_eq_false.mpr
    intro e mem
    rw [blind e mem]
    exact Bool.false_ne_true
  rw [stopped, later, List.any_append, none, Bool.false_or]
  rfl

@[simp] theorem handedBack_record (e : Event) (w : World ν) :
    (w.record e).handedBack = w.handedBack ++ (e.stopped?.map Prod.snd).getD [] := by
  unfold handedBack
  rw [marks_record, List.map_append, List.flatten_append]
  cases e.stopped? <;> simp

@[simp] theorem handedBack_fresh : (fresh : World ν).handedBack = [] := rfl

end World

namespace Scene.Keeps

variable {s s' : Scene σ ν}

theorem exposed (h : Keeps s s') : s'.world.exposed = s.world.exposed := by
  obtain ⟨es, later, quiet⟩ := h.journal
  rw [World.exposed, later, Event.exposed_append]
  · rfl
  intro e mem
  have still := quiet e mem
  cases e <;> simp_all [Event.movesTask]

theorem stopped (h : Keeps s s') : s'.world.stopped = s.world.stopped := by
  obtain ⟨es, later, quiet⟩ := h.journal
  refine World.stopped_append later ?_
  intro e mem
  have still := quiet e mem
  cases e <;> simp_all [Event.movesTask]

theorem handedBack (h : Keeps s s') : s'.world.handedBack = s.world.handedBack := by
  unfold World.handedBack
  rw [h.marks fun e quiet => by cases e <;> simp_all [Event.movesTask]]

end Scene.Keeps

/-! ### Steps -/

namespace Frame

/-- The tasks that a stop has taken and will hand back. -/
def handing : Frame ν → Multiset TaskId
  | .stopPool backlog => ↑(backlog.map Task.id)
  | _ => 0

/-- A submission that has neither been turned away nor joined the backlog. -/
def submitting : Frame ν → Nat
  | .arrive _ | .survey _ | .push _ => 1
  | _ => 0

theorem handing_of_inPass {f : Frame ν} (inside : f.inPass = true) : f.handing = 0 := by
  cases f with
  | stopPool _ => simp [inPass] at inside
  | _ => rfl

theorem submitting_of_inPass {f : Frame ν} (inside : f.inPass = true) : f.submitting = 0 := by
  cases f with
  | arrive _ | survey _ | push _ => simp [inPass] at inside
  | _ => rfl

end Frame

namespace Scene

theorem nextTicket_reportAll (reports : List (StaleTask (Option Capture))) (w : World ν) :
    (reports.foldl (fun w r => w.record (.stale r)) w).nextTicket = w.nextTicket := by
  induction reports generalizing w with
  | nil => rfl
  | cons r reports ih => exact ih _

theorem nextTicket_scan (s : Scene σ ν) : s.scan.2.world.nextTicket = s.world.nextTicket := by
  unfold scan
  cases s.exec.flight with
  | none => rfl
  | some flight => exact nextTicket_reportAll _ _

theorem dropped_scan (s : Scene σ ν) : s.scan.2.exec.dropped = s.exec.dropped := by
  unfold scan
  cases s.exec.flight <;> rfl

theorem nextTicket_finish (c : Closure ν) (on : ThreadId) (w : World ν) :
    (w.finish c on).nextTicket = w.nextTicket := by
  unfold World.finish
  split <;> rfl

variable [WorkerPool σ (Task ν)] {me : ThreadId} {f g : Frame ν} {new : List (Frame ν)}
  {s s' : Scene σ ν}

/-- A pass makes and drops no submissions. -/
theorem PassStep.submissions (h : PassStep me s f g s') :
    s'.world.nextTicket = s.world.nextTicket ∧ s'.exec.dropped = s.exec.dropped := by
  cases h with
  | tuned active queued _ | untuned active queued _ =>
      unfold retune
      dsimp only
      split <;> exact ⟨rfl, rfl⟩
  | mark t _ _ =>
      unfold marked enterFlight
      cases s.exec.flight <;> exact ⟨rfl, rfl⟩
  | _ => exact ⟨rfl, rfl⟩

/-- Outside passes a submission is made, moves on or is dropped. -/
theorem QuietStep.submissions (h : QuietStep me s f new s') :
    s'.world.nextTicket + f.submitting + s.exec.dropped = s.world.nextTicket
      + tally Frame.submitting (new : Multiset (Frame ν)) + s'.exec.dropped := by
  cases h with
  | submit work reply alive => simp [World.makeClosure, Frame.submitting]
  | turnAway c h => simp [World.record, Frame.submitting]; omega
  | survey c =>
      have tickets := nextTicket_scan s
      have dropped := dropped_scan s
      simp [makeTask, World.takeTaskId, Frame.submitting, tickets, dropped]
  | pastGate c | discard c =>
      rw [tally_submitAll_append fun _ _ => rfl]
      rfl
  | finish c =>
      have tickets := nextTicket_finish c me s.world
      simp [Frame.submitting, tickets]
  | _ => simp [record, World.record, Frame.submitting, Buffer.forget]

/-- Outside passes and stops no task is handed back. -/
theorem QuietStep.handing (h : QuietStep me s f new s') :
    tally Frame.handing (new : Multiset (Frame ν)) = f.handing := by
  cases h with
  | pastGate c | discard c =>
      rw [tally_submitAll_append fun _ _ => rfl]
      rfl
  | _ => simp [Frame.handing]

theorem PassStep.exposed (h : PassStep me s f g s') : s'.world.exposed = s.world.exposed := by
  obtain ⟨es, later, own⟩ := h.journal
  rw [World.exposed, later, Event.exposed_append]
  · rfl
  intro e mem
  have own := own e mem
  cases e <;> simp_all [Event.ofPass]

theorem PassStep.stopped (h : PassStep me s f g s') : s'.world.stopped = s.world.stopped := by
  obtain ⟨es, later, own⟩ := h.journal
  refine World.stopped_append later ?_
  intro e mem
  have own := own e mem
  cases e <;> simp_all [Event.ofPass]

theorem PassStep.handedBack (h : PassStep me s f g s') :
    s'.world.handedBack = s.world.handedBack := by
  unfold World.handedBack
  rw [h.marks fun e own => by cases e <;> simp_all [Event.ofPass]]

end Scene

/-! ### What holds in every run -/

section Runs

variable [WorkerPool σ (Task ν)] {rules : Rules σ ν}

/-- A pool that is shut by a stop, and once shut stays so. -/
structure StaysShut (rules : Rules σ ν) : Prop where
  stop : ∀ p : σ, WorkerPool.isShutdown (WorkerPool.shutdownNow p).2 = true
  shutdown : ∀ p : σ, WorkerPool.isShutdown p = true →
    WorkerPool.isShutdown (WorkerPool.shutdown p) = true
  offer : ∀ (t : Task ν) (p : σ), WorkerPool.isShutdown p = true →
    WorkerPool.isShutdown (WorkerPool.offer t p).2 = true
  setCoreSize : ∀ (n : Nat) (p : σ), WorkerPool.isShutdown p = true →
    WorkerPool.isShutdown (WorkerPool.setCoreSize n p) = true
  moves : ∀ {p q}, rules.moves p q → WorkerPool.isShutdown p = true →
    WorkerPool.isShutdown q = true
  yields : ∀ {p t q}, rules.yields p t q → WorkerPool.isShutdown p = true →
    WorkerPool.isShutdown q = true

theorem StaysShut.lasting (stays : StaysShut rules) :
    Lasting fun p : σ => WorkerPool.isShutdown p = true where
  offer t p := stays.offer t p
  setCoreSize n p := stays.setCoreSize n p
  shutdown := stays.shutdown _
  shutdownNow _ := stays.stop _

theorem StaysShut.pass (stays : StaysShut rules) {me : ThreadId} {f g : Frame ν} {s s' : Scene σ ν}
    (step : Scene.PassStep me s f g s') (shut : WorkerPool.isShutdown s.exec.pool = true) :
    WorkerPool.isShutdown s'.exec.pool = true :=
  stays.lasting.pass step shut

/-- Once a stop has reached the pool, it is shut. -/
def Halted (s : Scene σ ν) : Prop :=
  s.world.stopped = true → WorkerPool.isShutdown s.exec.pool = true

theorem halted_outline (stays : StaysShut rules) :
    Outline rules (fun _ _ => True) fun _ _ => Halted where
  enter {me f rest s s'} _ _ step inv := by
    cases step with
    | push t => exact inv
    | resume => exact inv
    | shutting => exact inv
  pass _ _ step inv := fun stopped => stays.pass step (inv (step.stopped ▸ stopped))
  leave _ _ inv := inv
  quiet {o me f new rest s s'} _ _ step inv := by
    intro stopped
    rw [step.keeps.pool]
    exact inv (step.keeps.stopped ▸ stopped)
  shutdown _ _ inv := fun stopped => stays.shutdown _ (inv stopped)
  withdraw _ _ _ inv := inv
  stop {o backlog jobs pool rest s} _ _ h _ := by
    intro _
    have shut := stays.stop s.exec.pool
    rwa [h] at shut
  call _ _ inv := inv
  finish _ yields _ inv := fun stopped => stays.yields yields (inv stopped)
  finishReturned _ _ _ inv := inv
  pool moves _ inv := fun stopped => stays.moves moves (inv stopped)

/-- Between passes, and in a pass that found the pool running, what waits is exposed. A pass that
finds the pool shut leaves nothing. -/
def Pent : Assertion σ ν
  | some (.drain _), _, _ => True
  | some (.handOver _ draining _), _, s | some (.offer _ draining _), _, s =>
    draining = false → ∀ t ∈ s.exec.backlog, t.id ∈ s.world.exposed
  | some .pass, _, s =>
    WorkerPool.isShutdown s.exec.pool = false → ∀ t ∈ s.exec.backlog, t.id ∈ s.world.exposed
  | _, _, s => ∀ t ∈ s.exec.backlog, t.id ∈ s.world.exposed

theorem Pent.mono {o : Option (Frame ν)} {bag bag' : Multiset (Frame ν)} {s s' : Scene σ ν}
    (h : Pent o bag s) (backlog : s'.exec.backlog = s.exec.backlog)
    (exposed : s'.world.exposed = s.world.exposed)
    (shut : WorkerPool.isShutdown s.exec.pool = true → WorkerPool.isShutdown s'.exec.pool = true) :
    Pent o bag' s' := by
  have waiting (held : ∀ t ∈ s.exec.backlog, t.id ∈ s.world.exposed) :
      ∀ t ∈ s'.exec.backlog, t.id ∈ s'.world.exposed := by
    rwa [backlog, exposed]
  cases o with
  | none => exact waiting h
  | some f =>
      cases f with
      | drain refused => trivial
      | handOver t draining refused => exact fun running => waiting (h running)
      | offer t draining refused => exact fun running => waiting (h running)
      | pass =>
          intro running
          refine waiting (h (Bool.eq_false_iff.mpr fun before => ?_))
          rw [shut before] at running
          contradiction
      | _ => exact waiting h

theorem pent_pass {me : ThreadId} {f g : Frame ν} {rest : Multiset (Frame ν)} {s s' : Scene σ ν}
    (step : Scene.PassStep me s f g s') (h : Pent (some f) (f ::ₘ rest) s) :
    Pent (some g) (g ::ₘ rest) s' := by
  have exposed := step.exposed
  cases step with
  | shut _ => trivial
  | main running _ => exact h running
  | gated running _ => exact h running
  | tuned active queued _ | untuned active queued _ =>
      have backlog := (Scene.keeps_retune active queued s).backlog
      intro t mem
      rw [exposed]
      exact h t (backlog ▸ mem)
  | mark t draining refused =>
      have backlog := (Scene.keeps_marked t s).backlog
      intro running t mem
      rw [exposed]
      exact h running t (backlog ▸ mem)
  | empty none hf =>
      intro t mem
      rw [none] at mem
      contradiction
  | takeHead head hf =>
      intro running t mem
      have among : t ∈ s.exec.backlog := head ▸ List.mem_cons_of_mem _ mem
      cases hf with
      | drain refused => contradiction
      | bypass => exact h t among
      | decide room free => exact h t among
  | accepted t draining refused _ =>
      cases draining with
      | true => trivial
      | false => exact h rfl
  | turnedDown t draining refused _ =>
      cases draining with
      | true => trivial
      | false => exact h rfl
  | _ => exact h

theorem pent_outline (stays : StaysShut rules) :
    Outline (σ := σ) (ν := ν) rules (fun _ s => Halted s) Pent where
  enter {me f rest s s'} _ halted step h := by
    cases step with
    | push t =>
        intro running
        -- Over a pool that runs no stop has come, so the task is exposed.
        have going : s.world.stopped = false := by
          apply Bool.eq_false_iff.mpr
          intro stopped
          have shut : WorkerPool.isShutdown s.exec.pool = true := halted stopped
          exact absurd (shut.symm.trans running) (by decide)
        intro u mem
        rw [World.exposed_push, if_neg (by rw [going]; decide)]
        rcases List.mem_append.mp mem with mem | mem
        · exact List.mem_append_left _ (h u mem)
        · rw [List.mem_singleton.mp mem]
          exact List.mem_append_right _ (List.mem_singleton_self _)
    | resume => exact fun _ => h
    | shutting => exact fun _ => h
  pass _ _ step h := pent_pass step h
  leave _ _ h := h
  quiet _ _ step h := by
    refine h.mono step.keeps.backlog step.keeps.exposed ?_
    rw [step.keeps.pool]
    exact id
  shutdown _ _ h := h.mono rfl rfl (stays.shutdown _)
  withdraw _ _ _ _ := fun t mem => absurd mem List.not_mem_nil
  stop {o backlog jobs pool rest s} _ _ stop h := by
    refine h.mono rfl rfl fun _ => ?_
    have shut := stays.stop s.exec.pool
    rwa [stop] at shut
  call _ _ h := h.mono rfl rfl id
  finish _ yields _ h := h.mono rfl rfl (stays.yields yields)
  finishReturned _ _ _ h := h.mono rfl rfl id
  pool moves _ h := h.mono rfl rfl (stays.moves moves)

/-- What stops take they hand back, every submission is dropped or joins the backlog, and what is
exposed has not been taken. -/
structure Settled (bag : Multiset (Frame ν)) (s : Scene σ ν) : Prop where
  returning : (s.world.withdrawn : Multiset TaskId) = ↑s.world.handedBack + tally Frame.handing bag
  submitted : s.world.nextTicket
    = s.exec.dropped + s.world.pushed.length + tally Frame.submitting bag
  kept : ∀ id ∈ s.world.exposed, id ∈ s.world.retained

omit [WorkerPool σ (Task ν)] in
/-- The bag may change by frames that neither submit nor hand back. -/
theorem Settled.of_bag {bag bag' : Multiset (Frame ν)} {s s' : Scene σ ν} (h : Settled bag s)
    (world : s'.world = s.world) (dropped : s'.exec.dropped = s.exec.dropped)
    (handing : tally Frame.handing bag' = tally Frame.handing bag)
    (submitting : tally Frame.submitting bag' = tally Frame.submitting bag) : Settled bag' s' := by
  refine ⟨?_, ?_, ?_⟩
  · rw [world, handing]
    exact h.returning
  · rw [world, dropped, submitting]
    exact h.submitted
  · rw [world]
    exact h.kept

omit [WorkerPool σ (Task ν)] in
theorem settled_push {t : Task ν} {me : ThreadId} {n : Nat} {rest : Multiset (Frame ν)}
    {s : Scene σ ν} (h : Settled (.push t ::ₘ rest) s) (new : t.id ∉ s.world.withdrawn) :
    Settled (.pass ::ₘ rest) { s with
      exec := (s.exec.lock me).push t, world := s.world.record (.pushed t.id n) } := by
  refine ⟨?_, ?_, ?_⟩
  · simpa [Frame.handing] using h.returning
  · have submitted := h.submitted
    simp [Frame.submitting, Buffer.push, Buffer.lock] at submitted ⊢
    omega
  · intro id mem
    rw [World.exposed_push] at mem
    rw [World.retained_push new]
    split at mem
    · exact List.mem_append_left _ (h.kept id mem)
    · rcases List.mem_append.mp mem with mem | mem
      · exact List.mem_append_left _ (h.kept id mem)
      · exact List.mem_append_right _ mem

theorem settled_outline : Outline (σ := σ) (ν := ν) rules
    (fun bag s => Fresh bag s ∧ ∀ id ∈ s.world.withdrawn, id ∈ s.world.pushed)
    fun _ => Settled where
  enter {me f rest s s'} _ known step inv := by
    cases step with
    | push t => exact settled_push inv fun mem => known.1.not_pushed (known.2 _ mem)
    | resume =>
        exact inv.of_bag rfl rfl (by simp [Frame.handing]) (by simp [Frame.submitting])
    | shutting =>
        refine ⟨?_, ?_, ?_⟩
        · simpa [Frame.handing] using inv.returning
        · simpa [Frame.submitting, Buffer.lock] using inv.submitted
        · intro id mem
          simpa [World.retained] using inv.kept id mem
  pass {me f g rest s s'} _ _ step inv := by
    obtain ⟨tickets, dropped⟩ := step.submissions
    have inside := step.inPass_before
    refine ⟨?_, ?_, ?_⟩
    · rw [step.withdrawn, step.handedBack, tally_cons, Frame.handing_of_inPass step.inPass,
        inv.returning, tally_cons, Frame.handing_of_inPass inside]
    · rw [tickets, dropped, step.pushed, tally_cons, Frame.submitting_of_inPass step.inPass,
        inv.submitted, tally_cons, Frame.submitting_of_inPass inside]
    · rw [step.exposed, step.retained]
      exact inv.kept
  leave {refused rest s} _ _ inv := by
    refine inv.of_bag rfl rfl ?_ ?_
    · rw [tally_add, tally_discards fun _ => rfl, tally_cons]
      rfl
    · rw [tally_add, tally_discards fun _ => rfl, tally_cons]
      rfl
  quiet {o me f new rest s s'} _ _ step inv := by
    have keeps := step.keeps
    refine ⟨?_, ?_, ?_⟩
    · rw [keeps.withdrawn, keeps.handedBack, tally_add, step.handing, inv.returning, tally_cons]
    · have submitted := inv.submitted
      have moved := step.submissions
      rw [tally_cons] at submitted
      rw [keeps.pushed, tally_add]
      omega
    · rw [keeps.exposed, keeps.retained]
      exact inv.kept
  shutdown _ _ inv := inv.of_bag rfl rfl (by simp [Frame.handing]) (by simp [Frame.submitting])
  withdraw {rest s} _ _ _ inv := by
    refine ⟨?_, ?_, ?_⟩
    · have returning := inv.returning
      simp only [tally_cons, Frame.handing, zero_add] at returning
      rw [World.withdrawn_record, World.handedBack_record, tally_cons, Frame.handing]
      simp only [Event.withdrawn?, Event.stopped?, Option.getD_some, Option.map_none,
        Option.getD_none, List.append_nil]
      rw [← Multiset.coe_add, returning]
      abel
    · simpa [Frame.submitting] using inv.submitted
    · exact fun id mem => absurd mem List.not_mem_nil
  stop {o backlog jobs pool rest s} _ _ stop inv := by
    refine ⟨?_, ?_, ?_⟩
    · have returning := inv.returning
      simp only [tally_cons, Frame.handing] at returning
      rw [World.withdrawn_record, World.handedBack_record]
      simp only [Event.withdrawn?, Event.stopped?, Option.map_some, Option.getD_some,
        Option.getD_none, List.append_nil]
      rw [← Multiset.coe_add, returning]
      abel
    · simpa [Frame.submitting] using inv.submitted
    · intro id mem
      simpa [World.retained] using inv.kept id mem
  call {o c bag s} _ _ inv := by
    refine inv.of_bag rfl rfl ?_ ?_
    · cases c <;> simp [Call.frame, Frame.handing]
    · cases c <;> simp [Call.frame, Frame.submitting]
  finish _ _ _ inv := inv.of_bag rfl rfl (by simp [Frame.handing]) (by simp [Frame.submitting])
  finishReturned _ _ _ inv :=
    inv.of_bag rfl rfl (by simp [Frame.handing]) (by simp [Frame.submitting])
  pool _ _ inv := inv.of_bag rfl rfl rfl rfl

variable {config : Config} {main : Option ThreadId} {pool : σ} {s : Scene σ ν} {y : System σ ν}

theorem halted_reaches (stays : StaysShut rules) (built : Scene.build config main pool = .ok s)
    (run : System.Reaches rules (.idle s) y) : Halted y.scene := by
  obtain ⟨-, flight, rfl⟩ := Scene.build_ok built
  refine (halted_outline stays).always (fun _ _ => trivial) rfl ?_ run
  intro stopped
  exact absurd stopped Bool.false_ne_true

theorem settled_reaches (built : Scene.build config main pool = .ok s)
    (run : System.Reaches rules (.idle s) y) : Settled y.bag y.scene := by
  have basis : ∀ w, System.Reaches rules (.idle s) w →
      Fresh w.bag w.scene ∧ ∀ id ∈ w.scene.world.withdrawn, id ∈ w.scene.world.pushed :=
    fun w before => ⟨fresh_reaches built before, joined_reaches built before⟩
  obtain ⟨-, flight, rfl⟩ := Scene.build_ok built
  refine settled_outline.always basis rfl ⟨?_, ?_, ?_⟩ run
  · simp
  · rw [World.pushed_record, tally_zero]
    rfl
  · exact fun id mem => absurd mem List.not_mem_nil

/-- What waits is what is exposed and has not been offered. -/
theorem waiting_iff (stays : StaysShut rules) (built : Scene.build config main pool = .ok s)
    (run : System.Reaches rules (.idle s) y) (free : y.scene.exec.holder = none) (id : TaskId) :
    id ∈ y.scene.exec.backlog.map Task.id ↔
      id ∈ y.scene.world.exposed ∧ id ∉ y.scene.world.offered := by
  obtain ⟨line, apart⟩ := line_reaches built run free
  have kept := (settled_reaches built run).kept
  have halted : ∀ w, System.Reaches rules (.idle s) w → Halted w.scene :=
    fun w before => halted_reaches stays built before
  obtain ⟨-, flight, rfl⟩ := Scene.build_ok built
  have pent := ((pent_outline stays).reaches halted rfl
    (fun t mem => absurd mem List.not_mem_nil) run).1 free
  constructor
  · intro mem
    obtain ⟨t, waits, rfl⟩ := List.mem_map.mp mem
    refine ⟨pent t waits, ?_⟩
    intro offered
    rw [line] at apart
    exact List.disjoint_of_nodup_append apart offered mem
  · rintro ⟨exposed, spared⟩
    have mem := kept id exposed
    rw [line] at mem
    exact (List.mem_append.mp mem).resolve_left spared

/-- Once the stops have returned, what they took they have handed back. -/
theorem pushed_accounted (built : Scene.build config main pool = .ok s)
    (run : System.Reaches rules (.idle s) y) (free : y.scene.exec.holder = none)
    (returned : ∀ f ∈ y.bag, f.handing = 0) {id : TaskId} (mem : id ∈ y.scene.world.pushed) :
    id ∈ y.scene.world.offered ∨ id ∈ y.scene.world.handedBack ∨
      id ∈ y.scene.exec.backlog.map Task.id := by
  by_cases taken : id ∈ y.scene.world.withdrawn
  · refine .inr (.inl ?_)
    have returning := (settled_reaches built run).returning
    rw [tally_eq_zero returned, add_zero] at returning
    rw [← Multiset.mem_coe, ← returning]
    exact Multiset.mem_coe.mpr taken
  · have kept : id ∈ y.scene.world.retained := List.mem_filter.mpr ⟨mem, decide_eq_true taken⟩
    rw [(line_reaches built run free).1] at kept
    exact (List.mem_append.mp kept).imp_right .inr

/-- Submissions, completions, shutdowns and stops in any order, at a moment when no pass is under
way and every submission and every stop has returned. What is left in the backlog are the tasks that
joined it after it was last taken and before the pool was stopped, and that no pass has offered; in
particular the backlog is empty just when all of those have been offered. Every other task has been
offered to the pool or handed back, and every submission that made no task counts as dropped. -/
theorem backlog_after_stop (stays : StaysShut rules) (built : Scene.build config main pool = .ok s)
    (run : System.Reaches rules (.idle s) y) (free : y.scene.exec.holder = none)
    (returned : ∀ f ∈ y.bag, f.submitting = 0 ∧ f.handing = 0) :
    (∀ id, id ∈ y.scene.exec.backlog.map Task.id ↔
        id ∈ y.scene.world.exposed ∧ id ∉ y.scene.world.offered) ∧
      (y.scene.exec.backlog = [] ↔
        ∀ id ∈ y.scene.world.exposed, id ∈ y.scene.world.offered) ∧
      (∀ id ∈ y.scene.world.pushed, id ∈ y.scene.world.offered ∨
        id ∈ y.scene.world.handedBack ∨ id ∈ y.scene.exec.backlog.map Task.id) ∧
      y.scene.world.nextTicket = y.scene.exec.dropped + y.scene.world.pushed.length := by
  have left : ∀ id, id ∈ y.scene.exec.backlog.map Task.id ↔
      id ∈ y.scene.world.exposed ∧ id ∉ y.scene.world.offered :=
    waiting_iff stays built run free
  refine ⟨left, ?_, ?_, ?_⟩
  · constructor
    · intro none id exposed
      by_contra spared
      have mem := (left id).mpr ⟨exposed, spared⟩
      rw [none] at mem
      contradiction
    · intro all
      apply List.eq_nil_iff_forall_not_mem.mpr
      intro t mem
      obtain ⟨exposed, spared⟩ := (left t.id).mp (List.mem_map_of_mem mem)
      exact spared (all _ exposed)
  · intro id mem
    exact pushed_accounted built run free (fun f among => (returned f among).2) mem
  · have submitted := (settled_reaches built run).submitted
    rwa [tally_eq_zero fun f mem => (returned f mem).1, add_zero] at submitted

end Runs

/-! ### A stop of a pool that is driven by hand -/

theorem HandPool.staysShut (b : Bounds ν) : StaysShut b.rules where
  stop p := by
    change (HandPool.shutdownNow p).2.shut = true
    unfold HandPool.shutdownNow
    split <;> rfl
  shutdown _ _ := rfl
  offer t p shut := by
    change (HandPool.offer t p).2.shut = true
    rcases HandPool.offer_cases t p with taken | ⟨why, n, turned⟩
    · rw [taken]
      exact shut
    · rw [turned]
      exact shut
  setCoreSize n p shut := by
    change (HandPool.setCoreSize n p).shut = true
    unfold HandPool.setCoreSize
    split <;> exact shut
  moves {p q} h shut := by
    obtain ⟨n, rfl⟩ := h
    exact shut
  yields {p t q} h shut := by
    obtain ⟨index, taken⟩ := h
    obtain ⟨before, after, -, rfl⟩ := HandPool.held_of_take? taken
    exact shut

namespace Sample

/-- A submission looks whether the executor is shut down; a stop takes the backlog, which is empty;
the task joins the backlog and finds the only worker busy; the stop shuts the pool. -/
def overtaken : List (Act Unit) :=
  calls 1 12 (submit "a") ++ calls 2 3 (submit "b") ++ calls 3 1 .shutdownNow
    ++ Act.turns (.caller 2) 7 ++ Act.turns (.caller 3) 1

end Sample

set_option maxRecDepth 2000 in
open Sample in
/-- A completion after such a stop offers what was left. -/
theorem backlog_after_stop_and_completion :
    ∃ y, System.Reaches (Bounds.none (ν := Unit)).rules (.idle scene) y ∧
      y.scene.exec.holder = none ∧ (∀ f ∈ y.bag, f.submitting = 0 ∧ f.handing = 0) ∧
      y.scene.world.exposed = [⟨2⟩] ∧
      ((∀ id, id ∈ y.scene.exec.backlog.map Task.id ↔
          id ∈ y.scene.world.exposed ∧ id ∉ y.scene.world.offered) ∧
        (y.scene.exec.backlog = [] ↔
          ∀ id ∈ y.scene.world.exposed, id ∈ y.scene.world.offered) ∧
        (∀ id ∈ y.scene.world.pushed, id ∈ y.scene.world.offered ∨
          id ∈ y.scene.world.handedBack ∨ id ∈ y.scene.exec.backlog.map Task.id) ∧
        y.scene.world.nextTicket = y.scene.exec.dropped + y.scene.world.pushed.length) := by
  have replayed : ∃ y, System.replay .none
      (overtaken ++ .finish (.worker 1) 0 .runComplete :: Act.turns (.worker 1) 17)
      (.idle scene) = some y ∧ y.threads.entries = [] ∧ y.scene.exec.holder = none ∧
        y.scene.world.exposed = [⟨2⟩] := ⟨_, rfl, rfl, rfl, rfl⟩
  obtain ⟨y, replayed, quiet, free, exposed⟩ := replayed
  have run := System.replay_reaches .refl replayed
  have returned : ∀ f ∈ y.bag, f.submitting = 0 ∧ f.handing = 0 := by
    intro f mem
    rw [System.bag_eq_zero (System.idle_of_entries quiet)] at mem
    exact absurd mem (Multiset.notMem_zero f)
  exact ⟨y, run, free, returned, exposed,
    backlog_after_stop (HandPool.staysShut _) scene_built run free returned⟩

open Sample in
/-- When all calls have returned, a task is left in the backlog that was neither offered nor dropped
nor handed back. -/
theorem backlog_left_by_stop :
    StaysShut (Bounds.none (ν := Unit)).rules ∧
      ∃ y, System.Reaches (Bounds.none (ν := Unit)).rules (.idle scene) y ∧
        (∀ t, y.threads.get t = []) ∧ y.scene.world.stopped = true ∧
        y.scene.exec.backlog.map Task.id = [⟨2⟩] ∧ y.scene.world.offered = [⟨1⟩] ∧
        y.scene.exec.dropped = 0 ∧ y.scene.world.handedBack = [] ∧
        y.scene.returned.map Task.id = [] := by
  have replayed : ∃ y, System.replay .none overtaken (.idle scene) = some y ∧
      y.threads.entries = [] ∧ y.scene.world.stopped = true ∧
      y.scene.exec.backlog.map Task.id = [⟨2⟩] ∧ y.scene.world.offered = [⟨1⟩] ∧
      y.scene.exec.dropped = 0 ∧ y.scene.world.handedBack = [] ∧
      y.scene.returned.map Task.id = [] := ⟨_, rfl, rfl, rfl, rfl, rfl, rfl, rfl, rfl⟩
  obtain ⟨y, replayed, quiet, left⟩ := replayed
  exact ⟨HandPool.staysShut _, y, System.replay_reaches .refl replayed,
    System.idle_of_entries quiet, left⟩

end TwoTier
