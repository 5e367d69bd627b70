import TwoTier.Buffer.Step

/-!
What one step of a thread can do.

Every frame is of one of three kinds: it belongs to a pass, inside the critical section
(`Frame.inPass`); it waits for the lock to begin a pass (`Frame.entersPass`); or it is outside. The
theorems `step_pass`, `step_enter` and `step_outside` list, kind by kind, everything that a step can
change, guards included, and `step_cases` has all kinds together. Nothing after this module opens
`Scene.step`.
-/

namespace TwoTier

variable {σ ν : Type}

namespace Frame

/-- The frames of a pass: their thread is inside the critical section. -/
def inPass : Frame ν → Bool
  | .pass | .drain _ | .bypass | .readActive | .readQueued _ | .retune _ _ | .setCore _ _ _
  | .decide _ _ _ | .handOver _ _ _ | .offer _ _ _ | .leave _ => true
  | _ => false

/-- The frames that wait for the lock and then begin a pass. -/
def entersPass : Frame ν → Bool
  | .push _ | .enter | .enterShutdown => true
  | _ => false

/-- The frames of a shutdown or a stop. -/
def stops : Frame ν → Bool
  | .shutdown | .shutdownNow | .stopPool _ | .enterShutdown => true
  | _ => false

/-- The frames of a pass that take the head of the backlog, under a bound on the ready queue. -/
inductive TakesHead (bound : Nat) : Frame ν → Bool → List (Task ν) → Prop where
  | drain (refused : List (Task ν)) : TakesHead bound (.drain refused) true refused
  | bypass : TakesHead bound .bypass false []
  | decide {active queued target : Nat} (room : queued ≤ bound) (free : active < target) :
      TakesHead bound (.decide active queued target) false []

end Frame

/-- The events that account for tasks in the backlog: that one joins it, is offered to the pool,
or is taken out by a stop. -/
def Event.movesTask : Event → Bool
  | .pushed _ _ | .admitted _ _ | .refused _ _ | .withdrawn _ | .stopped _ _ => true
  | _ => false

namespace Scene

/-- What most steps leave alone: the pool, the backlog, the lock and the gates. The journal may get
longer by events that move no task, and task ids may be given out. -/
structure Keeps (s s' : Scene σ ν) : Prop where
  config : s'.exec.config = s.exec.config
  pool : s'.exec.pool = s.exec.pool
  backlog : s'.exec.backlog = s.exec.backlog
  mainThread : s'.exec.mainThread = s.exec.mainThread
  holder : s'.exec.holder = s.exec.holder
  alive : s'.alive = s.alive
  returned : s'.returned = s.returned
  gates : s'.world.openGates = s.world.openGates
  nextTask : s.world.nextTask ≤ s'.world.nextTask
  journal : ∃ es, s'.world.journal = es ++ s.world.journal ∧ ∀ e ∈ es, e.movesTask = false

theorem Keeps.refl (s : Scene σ ν) : Keeps s s :=
  ⟨rfl, rfl, rfl, rfl, rfl, rfl, rfl, rfl, Nat.le_refl _, [], rfl, by simp⟩

theorem Keeps.trans {s s' s'' : Scene σ ν} (h : Keeps s s') (h' : Keeps s' s'') : Keeps s s'' := by
  obtain ⟨es, he, quiet⟩ := h.journal
  obtain ⟨es', he', quiet'⟩ := h'.journal
  refine ⟨h'.config.trans h.config, h'.pool.trans h.pool, h'.backlog.trans h.backlog,
    h'.mainThread.trans h.mainThread, h'.holder.trans h.holder, h'.alive.trans h.alive,
    h'.returned.trans h.returned, h'.gates.trans h.gates,
    Nat.le_trans h.nextTask h'.nextTask, es' ++ es, ?_, ?_⟩
  · rw [he', he, List.append_assoc]
  intro e mem
  rcases List.mem_append.mp mem with mem | mem
  · exact quiet' e mem
  · exact quiet e mem

/-- Recording an event that moves no task. -/
theorem keeps_record {e : Event} (quiet : e.movesTask = false) (s : Scene σ ν) :
    Keeps s (s.record e) :=
  ⟨rfl, rfl, rfl, rfl, rfl, rfl, rfl, rfl, Nat.le_refl _, [e], rfl, by simpa using quiet⟩

/-- A step that does not touch the executor and adds nothing to the journal. -/
theorem keeps_world {s : Scene σ ν} {world : World ν} (h : world.journal = s.world.journal)
    (gates : world.openGates = s.world.openGates) (ids : s.world.nextTask ≤ world.nextTask) :
    Keeps s { s with world } :=
  ⟨rfl, rfl, rfl, rfl, rfl, rfl, rfl, gates, ids, [], by simpa using h, by simp⟩

theorem journal_reportAll (reports : List (StaleTask (Option Capture))) (w : World ν) :
    (reports.foldl (fun w r => w.record (.stale r)) w).journal
      = (reports.map Event.stale).reverse ++ w.journal := by
  induction reports generalizing w with
  | nil => rfl
  | cons r reports ih => simp [ih]

theorem nextTask_reportAll (reports : List (StaleTask (Option Capture))) (w : World ν) :
    (reports.foldl (fun w r => w.record (.stale r)) w).nextTask = w.nextTask := by
  induction reports generalizing w with
  | nil => rfl
  | cons r reports ih => simp [ih]

theorem openGates_reportAll (reports : List (StaleTask (Option Capture))) (w : World ν) :
    (reports.foldl (fun w r => w.record (.stale r)) w).openGates = w.openGates := by
  induction reports generalizing w with
  | nil => rfl
  | cons r reports ih => simp [ih]

theorem nextTask_scan (s : Scene σ ν) : s.scan.2.world.nextTask = s.world.nextTask := by
  unfold scan
  cases s.exec.flight with
  | none => rfl
  | some flight => exact nextTask_reportAll _ _

theorem keeps_scan (s : Scene σ ν) : Keeps s s.scan.2 := by
  have ids : s.world.nextTask ≤ s.scan.2.world.nextTask := Nat.le_of_eq (nextTask_scan s).symm
  unfold scan at ids ⊢
  cases h : s.exec.flight with
  | none => exact .refl s
  | some flight =>
      rw [h] at ids
      refine ⟨rfl, rfl, rfl, rfl, rfl, rfl, rfl, openGates_reportAll _ _, ids, _,
        journal_reportAll _ _, ?_⟩
      intro e mem
      obtain ⟨r, -, rfl⟩ := List.mem_map.mp (List.mem_reverse.mp mem)
      rfl

theorem keeps_enterFlight (t : Task ν) (s : Scene σ ν) : Keeps s (s.enterFlight t).2 := by
  unfold enterFlight
  cases s.exec.flight with
  | none => exact .refl s
  | some flight => exact ⟨rfl, rfl, rfl, rfl, rfl, rfl, rfl, rfl, Nat.le_refl _, [], rfl, by simp⟩

/-- The scene in which a task is marked as being handed over. -/
def marked (t : Task ν) (s : Scene σ ν) : Scene σ ν :=
  { (s.enterFlight t).2 with exec := { (s.enterFlight t).2.exec with handoff := some t.id } }

theorem keeps_marked (t : Task ν) (s : Scene σ ν) : Keeps s (s.marked t) := by
  have keeps := keeps_enterFlight t s
  exact ⟨keeps.config, keeps.pool, keeps.backlog, keeps.mainThread, keeps.holder, keeps.alive,
    keeps.returned, keeps.gates, keeps.nextTask, keeps.journal⟩

theorem enterFlight_id (t : Task ν) (s : Scene σ ν) : (s.enterFlight t).1.id = t.id := by
  unfold enterFlight; split <;> rfl

theorem enterFlight_closure (t : Task ν) (s : Scene σ ν) :
    (s.enterFlight t).1.closure = t.closure := by
  unfold enterFlight
  split <;> rfl

theorem keeps_finish (c : Closure ν) (on : ThreadId) (s : Scene σ ν) :
    Keeps s { s with world := s.world.finish c on } := by
  unfold World.finish
  split
  · exact keeps_world rfl rfl (Nat.le_refl _)
  · exact keeps_record (e := .panicked _ _ _) rfl s
  · exact .refl s

variable [WorkerPool σ (Task ν)]

theorem keeps_retune (active queued : Nat) (s : Scene σ ν) :
    Keeps s (s.retune active queued).2 := by
  unfold retune
  dsimp only
  split
  · exact .refl s
  · exact ⟨rfl, rfl, rfl, rfl, rfl, rfl, rfl, rfl, Nat.le_refl _, [_], rfl, by
      simp [Event.movesTask]⟩

/-- The steps inside a pass, but for the last: from which frame to which, and what they change. -/
inductive PassStep (me : ThreadId) (s : Scene σ ν) : Frame ν → Frame ν → Scene σ ν → Prop where
  /-- The pool is shut: the whole backlog is offered. -/
  | shut (h : WorkerPool.isShutdown s.exec.pool = true) : PassStep me s .pass (.drain []) s
  /-- The main thread does not look at the readings. -/
  | main (h : WorkerPool.isShutdown s.exec.pool = false) (hm : s.exec.mainThread = some me) :
      PassStep me s .pass .bypass s
  | gated (h : WorkerPool.isShutdown s.exec.pool = false) (hm : s.exec.mainThread ≠ some me) :
      PassStep me s .pass .readActive s
  | readActive : PassStep me s .readActive (.readQueued (WorkerPool.activeCount s.exec.pool)) s
  | readQueued (active : Nat) :
      PassStep me s (.readQueued active) (.retune active (WorkerPool.queueLength s.exec.pool)) s
  /-- The pool has the core size of the backlog already. -/
  | tuned (active queued : Nat) (same : WorkerPool.coreSize s.exec.pool
        = tunedCoreSize s.exec.backlog.length s.exec.config) :
      PassStep me s (.retune active queued)
        (.decide active queued (tunedCoreSize s.exec.backlog.length s.exec.config))
        (s.retune active queued).2
  | untuned (active queued : Nat) (differs : WorkerPool.coreSize s.exec.pool
        ≠ tunedCoreSize s.exec.backlog.length s.exec.config) :
      PassStep me s (.retune active queued)
        (.setCore active queued (tunedCoreSize s.exec.backlog.length s.exec.config))
        (s.retune active queued).2
  | setCore (active queued target : Nat) :
      PassStep me s (.setCore active queued target) (.decide active queued target)
        { s with exec := { s.exec with pool := WorkerPool.setCoreSize target s.exec.pool }
                 world := s.world.record (.coreSizeSet target) }
  /-- The gate is shut. -/
  | closed (active queued target : Nat)
      (h : ¬ (queued ≤ s.exec.config.maxQueueSize ∧ active < target)) :
      PassStep me s (.decide active queued target) (.leave []) s
  /-- There is nothing to offer. -/
  | empty {f : Frame ν} {draining : Bool} {refused : List (Task ν)} (h : s.exec.backlog = [])
      (hf : f.TakesHead s.exec.config.maxQueueSize draining refused) :
      PassStep me s f (.leave refused) s
  /-- The head leaves the backlog. -/
  | takeHead {f : Frame ν} {draining : Bool} {refused rest : List (Task ν)} {t : Task ν}
      (h : s.exec.backlog = t :: rest)
      (hf : f.TakesHead s.exec.config.maxQueueSize draining refused) :
      PassStep me s f (.handOver t draining refused)
        { s with exec := { s.exec with backlog := rest } }
  | mark (t : Task ν) (draining : Bool) (refused : List (Task ν)) :
      PassStep me s (.handOver t draining refused)
        (.offer (s.enterFlight t).1 draining refused) (s.marked t)
  /-- The pool takes the task. -/
  | accepted (t : Task ν) (draining : Bool) (refused : List (Task ν)) {pool : σ}
      (h : WorkerPool.offer t s.exec.pool = (none, pool)) :
      PassStep me s (.offer t draining refused) (afterOffer draining refused)
        { s with exec := { s.exec with pool, admitted := s.exec.admitted + 1, handoff := none }
                 world := s.world.record (.admitted t.id s.exec.backlog.length) }
  | turnedDown (t : Task ν) (draining : Bool) (refused : List (Task ν)) {pool : σ} {why : Error}
      (h : WorkerPool.offer t s.exec.pool = (some why, pool)) :
      PassStep me s (.offer t draining refused) (afterOffer draining (refused ++ [t]))
        { s with exec := { s.exec.forget t.id with
                           pool, rejected := s.exec.rejected + 1, handoff := none }
                 world := s.world.record (.refused t.id why) }

/-- The steps that begin a pass. -/
inductive EnterStep (me : ThreadId) (s : Scene σ ν) : Frame ν → Scene σ ν → Prop where
  | push (t : Task ν) : EnterStep me s (.push t)
      { s with exec := (s.exec.lock me).push t
               world := s.world.record (.pushed t.id (s.exec.backlog.length + 1)) }
  | resume : EnterStep me s .enter { s with exec := s.exec.lock me }
  | shutting : EnterStep me s .enterShutdown
      { s with exec := s.exec.lock me
               world := s.world.record (.shuttingDown s.exec.backlog.length) }

/-- The steps outside a pass that leave the queues alone. -/
inductive QuietStep (me : ThreadId) (s : Scene σ ν) :
    Frame ν → List (Frame ν) → Scene σ ν → Prop where
  | submit (work : Work ν) (reply : Option Nat) (alive : s.alive = true) :
      QuietStep me s (.submit work reply) [.arrive (s.world.makeClosure work reply).1]
        { s with world := (s.world.makeClosure work reply).2 }
  | lost (work : Work ν) (reply : Option Nat) (gone : s.alive = false) :
      QuietStep me s (.submit work reply) [] (s.record (.lost work.name))
  | turnAway (c : Closure ν) (h : WorkerPool.isShutdown s.exec.pool = true) :
      QuietStep me s (.arrive c) [.discard c]
        { s with exec := { s.exec with dropped := s.exec.dropped + 1 }
                 world := s.world.record (.turnedAway c.ticket) }
  | letIn (c : Closure ν) (h : WorkerPool.isShutdown s.exec.pool = false) :
      QuietStep me s (.arrive c) [.survey c] s
  | survey (c : Closure ν) :
      QuietStep me s (.survey c) [.push (s.scan.2.makeTask c).1] (s.scan.2.makeTask c).2
  /-- A job that has run is thrown away. -/
  | spent (t : Task ν) (h : t.closure = none) : QuietStep me s (.job t []) [] s
  | unrun (t : Task ν) (c : Closure ν) (h : t.closure = some c) :
      QuietStep me s (.job t []) [.discard c] s
  /-- A job runs once only. -/
  | rerun (t : Task ν) (acts : List JobAct) (h : t.closure = none) :
      QuietStep me s (.job t (.run :: acts)) [.job t acts] s
  | run (t : Task ν) (acts : List JobAct) (c : Closure ν) (h : t.closure = some c) :
      QuietStep me s (.job t (.run :: acts)) [.start c, .job { t with closure := none } acts] s
  | complete (t : Task ν) (acts : List JobAct) :
      QuietStep me s (.job t (.complete :: acts)) [.completed t.id, .job t []] s
  | completed (id : TaskId) (alive : s.alive = true) :
      QuietStep me s (.completed id) [.enter]
        { s with exec := s.exec.forget id, world := s.world.record (.completed id) }
  | tooLate (id : TaskId) (gone : s.alive = false) : QuietStep me s (.completed id) [] s
  | start (c : Closure ν) :
      QuietStep me s (.start c) [.atGate c] (s.record (.started c.ticket c.work.name me))
  | pastGate (c : Closure ν) :
      QuietStep me s (.atGate c) (Frame.submitAll c.work.thenSubmit ++ [.finish c]) s
  | finish (c : Closure ν) :
      QuietStep me s (.finish c) [] { s with world := s.world.finish c me }
  | discard (c : Closure ν) :
      QuietStep me s (.discard c) (Frame.submitAll c.work.onDrop ++ [.hangUp c.reply])
        (s.record (.discarded c.ticket c.work.name))
  | hangUp (reply : Option Nat) :
      QuietStep me s (.hangUp reply) []
        { s with world := { s.world with replies := s.world.replies.hangUp reply } }

/-- The steps outside a pass. -/
inductive OutsideStep (me : ThreadId) (s : Scene σ ν) :
    Frame ν → List (Frame ν) → Scene σ ν → Prop where
  | quiet {f : Frame ν} {new : List (Frame ν)} {s' : Scene σ ν} (h : QuietStep me s f new s') :
      OutsideStep me s f new s'
  | shutdown : OutsideStep me s .shutdown [.enterShutdown]
      { s with exec := { s.exec with pool := WorkerPool.shutdown s.exec.pool } }
  /-- A stop takes the backlog, for which it must have the lock. -/
  | withdraw (h : s.exec.holder = none) : OutsideStep me s .shutdownNow [.stopPool s.exec.backlog]
      { s with exec := { s.exec with backlog := [] }
               world := s.world.record (.withdrawn (s.exec.backlog.map Task.id)) }
  /-- A stop reaches the pool. -/
  | stop (backlog : List (Task ν)) {jobs : List (Task ν)} {pool : σ}
      (h : WorkerPool.shutdownNow s.exec.pool = (jobs, pool)) :
      OutsideStep me s (.stopPool backlog) []
        { s with exec := { s.exec with pool }
                 returned := s.returned ++ (jobs ++ backlog)
                 world := s.world.record (.stopped (jobs.map Task.id) (backlog.map Task.id)) }

/-- All steps: those inside a pass, its last and its first one, and those outside. -/
inductive Step (me : ThreadId) (s : Scene σ ν) :
    Frame ν → List (Frame ν) → Scene σ ν → Prop where
  | pass {f g : Frame ν} {s' : Scene σ ν} (h : PassStep me s f g s') : Step me s f [g] s'
  | leave (refused : List (Task ν)) :
      Step me s (.leave refused) (refused.map fun t => .job t [])
        { s with exec := s.exec.unlock }
  | enter {f : Frame ν} {s' : Scene σ ν} (free : s.exec.holder = none)
      (h : EnterStep me s f s') : Step me s f [.pass] s'
  | outside {f : Frame ν} {new : List (Frame ν)} {s' : Scene σ ν}
      (h : OutsideStep me s f new s') : Step me s f new s'

section Quiet

variable {me : ThreadId} {f : Frame ν} {new : List (Frame ν)} {s s' : Scene σ ν}

theorem QuietStep.keeps (h : QuietStep me s f new s') : Keeps s s' := by
  cases h with
  | submit work reply alive => exact keeps_world rfl rfl (Nat.le_refl _)
  | lost work reply gone => exact keeps_record rfl s
  | turnAway c h =>
      refine ⟨rfl, rfl, rfl, rfl, rfl, rfl, rfl, rfl, Nat.le_refl _, [_], rfl, ?_⟩
      simp [Event.movesTask]
  | survey c => exact (keeps_scan s).trans (keeps_world rfl rfl (Nat.le_succ _))
  | completed id alive =>
      refine ⟨rfl, rfl, rfl, rfl, rfl, rfl, rfl, rfl, Nat.le_refl _, [_], rfl, ?_⟩
      simp [Event.movesTask]
  | start c => exact keeps_record rfl s
  | finish c => exact keeps_finish c me s
  | discard c => exact keeps_record rfl s
  | hangUp reply => exact keeps_world rfl rfl (Nat.le_refl _)
  | _ => exact .refl s

/-- Quiet steps lead neither into a pass nor to a shutdown or a stop. -/
theorem QuietStep.calm (h : QuietStep me s f new s') :
    ∀ g ∈ new, g.inPass = false ∧ g.stops = false := by
  intro g mem
  cases h with
  | pastGate c | discard c =>
      rcases List.mem_append.mp mem with mem | mem
      · obtain ⟨work, -, rfl⟩ := List.mem_map.mp mem
        constructor <;> rfl
      · rw [List.mem_singleton.mp mem]
        constructor <;> rfl
  | run t acts c h | complete t acts =>
      rcases List.mem_cons.mp mem with rfl | mem
      · constructor <;> rfl
      · rw [List.mem_singleton.mp mem]
        constructor <;> rfl
  | lost _ _ _ | spent _ _ | tooLate _ _ | finish _ | hangUp _ => simp at mem
  | _ =>
      rw [List.mem_singleton.mp mem]
      constructor <;> rfl

end Quiet

section Lock

variable {me : ThreadId} {f g : Frame ν} {new : List (Frame ν)} {s s' : Scene σ ν}

theorem PassStep.inPass_before (h : PassStep me s f g s') : f.inPass = true := by
  cases h with
  | empty h hf => cases hf <;> rfl
  | takeHead h hf => cases hf <;> rfl
  | _ => rfl

theorem PassStep.inPass (h : PassStep me s f g s') : g.inPass = true := by
  cases h with
  | accepted t draining refused h => cases draining <;> rfl
  | turnedDown t draining refused h => cases draining <;> rfl
  | _ => rfl

/-- A pass looks at the pool once only to see whether it runs. -/
theorem PassStep.later (h : PassStep me s f g s') : g ≠ .pass := by
  cases h with
  | accepted t draining | turnedDown t draining => cases draining <;> nofun
  | _ => nofun

theorem PassStep.holder (h : PassStep me s f g s') : s'.exec.holder = s.exec.holder := by
  cases h with
  | tuned active queued _ => exact (keeps_retune active queued s).holder
  | untuned active queued _ => exact (keeps_retune active queued s).holder
  | mark t _ _ => exact (keeps_marked t s).holder
  | _ => rfl

theorem PassStep.nextTask (h : PassStep me s f g s') : s.world.nextTask ≤ s'.world.nextTask := by
  cases h with
  | tuned active queued _ => exact (keeps_retune active queued s).nextTask
  | untuned active queued _ => exact (keeps_retune active queued s).nextTask
  | mark t _ _ => exact (keeps_marked t s).nextTask
  | _ => exact Nat.le_refl _

omit [WorkerPool σ (Task ν)] in
theorem EnterStep.holder (h : EnterStep me s f s') : s'.exec.holder = some me := by
  cases h <;> rfl

theorem OutsideStep.holder (h : OutsideStep me s f new s') : s'.exec.holder = s.exec.holder := by
  cases h with
  | quiet quiet => exact quiet.keeps.holder
  | _ => rfl

theorem OutsideStep.outside (h : OutsideStep me s f new s') : ∀ g ∈ new, g.inPass = false := by
  cases h with
  | quiet quiet =>
      intro g mem
      exact (quiet.calm g mem).1
  | shutdown => simp [Frame.inPass]
  | withdraw free => simp [Frame.inPass]
  | stop backlog h => simp

end Lock

/-! ### Inversion of steps -/

section Inversion

variable {me : ThreadId} {f : Frame ν} {new : List (Frame ν)} {s s' : Scene σ ν}

theorem takeHead_eq {draining : Bool} {refused : List (Task ν)}
    (hf : f.TakesHead s.exec.config.maxQueueSize draining refused)
    (h : s.takeHead draining refused = (new, s')) : ∃ g, new = [g] ∧ PassStep me s f g s' := by
  unfold takeHead at h
  cases hb : s.exec.backlog with
  | nil =>
      rw [hb] at h
      obtain ⟨rfl, rfl⟩ := Prod.mk.inj h
      exact ⟨_, rfl, .empty hb hf⟩
  | cons t rest =>
      rw [hb] at h
      obtain ⟨rfl, rfl⟩ := Prod.mk.inj h
      exact ⟨_, rfl, .takeHead hb hf⟩

theorem retune_eq {active queued : Nat} (h : s.retune active queued = (new, s')) :
    ∃ g, new = [g] ∧ PassStep me s (.retune active queued) g s' := by
  have next : new = (s.retune active queued).1 := by rw [h]
  have after : s' = (s.retune active queued).2 := by rw [h]
  subst after
  by_cases same : WorkerPool.coreSize s.exec.pool
      = tunedCoreSize s.exec.backlog.length s.exec.config
  · refine ⟨_, ?_, .tuned active queued same⟩
    rw [next]
    unfold tunedCoreSize at same ⊢
    unfold retune
    dsimp only
    rw [if_pos same]
    split <;> rfl
  · refine ⟨_, ?_, .untuned active queued same⟩
    rw [next]
    unfold tunedCoreSize at same ⊢
    unfold retune
    dsimp only
    rw [if_neg same]
    split <;> rfl

theorem offer_eq {t : Task ν} {draining : Bool} {refused : List (Task ν)}
    (h : s.offer t draining refused = (new, s')) :
    ∃ g, new = [g] ∧ PassStep me s (.offer t draining refused) g s' := by
  unfold offer at h
  cases ho : WorkerPool.offer t s.exec.pool with
  | mk answer pool =>
      rw [ho] at h
      cases answer with
      | none =>
          obtain ⟨rfl, rfl⟩ := Prod.mk.inj h
          exact ⟨_, rfl, .accepted t draining refused ho⟩
      | some why =>
          obtain ⟨rfl, rfl⟩ := Prod.mk.inj h
          exact ⟨_, rfl, .turnedDown t draining refused ho⟩

/-- A frame of a pass makes way for one other frame of the pass, unless it is the last. -/
theorem step_pass (inside : f.inPass = true) (h : s.step me f = some (new, s')) :
    (∃ g, new = [g] ∧ PassStep me s f g s') ∨ ∃ refused, f = .leave refused ∧
      new = refused.map (fun t => .job t []) ∧ s' = { s with exec := s.exec.unlock } := by
  cases f with
  | leave refused =>
      obtain ⟨rfl, rfl⟩ := Prod.mk.inj (Option.some.inj h)
      exact .inr ⟨refused, rfl, rfl, rfl⟩
  | pass =>
      left
      simp only [step, Buffer.onMainThread, decide_eq_true_eq] at h
      split at h
      · rename_i shut
        obtain ⟨rfl, rfl⟩ := Prod.mk.inj (Option.some.inj h)
        exact ⟨_, rfl, .shut shut⟩
      · rename_i running
        split at h
        · rename_i main
          obtain ⟨rfl, rfl⟩ := Prod.mk.inj (Option.some.inj h)
          exact ⟨_, rfl, .main (Bool.eq_false_iff.mpr running) main⟩
        · rename_i other
          obtain ⟨rfl, rfl⟩ := Prod.mk.inj (Option.some.inj h)
          exact ⟨_, rfl, .gated (Bool.eq_false_iff.mpr running) other⟩
  | drain refused => exact .inl (takeHead_eq (.drain refused) (Option.some.inj h))
  | bypass => exact .inl (takeHead_eq .bypass (Option.some.inj h))
  | readActive =>
      obtain ⟨rfl, rfl⟩ := Prod.mk.inj (Option.some.inj h)
      exact .inl ⟨_, rfl, .readActive⟩
  | readQueued active =>
      obtain ⟨rfl, rfl⟩ := Prod.mk.inj (Option.some.inj h)
      exact .inl ⟨_, rfl, .readQueued active⟩
  | retune active queued => exact .inl (retune_eq (Option.some.inj h))
  | setCore active queued target =>
      obtain ⟨rfl, rfl⟩ := Prod.mk.inj (Option.some.inj h)
      exact .inl ⟨_, rfl, .setCore active queued target⟩
  | decide active queued target =>
      left
      simp only [step, Buffer.mayAdmit, Bool.and_eq_true, decide_eq_true_eq] at h
      split at h
      · rename_i gate
        exact takeHead_eq (.decide gate.1 gate.2) (Option.some.inj h)
      · rename_i gate
        obtain ⟨rfl, rfl⟩ := Prod.mk.inj (Option.some.inj h)
        exact ⟨_, rfl, .closed active queued target gate⟩
  | handOver t draining refused =>
      obtain ⟨rfl, rfl⟩ := Prod.mk.inj (Option.some.inj h)
      exact .inl ⟨_, rfl, .mark t draining refused⟩
  | offer t draining refused => exact .inl (offer_eq (Option.some.inj h))
  | _ => simp [Frame.inPass] at inside

/-- A pass begins with the lock free. -/
theorem step_enter (enters : f.entersPass = true) (h : s.step me f = some (new, s')) :
    s.exec.holder = none ∧ new = [.pass] ∧ EnterStep me s f s' := by
  have free : s.exec.holder = none := by
    cases holder : s.exec.holder with
    | none => rfl
    | some _ => cases f <;> simp [Frame.entersPass, step, locking, holder] at enters h
  refine ⟨free, ?_⟩
  cases f with
  | push t =>
      simp only [step, locking, free] at h
      obtain ⟨rfl, rfl⟩ := Prod.mk.inj (Option.some.inj h)
      exact ⟨rfl, .push t⟩
  | enter =>
      simp only [step, locking, free] at h
      obtain ⟨rfl, rfl⟩ := Prod.mk.inj (Option.some.inj h)
      exact ⟨rfl, .resume⟩
  | enterShutdown =>
      simp only [step, locking, free] at h
      obtain ⟨rfl, rfl⟩ := Prod.mk.inj (Option.some.inj h)
      exact ⟨rfl, .shutting⟩
  | _ => simp [Frame.entersPass] at enters

/-- Outside a pass only a stop and a shutdown change more than the journal. -/
theorem step_outside (outside : f.inPass = false) (waits : f.entersPass = false)
    (h : s.step me f = some (new, s')) : OutsideStep me s f new s' := by
  cases f with
  | submit work reply =>
      simp only [step] at h
      split at h
      · rename_i alive
        obtain ⟨rfl, rfl⟩ := Prod.mk.inj (Option.some.inj h)
        exact .quiet (.submit work reply alive)
      · rename_i gone
        obtain ⟨rfl, rfl⟩ := Prod.mk.inj (Option.some.inj h)
        exact .quiet (.lost work reply (Bool.eq_false_iff.mpr gone))
  | arrive c =>
      simp only [step] at h
      split at h
      · rename_i shut
        obtain ⟨rfl, rfl⟩ := Prod.mk.inj (Option.some.inj h)
        exact .quiet (.turnAway c shut)
      · rename_i running
        obtain ⟨rfl, rfl⟩ := Prod.mk.inj (Option.some.inj h)
        exact .quiet (.letIn c (Bool.eq_false_iff.mpr running))
  | survey c =>
      obtain ⟨rfl, rfl⟩ := Prod.mk.inj (Option.some.inj h)
      exact .quiet (.survey c)
  | job t acts =>
      cases acts with
      | nil =>
          cases hc : t.closure with
          | none =>
              simp only [step, hc] at h
              obtain ⟨rfl, rfl⟩ := Prod.mk.inj (Option.some.inj h)
              exact .quiet (.spent t hc)
          | some c =>
              simp only [step, hc] at h
              obtain ⟨rfl, rfl⟩ := Prod.mk.inj (Option.some.inj h)
              exact .quiet (.unrun t c hc)
      | cons act acts =>
          cases act with
          | run =>
              cases hc : t.closure with
              | none =>
                  simp only [step, hc] at h
                  obtain ⟨rfl, rfl⟩ := Prod.mk.inj (Option.some.inj h)
                  exact .quiet (.rerun t acts hc)
              | some c =>
                  simp only [step, hc] at h
                  obtain ⟨rfl, rfl⟩ := Prod.mk.inj (Option.some.inj h)
                  exact .quiet (.run t acts c hc)
          | complete =>
              obtain ⟨rfl, rfl⟩ := Prod.mk.inj (Option.some.inj h)
              exact .quiet (.complete t acts)
  | completed id =>
      simp only [step] at h
      split at h
      · rename_i alive
        obtain ⟨rfl, rfl⟩ := Prod.mk.inj (Option.some.inj h)
        exact .quiet (.completed id alive)
      · rename_i gone
        obtain ⟨rfl, rfl⟩ := Prod.mk.inj (Option.some.inj h)
        exact .quiet (.tooLate id (Bool.eq_false_iff.mpr gone))
  | start c =>
      obtain ⟨rfl, rfl⟩ := Prod.mk.inj (Option.some.inj h)
      exact .quiet (.start c)
  | atGate c =>
      simp only [step] at h
      split at h
      · obtain ⟨rfl, rfl⟩ := Prod.mk.inj (Option.some.inj h)
        exact .quiet (.pastGate c)
      · simp at h
  | finish c =>
      obtain ⟨rfl, rfl⟩ := Prod.mk.inj (Option.some.inj h)
      exact .quiet (.finish c)
  | discard c =>
      obtain ⟨rfl, rfl⟩ := Prod.mk.inj (Option.some.inj h)
      exact .quiet (.discard c)
  | hangUp reply =>
      obtain ⟨rfl, rfl⟩ := Prod.mk.inj (Option.some.inj h)
      exact .quiet (.hangUp reply)
  | shutdown =>
      obtain ⟨rfl, rfl⟩ := Prod.mk.inj (Option.some.inj h)
      exact .shutdown
  | shutdownNow =>
      simp only [step] at h
      split at h
      · simp at h
      · rename_i free
        obtain ⟨rfl, rfl⟩ := Prod.mk.inj (Option.some.inj h)
        exact .withdraw free
  | stopPool backlog =>
      obtain ⟨rfl, rfl⟩ := Prod.mk.inj (Option.some.inj h)
      exact .stop backlog rfl
  | push _ | enter | enterShutdown => simp [Frame.entersPass] at waits
  | _ => simp [Frame.inPass] at outside

theorem step_cases (h : s.step me f = some (new, s')) : Step me s f new s' := by
  cases inside : f.inPass with
  | true =>
      rcases step_pass inside h with ⟨g, rfl, pass⟩ | ⟨refused, rfl, rfl, rfl⟩
      · exact .pass pass
      · exact .leave refused
  | false =>
      cases waits : f.entersPass with
      | true =>
          obtain ⟨free, rfl, enter⟩ := step_enter waits h
          exact .enter free enter
      | false => exact .outside (step_outside inside waits h)

/-- No step opens or shuts a gate. -/
theorem step_gates (h : s.step me f = some (new, s')) :
    s'.world.openGates = s.world.openGates := by
  cases step_cases h with
  | pass pass =>
      cases pass with
      | tuned active queued | untuned active queued => exact (keeps_retune active queued s).gates
      | mark t => exact (keeps_marked t s).gates
      | _ => rfl
  | leave => rfl
  | enter _ enter => cases enter <;> rfl
  | outside outside =>
      cases outside with
      | quiet quiet => exact quiet.keeps.gates
      | _ => rfl

/-- A closure comes past an open gate only. -/
theorem step_atGate {c : Closure ν} (h : s.step me (.atGate c) = some (new, s')) :
    (!c.work.gated || s.world.isOpen c.work.name) = true :=
  (Option.ite_none_right_eq_some.mp h).1

/-- A thread waits at a shut gate, or for the lock while another thread has it. -/
theorem step_stuck (h : s.step me f = none) :
    (∃ c, f = .atGate c ∧ (!c.work.gated || s.world.isOpen c.work.name) = false) ∨
      s.exec.holder ≠ none ∧ (f.entersPass = true ∨ f = .shutdownNow) := by
  cases f with
  | atGate c => exact .inl ⟨c, rfl, Bool.eq_false_iff.mpr (by simpa [step] using h)⟩
  | push | enter | enterShutdown | shutdownNow =>
      refine .inr ⟨fun free => ?_, by simp [Frame.entersPass]⟩
      simp [step, locking, free] at h
  | submit | arrive | pass | decide | completed =>
      simp only [step] at h
      split at h
      · contradiction
      · first | contradiction | (split at h <;> contradiction)
  | job t acts =>
      simp only [step] at h
      split at h <;> contradiction
  | _ => contradiction

end Inversion

end Scene

/-! ### What becomes of the pool -/

section Pool

variable [WorkerPool σ (Task ν)]

/-- A property of a pool that no call of the executor takes away. -/
structure Lasting (P : σ → Prop) : Prop where
  offer : ∀ (t : Task ν) {p : σ}, P p → P (WorkerPool.offer t p).2
  setCoreSize : ∀ (n : Nat) {p : σ}, P p → P (WorkerPool.setCoreSize n p)
  shutdown : ∀ {p : σ}, P p → P (WorkerPool.shutdown p)
  shutdownNow : ∀ {p : σ}, P p → P (WorkerPool.shutdownNow p).2

namespace Lasting

variable {P : σ → Prop} {me : ThreadId} {f g : Frame ν} {new : List (Frame ν)} {s s' : Scene σ ν}

theorem pass (lasting : Lasting P) (h : Scene.PassStep me s f g s') (holds : P s.exec.pool) :
    P s'.exec.pool := by
  cases h with
  | tuned active queued | untuned active queued =>
      rwa [(Scene.keeps_retune active queued s).pool]
  | mark t => rwa [(Scene.keeps_marked t s).pool]
  | setCore active queued target => exact lasting.setCoreSize target holds
  | accepted t draining refused answer | turnedDown t draining refused answer =>
      have kept := lasting.offer t holds
      rwa [answer] at kept
  | _ => exact holds

theorem step (lasting : Lasting P) (h : s.step me f = some (new, s')) (holds : P s.exec.pool) :
    P s'.exec.pool := by
  cases Scene.step_cases h with
  | pass pass => exact lasting.pass pass holds
  | leave => exact holds
  | enter _ enter => cases enter <;> exact holds
  | outside outside =>
      cases outside with
      | quiet quiet => rwa [quiet.keeps.pool]
      | shutdown => exact lasting.shutdown holds
      | withdraw => exact holds
      | stop backlog stopped =>
          have kept := lasting.shutdownNow holds
          rwa [stopped] at kept

end Lasting

end Pool

end TwoTier
