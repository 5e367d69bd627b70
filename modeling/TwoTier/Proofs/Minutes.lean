import TwoTier.Proofs.Replay
import TwoTier.Proofs.Settings

/-!
What a pass goes by.

A pass asks the pool for its readings, sizes the pool and decides, and when it is over all that is
gone. The minutes kept beside a run have it (`System.Minuted`): for each pass, newest first, what the
pool reported at each of these moments, the length of the backlog at the sizing, and the offers. The
executor knows nothing of the minutes, and every run has them (`System.Reaches.minuted`).

A pass goes by the core size that it has asked for, not by the one that the pool then reports. So
over a pool that does not follow, it offers tasks beyond the pool's own core size, exactly when the
active workers are between the two (`gate_respects_core_iff`). The readings are those that the pool
gave to the pass; nothing is said about what the pool does between them.
-/

namespace TwoTier

variable {σ ν : Type}

/-! ### Minutes -/

/-- What is noted about a pass. -/
structure Minute where
  /-- Whether the pool was shut when the pass began. -/
  shut : Bool
  onMain : Bool
  /-- The active workers and the queued jobs that the pool reported. -/
  active : Option Nat := none
  queued : Option Nat := none
  /-- The length of the backlog when the pass sized the pool. -/
  backlog : Option Nat := none
  /-- The core size that the pool reported when the pass decided. -/
  core : Option Nat := none
  /-- The tasks that the pass has offered, and whether the pool took them. -/
  offers : List (TaskId × Bool) := []
  ended : Bool := false

namespace Minute

/-- A pass that the gate is for: the pool runs, and the thread is not the main thread. -/
def Gated (m : Minute) : Prop := m.shut = false ∧ m.onMain = false

/-- What lets a gated pass offer a task: one waits, the ready queue is within its bound, and fewer
workers are active than the core size for the backlog. -/
def Lets (config : Config) (active queued backlog : Nat) : Prop :=
  0 < backlog ∧ queued ≤ config.maxQueueSize ∧ active < tunedCoreSize backlog config

/-- All readings were made, and they let the pass offer a task if and only if it does. -/
def Decided (config : Config) (m : Minute) (offers : Prop) : Prop :=
  ∃ active queued backlog core, m.active = some active ∧ m.queued = some queued ∧
    m.backlog = some backlog ∧ m.core = some core ∧ (offers ↔ Lets config active queued backlog)

/-- What has been noted of a gated pass that stands at a frame, by the length of the backlog. -/
def At (config : Config) (m : Minute) (backlog : Nat) : Frame ν → Prop
  | .readActive => m.offers = []
  | .readQueued active => m.active = some active ∧ m.offers = []
  | .retune active queued => m.active = some active ∧ m.queued = some queued ∧ m.offers = []
  | .setCore active queued target | .decide active queued target =>
    m.active = some active ∧ m.queued = some queued ∧ m.backlog = some backlog ∧
      target = tunedCoreSize backlog config ∧ m.offers = []
  | .handOver _ draining _ | .offer _ draining _ =>
    draining = false ∧ m.offers = [] ∧ m.Decided config True
  | .leave _ => m.Decided config (m.offers ≠ [])
  | _ => False

/-- A pass that is over. -/
def Closed (config : Config) (m : Minute) : Prop :=
  m.ended = true ∧ (m.Gated → m.Decided config (m.offers ≠ []))

/-- The offers of all passes, oldest first. -/
def bids (minutes : List Minute) : List (TaskId × Bool) := minutes.reverse.flatMap Minute.offers

theorem bids_cons (m : Minute) (past : List Minute) : bids (m :: past) = bids past ++ m.offers := by
  simp [bids]

end Minute

section Notes

variable [WorkerPool σ (Task ν)]

namespace Frame

/-- The task that a frame offers, and whether the pool takes it. -/
def bid? (s : Scene σ ν) : Frame ν → Option (TaskId × Bool)
  | .offer t _ _ => some (t.id, (WorkerPool.offer t s.exec.pool).1.isNone)
  | _ => none

/-- What a step from a frame adds to the minute of its pass. -/
def fill (s : Scene σ ν) (m : Minute) : Frame ν → Minute
  | .readActive => { m with active := some (WorkerPool.activeCount s.exec.pool) }
  | .readQueued _ => { m with queued := some (WorkerPool.queueLength s.exec.pool) }
  | .retune _ _ => { m with backlog := some s.exec.backlog.length }
  | .decide _ _ _ => { m with core := some (WorkerPool.coreSize s.exec.pool) }
  | .offer t draining refused =>
    { m with offers := m.offers ++ ((Frame.offer t draining refused).bid? s).toList }
  | .leave _ => { m with ended := true }
  | _ => m

/-- The minutes after a step of a thread; a pass that begins has a new one. -/
def note (me : ThreadId) (s : Scene σ ν) (f : Frame ν) (minutes : List Minute) : List Minute :=
  match f, minutes with
  | .pass, minutes =>
    { shut := WorkerPool.isShutdown s.exec.pool, onMain := s.exec.onMainThread me } :: minutes
  | _, [] => []
  | f, m :: past => f.fill s m :: past

end Frame

namespace System

/-- Runs, and the minutes kept beside them, newest pass first. -/
inductive Minuted (rules : Rules σ ν) (x : System σ ν) : List Minute → System σ ν → Prop where
  | refl : Minuted rules x [] x
  | turn {minutes : List Minute} {y z : System σ ν} {t : ThreadId} {f : Frame ν}
      {rest : List (Frame ν)} : Minuted rules x minutes y → rules.fit y.scene →
      y.threads.get t = f :: rest → y.turn? t = some z →
      Minuted rules x (f.note t y.scene minutes) z
  /-- What is no step of a thread. -/
  | beside {minutes : List Minute} {y z : System σ ν} : Minuted rules x minutes y →
      rules.fit y.scene → Next rules y z → (∀ t, y.turn? t ≠ some z) → Minuted rules x minutes z

variable {rules : Rules σ ν} {x y z : System σ ν} {minutes : List Minute}

theorem Minuted.reaches (run : Minuted rules x minutes y) : Reaches rules x y := by
  induction run with
  | refl => exact .refl
  | turn _ fit _ turn ih => exact ih.tail fit (.turn _ turn)
  | beside _ fit next _ ih => exact ih.tail fit next

/-- Minutes can be kept beside every run. -/
theorem Reaches.minuted (run : Reaches rules x y) : ∃ minutes, Minuted rules x minutes y := by
  induction run with
  | refl => exact ⟨[], .refl⟩
  | @tail y z _ fit next ih =>
      obtain ⟨minutes, run⟩ := ih
      by_cases turns : ∃ t, y.turn? t = some z
      · obtain ⟨t, turn⟩ := turns
        obtain ⟨f, new, rest, top, -⟩ := turn_stack turn
        exact ⟨_, run.turn fit top turn⟩
      · exact ⟨minutes, run.beside fit next fun t turn => turns ⟨t, turn⟩⟩

end System

/-! ### What the minutes say -/

/-- What the minutes say while a pass stands at a frame, or while none is under way: every pass that
is over is closed, and of the one under way is noted what it has come to. -/
def Attested (config : Config) (minutes : List Minute) (backlog : Nat) : Option (Frame ν) → Prop
  | none | some .pass => ∀ m ∈ minutes, m.Closed config
  | some f => ∃ m past, minutes = m :: past ∧ (∀ m' ∈ past, m'.Closed config) ∧
    m.ended = false ∧ (m.Gated → m.At config backlog f)

section Steps

variable {me : ThreadId} {f g : Frame ν} {new : List (Frame ν)} {s s' : Scene σ ν}
  {minutes : List Minute}

omit [WorkerPool σ (Task ν)] in
/-- A pass that decides has made all its readings once it has seen the core size. -/
theorem Minute.At.decides {config : Config} {m : Minute} {backlog active queued target : Nat}
    {offers : Prop} (here : m.At config backlog (.decide active queued target : Frame ν))
    (core : Nat) (why : offers ↔ Minute.Lets config active queued backlog) :
    Minute.Decided config { m with core := some core } offers := by
  obtain ⟨read, counted, sized, -, -⟩ := here
  exact ⟨active, queued, backlog, core, read, counted, sized, rfl, why⟩

/-- Each step of a gated pass notes what the next one needs. -/
theorem Minute.At.pass {m : Minute} (step : Scene.PassStep me s f g s') (begun : f ≠ .pass)
    (here : m.At s.exec.config s.exec.backlog.length f) :
    (f.fill s m).At s.exec.config s'.exec.backlog.length g := by
  cases step with
  | shut | main | gated => exact absurd rfl begun
  | readActive => exact ⟨rfl, here⟩
  | readQueued active => exact ⟨here.1, rfl, here.2⟩
  | tuned active queued | untuned active queued =>
      obtain ⟨read, counted, silent⟩ := here
      rw [(Scene.keeps_retune _ _ s).backlog]
      exact ⟨read, counted, rfl, rfl, silent⟩
  | setCore active queued target => exact here
  | closed active queued target shut =>
      obtain rfl : target = tunedCoreSize s.exec.backlog.length s.exec.config := here.2.2.2.1
      have silent : m.offers = [] := here.2.2.2.2
      refine here.decides _ ⟨fun some => absurd silent some, ?_⟩
      rintro ⟨-, room, free⟩
      exact absurd ⟨room, free⟩ shut
  | empty none takes =>
      cases takes with
      | drain | bypass => exact here.elim
      | decide room free =>
          have silent : m.offers = [] := here.2.2.2.2
          refine here.decides _ ⟨fun some => absurd silent some, ?_⟩
          rintro ⟨waits, -⟩
          rw [none] at waits
          exact absurd waits (Nat.lt_irrefl 0)
  | takeHead head takes =>
      cases takes with
      | drain | bypass => exact here.elim
      | @decide active queued target room free =>
          obtain rfl : target = tunedCoreSize s.exec.backlog.length s.exec.config := here.2.2.2.1
          have silent : m.offers = [] := here.2.2.2.2
          have waits : 0 < s.exec.backlog.length := by
            rw [head]
            exact Nat.succ_pos _
          exact ⟨rfl, silent, here.decides _ (iff_of_true trivial ⟨waits, room, free⟩)⟩
  | mark t draining refused => exact here
  | accepted t draining refused answer | turnedDown t draining refused answer =>
      obtain ⟨rfl, -, active, queued, backlog, core, read, counted, sized, told, lets⟩ := here
      refine ⟨active, queued, backlog, core, read, counted, sized, told, ?_⟩
      exact iff_of_true (by simp [Frame.fill, Frame.bid?]) (lets.mp trivial)

/-- A pass is not over before it leaves, and how it began is not noted again. -/
theorem Scene.PassStep.fill (m : Minute) (step : Scene.PassStep me s f g s') :
    (f.fill s m).ended = m.ended ∧ ((f.fill s m).Gated ↔ m.Gated) := by
  cases step with
  | empty _ takes | takeHead _ takes => cases takes <;> exact ⟨rfl, .rfl⟩
  | _ => exact ⟨rfl, .rfl⟩

omit [WorkerPool σ (Task ν)] in
theorem attested_begun {config : Config} {backlog : Nat} (begun : f ≠ .pass) :
    Attested config minutes backlog (some f) ↔
      ∃ m past, minutes = m :: past ∧ (∀ m' ∈ past, m'.Closed config) ∧
        m.ended = false ∧ (m.Gated → m.At config backlog f) := by
  cases f with
  | pass => exact absurd rfl begun
  | _ => rfl

theorem Frame.note_begun (m : Minute) (past : List Minute) (begun : f ≠ .pass) :
    f.note me s (m :: past) = f.fill s m :: past := by
  cases f with
  | pass => exact absurd rfl begun
  | _ => rfl

/-- The minute of the pass under way is kept up. -/
theorem attested_pass (step : Scene.PassStep me s f g s')
    (h : Attested s.exec.config minutes s.exec.backlog.length (some f)) :
    Attested s.exec.config (f.note me s minutes) s'.exec.backlog.length (some g) := by
  by_cases begins : f = .pass
  · subst begins
    -- the pass gets a minute of its own, in which nothing is noted yet
    cases step with
    | shut shut =>
        refine ⟨_, minutes, rfl, h, rfl, ?_⟩
        rintro ⟨running, -⟩
        rw [shut] at running
        contradiction
    | main _ here =>
        refine ⟨_, minutes, rfl, h, rfl, ?_⟩
        rintro ⟨-, other⟩
        exact absurd here (of_decide_eq_false other)
    | gated => exact ⟨_, minutes, rfl, h, rfl, fun _ => rfl⟩
    | empty _ takes | takeHead _ takes => cases takes
  · obtain ⟨m, past, rfl, closed, going, here⟩ := (attested_begun begins).mp h
    obtain ⟨ended, gated⟩ := step.fill m
    rw [Frame.note_begun m past begins, attested_begun step.later]
    refine ⟨_, past, rfl, closed, ended.trans going, ?_⟩
    intro still
    exact (here (gated.mp still)).pass step begins

/-- Steps outside passes add nothing. -/
theorem Frame.note_of_not_inPass (outside : f.inPass = false) : f.note me s minutes = minutes := by
  cases f with
  | pass | drain | bypass | readActive | readQueued | retune | setCore | decide | handOver | offer
  | leave => contradiction
  | _ => cases minutes <;> rfl

/-- A pass that leaves is closed. -/
theorem attested_leave {config : Config} {refused : List (Task ν)} {backlog : Nat}
    (h : Attested config minutes backlog (some (.leave refused : Frame ν))) :
    Attested (ν := ν) config ((Frame.leave refused).note me s minutes) backlog none := by
  obtain ⟨m, past, rfl, closed, -, here⟩ := h
  exact List.forall_mem_cons.mpr ⟨⟨rfl, here⟩, closed⟩

/-- The offers in the minutes are those in the journal. -/
theorem Frame.bids_note {config : Config} {backlog : Nat}
    (h : f.inPass = true → Attested config minutes backlog (some f)) :
    Minute.bids (f.note me s minutes) = Minute.bids minutes ++ (f.bid? s).toList := by
  cases f with
  | pass => simp [note, bid?, Minute.bids_cons]
  | offer t draining refused =>
      obtain ⟨m, past, rfl, -⟩ := h rfl
      simp [note, fill, Minute.bids_cons]
  | _ => cases minutes <;> simp [note, fill, bid?, Minute.bids_cons]

theorem step_bids (h : s.step me f = some (new, s')) :
    s'.world.offers = s.world.offers ++ (f.bid? s).toList := by
  cases Scene.step_cases h with
  | pass pass =>
      cases pass with
      | tuned active queued | untuned active queued =>
          simp [(Scene.keeps_retune active queued s).offers, Frame.bid?]
      | mark t => simp [(Scene.keeps_marked t s).offers, Frame.bid?]
      | empty _ takes | takeHead _ takes => cases takes <;> simp [Frame.bid?]
      | accepted t draining refused answer | turnedDown t draining refused answer =>
          simp [Frame.bid?, answer]
      | _ => simp [Frame.bid?]
  | leave => simp [Frame.bid?]
  | enter _ enter => cases enter <;> simp [Frame.bid?]
  | outside outside =>
      cases outside with
      | quiet quiet =>
          have silent : f.bid? s = none := by cases f <;> first | rfl | cases quiet
          simp [quiet.keeps.offers, silent]
      | _ => simp [Frame.bid?]

end Steps

/-! ### In all runs -/

/-- The minutes have all offers, and say of each pass what they should. -/
structure Kept (config : Config) (minutes : List Minute) (bag : Multiset (Frame ν))
    (s : Scene σ ν) : Prop where
  settings : s.exec.config = config
  bids : Minute.bids minutes = s.world.offers
  stands : Assertion.Stands (fun o _ s => Attested config minutes s.exec.backlog.length o) bag s

namespace Kept

variable {rules : Rules σ ν} {config : Config} {minutes : List Minute} {x y z : System σ ν}

omit [WorkerPool σ (Task ν)] in
/-- A thread gets a frame outside passes. -/
theorem cons {bag : Multiset (Frame ν)} {s s' : Scene σ ν} {g : Frame ν}
    (h : Kept config minutes bag s) (outside : g.inPass = false)
    (same : s'.exec.config = s.exec.config) (offers : s'.world.offers = s.world.offers)
    (holder : s'.exec.holder = s.exec.holder) (backlog : s'.exec.backlog = s.exec.backlog) :
    Kept config minutes (g ::ₘ bag) s' := by
  refine ⟨same.trans h.settings, h.bids.trans offers.symm, ?_, ?_⟩
  · intro free
    exact h.stands.1 (holder ▸ free)
  · intro f mem inside
    rw [backlog]
    rcases Multiset.mem_cons.mp mem with rfl | mem
    · rw [outside] at inside
      contradiction
    · exact h.stands.2 f mem inside

theorem turn {t : ThreadId} {f : Frame ν} {rest : List (Frame ν)}
    (h : Kept config minutes y.bag y.scene) (alone : Exclusive y.bag y.scene)
    (top : y.threads.get t = f :: rest) (turn : y.turn? t = some z) :
    Kept config (f.note t y.scene minutes) z.bag z.scene := by
  obtain ⟨f', new, rest', top', step, -, before, after⟩ := System.turn_stack turn
  rw [top] at top'
  obtain ⟨rfl, rfl⟩ := List.cons.inj top'
  rw [before] at h alone
  have here := h.stands.2 f (Multiset.mem_cons_self f _)
  refine ⟨(Scene.step_config step).trans h.settings, ?_, ?_⟩
  · rw [Frame.bids_note here, h.bids, step_bids step]
  rw [after]
  generalize z.scene = s' at step ⊢
  cases Scene.step_cases step with
  | pass pass =>
      obtain ⟨held, none⟩ := alone.alone pass.inPass_before
      constructor
      · intro free
        exact absurd (pass.holder ▸ free) held
      · intro g mem inside
        rcases Multiset.mem_add.mp mem with mem | mem
        · rw [List.mem_singleton.mp (Multiset.mem_coe.mp mem)]
          have noted := here pass.inPass_before
          rw [← h.settings] at noted ⊢
          exact attested_pass pass noted
        · rw [none g mem] at inside
          contradiction
  | leave refused =>
      obtain ⟨-, none⟩ := alone.alone rfl
      constructor
      · intro _
        exact attested_leave (s := y.scene) (here rfl)
      · intro g mem inside
        rcases Multiset.mem_add.mp mem with mem | mem
        · rw [not_inPass_discards refused g (Multiset.mem_coe.mp mem)] at inside
          contradiction
        · rw [none g mem] at inside
          contradiction
  | enter free enter =>
      have outside : f.inPass = false := by cases enter <;> rfl
      rw [Frame.note_of_not_inPass outside]
      constructor
      · intro free
        rw [enter.holder] at free
        contradiction
      · intro g mem inside
        rcases Multiset.mem_add.mp mem with mem | mem
        · rw [List.mem_singleton.mp (Multiset.mem_coe.mp mem)]
          exact h.stands.1 free
        · rw [alone.no_pass free (Multiset.mem_cons_of_mem mem)] at inside
          contradiction
  | outside step =>
      have outside : f.inPass = false := by
        cases step with
        | quiet quiet => cases quiet <;> rfl
        | _ => rfl
      rw [Frame.note_of_not_inPass outside]
      constructor
      · intro free
        exact h.stands.1 (step.holder ▸ free)
      · intro g mem inside
        rcases Multiset.mem_add.mp mem with fresh | old
        · rw [step.outside g (Multiset.mem_coe.mp fresh)] at inside
          contradiction
        have among := Multiset.mem_cons_of_mem (b := f) old
        have backlog : s'.exec.backlog = y.scene.exec.backlog := by
          cases step with
          | quiet quiet => exact quiet.keeps.backlog
          | withdraw free =>
              -- the backlog is taken out under the lock, so no pass is under way
              rw [alone.no_pass free among] at inside
              contradiction
          | _ => rfl
        rw [backlog]
        exact h.stands.2 g among inside

theorem beside (h : Kept config minutes y.bag y.scene) (next : System.Next rules y z)
    (still : ∀ t, y.turn? t ≠ some z) : Kept config minutes z.bag z.scene := by
  cases next with
  | turn t turn => exact absurd turn (still t)
  | call t c idle =>
      change Kept _ _ ((y.threads.set t [c.frame]).frames : Multiset (Frame ν)) _
      rw [System.bag_assign idle]
      exact h.cons (not_inPass_call c) rfl rfl rfl rfl
  | finish t job mode pool idle | finishReturned t before after job mode idle =>
      change Kept _ _ ((y.threads.set t [.job job mode.acts]).frames : Multiset (Frame ν)) _
      rw [System.bag_assign idle]
      exact h.cons rfl rfl rfl rfl rfl
  | pool pool => exact ⟨h.settings, h.bids, h.stands⟩

theorem minuted {main : Option ThreadId} {pool : σ} {s : Scene σ ν}
    (built : Scene.build config main pool = .ok s)
    (run : System.Minuted rules (.idle s) minutes y) : Kept config minutes y.bag y.scene := by
  obtain ⟨-, flight, rfl⟩ := Scene.build_ok built
  induction run with
  | refl =>
      refine ⟨rfl, rfl, nofun, ?_⟩
      intro f mem
      rw [System.bag_idle] at mem
      exact absurd mem (Multiset.notMem_zero f)
  | turn before _ top turn ih => exact ih.turn (exclusive rfl before.reaches) top turn
  | beside _ _ next still ih => exact ih.beside next still

end Kept

omit [WorkerPool σ (Task ν)] in
/-- A pass that has offered a task has decided. -/
theorem Minute.At.decided {config : Config} {m : Minute} {backlog : Nat} {f : Frame ν}
    (here : m.At config backlog f) (some : m.offers ≠ []) : m.Decided config (m.offers ≠ []) := by
  cases f with
  | readActive => exact absurd here some
  | readQueued active => exact absurd here.2 some
  | retune active queued => exact absurd here.2.2 some
  | setCore active queued target | decide active queued target => exact absurd here.2.2.2.2 some
  | handOver t draining refused | offer t draining refused => exact absurd here.2.1 some
  | leave refused => exact here
  | _ => exact here.elim

omit [WorkerPool σ (Task ν)] in
theorem Attested.decided {config : Config} {minutes : List Minute} {m : Minute} {backlog : Nat}
    {o : Option (Frame ν)} (noted : Attested config minutes backlog o) (mem : m ∈ minutes)
    (gated : m.Gated) (told : m.offers ≠ [] ∨ m.ended = true) :
    m.Decided config (m.offers ≠ []) := by
  cases o with
  | none => exact (noted m mem).2 gated
  | some f =>
      cases f with
      | pass => exact (noted m mem).2 gated
      | _ =>
          obtain ⟨m', past, rfl, closed, going, here⟩ := noted
          rcases List.mem_cons.mp mem with rfl | earlier
          · rcases told with some | ended
            · exact (here gated).decided some
            · rw [going] at ended
              contradiction
          · exact (closed m earlier).2 gated

/-- The minutes of every run have all offers. A pass over a running pool and not on the main thread
offers a task exactly if one waits, the ready queue is within its bound, and fewer workers are
active than the core size for the backlog. So it keeps to the core size that the pool reports after
the sizing, exactly unless it offers a task while at least that many workers are active. -/
theorem gate_respects_core_iff {rules : Rules σ ν} {config : Config} {main : Option ThreadId}
    {pool : σ} {s : Scene σ ν} {minutes : List Minute} {y : System σ ν}
    (built : Scene.build config main pool = .ok s)
    (run : System.Minuted rules (.idle s) minutes y) :
    Minute.bids minutes = y.scene.world.offers ∧
      ∀ m ∈ minutes, m.Gated → m.offers ≠ [] ∨ m.ended = true →
        ∃ active queued backlog core, m.active = some active ∧ m.queued = some queued ∧
          m.backlog = some backlog ∧ m.core = some core ∧
          (m.offers ≠ [] ↔ Minute.Lets config active queued backlog) ∧
          ((m.offers ≠ [] → queued ≤ config.maxQueueSize ∧ active < core) ↔
            ¬ (Minute.Lets config active queued backlog ∧ core ≤ active)) := by
  have kept := Kept.minuted built run
  have alone : Exclusive y.bag y.scene := by
    obtain ⟨-, flight, rfl⟩ := Scene.build_ok built
    exact exclusive rfl run.reaches
  refine ⟨kept.bids, ?_⟩
  intro m mem gated told
  obtain ⟨o, noted⟩ := kept.stands.due alone
  obtain ⟨active, queued, backlog, core, read, counted, sized, reported, lets⟩ :=
    noted.decided mem gated told
  refine ⟨active, queued, backlog, core, read, counted, sized, reported, lets, ?_⟩
  constructor
  · rintro respects ⟨passes, beyond⟩
    exact absurd (respects (lets.mpr passes)).2 (Nat.not_lt.mpr beyond)
  · intro within offers
    have passes := lets.mp offers
    refine ⟨passes.2.1, Nat.lt_of_not_le ?_⟩
    intro beyond
    exact within ⟨passes, beyond⟩

end Notes

/-! ### Minutes of a replay -/

namespace System

variable {x y z : System (HandPool (Task ν)) ν} {minutes minutes' : List Minute}

/-- A call is no step of a thread. -/
theorem assign_ne_turn {t u : ThreadId} {g : Frame ν} (idle : y.threads.get t = []) :
    y.turn? u ≠ some (y.assign t [g]) := by
  intro turn
  obtain ⟨f, new, rest, top, -, threads, -⟩ := turn_stack turn
  by_cases own : t = u
  · rw [← own, idle] at top
    contradiction
  · have stack : (y.assign t [g]).threads.get t = [g] := Stacks.get_set_self ..
    rw [threads, Stacks.get_set_of_ne own, idle] at stack
    contradiction

/-- The minutes and the system after a call or a step of a thread. -/
def minuted? : List Minute × System (HandPool (Task ν)) ν → Act ν →
    Option (List Minute × System (HandPool (Task ν)) ν)
  | (minutes, y), .turn t =>
    (y.turn? t).map fun z =>
      ((y.threads.get t).head?.elim minutes fun f => f.note t y.scene minutes, z)
  | (minutes, y), .call t c => (y.act? .none (.call t c)).map fun z => (minutes, z)
  | _, _ => none

theorem minuted_of_foldlM {acts : List (Act ν)} (run : Minuted Bounds.none.rules x minutes y)
    (h : acts.foldlM minuted? (minutes, y) = some (minutes', z)) :
    Minuted Bounds.none.rules x minutes' z := by
  induction acts generalizing minutes y with
  | nil =>
      obtain ⟨rfl, rfl⟩ := Prod.mk.inj (Option.some.inj h)
      exact run
  | cons a acts ih =>
      rw [List.foldlM_cons] at h
      obtain ⟨⟨more, w⟩, step, h⟩ := Option.bind_eq_some_iff.mp h
      refine ih ?_ h
      cases a with
      | turn t =>
          obtain ⟨v, turn, same⟩ := Option.map_eq_some_iff.mp step
          obtain ⟨rfl, rfl⟩ := Prod.mk.inj same
          obtain ⟨f, new, rest, top, -⟩ := turn_stack turn
          rw [top]
          exact run.turn rfl top turn
      | call t c =>
          obtain ⟨v, called, same⟩ := Option.map_eq_some_iff.mp step
          obtain ⟨rfl, rfl⟩ := Prod.mk.inj same
          refine run.beside rfl (act_next called) ?_
          obtain ⟨may, called⟩ := Option.ite_none_right_eq_some.mp called
          obtain rfl := Option.some.inj called
          intro u
          exact assign_ne_turn (List.isEmpty_iff.mp (Bool.and_eq_true_iff.mp may).1)
      | finish | refuse => contradiction

end System

namespace Sample

open Minute (Lets)

/-- The first task finds the pool free and is offered, for a core size of one. -/
theorem gate_respects_core_of_first :
    ∃ (m : Minute) (y : System (HandPool (Task Unit)) Unit),
      System.Minuted Bounds.none.rules (.idle scene) [m] y ∧ m.Gated ∧ m.ended = true ∧
      m.offers = [(⟨1⟩, true)] ∧
      ∃ active queued backlog core, m.active = some active ∧ m.queued = some queued ∧
        m.backlog = some backlog ∧ m.core = some core ∧
        ((m.offers ≠ [] → queued ≤ config.maxQueueSize ∧ active < core) ↔
          ¬ (Lets config active queued backlog ∧ core ≤ active)) := by
  obtain ⟨m, y, replayed, gated, ended, offers⟩ : ∃ (m : Minute)
      (y : System (HandPool (Task Unit)) Unit),
      (calls 1 12 (submit "a")).foldlM System.minuted? ([], .idle scene) = some ([m], y) ∧
        m.Gated ∧ m.ended = true ∧ m.offers = [(⟨1⟩, true)] :=
    ⟨_, _, rfl, ⟨rfl, rfl⟩, rfl, rfl⟩
  have run := System.minuted_of_foldlM .refl replayed
  obtain ⟨active, queued, backlog, core, read, counted, sized, reported, -, respects⟩ :=
    (gate_respects_core_iff scene_built run).2 m List.mem_cons_self gated (.inr ended)
  exact ⟨m, y, run, gated, ended, offers, active, queued, backlog, core, read, counted, sized,
    reported, respects⟩

/-- Three workers are asked for, and the pool stays at one. -/
def stubborn : HandPool (Task Unit) := { HandPool.new 1 with fixedCore := true }

def stubbornConfig : Config := ⟨3, 4, 8, 1, .ofSeconds 30, "worker", false⟩

/-- While the only worker is active, a second task is offered to a pool that reports a core size of
one after the sizing. -/
theorem offered_beyond_core :
    ∃ (s : Scene (HandPool (Task Unit)) Unit) (m first : Minute)
      (y : System (HandPool (Task Unit)) Unit),
      Scene.build stubbornConfig none stubborn = .ok s ∧
      System.Minuted Bounds.none.rules (.idle s) [m, first] y ∧ m.Gated ∧
      m.offers = [(⟨2⟩, true)] ∧ m.active = some 1 ∧ m.core = some 1 := by
  obtain ⟨s, m, first, y, built, replayed, told⟩ :
      ∃ (s : Scene (HandPool (Task Unit)) Unit) (m first : Minute)
        (y : System (HandPool (Task Unit)) Unit),
      Scene.build stubbornConfig none stubborn = .ok s ∧
      (calls 1 13 (submit "a") ++ calls 1 13 (submit "b")).foldlM System.minuted? ([], .idle s)
        = some ([m, first], y) ∧ m.Gated ∧ m.offers = [(⟨2⟩, true)] ∧ m.active = some 1 ∧
      m.core = some 1 :=
    ⟨_, _, _, _, rfl, rfl, ⟨rfl, rfl⟩, rfl, rfl, rfl⟩
  exact ⟨s, m, first, y, built, System.minuted_of_foldlM .refl replayed, told⟩

end Sample

end TwoTier
