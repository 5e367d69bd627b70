import TwoTier.Proofs.Gate
import TwoTier.Proofs.MainThread
import TwoTier.Proofs.PoolSteps
import TwoTier.Proofs.Settings

/-!
The core size follows the backlog.

A pass that is neither on the main thread nor over a shut pool sets the core size that the backlog
calls for, if the pool does not have it already; other passes leave it alone, and nothing else sets
it. Over a pool whose core size is the one set last (`Follows`), each such pass therefore ends with
the core size for the backlog with which it began, after one change at most and only where there was
something to change (`core_size_follows_backlog`).

A pass is followed from the moment at which its thread gets the lock to the moment at which it gives
it back (`System.Pass`). It is when it looks at the pool for the first time that it finds the pool
running or shut; a shutdown that comes later in the pass makes no difference to it.
-/

namespace TwoTier

variable {σ ν : Type}

@[simp] def Event.coreSize? : Event → Option Nat
  | .coreSizeSet n => some n
  | _ => none

/-- The core sizes that were set, in order. -/
def World.coreSizes (w : World ν) : List Nat := w.marks Event.coreSize?

@[simp] theorem World.coreSizes_record (e : Event) (w : World ν) :
    (w.record e).coreSizes = w.coreSizes ++ e.coreSize?.toList := marks_record _ e w

@[simp] theorem World.coreSizes_fresh : (World.fresh : World ν).coreSizes = [] := rfl

/-- The core sizes that a configuration names. -/
def Config.coreSizes (c : Config) : List Nat := [c.coreSize, c.biggerCoreSize, c.maxCoreSize]

theorem CoreBand.coreSize_mem (band : CoreBand) (config : Config) :
    band.coreSize config ∈ config.coreSizes := by
  cases band <;> simp [CoreBand.coreSize, Config.coreSizes]

/-- The tasks that join the backlog when a frame begins its pass. -/
def Frame.joining : Frame ν → List (Task ν)
  | .push t => [t]
  | _ => []

variable [WorkerPool σ (Task ν)]

/-- A pool whose core size is the one set last. -/
structure Follows (rules : Rules σ ν) : Prop where
  sets : ∀ {s} (band : CoreBand), rules.fit s →
    WorkerPool.coreSize (WorkerPool.setCoreSize (band.coreSize s.exec.config) s.exec.pool)
      = band.coreSize s.exec.config
  offer : ∀ {s} (t : Task ν), rules.fit s →
    WorkerPool.coreSize (WorkerPool.offer t s.exec.pool).2 = WorkerPool.coreSize s.exec.pool
  shutdown : ∀ {s}, rules.fit s →
    WorkerPool.coreSize (WorkerPool.shutdown s.exec.pool) = WorkerPool.coreSize s.exec.pool
  shutdownNow : ∀ {s}, rules.fit s →
    WorkerPool.coreSize (WorkerPool.shutdownNow s.exec.pool).2 = WorkerPool.coreSize s.exec.pool
  moves : ∀ {p q}, rules.moves p q → WorkerPool.coreSize q = WorkerPool.coreSize p
  yields : ∀ {p t q}, rules.yields p t q → WorkerPool.coreSize q = WorkerPool.coreSize p

/-- The pool of threads follows, whatever its workers do. -/
theorem Service.follows (calls : Call ν → Prop) : Follows (Service.rules calls) where
  sets {s} band _ := ThreadPool.coreSize_setCoreSize _ s.exec.pool
  offer t _ := (ThreadPool.executed t _).grows.1
  shutdown _ := ThreadPool.aloof_coreSize.shutdown _
  shutdownNow _ := ThreadPool.aloof_coreSize.shutdownNow _
  moves moved := by
    obtain ⟨number, act, did⟩ := moved
    exact (ThreadPool.acts did).sizes.1
  yields given := by
    obtain ⟨number, act, did⟩ := given
    exact (ThreadPool.acts did).sizes.1

namespace Scene

/-- Nothing has been done to the core size. -/
structure Level (s s' : Scene σ ν) : Prop where
  core : WorkerPool.coreSize s'.exec.pool = WorkerPool.coreSize s.exec.pool
  sizes : s'.world.coreSizes = s.world.coreSizes

variable {me : ThreadId} {f g : Frame ν} {new : List (Frame ν)} {s s' : Scene σ ν}

theorem Level.refl (s : Scene σ ν) : Level s s := ⟨rfl, rfl⟩

theorem Keeps.level (h : Keeps s s') (sizes : s'.world.coreSizes = s.world.coreSizes) :
    Level s s' :=
  ⟨by rw [h.pool], sizes⟩

theorem level_retune (active queued : Nat) (s : Scene σ ν) :
    Level s (s.retune active queued).2 := by
  refine (keeps_retune active queued s).level ?_
  unfold retune
  dsimp only
  split
  · rfl
  · simp

theorem level_marked (t : Task ν) (s : Scene σ ν) : Level s (s.marked t) := by
  refine (keeps_marked t s).level ?_
  unfold World.coreSizes World.marks
  rw [journal_marked]

theorem EnterStep.level (h : EnterStep me s f s') : Level s s' := by
  cases h with
  | push | shutting => exact ⟨rfl, by simp⟩
  | resume => exact ⟨rfl, rfl⟩

theorem QuietStep.level (h : QuietStep me s f new s') : Level s s' := by
  refine h.keeps.level ?_
  cases h with
  | survey c => exact marks_scan (fun _ => rfl) s
  | finish c => exact marks_finish (fun _ _ _ => rfl) c me s.world
  | lost | turnAway | completed | start | discard => simp [record]
  | _ => rfl

variable {rules : Rules σ ν}

/-- Outside passes nobody sets the core size. -/
theorem OutsideStep.level (follows : Follows rules) (fit : rules.fit s)
    (h : OutsideStep me s f new s') : Level s s' := by
  cases h with
  | quiet quiet => exact quiet.level
  | shutdown => exact ⟨follows.shutdown fit, rfl⟩
  | withdraw => exact ⟨rfl, by simp⟩
  | stop backlog stopped =>
      have kept := follows.shutdownNow fit
      rw [stopped] at kept
      exact ⟨kept, by simp⟩

/-- Neither does a pass, but for the one step. -/
theorem PassStep.level (follows : Follows rules) (fit : rules.fit s) (h : PassStep me s f g s')
    (other : ∀ active queued target, f ≠ .setCore active queued target) : Level s s' := by
  cases h with
  | tuned active queued | untuned active queued => exact level_retune active queued s
  | mark t => exact level_marked t s
  | setCore active queued target => exact absurd rfl (other active queued target)
  | accepted t draining refused answer | turnedDown t draining refused answer =>
      have kept := follows.offer t fit
      rw [answer] at kept
      exact ⟨kept, by simp⟩
  | _ => exact ⟨rfl, rfl⟩

end Scene

/-! ### In all states -/

/-- No size was set that the pool had already, and the pool has the one set last. -/
structure Resized (config : Config) (start : Nat) (o : Option (Frame ν)) (s : Scene σ ν) :
    Prop where
  settings : s.exec.config = config
  changes : (start :: s.world.coreSizes).IsChain (· ≠ ·)
  last : (start :: s.world.coreSizes).getLast? = some (WorkerPool.coreSize s.exec.pool)
  named : ∀ n ∈ s.world.coreSizes, n ∈ config.coreSizes
  due : ∀ active queued target, o = some (.setCore active queued target) →
    (∃ band : CoreBand, target = band.coreSize config) ∧
      WorkerPool.coreSize s.exec.pool ≠ target

namespace Resized

variable {rules : Rules σ ν} {config : Config} {start : Nat} {o o' : Option (Frame ν)}
  {s s' : Scene σ ν}

theorem of_level (h : Resized config start o s) (level : s.Level s')
    (same : s'.exec.config = s.exec.config)
    (due : ∀ active queued target, o' = some (.setCore active queued target) → o' = o) :
    Resized config start o' s' where
  settings := same.trans h.settings
  changes := level.sizes ▸ h.changes
  last := by rw [level.core, level.sizes, h.last]
  named := level.sizes ▸ h.named
  due active queued target here := by
    rw [level.core]
    exact h.due active queued target (due active queued target here ▸ here)

/-- The one step that sets the core size. -/
theorem setCore (follows : Follows rules) (fit : rules.fit s) {active queued target : Nat}
    (h : Resized config start (some (.setCore active queued target)) s) :
    Resized config start (some (.decide active queued target))
      { s with exec := { s.exec with pool := WorkerPool.setCoreSize target s.exec.pool }
               world := s.world.record (.coreSizeSet target) } := by
  obtain ⟨⟨band, rfl⟩, differs⟩ := h.due active queued target rfl
  have sets := follows.sets band fit
  rw [h.settings] at sets
  refine ⟨h.settings, ?_, ?_, ?_, nofun⟩
  · rw [World.coreSizes_record, ← List.cons_append]
    refine h.changes.append (List.isChain_singleton _) ?_
    intro m last n next
    rw [h.last] at last
    obtain rfl := Option.some.inj last
    obtain rfl := Option.some.inj next
    exact differs
  · rw [World.coreSizes_record, ← List.cons_append, sets]
    exact List.getLast?_concat ..
  · rw [World.coreSizes_record]
    intro n mem
    rcases List.mem_append.mp mem with before | set
    · exact h.named n before
    · obtain rfl := List.mem_singleton.mp set
      exact band.coreSize_mem config

theorem pass (follows : Follows rules) {me : ThreadId} {f g : Frame ν} (fit : rules.fit s)
    (step : Scene.PassStep me s f g s') (h : Resized config start (some f) s) :
    Resized config start (some g) s' := by
  have level := step.level follows fit
  have same := step.setting.2.1
  cases step with
  | untuned active queued differs =>
      -- The size that is due has just been compared with that of the pool.
      have kept : Resized config start none _ := h.of_level (level nofun) same nofun
      refine ⟨kept.settings, kept.changes, kept.last, kept.named, ?_⟩
      rintro _ _ _ ⟨⟩
      rw [(level nofun).core]
      exact ⟨⟨_, by rw [tunedCoreSize, h.settings]⟩, differs⟩
  | setCore active queued target => exact setCore follows fit h
  | accepted t draining refused answer | turnedDown t draining refused answer =>
      refine h.of_level (level nofun) same ?_
      cases draining <;> rintro _ _ _ ⟨⟩
  | empty _ takes | takeHead _ takes =>
      refine h.of_level (level ?_) same nofun
      cases takes <;> nofun
  | _ => exact h.of_level (level nofun) same nofun

theorem outline (follows : Follows rules) (config : Config) (start : Nat) :
    Outline rules (fun _ _ => True) fun o _ => Resized config start o where
  enter _ _ step h := by
    refine h.of_level step.level ?_ nofun
    cases step <;> rfl
  pass fit _ step h := h.pass follows fit step
  leave _ _ h := h.of_level ⟨rfl, rfl⟩ rfl nofun
  quiet _ _ step h := h.of_level step.level step.keeps.config fun _ _ _ _ => rfl
  shutdown fit _ h := h.of_level ⟨follows.shutdown fit, rfl⟩ rfl fun _ _ _ _ => rfl
  withdraw _ _ _ h := h.of_level ⟨rfl, by simp⟩ rfl nofun
  stop {o backlog jobs pool rest s} fit _ stopped h := by
    have kept := follows.shutdownNow fit
    rw [stopped] at kept
    exact h.of_level ⟨kept, by simp⟩ rfl fun _ _ _ _ => rfl
  call _ _ h := h
  finish _ yields _ h := h.of_level ⟨follows.yields yields, rfl⟩ rfl fun _ _ _ _ => rfl
  finishReturned _ _ _ h := h.of_level ⟨rfl, rfl⟩ rfl fun _ _ _ _ => rfl
  pool moves _ h := h.of_level ⟨follows.moves moves, rfl⟩ rfl fun _ _ _ _ => rfl

theorem reaches (follows : Follows rules) {main : Option ThreadId} {pool : σ} {y : System σ ν}
    (built : Scene.build config main pool = .ok s) (run : System.Reaches rules (.idle s) y) :
    ∃ o, Resized config (WorkerPool.coreSize pool) o y.scene := by
  obtain ⟨-, flight, rfl⟩ := Scene.build_ok built
  have stands := (outline follows config (WorkerPool.coreSize pool)).reaches (fun _ _ => trivial)
    rfl ⟨rfl, List.isChain_singleton _, rfl, by simp, nofun⟩ run
  exact stands.due (exclusive rfl run)

end Resized

/-! ### In one pass -/

namespace System

/-- A pass of a thread, begun by a frame at the moment `x`, at which the thread gets the lock. Once
it has looked whether the pool runs, the moment of that look is noted. It goes on as long as the top
frame of the thread belongs to it; others do what they like meanwhile. -/
inductive Pass (rules : Rules σ ν) (me : ThreadId) (f : Frame ν) (under : List (Frame ν))
    (x : System σ ν) : Option (System σ ν) → System σ ν → Prop where
  | enter {y : System σ ν} (top : x.threads.get me = f :: under) (enters : f.entersPass = true)
      (fit : rules.fit x.scene) (turn : x.turn? me = some y) : Pass rules me f under x none y
  | look {y z : System σ ν} (pass : Pass rules me f under x none y)
      (top : y.threads.get me = .pass :: under) (fit : rules.fit y.scene)
      (turn : y.turn? me = some z) : Pass rules me f under x (some y) z
  | step {l y z : System σ ν} {g : Frame ν} (pass : Pass rules me f under x (some l) y)
      (top : y.threads.get me = g :: under) (inside : g.inPass = true) (fit : rules.fit y.scene)
      (turn : y.turn? me = some z) : Pass rules me f under x (some l) z
  | beside {o : Option (System σ ν)} {y z : System σ ν} {g : Frame ν}
      (pass : Pass rules me f under x o y) (top : y.threads.get me = g :: under)
      (inside : g.inPass = true) (fit : rules.fit y.scene) (next : Next rules y z)
      (other : y.turn? me ≠ some z) : Pass rules me f under x o z

variable {rules : Rules σ ν} {me : ThreadId} {f g : Frame ν} {under rest : List (Frame ν)}
  {x y z : System σ ν} {o : Option (System σ ν)}

theorem Pass.reaches (pass : Pass rules me f under x o z) : Reaches rules x z := by
  induction pass with
  | enter _ _ fit turn => exact .tail .refl fit (.turn me turn)
  | look _ _ fit turn ih => exact ih.tail fit (.turn me turn)
  | step _ _ _ fit turn ih => exact ih.tail fit (.turn me turn)
  | beside _ _ _ fit next _ ih => exact ih.tail fit next

/-- The look at the pool is a moment of the run. -/
theorem Pass.looked (pass : Pass rules me f under x (some y) z) : Reaches rules x y := by
  generalize h : some y = o at pass
  induction pass with
  | enter => contradiction
  | look before =>
      obtain rfl := Option.some.inj h
      exact before.reaches
  | step _ _ _ _ _ ih | beside _ _ _ _ _ _ ih => exact ih h

/-- While a thread is in a pass, others leave its stack, the backlog and the core size alone. -/
theorem Next.aside (follows : Follows rules) (fit : rules.fit y.scene) (next : Next rules y z)
    (other : y.turn? me ≠ some z) (top : y.threads.get me = g :: rest) (inside : g.inPass = true)
    (alone : Exclusive y.bag y.scene) : z.threads.get me = g :: rest ∧
      z.scene.exec.backlog = y.scene.exec.backlog ∧ y.scene.Level z.scene := by
  cases next with
  | turn t turn =>
      have differs : me ≠ t := by
        rintro rfl
        exact other turn
      obtain ⟨held, h, new, step⟩ := turn_outside turn differs (top ▸ List.mem_cons_self) inside
        alone
      obtain ⟨-, new', rest', -, -, threads, -, -⟩ := turn_stack turn
      refine ⟨by rw [threads, Stacks.get_set_of_ne differs, top], ?_, step.level follows fit⟩
      generalize z.scene = s at step ⊢
      cases step with
      | quiet quiet => exact quiet.keeps.backlog
      | withdraw free => exact absurd free held
      | shutdown | stop => rfl
  | call t c idle => exact ⟨get_set_of_idle top idle _, rfl, .refl _⟩
  | finish t job mode pool idle _ given =>
      exact ⟨get_set_of_idle top idle _, rfl, follows.yields given, rfl⟩
  | finishReturned t before after job mode idle =>
      exact ⟨get_set_of_idle top idle _, rfl, rfl, rfl⟩
  | pool pool moved => exact ⟨top, rfl, follows.moves moved, rfl⟩

end System

/-- What has become of the core size when a pass is over that began with `n` waiting tasks, by the
size at its beginning and what it has set. -/
def Config.Outcome (config : Config) (tunes : Prop) (n start core : Nat) (changes : List Nat) :
    Prop :=
  (tunes → core = tunedCoreSize n config ∧
    changes = if start = tunedCoreSize n config then [] else [tunedCoreSize n config]) ∧
  (¬ tunes → core = start ∧ changes = [])

/-- The same while the pass stands at a frame. -/
def Frame.Sizes (config : Config) (tunes : Prop) (n backlog start core : Nat) (changes : List Nat) :
    Frame ν → Prop
  | .pass => backlog = n ∧ core = start ∧ changes = []
  | .readActive | .readQueued _ | .retune _ _ =>
    tunes ∧ backlog = n ∧ core = start ∧ changes = []
  | .setCore _ _ target =>
    tunes ∧ target = tunedCoreSize n config ∧ start ≠ target ∧ changes = []
  | .decide _ _ _ => tunes ∧ config.Outcome tunes n start core changes
  | .drain _ | .bypass => ¬ tunes ∧ config.Outcome tunes n start core changes
  | .handOver _ draining _ | .offer _ draining _ =>
    (draining = true → ¬ tunes) ∧ config.Outcome tunes n start core changes
  | .leave _ => config.Outcome tunes n start core changes
  | _ => False

theorem Frame.Sizes.inPass {config : Config} {tunes : Prop} {n backlog start core : Nat}
    {changes : List Nat} {f : Frame ν}
    (h : f.Sizes config tunes n backlog start core changes) : f.inPass = true := by
  cases f with
  | pass | drain | bypass | readActive | readQueued | retune | setCore | decide | handOver | offer
  | leave => rfl
  | _ => exact h.elim

/-- The same in a scene, by the scene at the beginning of the pass. -/
def Scene.Sizes (config : Config) (tunes : Prop) (n : Nat) (start : Scene σ ν) (f : Frame ν)
    (s : Scene σ ν) : Prop :=
  ∃ changes, s.world.coreSizes = start.world.coreSizes ++ changes ∧
    f.Sizes config tunes n s.exec.backlog.length (WorkerPool.coreSize start.exec.pool)
      (WorkerPool.coreSize s.exec.pool) changes

namespace Scene.Sizes

variable {rules : Rules σ ν} {config : Config} {tunes : Prop} {n : Nat} {me : ThreadId}
  {f g : Frame ν} {start s s' : Scene σ ν}

theorem of_level (h : Sizes config tunes n start f s) (level : s.Level s')
    (frame : ∀ {core changes},
      f.Sizes config tunes n s.exec.backlog.length core (WorkerPool.coreSize s.exec.pool) changes →
      g.Sizes config tunes n s'.exec.backlog.length core (WorkerPool.coreSize s.exec.pool)
        changes) :
    Sizes config tunes n start g s' := by
  obtain ⟨changes, noted, here⟩ := h
  refine ⟨changes, by rw [level.sizes, noted], ?_⟩
  rw [level.core]
  exact frame here

/-- The first look at the pool. -/
theorem look (step : Scene.PassStep me s .pass g s')
    (decides : tunes ↔ WorkerPool.isShutdown s.exec.pool = false ∧ s.exec.mainThread ≠ some me)
    (h : Sizes config tunes n start .pass s) : Sizes config tunes n start g s' := by
  cases step with
  | shut shut =>
      refine h.of_level (.refl s) fun here => ?_
      have exempt : ¬ tunes := by
        intro tuning
        rw [(decides.mp tuning).1] at shut
        contradiction
      exact ⟨exempt, fun tuning => absurd tuning exempt, fun _ => here.2⟩
  | main _ main =>
      refine h.of_level (.refl s) fun here => ?_
      have exempt : ¬ tunes := fun tuning => (decides.mp tuning).2 main
      exact ⟨exempt, fun tuning => absurd tuning exempt, fun _ => here.2⟩
  | gated running other =>
      exact h.of_level (.refl s) fun here => ⟨decides.mpr ⟨running, other⟩, here⟩
  | empty _ takes | takeHead _ takes => cases takes

/-- The steps after that. -/
theorem step (follows : Follows rules) (fit : rules.fit s) (settings : s.exec.config = config)
    (step : Scene.PassStep me s f g s') (later : f ≠ .pass)
    (h : Sizes config tunes n start f s) : Sizes config tunes n start g s' := by
  have level := step.level follows fit
  cases step with
  | shut | main | gated => exact absurd rfl later
  | readActive | readQueued => exact h.of_level (level nofun) id
  | tuned active queued fits =>
      obtain ⟨changes, noted, tuning, rfl, same, rfl⟩ := h
      have level := level nofun
      rw [settings] at fits
      refine ⟨[], by rw [level.sizes, noted], tuning, ?_, fun other => absurd tuning other⟩
      intro _
      rw [level.core, ← same]
      exact ⟨fits, (if_pos fits).symm⟩
  | untuned active queued differs =>
      obtain ⟨changes, noted, tuning, rfl, same, rfl⟩ := h
      rw [settings, same] at differs
      rw [settings]
      exact ⟨[], by rw [(level nofun).sizes, noted], tuning, rfl, differs, rfl⟩
  | setCore active queued target =>
      obtain ⟨changes, noted, tuning, rfl, differs, rfl⟩ := h
      have sets := follows.sets (CoreBand.ofBacklog n config) fit
      rw [settings] at sets
      refine ⟨[tunedCoreSize n config], ?_, tuning, ?_, fun other => absurd tuning other⟩
      · rw [World.coreSizes_record, noted, List.append_nil]
        rfl
      · intro _
        exact ⟨sets, (if_neg differs).symm⟩
  | closed => exact h.of_level (level nofun) fun here => here.2
  | empty _ takes =>
      cases takes with
      | drain | bypass | decide => exact h.of_level (level nofun) fun here => here.2
  | takeHead _ takes =>
      cases takes with
      | drain | bypass => exact h.of_level (level nofun) fun here => ⟨fun _ => here.1, here.2⟩
      | decide => exact h.of_level (level nofun) fun here => ⟨nofun, here.2⟩
  | mark => exact h.of_level (level nofun) id
  | accepted t draining | turnedDown t draining =>
      refine h.of_level (level nofun) fun here => ?_
      cases draining with
      | false => exact here.2
      | true => exact ⟨here.1 rfl, here.2⟩

end Scene.Sizes

/-- A pass that finds the scene like this sizes the pool. -/
def Scene.Tunes (me : ThreadId) (s : Scene σ ν) : Prop :=
  WorkerPool.isShutdown s.exec.pool = false ∧ s.exec.mainThread ≠ some me

namespace System

variable {rules : Rules σ ν} {config : Config} {me : ThreadId} {f : Frame ν}
  {under : List (Frame ν)} {x y z : System σ ν} {o : Option (System σ ν)}

/-- How far a pass has come that began with `n` waiting tasks, and what it has done to the core size
so far. -/
inductive Sized (config : Config) (n : Nat) (me : ThreadId) (under : List (Frame ν))
    (x : System σ ν) : Option (System σ ν) → System σ ν → Prop where
  | begun {z : System σ ν} (top : z.threads.get me = .pass :: under)
      (sizes : ∀ tunes, Scene.Sizes config tunes n x.scene .pass z.scene) :
      Sized config n me under x none z
  | underWay {l z : System σ ν} {g : Frame ν} (top : z.threads.get me = g :: under)
      (later : g ≠ .pass)
      (sizes : Scene.Sizes config (l.scene.Tunes me) n x.scene g z.scene) :
      Sized config n me under x (some l) z
  | closed {l z : System σ ν} (refused : List (Task ν))
      (gone : ∀ g, z.threads.get me = g :: under → g.inPass = false)
      (sizes : Scene.Sizes config (l.scene.Tunes me) n x.scene (.leave refused) z.scene) :
      Sized config n me under x (some l) z

namespace Sized

variable {n : Nat}

theorem enter (top : x.threads.get me = f :: under) (enters : f.entersPass = true)
    (turn : x.turn? me = some z) :
    Sized config (x.scene.exec.backlog ++ f.joining).length me under x none z := by
  obtain ⟨f', new, rest, top', step, threads, -, -⟩ := turn_stack turn
  rw [top] at top'
  obtain ⟨rfl, rfl⟩ := List.cons.inj top'
  obtain ⟨-, rfl, enter⟩ := Scene.step_enter enters step
  refine .begun (by rw [threads, Stacks.get_set_self]; rfl) fun tunes => ?_
  refine ⟨[], by rw [enter.level.sizes, List.append_nil], ?_, enter.level.core, rfl⟩
  generalize z.scene = s at enter ⊢
  cases enter with
  | push t => rfl
  | resume | shutting => simp [Frame.joining, Buffer.lock]

theorem look (sized : Sized config n me under x none y) (turn : y.turn? me = some z) :
    Sized config n me under x (some y) z := by
  cases sized with
  | begun top sizes =>
      obtain ⟨f', new, rest, top', step, threads, -, -⟩ := turn_stack turn
      rw [top] at top'
      obtain ⟨rfl, rfl⟩ := List.cons.inj top'
      rcases Scene.step_pass rfl step with ⟨g, rfl, pass⟩ | ⟨_, leaving, -⟩
      · refine .underWay ?_ pass.later ((sizes _).look pass Iff.rfl)
        rw [threads, Stacks.get_set_self]
        rfl
      · contradiction

theorem step {l : System σ ν} {g : Frame ν} (follows : Follows rules) (fit : rules.fit y.scene)
    (settings : y.scene.exec.config = config) (sized : Sized config n me under x (some l) y)
    (here : y.threads.get me = g :: under) (inside : g.inPass = true)
    (turn : y.turn? me = some z) : Sized config n me under x (some l) z := by
  cases sized with
  | closed _ gone => exact absurd inside (Bool.not_eq_true _ ▸ gone g here)
  | underWay top later sizes =>
      obtain ⟨f', new, rest, top', step, threads, -, -⟩ := turn_stack turn
      rw [top] at top' here
      obtain ⟨rfl, rfl⟩ := List.cons.inj top'
      obtain ⟨rfl, -⟩ := List.cons.inj here
      rcases Scene.step_pass inside step with ⟨h, rfl, pass⟩ | ⟨refused, rfl, rfl, scene⟩
      · refine .underWay ?_ pass.later (sizes.step follows fit settings pass later)
        rw [threads, Stacks.get_set_self]
        rfl
      · refine .closed refused ?_ ?_
        · intro h top
          rw [threads, Stacks.get_set_self] at top
          cases refused with
          | nil => exact absurd top.symm (List.cons_ne_self h under)
          | cons t refused =>
              obtain ⟨rfl, -⟩ := List.cons.inj top
              rfl
        · rw [scene]
          exact sizes.of_level ⟨rfl, rfl⟩ id

theorem beside {g : Frame ν} (sized : Sized config n me under x o y)
    (here : y.threads.get me = g :: under) (inside : g.inPass = true)
    (same : z.threads.get me = g :: under)
    (backlog : z.scene.exec.backlog = y.scene.exec.backlog) (level : y.scene.Level z.scene) :
    Sized config n me under x o z := by
  cases sized with
  | begun top sizes =>
      rw [← here, top] at same
      refine .begun same fun tunes => (sizes tunes).of_level level ?_
      rw [backlog]
      exact id
  | underWay top later sizes =>
      rw [← here, top] at same
      refine .underWay same later (sizes.of_level level ?_)
      rw [backlog]
      exact id
  | closed _ gone => exact absurd inside (Bool.not_eq_true _ ▸ gone g here)

end Sized

/-- What has become of the core size when the pass is over. -/
theorem Sized.outcome {n : Nat} {l : System σ ν} (sized : Sized config n me under x (some l) z)
    (gone : ∀ g, z.threads.get me = g :: under → g.inPass = false) :
    ∃ changes, z.scene.world.coreSizes = x.scene.world.coreSizes ++ changes ∧
      config.Outcome (l.scene.Tunes me) n (WorkerPool.coreSize x.scene.exec.pool)
        (WorkerPool.coreSize z.scene.exec.pool) changes := by
  cases sized with
  | underWay top _ sizes =>
      obtain ⟨changes, -, here⟩ := sizes
      have outside := gone _ top
      rw [here.inPass] at outside
      contradiction
  | closed _ _ sizes => exact sizes

theorem Pass.sized (follows : Follows rules)
    (settings : ∀ w, Reaches rules x w → w.scene.exec.config = config)
    (alone : ∀ w, Reaches rules x w → Exclusive w.bag w.scene)
    (pass : Pass rules me f under x o z) :
    Sized config (x.scene.exec.backlog ++ f.joining).length me under x o z := by
  induction pass with
  | enter top enters _ turn => exact .enter top enters turn
  | look _ _ _ turn ih => exact ih.look turn
  | step before top inside fit turn ih =>
      exact ih.step follows fit (settings _ before.reaches) top inside turn
  | beside before top inside fit next other ih =>
      obtain ⟨same, backlog, level⟩ :=
        next.aside follows fit other top inside (alone _ before.reaches)
      exact ih.beside top inside same backlog level

end System

/-- Over a pool whose core size is the one set last, the core size is the one at the start or one
that the configuration names, and each change was one. A pass that is neither on the main thread nor
over a shut pool ends with the core size for the backlog at its beginning, the new task included; it
has set it once if the pool had another, and else not at all. The other passes leave it alone. -/
theorem core_size_follows_backlog {rules : Rules σ ν} (follows : Follows rules) {config : Config}
    {main : Option ThreadId} {pool : σ} {s : Scene σ ν} {x : System σ ν}
    (built : Scene.build config main pool = .ok s) (run : System.Reaches rules (.idle s) x) :
    WorkerPool.coreSize x.scene.exec.pool ∈ WorkerPool.coreSize pool :: config.coreSizes ∧
      (WorkerPool.coreSize pool :: x.scene.world.coreSizes).IsChain (· ≠ ·) ∧
      ∀ me f under y z, System.Pass rules me f under x (some y) z →
        (∀ g, z.threads.get me = g :: under → g.inPass = false) →
        ∃ target changes, target = tunedCoreSize (x.scene.exec.backlog ++ f.joining).length config ∧
          z.scene.world.coreSizes = x.scene.world.coreSizes ++ changes ∧
          (WorkerPool.isShutdown y.scene.exec.pool = false ∧ main ≠ some me →
            WorkerPool.coreSize z.scene.exec.pool = target ∧
              changes = if WorkerPool.coreSize x.scene.exec.pool = target then [] else [target]) ∧
          (WorkerPool.isShutdown y.scene.exec.pool = true ∨ main = some me →
            WorkerPool.coreSize z.scene.exec.pool = WorkerPool.coreSize x.scene.exec.pool ∧
              changes = []) := by
  obtain ⟨o, resized⟩ := Resized.reaches follows built run
  refine ⟨?_, resized.changes, ?_⟩
  · rcases List.mem_cons.mp (List.mem_of_getLast? resized.last) with start | set
    · exact start ▸ List.mem_cons_self
    · exact List.mem_cons_of_mem _ (resized.named _ set)
  · intro me f under y z pass gone
    have free : s.exec.holder = none := by
      obtain ⟨-, flight, rfl⟩ := Scene.build_ok built
      rfl
    have sized := pass.sized follows
      (fun w more => (Resized.reaches follows built (run.trans more)).choose_spec.settings)
      fun w more => exclusive free (run.trans more)
    obtain ⟨changes, noted, tuned, exempt⟩ := sized.outcome gone
    have main := (situated_reaches built (run.trans pass.looked)).mainThread
    refine ⟨_, changes, rfl, noted, fun tunes => tuned ⟨tunes.1, main ▸ tunes.2⟩, ?_⟩
    intro skips
    refine exempt ?_
    rintro ⟨running, other⟩
    rcases skips with shut | here
    · rw [running] at shut
      contradiction
    · exact other (main.trans here)

/-! ### A pool that follows, driven by hand -/

namespace System

/-- The system after some steps of a thread that has nothing but a pass to do. -/
def walk? (b : Bounds ν) (me : ThreadId) :
    Nat → System (HandPool (Task ν)) ν → Option (System (HandPool (Task ν)) ν)
  | 0, y => some y
  | n + 1, y =>
    match y.threads.get me with
    | [g] => if g.inPass && b.fit y.scene then (y.turn? me).bind (walk? b me n) else none
    | _ => none

theorem Pass.walk {b : Bounds ν} {me : ThreadId} {f : Frame ν} {n : Nat}
    {x l y z : System (HandPool (Task ν)) ν} (pass : Pass b.rules me f [] x (some l) y)
    (walked : walk? b me n y = some z) : Pass b.rules me f [] x (some l) z := by
  induction n generalizing y with
  | zero => exact Option.some.inj walked ▸ pass
  | succ n ih =>
      unfold walk? at walked
      split at walked
      · rename_i g top
        obtain ⟨may, walked⟩ := Option.ite_none_right_eq_some.mp walked
        obtain ⟨inside, fit⟩ := Bool.and_eq_true_iff.mp may
        obtain ⟨w, turn, rest⟩ := Option.bind_eq_some_iff.mp walked
        exact ih (pass.step top inside fit turn) rest
      · contradiction

end System

namespace Sample

/-- Runs that go on while the core size can be set. -/
def adjustable : Bounds Unit :=
  ⟨fun _ => true, fun _ => true, fun s => !s.exec.pool.fixedCore⟩

theorem adjustable_follows : Follows adjustable.rules where
  sets {s} band fit := by
    change (HandPool.setCoreSize _ s.exec.pool).core = _
    have free : s.exec.pool.fixedCore = false := (Bool.not_eq_true' _).mp fit
    rw [HandPool.setCoreSize, free]
    rfl
  offer {s} t _ := by
    change (HandPool.offer t s.exec.pool).2.core = s.exec.pool.core
    rcases HandPool.offer_cases t s.exec.pool with taken | ⟨why, n, turned⟩
    · rw [taken]
    · rw [turned]
  shutdown _ := rfl
  shutdownNow {s} _ := by
    change s.exec.pool.shutdownNow.2.core = s.exec.pool.core
    unfold HandPool.shutdownNow
    split <;> rfl
  moves moved := by
    obtain ⟨n, rfl⟩ := moved
    rfl
  yields given := by
    obtain ⟨index, taken⟩ := given
    obtain ⟨before, after, -, rfl⟩ := HandPool.held_of_take? taken
    rfl

end Sample

set_option maxRecDepth 8000 in
open Sample in
/-- The eleventh waiting task calls for a second worker. -/
theorem core_size_follows_backlog_raised :
    ∃ (x y z : System (HandPool (Task Unit)) Unit) (f : Frame Unit),
      System.Reaches adjustable.rules (.idle wideScene) x ∧
      System.Pass adjustable.rules (.caller 1) f [] x (some y) z ∧
      (∀ g, z.threads.get (.caller 1) = [g] → g.inPass = false) ∧
      (WorkerPool.isShutdown y.scene.exec.pool = false ∧ none ≠ some (ThreadId.caller 1)) ∧
      (x.scene.exec.backlog ++ f.joining).length = 11 ∧
      WorkerPool.coreSize x.scene.exec.pool = 1 ∧ WorkerPool.coreSize z.scene.exec.pool = 2 ∧
      z.scene.world.coreSizes = x.scene.world.coreSizes ++ [2] := by
  obtain ⟨x, y, v, z, f, replayed, top, enters, fit, enter, top', fit', look, walked, quiet,
      running, long, core⟩ :
      ∃ (x y v z : System (HandPool (Task Unit)) Unit) (f : Frame Unit),
        System.replay adjustable (calls 1 12 (submit "a")
          ++ (List.replicate 10 (calls 1 10 (submit "b"))).flatten ++ calls 1 3 (submit "c"))
          (.idle wideScene) = some x ∧
        x.threads.get (.caller 1) = [f] ∧ f.entersPass = true ∧ adjustable.fit x.scene = true ∧
        x.turn? (.caller 1) = some y ∧ y.threads.get (.caller 1) = [.pass] ∧
        adjustable.fit y.scene = true ∧ y.turn? (.caller 1) = some v ∧
        System.walk? adjustable (.caller 1) 8 v = some z ∧ z.threads.get (.caller 1) = [] ∧
        WorkerPool.isShutdown y.scene.exec.pool = false ∧
        (x.scene.exec.backlog ++ f.joining).length = 11 ∧
        WorkerPool.coreSize x.scene.exec.pool = 1 :=
    ⟨_, _, _, _, _, rfl, rfl, rfl, rfl, rfl, rfl, rfl, rfl, rfl, rfl, rfl, rfl, rfl⟩
  have run := System.replay_reaches .refl replayed
  have pass := ((System.Pass.enter top enters fit enter).look top' fit' look).walk walked
  have gone : ∀ g, z.threads.get (.caller 1) = [g] → g.inPass = false := by
    rw [quiet]
    nofun
  obtain ⟨-, -, passes⟩ := core_size_follows_backlog adjustable_follows wideScene_built run
  obtain ⟨target, changes, due, noted, tuned, -⟩ := passes _ _ _ _ _ pass gone
  obtain ⟨after, set⟩ := tuned ⟨running, nofun⟩
  rw [long] at due
  obtain rfl : target = 2 := due
  rw [core] at set
  obtain rfl : changes = [2] := set
  exact ⟨x, y, z, f, run, pass, gone, ⟨running, nofun⟩, long, core, after, noted⟩

end TwoTier
