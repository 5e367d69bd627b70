import TwoTier.Proofs.Posts
import TwoTier.Service.Pacing

/-!
An executor that settles, and its numbers.

`Shows` says that a `Sheet` has the numbers of an executor with workers. Whatever happens to the
executor while it settles between calls, nobody loses patience and gates are opened sparingly,
happens to the sheet in one step or leaves it alone (`Shows.stride`), so what is `Sheet.Sound` stays
true of all that can come of it.
-/

namespace TwoTier

variable {ν : Type}

/-! ### The pool -/

namespace ThreadPool

/-- A pool that takes jobs, all of whose threads start, and that has refused nothing. -/
structure Serving (config : Config) (p : ThreadPool (Task ν)) : Prop where
  booked : ∃ accepted, p.Booked accepted
  welcoming : p.Welcoming []
  capacity : p.capacity = config.maxQueueSize

namespace Serving

variable {config : Config} {p q : ThreadPool (Task ν)} {number : Nat} {act : WorkerAct} {t : Task ν}
  {r : Except (RejectedJob (Task ν)) Unit}

theorem numbered (h : Serving config p) : Numbered p := h.welcoming.attended.numbered

theorem isOpen (h : Serving config p) : p.senderOpen = true :=
  h.welcoming.attended.sender.mpr h.welcoming.running

theorem not_shutdown (h : Serving config p) : WorkerPool.isShutdown p = false := by
  simp [WorkerPool.isShutdown, isShutdown, h.welcoming.running]

theorem active (h : Serving config p) : p.active = busy p.workers := by
  obtain ⟨accepted, booked⟩ := h.booked
  exact booked.active

theorem setCoreSize (h : Serving config p) (size : Nat)
    (capacity : (p.setCoreSize size).capacity = p.capacity) :
    Serving config (p.setCoreSize size) := by
  obtain ⟨accepted, booked⟩ := h.booked
  exact ⟨⟨accepted, booked.setCoreSize size⟩, h.welcoming.setCoreSize size,
    capacity.trans h.capacity⟩

theorem acts (h : Serving config p) (step : Acts number p act q) :
    Serving config q ∧ q.coreSize = p.coreSize := by
  obtain ⟨accepted, booked⟩ := h.booked
  obtain ⟨-, -, core, -, capacity, -⟩ := step.settings h.numbered h.welcoming.running
  exact ⟨⟨⟨accepted, booked.acts step⟩, h.welcoming.acts step, capacity.trans h.capacity⟩, core⟩

/-- With room in the ready queue, a job joins it, or gets a worker of its own within the core
size. -/
theorem executes (h : Serving config p) (staff : 0 < p.coreSize)
    (room : p.ready.length < config.maxQueueSize) (step : Executes t p r q) :
    r = .ok () ∧ Serving config q ∧
      (p.workers.length < p.coreSize ∧
          q = { p.started (.assigned t) with active := p.active + 1 } ∨
        p.coreSize ≤ p.workers.length ∧ q = { p with ready := p.ready ++ [t] }) := by
  have places : ¬ p.Crowded := by
    have capacity := h.capacity
    rintro (⟨bare, -⟩ | ⟨-, full⟩) <;> omega
  obtain ⟨accepted, booked⟩ := h.booked
  cases step with
  | refused why closed =>
      rcases closed with halted | closed | ⟨crowded, -⟩
      · exact absurd h.welcoming.running halted
      · rw [h.isOpen] at closed
        contradiction
      · exact absurd crowded places
  | unstarted why _ fault =>
      rw [h.welcoming.sound] at fault
      contradiction
  | started running fault below =>
      have step : Executes t p (.ok ()) _ := .started running fault below
      refine ⟨rfl, ⟨⟨_, booked.executes step⟩, h.welcoming.accepts step, h.capacity⟩,
        .inl ⟨?_, rfl⟩⟩
      rcases below with few | ⟨-, crowded, -⟩
      · exact few
      · exact absurd crowded places
  | queued running core isOpen room staffed =>
      have step : Executes t p (.ok ()) _ := .queued running core isOpen room staffed
      exact ⟨rfl, ⟨⟨_, booked.executes step⟩, h.welcoming.accepts step, h.capacity⟩,
        .inr ⟨core, rfl⟩⟩
  | queuedFirst _ core | queuedAlone _ _ core => omega
  | handed _ _ _ _ bare =>
      have capacity := h.capacity
      omega

end Serving

end ThreadPool

/-! ### Passes -/

/-- At most one pass is under way, and it has come so far. -/
structure Followed {σ : Type} (bag : Multiset (Frame ν)) (s : Scene σ ν) (course : Option Course) :
    Prop where
  alone : Exclusive bag s
  free : s.exec.holder = none → course = none
  passing : ∀ f ∈ bag, f.inPass = true → ∃ o, course = some o ∧ f.Passes o

namespace Followed

variable {σ : Type} {bag rest : Multiset (Frame ν)} {me : ThreadId} {f g : Frame ν}
  {new : List (Frame ν)} {s s' : Scene σ ν} {course : Option Course} {o : Course}

theorem congr (h : Followed bag s course) (holder : s'.exec.holder = s.exec.holder) :
    Followed bag s' course := by
  refine ⟨?_, fun free => h.free (holder ▸ free), h.passing⟩
  have alone := h.alone
  unfold Exclusive at alone ⊢
  rwa [holder]

/-- Business outside passes makes no difference. -/
theorem add (h : Followed bag s course) (old : List (Frame ν))
    (outside : ∀ g ∈ old, g.inPass = false) :
    Followed ((old : Multiset (Frame ν)) + bag) s course := by
  refine ⟨?_, h.free, ?_⟩
  · exact Exclusive.congr (s := s) 0 ↑old (by simpa using h.alone) rfl (by simp)
      fun g mem => outside g (Multiset.mem_coe.mp mem)
  · intro g mem inside
    rcases Multiset.mem_add.mp mem with mem | mem
    · rw [outside g (Multiset.mem_coe.mp mem)] at inside
      contradiction
    · exact h.passing g mem inside

theorem remove (h : Followed (f ::ₘ rest) s course) (outside : f.inPass = false) :
    Followed rest s course := by
  refine ⟨?_, h.free, fun g mem => h.passing g (Multiset.mem_cons_of_mem mem)⟩
  have alone := h.alone
  unfold Exclusive at alone ⊢
  rwa [Multiset.countP_cons_of_neg _ (by simpa using outside)] at alone

/-- A pass ends, and nothing is left of it. -/
theorem last (h : Followed (f ::ₘ rest) s course) (inside : f.inPass = true)
    (free : s'.exec.holder = none) : Followed rest s' none := by
  obtain ⟨-, others⟩ := h.alone.alone inside
  refine ⟨.of_no_pass free others, fun _ => rfl, ?_⟩
  intro g mem inside
  rw [others g mem] at inside
  contradiction

theorem pass (h : Followed (f ::ₘ rest) s course) (inside : f.inPass = true)
    (holder : s'.exec.holder = s.exec.holder) (passes : g.Passes o) :
    Followed (g ::ₘ rest) s' (some o) := by
  obtain ⟨held, others⟩ := h.alone.alone inside
  have held : s'.exec.holder ≠ none := holder ▸ held
  refine ⟨.cons_of_inPass held passes.inPass others, fun free => absurd free held, ?_⟩
  intro g' mem inside'
  rcases Multiset.mem_cons.mp mem with rfl | mem
  · exact ⟨o, rfl, passes⟩
  · rw [others g' mem] at inside'
    contradiction

/-- A pass begins. -/
theorem enter (h : Followed (f ::ₘ rest) s course) (free : s.exec.holder = none)
    (held : s'.exec.holder = some me) (passes : g.Passes o) :
    course = none ∧ Followed (g ::ₘ rest) s' (some o) := by
  have others : ∀ g ∈ rest, g.inPass = false :=
    fun g mem => h.alone.no_pass free (Multiset.mem_cons_of_mem mem)
  have held : s'.exec.holder ≠ none := by simp [held]
  refine ⟨h.free free, .cons_of_inPass held passes.inPass others, fun free => absurd free held, ?_⟩
  intro g' mem inside
  rcases Multiset.mem_cons.mp mem with rfl | mem
  · exact ⟨o, rfl, passes⟩
  · rw [others g' mem] at inside
    contradiction

end Followed

/-! ### An executor and its sheet -/

/-- The sheet has the executor's numbers, and the tasks that wait submit nothing. -/
structure Scene.Shows (config : Config) (s : Scene (ThreadPool (Task ν)) ν) (x : Sheet) : Prop where
  settings : s.exec.config = config
  main : s.exec.mainThread = none
  alive : s.alive = true
  serving : s.exec.pool.Serving config
  core : x.core = s.exec.pool.coreSize
  backlog : x.backlog = s.exec.backlog.length
  ready : x.ready = s.exec.pool.ready.length
  waiting : ∀ t ∈ s.exec.backlog, t.Plain
  queued : ∀ t ∈ s.exec.pool.ready, t.Plain

namespace Scene.Shows

variable {config : Config} {s s' : Scene (ThreadPool (Task ν)) ν} {x x' : Sheet}

theorem congr (h : s.Shows config x) (core : x'.core = x.core) (backlog : x'.backlog = x.backlog)
    (ready : x'.ready = x.ready) : s.Shows config x' :=
  { h with
    core := core.trans h.core
    backlog := backlog.trans h.backlog
    ready := ready.trans h.ready }

theorem of_keeps (h : s.Shows config x) (keeps : Scene.Keeps s s') : s'.Shows config x where
  settings := keeps.config.trans h.settings
  main := keeps.mainThread.trans h.main
  alive := keeps.alive.trans h.alive
  serving := keeps.pool ▸ h.serving
  core := keeps.pool ▸ h.core
  backlog := keeps.backlog ▸ h.backlog
  ready := keeps.pool ▸ h.ready
  waiting := keeps.backlog ▸ h.waiting
  queued := keeps.pool ▸ h.queued

/-- The pool changes, but for the core size and the ready queue. -/
theorem withPool {pool : ThreadPool (Task ν)} (h : s.Shows config x) (serving : pool.Serving config)
    (core : pool.coreSize = s.exec.pool.coreSize) (ready : pool.ready = s.exec.pool.ready) :
    Scene.Shows config { s with exec := { s.exec with pool } } x :=
  { h with
    serving := serving
    core := h.core.trans core.symm
    ready := h.ready.trans (congrArg List.length ready.symm)
    queued := fun t mem => h.queued t (ready ▸ mem) }

end Scene.Shows

namespace Service

/-- The sheet says how the executor, its threads and their passes stand. -/
structure Shows (config : Config) (y : Service ν) (x : Sheet) : Prop where
  scene : y.scene.Shows config x
  followed : Followed y.bag y.scene x.course
  posted : Posted y.scene.world.openGates y.scene.exec.pool.workers y.threads x.crew x.call

namespace Shows

variable {config : Config} {y z : Service ν} {x : Sheet} {t : ThreadId} {f g : Frame ν}
  {new rest : List (Frame ν)} {s : Scene (ThreadPool (Task ν)) ν} {o : Course}

/-- A pass has gone on, and a sheet says how. -/
def Passed (config : Config) (y : Service ν) (x : Sheet) (t : ThreadId) (g : Frame ν)
    (rest : List (Frame ν)) (s : Scene (ThreadPool (Task ν)) ν) : Prop :=
  ∃ x' o, (x' = x ∨ Sheet.Step config x x') ∧ g.Passes o ∧ x'.course = some o ∧ s.Shows config x' ∧
    Posted s.world.openGates s.exec.pool.workers (y.threads.set t (g :: rest)) x'.crew x'.call

/-- A pass goes on with a frame that has not decided either. -/
theorem onward (shows : Shows config y x) (top : y.threads.get t = f :: rest) (before : f.Passes o)
    {o' : Course} (after : g.Passes o') (undecided : g.undecided = f.undecided) :
    Posted y.scene.world.openGates y.scene.exec.pool.workers (y.threads.set t (g :: rest))
      x.crew x.call :=
  shows.posted.passes rfl shows.scene.serving.numbered top before after undecided

/-- A pass compares the core size with what the backlog calls for. -/
theorem retune {active queued : Nat} (shows : Shows config y x)
    (top : y.threads.get t = .retune active queued :: rest)
    (course : x.course = some (.read active queued))
    (step : Scene.PassStep t y.scene (.retune active queued) g s) :
    Passed config y x t g rest s := by
  have scene := shows.scene
  have keeps := Scene.keeps_retune active queued y.scene
  have target : tunedCoreSize y.scene.exec.backlog.length y.scene.exec.config
      = tunedCoreSize x.backlog config := by
    rw [scene.settings, scene.backlog]
  cases step with
  | tuned _ _ same =>
      rw [target] at same ⊢
      have same : x.core = tunedCoreSize x.backlog config := scene.core.trans same
      refine ⟨_, _, .inr (.keep active queued course same), .decide _ _ _, rfl,
        (scene.of_keeps keeps).congr rfl rfl rfl, ?_⟩
      rw [keeps.gates, keeps.pool]
      exact shows.onward top (.retune _ _) (.decide _ _ _) rfl
  | untuned =>
      rw [target]
      refine ⟨_, _, .inr (.tune active queued course), .setCore _ _ _, rfl,
        (scene.of_keeps keeps).congr rfl rfl rfl, ?_⟩
      rw [keeps.gates, keeps.pool]
      exact shows.onward top (.retune _ _) (.setCore _ _ _) rfl
  | empty _ head | takeHead _ head => cases head

/-- A pass sets the core size, and workers may start. -/
theorem setCore {active queued target : Nat} (shows : Shows config y x)
    (top : y.threads.get t = .setCore active queued target :: rest)
    (course : x.course = some (.tuning active queued target))
    (step : Scene.PassStep t y.scene (.setCore active queued target) g s) :
    Passed config y x t g rest s := by
  have scene := shows.scene
  have decides := shows.onward top (.setCore _ _ _) (.decide active queued target) rfl
  cases step with
  | setCore =>
      obtain ⟨core, ready, capacity, new, within, posted⟩ := Posted.setCoreSize
        scene.serving.numbered scene.serving.welcoming.sound decides target
      refine ⟨_, _, .inr (.setCore active queued target new course within), .decide _ _ _, rfl,
        { scene with
          serving := scene.serving.setCoreSize target capacity
          core := core.symm
          ready := scene.ready.trans (congrArg List.length ready.symm)
          queued := ?_ }, posted⟩
      intro t mem
      exact scene.queued t (ready ▸ mem)
  | empty _ head | takeHead _ head => cases head

/-- A pass takes the head of the backlog, or lets it be. -/
theorem decides {active queued target : Nat} (shows : Shows config y x) (sound : x.Sound config)
    (top : y.threads.get t = .decide active queued target :: rest)
    (course : x.course = some (.tuned active queued target))
    (step : Scene.PassStep t y.scene (.decide active queued target) g s) :
    Passed config y x t g rest s := by
  have scene := shows.scene
  obtain ⟨x', decides, posted⟩ :=
    shows.posted.decides rfl scene.serving.numbered top (.decide _ _ _) rfl
  have decided := sound.decided decides
  cases step with
  | closed _ _ _ shut =>
      rw [scene.settings] at shut
      exact ⟨_, _, .inr (.close active queued target course shut decides), .leave, rfl,
        scene.congr decided.core decided.backlog decided.ready, posted⟩
  | empty none head =>
      cases head with
      | decide =>
          have none : x.backlog = 0 := scene.backlog.trans (congrArg List.length none)
          exact ⟨_, _, .inr (.empty active queued target course none decides), .leave, rfl,
            scene.congr decided.core decided.backlog decided.ready, posted⟩
  | @takeHead _ _ _ tasks j waits head =>
      cases head with
      | decide room free =>
          have length : x.backlog = tasks.length + 1 :=
            scene.backlog.trans (congrArg List.length waits)
          have plain : j.Plain := scene.waiting j (waits ▸ List.mem_cons_self)
          refine ⟨_, _, .inr (.takeHead active queued target course free length),
            .handOver plain, rfl, { scene with backlog := rfl, waiting := ?_ },
            shows.onward top (.decide _ _ _) (.handOver plain) rfl⟩
          intro i mem
          exact scene.waiting i (waits ▸ List.mem_cons_of_mem _ mem)

/-- The pool takes the head, which joins the ready queue or gets a worker of its own. -/
theorem offers {j : Task ν} (shows : Shows config y x) (sound : x.Sound config) (plain : j.Plain)
    (top : y.threads.get t = .offer j false [] :: rest) (course : x.course = some .inHand)
    (step : Scene.PassStep t y.scene (.offer j false []) g s) : Passed config y x t g rest s := by
  have scene := shows.scene
  have numbered := scene.serving.numbered
  obtain ⟨x', decides, posted⟩ := shows.posted.decides rfl numbered top (.offer plain) rfl
  have decided := sound.decided decides
  have staff : 0 < y.scene.exec.pool.coreSize := scene.core ▸ sound.core.1
  have room : y.scene.exec.pool.ready.length < config.maxQueueSize := by
    have tokens := sound.tokens
    have now := sound.course
    rw [course] at now
    have passing := now.2.1
    rw [← scene.ready]
    omega
  cases step with
  | accepted _ _ _ answer =>
      obtain ⟨r, exec, -⟩ := ThreadPool.executes_of_offer answer
      obtain ⟨-, serving, ⟨below, rfl⟩ | ⟨core, rfl⟩⟩ := scene.serving.executes staff room exec
      · have below : x.crew.card < x.core := by
          rw [shows.posted.card, scene.core]
          exact below
        have holds := station_of_active y.scene.world.openGates []
          (show (Phase.assigned j).active = true from rfl)
        exact ⟨_, _, .inr (.start course below decides holds), .leave, rfl,
          { scene with
            serving := serving
            core := decided.core.trans scene.core
            backlog := decided.backlog.trans scene.backlog
            ready := decided.ready.trans scene.ready },
          posted.start numbered.fresh (.assigned plain)⟩
      · have core : x.core ≤ x.crew.card := by
          rw [shows.posted.card, scene.core]
          exact core
        refine ⟨_, _, .inr (.queue course core decides), .leave, rfl,
          { scene with
            serving := serving
            core := decided.core.trans scene.core
            backlog := decided.backlog.trans scene.backlog
            ready := ?_
            queued := ?_ }, posted⟩
        · simp [scene.ready]
        · intro i mem
          rcases List.mem_append.mp mem with mem | mem
          · exact scene.queued i mem
          · exact List.mem_singleton.mp mem ▸ plain
  | turnedDown _ _ _ answer =>
      obtain ⟨r, exec, refused⟩ := ThreadPool.executes_of_offer answer
      obtain ⟨rfl, -⟩ := scene.serving.executes staff room exec
      contradiction
  | empty _ head | takeHead _ head => cases head

/-- A pass goes on. -/
theorem pass (shows : Shows config y x) (sound : x.Sound config)
    (top : y.threads.get t = f :: rest) (passes : f.Passes o) (course : x.course = some o)
    (step : Scene.PassStep t y.scene f g s) : Passed config y x t g rest s := by
  have scene := shows.scene
  cases passes with
  | pass =>
      cases step with
      | shut shut =>
          rw [scene.serving.not_shutdown] at shut
          contradiction
      | main _ main =>
          rw [scene.main] at main
          contradiction
      | gated =>
          exact ⟨x, .begun, .inl rfl, .readActive, course, scene,
            shows.onward top .pass .readActive rfl⟩
      | empty _ head | takeHead _ head => cases head
  | readActive =>
      cases step with
      | readActive =>
          obtain ⟨least, most⟩ := shows.posted.active
          rw [← scene.serving.active] at least most
          exact ⟨_, _, .inr (.count _ course least most), .readQueued _, rfl,
            scene.congr rfl rfl rfl, shows.onward top .readActive (.readQueued _) rfl⟩
      | empty _ head | takeHead _ head => cases head
  | readQueued active =>
      cases step with
      | readQueued =>
          have posted := shows.onward top (.readQueued active) (.retune active x.ready) rfl
          rw [scene.ready] at posted
          refine ⟨_, _, .inr (.read active course), ?_, rfl, scene.congr rfl rfl rfl, posted⟩
          rw [scene.ready]
          exact .retune _ _
      | empty _ head | takeHead _ head => cases head
  | retune active queued => exact shows.retune top course step
  | setCore active queued target => exact shows.setCore top course step
  | decide active queued target => exact shows.decides sound top course step
  | @handOver j plain =>
      cases step with
      | mark =>
          have keeps := Scene.keeps_marked j y.scene
          have plain' : (y.scene.enterFlight j).1.Plain := by
            obtain ⟨c, closure, plain⟩ := plain
            exact ⟨c, (Scene.enterFlight_closure j y.scene).trans closure, plain⟩
          refine ⟨x, _, .inl rfl, .offer plain', course, scene.of_keeps keeps, ?_⟩
          rw [keeps.gates, keeps.pool]
          exact shows.onward top (.handOver plain) (.offer plain') rfl
      | empty _ head | takeHead _ head => cases head
  | offer plain => exact shows.offers sound plain top course step
  | leave =>
      cases step with
      | empty _ head | takeHead _ head => cases head

/-- A pass begins. -/
theorem enter (shows : Shows config y x) (top : y.threads.get t = f :: rest)
    (course : x.course = none) (step : Scene.EnterStep t y.scene f s) :
    Passed config y x t .pass rest s := by
  have scene := shows.scene
  cases step with
  | push j =>
      obtain ⟨plain, one, posted⟩ := shows.posted.pushes top
      refine ⟨_, _, .inr (.push course one), .pass, rfl,
        { scene with backlog := ?_, waiting := ?_ }, posted⟩
      · simp [Buffer.push, Buffer.lock, scene.backlog]
      · intro i mem
        rcases List.mem_append.mp mem with mem | mem
        · exact scene.waiting i mem
        · exact List.mem_singleton.mp mem ▸ plain
  | resume =>
      obtain ⟨due, posted⟩ := shows.posted.enters rfl scene.serving.numbered top
      exact ⟨_, _, .inr (.resume course due), .pass, rfl, { scene with }, posted⟩
  | shutting =>
      have calm := shows.posted.calm top
      contradiction

/-- A thread takes a step. -/
theorem turn (shows : Shows config y x) (sound : x.Sound config) (turn : y.turn? t = some z) :
    ∃ x', (x' = x ∨ Sheet.Step config x x') ∧ Shows config z x' := by
  obtain ⟨f, new, rest, top, step, threads, before, after⟩ := System.turn_stack turn
  obtain ⟨s, k⟩ := z
  obtain rfl : k = y.threads.set t (new ++ rest) := threads
  have scene := shows.scene
  have numbered := scene.serving.numbered
  have followed := shows.followed
  rw [before] at followed
  have gates := Scene.step_gates step
  cases inside : f.inPass with
  | true =>
      obtain ⟨o, course, passes⟩ := followed.passing f (Multiset.mem_cons_self _ _) inside
      rcases Scene.step_pass inside step with ⟨g, rfl, pass⟩ | ⟨refused, rfl, rfl, rfl⟩
      · obtain ⟨x', o', goes, passes', course', scene', posted⟩ :=
          shows.pass sound top passes course pass
        refine ⟨x', goes, scene', ?_, posted⟩
        rw [after, course']
        exact followed.pass inside pass.holder passes'
      · cases passes
        refine ⟨_, .inr (.leave course), { scene with }, ?_, shows.posted.leaves rfl numbered top⟩
        rw [after]
        simpa using followed.last inside rfl
  | false =>
      cases waits : f.entersPass with
      | true =>
          obtain ⟨free, rfl, enter⟩ := Scene.step_enter waits step
          obtain ⟨none, followed⟩ := followed.enter free enter.holder .pass
          obtain ⟨x', o, goes, passes, course, scene, posted⟩ := shows.enter top none enter
          refine ⟨x', goes, scene, ?_, posted⟩
          rw [after, course]
          cases passes
          exact followed
      | false =>
          cases Scene.step_outside inside waits step with
          | quiet quiet =>
              have keeps := quiet.keeps
              refine ⟨x, .inl rfl, scene.of_keeps keeps, ?_, ?_⟩
              · rw [after]
                refine ((followed.remove inside).add new fun g mem => (quiet.calm g mem).1).congr ?_
                exact keeps.holder
              · change Posted s.world.openGates s.exec.pool.workers _ _ _
                rw [gates, keeps.pool]
                refine shows.posted.quiet rfl numbered top quiet scene.alive
                  scene.serving.not_shutdown ?_
                rintro c rfl
                rw [Closure.barred_eq, Scene.step_atGate step]
                rfl
          | shutdown | withdraw | stop =>
              have calm := shows.posted.calm top
              contradiction

section Acts

variable {number : Nat} {act : WorkerAct} {pool : ThreadPool (Task ν)}
  {phase phase' : Phase (Task ν)} {others : List (Worker (Task ν))}

/-- A worker goes on to another phase. -/
theorem moves (shows : Shows config y x) (serving : pool.Serving config)
    (core : pool.coreSize = y.scene.exec.pool.coreSize)
    (ready : pool.ready = y.scene.exec.pool.ready)
    (seat : ThreadPool.Seat y.scene.exec.pool.workers number phase others)
    (seat' : ThreadPool.Seat pool.workers number phase' others)
    (idle : y.threads.get (.worker number) = []) (seemly : Seemly phase' []) :
    ∃ rest, x.crew = station y.scene.world.openGates phase [] ::ₘ rest ∧
      Shows config (withPool pool y)
        { x with crew := station y.scene.world.openGates phase' [] ::ₘ rest } := by
  obtain ⟨rest, split, posted⟩ := shows.posted.moves seat seat' idle seemly
  exact ⟨rest, split, (shows.scene.withPool serving core ready).congr rfl rfl rfl,
    shows.followed.congr rfl, posted⟩

/-- A worker goes on to another phase, with a job to run or to complete. -/
theorem assign (shows : Shows config y x) (serving : pool.Serving config)
    (core : pool.coreSize = y.scene.exec.pool.coreSize)
    (ready : pool.ready = y.scene.exec.pool.ready)
    (seat : ThreadPool.Seat y.scene.exec.pool.workers number phase others)
    (seat' : ThreadPool.Seat pool.workers number phase' others)
    (idle : y.threads.get (.worker number) = []) {job : Task ν} {acts : List JobAct}
    (seemly : Seemly phase' [.job job acts]) :
    ∃ rest, x.crew = station y.scene.world.openGates phase [] ::ₘ rest ∧
      Shows config ((withPool pool y).assign (.worker number) [.job job acts])
        { x with crew := station y.scene.world.openGates phase' [.job job acts] ::ₘ rest } := by
  obtain ⟨rest, split, posted⟩ := shows.posted.assign seat seat' idle seemly
  refine ⟨rest, split, (shows.scene.withPool serving core ready).congr rfl rfl rfl, ?_, posted⟩
  change Followed ((y.threads.set _ _).frames : Multiset (Frame ν)) _ _
  rw [System.bag_assign idle]
  exact (shows.followed.add [.job job acts] (by simp [Frame.inPass])).congr rfl

/-- An act that gives its worker no business. Keep-alives do not run out during a call. -/
theorem acts (shows : Shows config y x) (idle : y.threads.get (.worker number) = [])
    (patient : act = .timeOut → ∀ n, y.threads.get (.caller n) = [])
    (plain : act ≠ .begin ∧ act ≠ .count ∧ act ≠ .endRun)
    (step : ThreadPool.Acts number y.scene.exec.pool act pool) :
    ∃ x', (x' = x ∨ Sheet.Step config x x') ∧ Shows config (withPool pool y) x' := by
  have scene := shows.scene
  have running := scene.serving.welcoming.running
  obtain ⟨serving, core⟩ := scene.serving.acts step
  cases step with
  | begin | count | endRun => simp at plain
  | halt _ _ stopped =>
      rw [running] at stopped
      contradiction
  | settle found =>
      obtain ⟨others, seat⟩ := scene.serving.numbered.seat_of_phase? found
      obtain ⟨rest, split, after⟩ :=
        shows.moves serving core rfl seat seat.beginWaiting idle .waiting
      exact ⟨_, .inl (congrArg (fun crew => { x with crew }) split.symm), after⟩
  | @receive job jobs found ready =>
      obtain ⟨others, seat⟩ := scene.serving.numbered.seat_of_phase? found
      have plain : job.Plain := scene.queued job (ready ▸ List.mem_cons_self)
      obtain ⟨rest, split, posted⟩ :=
        shows.posted.moves seat (seat.setPhase (.received job) rfl) idle (.received plain)
      have length : x.ready = jobs.length + 1 := scene.ready.trans (congrArg List.length ready)
      have holds := station_received y.scene.world.openGates job []
      exact ⟨_, .inr (.receive split length holds),
        { scene with
          serving := serving
          core := scene.core.trans core.symm
          ready := rfl
          queued := fun t mem => scene.queued t (ready ▸ List.mem_cons_of_mem _ mem) },
        shows.followed.congr rfl, posted⟩
  | endCompletion found =>
      obtain ⟨others, seat⟩ := scene.serving.numbered.seat_of_phase? found
      obtain ⟨rest, split, after⟩ := shows.moves serving core rfl seat (seat.setPhase _ rfl) idle
        .checking
      exact ⟨_, .inr (.finish split), after⟩
  | timeOut found empty =>
      obtain ⟨others, seat⟩ := scene.serving.numbered.seat_of_phase? found
      obtain ⟨rest, split, after⟩ := shows.moves serving core rfl seat (seat.setPhase _ rfl) idle
        .timedOut
      have nothing : x.ready = 0 := scene.ready.trans (congrArg List.length empty)
      exact ⟨_, .inr (.timeOut split nothing (shows.posted.uncalled (patient rfl))), after⟩
  | expire found =>
      obtain ⟨others, seat⟩ := scene.serving.numbered.seat_of_phase? found
      obtain ⟨rest, split, posted⟩ := shows.posted.retire seat seat.retire idle
      have ready : (y.scene.exec.pool.retire number).ready = y.scene.exec.pool.ready := by
        rw [ThreadPool.retire_of_running running]
      exact ⟨_, .inr (.retire split), (scene.withPool serving core ready).congr rfl rfl rfl,
        shows.followed.congr rfl, posted⟩
  | stay found =>
      obtain ⟨others, seat⟩ := scene.serving.numbered.seat_of_phase? found
      obtain ⟨rest, split, after⟩ := shows.moves serving core rfl seat (seat.setPhase _ rfl) idle
        .checking
      exact ⟨_, .inr (.stay split), after⟩
  | notice _ _ closed =>
      rw [scene.serving.isOpen] at closed
      contradiction
  | leave found =>
      obtain ⟨others, seat⟩ := scene.serving.numbered.seat_of_phase? found
      -- no worker of a pool that takes jobs has been sent away
      have seemly := shows.posted.seated seat
      rw [idle] at seemly
      cases seemly

/-- A worker does an act on the pool. Keep-alives do not run out during a call. -/
theorem work (shows : Shows config y x)
    (patient : act = .timeOut → ∀ n, y.threads.get (.caller n) = [])
    (did : act? number act y = some z) :
    ∃ x', (x' = x ∨ Sheet.Step config x x') ∧ Shows config z x' := by
  obtain ⟨idle, acted⟩ := acted did
  have scene := shows.scene
  obtain ⟨serving, core⟩ := scene.serving.acts acted.pool.2
  clear did
  -- Which task begins is nothing to the sheet.
  generalize (y.pool.begins? number act).toList = more at acted
  cases acted with
  | @begin job pool found did =>
      cases ThreadPool.acts did with
      | begin same =>
          obtain ⟨⟩ := found.symm.trans same
          obtain ⟨others, seat⟩ := scene.serving.numbered.seat_of_phase? found
          have plain : job.Plain := Seemly.plain (.inl (shows.posted.seated seat))
          obtain ⟨rest, split, after⟩ :=
            shows.assign serving core rfl seat (seat.setPhase _ rfl) idle (.begins plain)
          rw [station_begins] at after
          exact ⟨_, .inl (congrArg (fun crew => { x with crew }) split.symm), after⟩
  | @count job pool found did =>
      cases ThreadPool.acts did with
      | count same =>
          obtain ⟨⟩ := found.symm.trans same
          obtain ⟨others, seat⟩ := scene.serving.numbered.seat_of_phase? found
          have plain : job.Plain := Seemly.plain (.inr (shows.posted.seated seat))
          obtain ⟨rest, split, after⟩ :=
            shows.assign serving core rfl seat (seat.setPhase _ rfl) idle (.begins plain)
          rw [station_begins] at after
          cases barred : job.barred y.scene.world.openGates with
          | true =>
              simp only [station, barred, if_true] at split after
              exact ⟨_, .inr (.begin split), after⟩
          | false =>
              simp only [station, barred, Bool.false_eq_true, if_false] at split after
              exact ⟨_, .inl (congrArg (fun crew => { x with crew }) split.symm), after⟩
  | @endRun job pool found did =>
      cases ThreadPool.acts did with
      | endRun same =>
          obtain ⟨⟩ := found.symm.trans same
          obtain ⟨others, seat⟩ := scene.serving.numbered.seat_of_phase? found
          have spent : Seemly (.completing job) [.job { job with closure := none } [.complete]] :=
            .completes rfl
          obtain ⟨rest, split, after⟩ :=
            shows.assign serving core rfl seat (seat.setPhase _ rfl) idle spent
          exact ⟨_, .inr (.ran split), after⟩
  | other plain did => exact shows.acts idle patient plain (ThreadPool.acts did)

end Acts

end Shows

end Service

end TwoTier
