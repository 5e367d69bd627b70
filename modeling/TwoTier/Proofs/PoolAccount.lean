import TwoTier.Proofs.Closing
import TwoTier.Proofs.Custody
import TwoTier.Proofs.Ledger
import TwoTier.Proofs.PoolLine

/-!
The pool of an executor and the executor's journal.

What the executor notes about its offers and what has become of the pool belong together: a relation
between the two that every offer, every call and every act of a worker keeps is kept by all runs
that nobody stops (`offers_outline`).

Two such relations are followed here. The jobs in the pool's account are the tasks that the journal
has as accepted (`Booked`). And as long as submissions come only, all threads start and the workers
have not outnumbered the pool's bound, the pool refuses nothing (`Welcoming`).
-/

namespace TwoTier

variable {ν : Type} {calls : Call ν → Prop}

/-- What an offer comes to. -/
theorem ThreadPool.executes_of_offer {t : Task ν} {p q : ThreadPool (Task ν)}
    {answer : Option Error} (h : WorkerPool.offer t p = (answer, q)) :
    ∃ r, Executes t p r q ∧ answer = refusal r := by
  have h : (refusal (p.execute t).1, (p.execute t).2) = (answer, q) := h
  have exec := executed t p
  generalize p.execute t = result at h exec
  obtain ⟨rfl, rfl⟩ := Prod.mk.inj h
  exact ⟨result.1, exec, rfl⟩

/-- A relation between the pool and the offers noted so far, in runs without stops. -/
theorem offers_outline {known : Multiset (Frame ν) → Scene (ThreadPool (Task ν)) ν → Prop}
    {R : ThreadPool (Task ν) → List TaskId → List TaskId → Prop}
    (unstopped : ∀ {bag s}, known bag s → ∀ f ∈ bag, f.halts = false)
    (accepts : ∀ {p q a r} {t : Task ν}, R p a r → ThreadPool.Executes t p (.ok ()) q →
      R q (a ++ [t.id]) r)
    (refuses : ∀ {p q a r why} {t : Task ν}, R p a r → ThreadPool.Executes t p (.error why) q →
      R q a (r ++ [t.id]))
    (setCoreSize : ∀ {p a r} size, R p a r → R (p.setCoreSize size) a r)
    (shutdown : ∀ {rest s a r}, known (.shutdown ::ₘ rest) s → R s.exec.pool a r →
      R s.exec.pool.shutdown a r)
    (acts : ∀ {p q a r number act}, R p a r → ThreadPool.Acts number p act q → R q a r) :
    Outline (Service.rules calls) known fun _ _ s =>
      R s.exec.pool s.world.accepted s.world.refused where
  enter {me f rest s s'} _ _ step inv := by
    cases step with
    | push t => simpa [Buffer.push, Buffer.lock] using inv
    | resume => exact inv
    | shutting => simpa [Buffer.lock] using inv
  pass {me f g rest s s'} _ _ step inv := by
    cases step with
    | tuned active queued | untuned active queued =>
        have keeps := Scene.keeps_retune active queued s
        rw [keeps.pool, keeps.accepted, World.refused, keeps.offers]
        exact inv
    | mark t =>
        have keeps := Scene.keeps_marked t s
        rw [keeps.pool, keeps.accepted, World.refused, keeps.offers]
        exact inv
    | setCore active queued target =>
        simpa [WorkerPool.setCoreSize] using setCoreSize target inv
    | accepted t draining refused answer =>
        obtain ⟨result, exec, taken⟩ := ThreadPool.executes_of_offer answer
        cases result with
        | ok => simpa using accepts inv exec
        | error why => contradiction
    | turnedDown t draining refused answer =>
        obtain ⟨result, exec, turned⟩ := ThreadPool.executes_of_offer answer
        cases result with
        | ok => contradiction
        | error why => simpa using refuses inv exec
    | _ => exact inv
  leave _ _ inv := inv
  quiet {o me f new rest s s'} _ _ step inv := by
    have keeps := step.keeps
    rw [keeps.pool, keeps.accepted, World.refused, keeps.offers]
    exact inv
  shutdown _ known inv := shutdown known inv
  withdraw _ known _ _ := by
    have never := unstopped known _ (Multiset.mem_cons_self _ _)
    contradiction
  stop _ known _ _ := by
    have never := unstopped known _ (Multiset.mem_cons_self _ _)
    contradiction
  call _ _ inv := inv
  finish _ yields _ inv := by
    obtain ⟨number, act, did⟩ := yields
    exact acts inv (ThreadPool.acts did)
  finishReturned _ _ _ inv := inv
  pool moves _ inv := by
    obtain ⟨number, act, did⟩ := moves
    exact acts inv (ThreadPool.acts did)

namespace ThreadPool

/-! ### The account -/

/-- The accepted tasks are those that the pool accounts for, and nothing was handed back. -/
structure Booked (p : ThreadPool (Task ν)) (accepted : List TaskId) : Prop where
  free : p.stopping = none
  account : ∃ deeds, Balanced deeds p ∧ (Deed.acceptances deeds).map Task.id = accepted ∧
    Deed.returns deeds = []

namespace Booked

variable {p q : ThreadPool (Task ν)} {accepted : List TaskId}

theorem active (h : Booked p accepted) : p.active = busy p.workers := by
  obtain ⟨deeds, balanced, -⟩ := h.account
  exact balanced.active

theorem numbered (h : Booked p accepted) : Numbered p := by
  obtain ⟨deeds, balanced, -⟩ := h.account
  exact balanced.numbered

/-- A pool that has terminated has completed all it accepted. -/
theorem completed (h : Booked p accepted) (ended : p.runState = .terminated) :
    p.workers = [] ∧ p.ready = [] ∧ p.completed = accepted.length := by
  obtain ⟨deeds, balanced, rfl, returned⟩ := h.account
  obtain ⟨none, empty, stop⟩ := balanced.atEnd ended
  have jobs := congrArg Multiset.card balanced.jobs
  have counted := balanced.completed
  rw [none] at counted jobs
  simp [empty, stop, returned, held] at jobs
  refine ⟨none, empty, ?_⟩
  rw [counted, List.length_map, jobs]
  rfl

theorem executes {t : Task ν} {r : Except (RejectedJob (Task ν)) Unit} (h : Booked p accepted)
    (step : Executes t p r q) :
    Booked q (match r with | .ok () => accepted ++ [t.id] | .error _ => accepted) := by
  obtain ⟨deeds, balanced, rfl, returned⟩ := h.account
  refine ⟨step.stopping.trans h.free, _, balanced.executes step, ?_, ?_⟩
  · cases r <;> simp
  · cases r <;> simp [returned]

theorem setCoreSize (size : Nat) (h : Booked p accepted) :
    Booked (p.setCoreSize size) accepted := by
  obtain ⟨deeds, balanced, ids, returned⟩ := h.account
  exact ⟨(stopping_setCoreSize size p).trans h.free, deeds, balanced.setCoreSize size, ids,
    returned⟩

theorem shutdown (h : Booked p accepted) : Booked p.shutdown accepted := by
  obtain ⟨deeds, balanced, ids, returned⟩ := h.account
  exact ⟨(stopping_shutdown p).trans h.free, deeds, balanced.shutdown h.free, ids, returned⟩

theorem acts {number : Nat} {act : WorkerAct} (h : Booked p accepted)
    (step : Acts number p act q) : Booked q accepted := by
  obtain ⟨deeds, balanced, rfl, returned⟩ := h.account
  refine ⟨step.stopping.trans h.free, ?_⟩
  by_cases ends : act = .endCompletion
  · subst ends
    cases step with
    | endCompletion found => exact ⟨_, balanced.finishes found, by simp, by simp [returned]⟩
  · exact ⟨_, balanced.acts step ends, by simp, by simp [returned]⟩

end Booked

/-! ### A pool that refuses nothing -/

/-- A pool that takes jobs, all of whose threads start, and that has refused nothing unless its
workers have outnumbered its bound. -/
structure Welcoming (p : ThreadPool (Task ν)) (refused : List TaskId) : Prop where
  attended : Attended p
  running : p.runState = .running
  sound : ∀ n, p.startFault n = none
  most : p.maxSize = wordMax
  crew : p.workers.length ≤ p.largestWorkers
  refused : p.largestWorkers < wordMax → refused = []

namespace Welcoming

variable {p q : ThreadPool (Task ν)} {refused : List TaskId}

theorem acts {number : Nat} {act : WorkerAct} (h : Welcoming p refused)
    (step : Acts number p act q) : Welcoming q refused := by
  obtain ⟨running, faults, -, most, -, largest, -, crew⟩ :=
    step.settings h.attended.numbered h.running
  refine ⟨h.attended.acts step, running.trans h.running, fun n => faults ▸ h.sound n,
    most.trans h.most, ?_, ?_⟩
  · rw [largest]
    exact Nat.le_trans crew h.crew
  · rw [largest]
    exact h.refused

theorem accepts {t : Task ν} (h : Welcoming p refused) (step : Executes t p (.ok ()) q) :
    Welcoming q refused := by
  have attended := h.attended.executes step
  have earlier (few : q.largestWorkers < wordMax) : p.largestWorkers < wordMax :=
    Nat.lt_of_le_of_lt step.largest_le few
  cases step with
  | started | queuedFirst =>
      refine ⟨attended, h.running, h.sound, h.most, ?_, fun few => h.refused (earlier few)⟩
      change (p.workers ++ [_]).length ≤ max p.largestWorkers (p.workers.length + 1)
      rw [List.length_append]
      exact Nat.le_max_right _ _
  | queued => exact ⟨attended, h.running, h.sound, h.most, h.crew, h.refused⟩
  | queuedAlone why _ _ _ _ _ fault =>
      have fault : p.startFault (p.attempts + 1) = some why := fault
      rw [h.sound] at fault
      contradiction
  | handed =>
      refine ⟨attended, h.running, h.sound, h.most, ?_, h.refused⟩
      simpa [setPhase] using h.crew

/-- Only a pool with as many workers as its bound allows refuses a job. -/
theorem refuses {t : Task ν} {why : RejectedJob (Task ν)} (h : Welcoming p refused)
    (step : Executes t p (.error why) q) (more : List TaskId) : Welcoming q more := by
  cases step with
  | refused why closed =>
      refine ⟨h.attended, h.running, h.sound, h.most, h.crew, fun few => ?_⟩
      rcases closed with halted | closed | ⟨-, most⟩
      · exact absurd h.running halted
      · rw [h.attended.sender.mpr h.running] at closed
        contradiction
      · rw [h.most] at most
        exact absurd (Nat.lt_of_lt_of_le few most) (Nat.not_lt.mpr h.crew)
  | unstarted why _ fault =>
      rw [h.sound] at fault
      contradiction

theorem setCoreSize (size : Nat) (h : Welcoming p refused) :
    Welcoming (p.setCoreSize size) refused := by
  obtain ⟨running, sound, most, crew, refused⟩ := setCoreSize_of size p
    (P := fun q => q.runState = .running ∧ (∀ n, q.startFault n = none) ∧ q.maxSize = wordMax ∧
      q.workers.length ≤ q.largestWorkers ∧ (q.largestWorkers < wordMax → refused = []))
    (fun _ => ⟨h.running, h.sound, h.most, h.crew, h.refused⟩)
    (fun _ => ⟨h.running, h.sound, h.most, h.crew, h.refused⟩)
    (by
      rintro q ⟨running, sound, most, crew, refused⟩ - - -
      refine ⟨running, sound, most, ?_, fun few => refused ?_⟩
      · change (q.workers ++ [_]).length ≤ max q.largestWorkers (q.workers.length + 1)
        rw [List.length_append]
        exact Nat.le_max_right _ _
      · exact Nat.lt_of_le_of_lt (Nat.le_max_left _ _) few)
    (by
      rintro q why ⟨-, sound, -⟩ fault
      rw [sound] at fault
      contradiction)
  exact ⟨h.attended.setCoreSize size, running, sound, most, crew, refused⟩

theorem ofConfig (config : Config) : Welcoming (ofConfig (J := Task ν) config) [] where
  attended := attended_opened config.coreSize wordMax config.keepAlive config.maxQueueSize
    config.threadName fun _ => none
  running := rfl
  sound _ := rfl
  most := show max wordMax 1 = wordMax by decide
  crew := Nat.le_refl _
  refused _ := rfl

end Welcoming

end ThreadPool

/-! ### In all runs -/

namespace Service

variable {config : Config} {main : Option ThreadId} {begun : List (Task ν)} {y₀ y : Service ν}

/-- Nobody stops an executor that is only submitted to and shut down. -/
theorem unstopped_runs (made : make? config main = some (.ok y₀))
    (run : Runs (fun c => c.frame.halts = false) y₀ begun y) : Unstopped y.bag y.scene := by
  obtain ⟨-, s, built, rfl⟩ := make?_ok made
  exact unstopped_reaches (closing fun _ endures => endures) built run.reaches

/-- The pool has taken just the tasks that the journal has as accepted. -/
theorem booked_runs (made : make? config main = some (.ok y₀))
    (run : Runs (fun c => c.frame.halts = false) y₀ begun y) :
    y.pool.Booked y.world.accepted := by
  obtain ⟨-, s, built, rfl⟩ := make?_ok made
  have unstopped : ∀ w, System.Reaches (rules fun c => c.frame.halts = false) (.idle s) w →
      Unstopped w.bag w.scene :=
    fun w before => unstopped_reaches (closing fun _ endures => endures) built before
  obtain ⟨-, flight, rfl⟩ := Scene.build_ok built
  refine (offers_outline (R := fun p accepted _ => p.Booked accepted)
    (fun unstopped => unstopped.frames) ?_ ?_ ?_ ?_ ?_).always unstopped rfl ?_ run.reaches
  · exact fun booked step => booked.executes step
  · exact fun booked step => booked.executes step
  · exact fun size booked => booked.setCoreSize size
  · exact fun _ booked => booked.shutdown
  · exact fun booked step => booked.acts step
  · exact ⟨rfl, [], ThreadPool.balanced_opened config.coreSize wordMax config.keepAlive
      config.maxQueueSize config.threadName fun _ => none, rfl, rfl⟩

/-- A call that neither shuts down nor stops submits. -/
theorem submits_of_calm {c : Call ν} (calm : c.frame.stops = false) :
    ∃ work reply, c = .submit work reply := by
  cases c with
  | submit work reply => exact ⟨work, reply, rfl⟩
  | shutdown | shutdownNow => contradiction

/-- As long as submissions come only, the pool takes jobs, and it has refused none unless its
workers have outnumbered its bound. -/
theorem welcoming_runs (made : make? config main = some (.ok y₀))
    (run : Runs (fun c => c.frame.stops = false) y₀ begun y) :
    y.pool.Welcoming y.world.refused := by
  obtain ⟨-, s, built, rfl⟩ := make?_ok made
  have undisturbed : ∀ w, System.Reaches (rules fun c => c.frame.stops = false) (.idle s) w →
      Undisturbed config main w.bag w.scene :=
    fun w before => undisturbed_reaches submits_of_calm built before
  obtain ⟨-, flight, rfl⟩ := Scene.build_ok built
  refine (offers_outline (R := fun p _ refused => p.Welcoming refused)
    (fun known f mem => Frame.halts_of_not_stops (known.frames f mem)) ?_ ?_ ?_ ?_ ?_).always
    undisturbed rfl ?_ run.reaches
  · exact fun welcoming step => welcoming.accepts step
  · exact fun welcoming step => welcoming.refuses step _
  · exact fun size welcoming => welcoming.setCoreSize size
  · exact fun known _ => known.absurd rfl
  · exact fun welcoming step => welcoming.acts step
  · exact .ofConfig config

end Service

end TwoTier
