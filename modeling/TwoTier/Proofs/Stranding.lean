import TwoTier.Proofs.Bands
import TwoTier.Proofs.Custody

/-!
What a backlog waits for.

Only submissions and completions begin passes, and a pass offers one task. So a backlog that is left
when all is quiet should wait for a completion: that of an accepted task which the pool still holds.
It does so unless the last offer was refused at a moment when no accepted task was outstanding
(`backlog_awaits_completion_iff`). After such a refusal nothing ever begins another pass but a new
submission, and `backlog_stranded` is a run that ends there.

The pool runs throughout and reports active and queued jobs only while accepted tasks are
outstanding. It may refuse whatever it likes.
-/

namespace TwoTier

variable {σ ν : Type}

/-- Something is about that will begin another pass: an outstanding task, or a thread that waits to
begin one after a completion. -/
def Awaiting (bag : Multiset (Frame ν)) (s : Scene σ ν) : Prop :=
  s.world.outstanding ≠ [] ∨ .enter ∈ bag

/-- Between passes a backlog awaits a pass, unless offers broke off. The readings of a pass say
whether it does. -/
def Fed : Assertion σ ν
  | none, bag, s | some (.leave _), bag, s =>
    s.exec.backlog ≠ [] → Awaiting bag s ∨ s.world.brokenOff
  | some (.readQueued active), bag, s => 0 < active → Awaiting bag s
  | some (.retune active queued), bag, s => 0 < active ∨ 0 < queued → Awaiting bag s
  | some (.setCore active queued target), bag, s | some (.decide active queued target), bag, s =>
    (0 < active ∨ 0 < queued → Awaiting bag s) ∧ 0 < target
  | some (.drain _), _, _ => False
  | some (.handOver _ draining _), _, _ | some (.offer _ draining _), _, _ => draining = false
  | _, _, _ => True

/-- What other threads do must keep the backlog and the prospect of a pass. -/
theorem Fed.mono {o : Option (Frame ν)} {bag bag' : Multiset (Frame ν)} {s s' : Scene σ ν}
    (h : Fed o bag s) (backlog : s'.exec.backlog = s.exec.backlog)
    (awaiting : Awaiting bag s → Awaiting bag' s')
    (broken : s.world.brokenOff → s'.world.brokenOff) : Fed o bag' s' := by
  have between (due : s.exec.backlog ≠ [] → Awaiting bag s ∨ s.world.brokenOff) :
      s'.exec.backlog ≠ [] → Awaiting bag' s' ∨ s'.world.brokenOff := fun waits =>
    (due (backlog ▸ waits)).imp awaiting broken
  cases o with
  | none => exact between h
  | some f =>
      cases f with
      | leave refused => exact between h
      | readQueued active => exact fun reading => awaiting (h reading)
      | retune active queued => exact fun reading => awaiting (h reading)
      | setCore active queued target | decide active queued target =>
          exact ⟨fun reading => awaiting (h.1 reading), h.2⟩
      | _ => exact h

section Steps

variable [WorkerPool σ (Task ν)] {me : ThreadId} {f g : Frame ν} {new : List (Frame ν)}
  {rest : Multiset (Frame ν)} {s s' : Scene σ ν}

/-- A pass does not complete tasks. -/
theorem Scene.PassStep.outstanding (h : PassStep me s f g s') {id : TaskId}
    (mem : id ∈ s.world.outstanding) : id ∈ s'.world.outstanding := by
  rw [World.mem_outstanding] at mem ⊢
  refine ⟨?_, h.completed ▸ mem.2⟩
  cases h with
  | tuned active queued _ | untuned active queued _ =>
      rw [(keeps_retune active queued s).accepted]
      exact mem.1
  | mark t _ _ =>
      rw [(keeps_marked t s).accepted]
      exact mem.1
  | setCore | accepted | turnedDown =>
      rw [World.accepted_record]
      exact List.mem_append_left _ mem.1
  | _ => exact mem.1

theorem awaiting_pass (h : Scene.PassStep me s f g s') (awaiting : Awaiting (f ::ₘ rest) s) :
    Awaiting (g ::ₘ rest) s' := by
  rcases awaiting with outstanding | mem
  · obtain ⟨id, mem⟩ := List.exists_mem_of_ne_nil _ outstanding
    exact .inl (List.ne_nil_of_mem (h.outstanding mem))
  · rcases Multiset.mem_cons.mp mem with rfl | mem
    · have inside := h.inPass_before
      simp [Frame.inPass] at inside
    · exact .inr (Multiset.mem_cons_of_mem mem)

theorem awaiting_quiet (h : Scene.QuietStep me s f new s') (alive : s.alive = true)
    (awaiting : Awaiting (f ::ₘ rest) s) : Awaiting ((new : Multiset (Frame ν)) + rest) s' := by
  rcases h.completing alive with ⟨id, rfl, rfl, -⟩ | ⟨-, completed⟩
  · exact .inr (Multiset.mem_add.mpr (.inl (by simp)))
  · rcases awaiting with outstanding | mem
    · apply Or.inl
      rwa [World.outstanding_congr h.keeps.accepted completed]
    · rcases Multiset.mem_cons.mp mem with rfl | mem
      · cases h
      · exact .inr (Multiset.mem_add.mpr (.inr mem))

end Steps

section Runs

variable [WorkerPool σ (Task ν)]

/-- A pool that runs, and reports jobs only while accepted tasks are outstanding. -/
structure Honest (rules : Rules σ ν) : Prop where
  running : ∀ {s}, rules.fit s → WorkerPool.isShutdown s.exec.pool = false
  active : ∀ {s}, rules.fit s → WorkerPool.activeCount s.exec.pool ≤ s.world.outstanding.length
  queued : ∀ {s}, rules.fit s → WorkerPool.queueLength s.exec.pool ≤ s.world.outstanding.length

/-- What is known of runs of submissions and completions. -/
structure Traced (config : Config) (main : Option ThreadId) (held : σ → Multiset (Task ν))
    (bag : Multiset (Frame ν)) (s : Scene σ ν) : Prop where
  undisturbed : Undisturbed config main bag s
  accounted : Accounted held bag s
  fresh : Fresh bag s
  ordered : ∀ f ∈ bag, f.inPass = true → Ordered (some f) s

variable {rules : Rules σ ν} {config : Config} {main : Option ThreadId}
  {held : σ → Multiset (Task ν)}

omit [WorkerPool σ (Task ν)] in
/-- A task that is about to be offered has not been completed. -/
theorem Traced.not_completed {t : Task ν} {draining : Bool} {refused : List (Task ν)}
    {rest : Multiset (Frame ν)} {s : Scene σ ν}
    (h : Traced config main held (.offer t draining refused ::ₘ rest) s) :
    t.id ∉ s.world.completed := by
  intro done
  have accepted : t.id ∈ s.world.accepted := by
    rw [← Multiset.mem_coe, h.accounted, add_assoc]
    exact Multiset.mem_add.mpr (.inl (Multiset.mem_coe.mpr done))
  have line := (h.ordered _ (Multiset.mem_cons_self _ _) rfl).line
  have distinct := h.fresh.pushed_nodup.sublist s.world.retained_sublist
  rw [line] at distinct
  have apart := (List.nodup_append.mp (List.nodup_append.mp distinct).1).2.2
  exact apart _ (s.world.accepted_sublist_offered.subset accepted) _ (List.mem_singleton_self _) rfl

theorem fed_pass (honest : Honest rules) (valid : config.Valid) {me : ThreadId} {f g : Frame ν}
    {rest : Multiset (Frame ν)} {s s' : Scene σ ν} (fit : rules.fit s)
    (known : Traced config main held (f ::ₘ rest) s) (step : Scene.PassStep me s f g s')
    (h : Fed (some f) (f ::ₘ rest) s) : Fed (some g) (g ::ₘ rest) s' := by
  have reported {n : Nat} (report : n ≤ s.world.outstanding.length) (busy : 0 < n) :
      s.world.outstanding ≠ [] := List.ne_nil_of_length_pos (Nat.lt_of_lt_of_le busy report)
  have carried : Awaiting (f ::ₘ rest) s → Awaiting (g ::ₘ rest) s' := awaiting_pass step
  cases step with
  | shut shut =>
      rw [honest.running fit] at shut
      contradiction
  | main _ _ => trivial
  | gated _ _ => trivial
  | readActive => exact fun busy => .inl (reported (honest.active fit) busy)
  | readQueued active =>
      rintro (busy | busy)
      · exact carried (h busy)
      · exact .inl (reported (honest.queued fit) busy)
  | tuned active queued _ | untuned active queued _ =>
      refine ⟨fun busy => carried (h busy), ?_⟩
      rw [known.undisturbed.config]
      exact tunedCoreSize_pos valid _
  | setCore active queued target => exact ⟨fun busy => carried (h.1 busy), h.2⟩
  | closed active queued target shut =>
      intro _
      obtain ⟨reading, some⟩ := h
      -- Core sizes are positive, so the gate is shut only if the pool has reported work.
      refine .inl (carried (reading ?_))
      by_contra idle
      exact shut (by omega)
  | empty none hf =>
      intro waits
      exact absurd none waits
  | takeHead head hf =>
      cases hf with
      | drain refused => exact h.elim
      | bypass => rfl
      | decide room free => rfl
  | mark t draining refused => exact h
  | accepted t draining refused taken =>
      obtain rfl : draining = false := h
      intro _
      refine .inl (.inl (List.ne_nil_of_mem (a := t.id) ?_))
      rw [World.mem_outstanding]
      constructor
      · simp
      · simpa using known.not_completed
  | turnedDown t draining refused ho =>
      obtain rfl : draining = false := h
      intro _
      -- A refusal strands the backlog if there is no task left whose completion starts a pass.
      by_cases idle : s.world.outstanding = []
      · exact .inr ((World.brokenOff_offer rfl).mpr ⟨rfl, idle⟩)
      · exact .inl (carried (.inl idle))

theorem fed_outline (honest : Honest rules) (valid : config.Valid) :
    Outline rules (Traced config main held) Fed where
  enter _ _ _ _ := trivial
  pass fit known step h := fed_pass honest valid fit known step h
  leave {refused rest s} _ _ h := by
    refine Fed.mono (o := none) h rfl (fun awaiting => awaiting.imp_right fun mem => ?_) id
    rcases Multiset.mem_cons.mp mem with mem | mem
    · contradiction
    · exact Multiset.mem_add.mpr (.inr mem)
  quiet _ known step h := h.mono step.keeps.backlog
    (awaiting_quiet step known.undisturbed.alive) step.keeps.brokenOff.mpr
  shutdown _ known _ := known.undisturbed.absurd rfl
  withdraw _ known _ _ := known.undisturbed.absurd rfl
  stop _ known _ _ := known.undisturbed.absurd rfl
  call _ _ h := h.mono rfl (Or.imp_right Multiset.mem_cons_of_mem) id
  finish _ _ _ h := h.mono rfl (Or.imp_right Multiset.mem_cons_of_mem) id
  finishReturned _ _ _ h := h.mono rfl (Or.imp_right Multiset.mem_cons_of_mem) id
  pool _ _ h := h.mono rfl id id

/-- Once offers have broken off, nothing becomes outstanding without another offer. -/
theorem brokenOff_outline :
    Outline rules (Undisturbed config main) fun _ _ s =>
      s.world.brokenOff → s.world.outstanding = [] where
  enter {me f rest s s'} _ known step inv := by
    cases step with
    | push t =>
        intro broken
        rw [World.outstanding_congr (w := s.world) (by simp) (by simp)]
        exact inv ((World.brokenOff_record rfl).mp broken)
    | resume => exact inv
    | shutting => exact known.absurd rfl
  pass {me f g rest s s'} _ _ step inv := by
    intro broken
    have completed := step.completed
    cases step with
    | tuned active queued _ | untuned active queued _ =>
        have keeps := Scene.keeps_retune active queued s
        rw [World.outstanding_congr keeps.accepted completed]
        exact inv (keeps.brokenOff.mp broken)
    | mark t _ _ =>
        have keeps := Scene.keeps_marked t s
        rw [World.outstanding_congr keeps.accepted completed]
        exact inv (keeps.brokenOff.mp broken)
    | setCore active queued target =>
        rw [World.outstanding_congr (by simp) completed]
        exact inv ((World.brokenOff_record rfl).mp broken)
    | accepted t draining refused taken =>
        obtain ⟨refused, -⟩ := (World.brokenOff_offer rfl).mp broken
        contradiction
    | turnedDown t draining refused ho =>
        obtain ⟨-, idle⟩ := (World.brokenOff_offer rfl).mp broken
        rwa [World.outstanding_congr (by simp) completed]
    | _ => exact inv broken
  leave _ _ inv := inv
  quiet {o me f new rest s s'} _ known step inv := by
    intro broken
    have idle := inv (step.keeps.brokenOff.mp broken)
    apply List.eq_nil_iff_forall_not_mem.mpr
    intro id mem
    obtain ⟨accepted, still⟩ := World.mem_outstanding.mp mem
    rw [step.keeps.accepted] at accepted
    refine List.eq_nil_iff_forall_not_mem.mp idle id (World.mem_outstanding.mpr ⟨accepted, ?_⟩)
    rcases step.completing known.alive with ⟨_, -, -, completed⟩ | ⟨-, completed⟩
    · exact fun done => still (completed ▸ List.mem_append_left _ done)
    · exact fun done => still (completed ▸ done)
  shutdown _ known _ := known.absurd rfl
  withdraw _ known _ _ := known.absurd rfl
  stop _ known _ _ := known.absurd rfl
  call _ _ inv := inv
  finish _ _ _ inv := inv
  finishReturned _ _ _ inv := inv
  pool _ _ inv := inv

/-- A backlog that is left when all threads are idle waits for the completion of an accepted task,
which the pool holds, unless the last offer was refused while no accepted task was outstanding. -/
theorem backlog_awaits_completion_iff (working : rules.Working) (custody : Custody rules held)
    (honest : Honest rules) {pool : σ} (empty : held pool = 0) {s : Scene σ ν} {y : System σ ν}
    (built : Scene.build config main pool = .ok s) (run : System.Reaches rules (.idle s) y)
    (rest : ∀ t, y.threads.get t = []) (waits : y.scene.exec.backlog ≠ []) :
    (∃ t ∈ held y.scene.exec.pool, t.id ∈ y.scene.world.outstanding) ↔
      ¬ y.scene.world.brokenOff := by
  have undisturbed : ∀ w, System.Reaches rules (.idle s) w →
      Undisturbed config main w.bag w.scene :=
    fun w before => undisturbed_reaches working.submits built before
  have traced : ∀ w, System.Reaches rules (.idle s) w → Traced config main held w.bag w.scene :=
    fun w before => ⟨undisturbed w before, accounted_reaches working custody empty built before,
      fresh_reaches built before, (ordered_reaches built before).2⟩
  have accounted := (traced y run).accounted
  obtain ⟨valid, flight, rfl⟩ := Scene.build_ok built
  have valid := Config.valid_of_validate valid
  have free := holder_at_rest rfl run rest
  have due := ((fed_outline honest valid).reaches traced rfl (fun waits => absurd rfl waits) run).1
    free waits
  have broken := brokenOff_outline.always undisturbed rfl (fun _ => rfl) run
  rw [System.bag_eq_zero rest] at due accounted
  constructor
  · rintro ⟨t, -, mem⟩ off
    rw [broken off] at mem
    exact absurd mem List.not_mem_nil
  · intro off
    obtain outstanding | mem := due.resolve_right off
    · obtain ⟨id, mem⟩ := List.exists_mem_of_ne_nil _ outstanding
      obtain ⟨accepted, still⟩ := World.mem_outstanding.mp mem
      rw [← Multiset.mem_coe, accounted, tally_zero, add_zero] at accepted
      rcases Multiset.mem_add.mp accepted with done | mine
      · exact absurd (Multiset.mem_coe.mp done) still
      · obtain ⟨t, held, rfl⟩ := Multiset.mem_map.mp mine
        exact ⟨t, held, mem⟩
    · simp at mem

end Runs

/-! ### A pool that is honest, driven by hand -/

namespace Sample

/-- Runs that go on while the pool is honest. -/
def honest : Bounds Unit := .working fun s =>
  decide (WorkerPool.isShutdown s.exec.pool = false ∧
    WorkerPool.activeCount s.exec.pool ≤ s.world.outstanding.length ∧
    WorkerPool.queueLength s.exec.pool ≤ s.world.outstanding.length)

theorem honest_rules : Honest honest.rules where
  running fit := (of_decide_eq_true fit).1
  active fit := (of_decide_eq_true fit).2.1
  queued fit := (of_decide_eq_true fit).2.2

end Sample

set_option maxRecDepth 4000 in
open Sample in
/-- The head of two waiting tasks goes to the pool at a completion, and the other waits for it. -/
theorem backlog_awaits_completion_iff_after_completion :
    ∃ y, System.Reaches honest.rules (.idle scene) y ∧
      (∀ t, y.threads.get t = []) ∧ y.scene.exec.backlog ≠ [] ∧
      ((∃ t ∈ (y.scene.exec.pool.held : Multiset (Task Unit)), t.id ∈ y.scene.world.outstanding) ↔
        ¬ y.scene.world.brokenOff) := by
  have replayed : ∃ y, System.replay honest (calls 1 12 (submit "a") ++ calls 1 10 (submit "b")
      ++ calls 1 10 (submit "c") ++ .finish (.worker 1) 0 .runComplete :: Act.turns (.worker 1) 16)
      (.idle scene) = some y ∧ y.threads.entries = [] ∧
        y.scene.exec.backlog.map Task.id = [⟨3⟩] := ⟨_, rfl, rfl, rfl⟩
  obtain ⟨y, replayed, quiet, waiting⟩ := replayed
  have run := System.replay_reaches .refl replayed
  have rest := System.idle_of_entries quiet
  have waits : y.scene.exec.backlog ≠ [] := by rintro none; simp [none] at waiting
  exact ⟨y, run, rest, waits, backlog_awaits_completion_iff (Bounds.working_rules _)
    (HandPool.custody _) honest_rules rfl scene_built run rest waits⟩

set_option maxRecDepth 4000 in
open Sample in
/-- A refusal at the last completion strands the backlog: the pool of one worker is idle and holds
nothing, no thread has business, and a task waits. -/
theorem backlog_stranded :
    honest.rules.Working ∧ Honest honest.rules ∧
      Custody honest.rules
        (fun p : HandPool (Task Unit) => (p.held : Multiset (Task Unit))) ∧
      ∃ y, System.Reaches honest.rules (.idle scene) y ∧
        (∀ t, y.threads.get t = []) ∧ y.scene.exec.backlog ≠ [] ∧
        ¬ ∃ t ∈ (y.scene.exec.pool.held : Multiset (Task Unit)),
          t.id ∈ y.scene.world.outstanding := by
  have replayed : ∃ y, System.replay honest (calls 1 12 (submit "a") ++ calls 1 10 (submit "b")
      ++ calls 1 10 (submit "c") ++ .refuse 1 :: .finish (.worker 1) 0 .runComplete
        :: Act.turns (.worker 1) 19)
      (.idle scene) = some y ∧ y.threads.entries = [] ∧
        y.scene.exec.backlog.map Task.id = [⟨3⟩] ∧ y.scene.exec.pool.held.map Task.id = [] :=
    ⟨_, rfl, rfl, rfl, rfl⟩
  obtain ⟨y, replayed, quiet, waiting, holds⟩ := replayed
  refine ⟨(Bounds.working_rules _), honest_rules, HandPool.custody _, y,
    System.replay_reaches .refl replayed, System.idle_of_entries quiet, ?_, ?_⟩
  · rintro none
    simp [none] at waiting
  · rintro ⟨t, mem, -⟩
    rw [List.map_eq_nil_iff.mp holds] at mem
    exact absurd mem (Multiset.notMem_zero t)

end TwoTier
