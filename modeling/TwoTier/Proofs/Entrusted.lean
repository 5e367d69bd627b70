import TwoTier.Proofs.Closing
import TwoTier.Proofs.Closures
import TwoTier.Proofs.MainThread

/-!
What can be completed.

A job is completed by whoever has got it from the pool or from a stop. If the pool gives up and
hands back only what it has taken (`Faithful`), then no task is completed before the pool has taken
it, or a stop has taken it out of the backlog (`handled_outline`).
-/

namespace TwoTier

variable {σ ν : Type}

/-- A task that the pool has taken, or that a stop has taken out of the backlog. -/
def World.Entrusted (w : World ν) (id : TaskId) : Prop := id ∈ w.accepted ∨ id ∈ w.withdrawn

theorem World.Entrusted.of_eq {w w' : World ν} {id : TaskId} (h : w.Entrusted id)
    (accepted : w'.accepted = w.accepted) (withdrawn : w'.withdrawn = w.withdrawn) :
    w'.Entrusted id := by
  rwa [Entrusted, accepted, withdrawn]

theorem World.Entrusted.record {w : World ν} {id : TaskId} (h : w.Entrusted id) (e : Event) :
    (w.record e).Entrusted id := by
  rw [Entrusted, World.accepted_record, World.withdrawn_record]
  exact h.imp (List.mem_append_left _) (List.mem_append_left _)

/-- A task in the hands of a pass is none of these. -/
theorem Ordered.not_entrusted {o : Option (Frame ν)} {s : Scene σ ν} {id : TaskId}
    (ordered : Ordered o s) (distinct : s.world.pushed.Nodup)
    (mem : id ∈ o.elim [] Frame.inHand) : ¬ s.world.Entrusted id := by
  have apart := distinct.sublist s.world.retained_sublist
  have kept : id ∈ s.world.retained := by
    rw [ordered.line]
    exact List.mem_append_left _ (List.mem_append_right _ mem)
  rw [ordered.line] at apart
  rintro (accepted | withdrawn)
  · have offered := s.world.accepted_sublist_offered.subset accepted
    exact (List.nodup_append.mp (List.nodup_append.mp apart).1).2.2 id offered id mem rfl
  · exact of_decide_eq_true (List.mem_filter.mp kept).2 withdrawn

section Runs

variable [WorkerPool σ (Task ν)] {rules : Rules σ ν} {knows : σ → TaskId → Prop}

/-- A pool that gives up and hands back only tasks that it has taken. -/
structure Faithful (rules : Rules σ ν) (knows : σ → TaskId → Prop) : Prop where
  accepts : ∀ {t : Task ν} {p q : σ} {id : TaskId}, WorkerPool.offer t p = (none, q) →
    knows q id → id = t.id ∨ knows p id
  refuses : ∀ {t : Task ν} {p q : σ} {why : Error} {id : TaskId},
    WorkerPool.offer t p = (some why, q) → knows q id → knows p id
  setCoreSize : ∀ {n : Nat} {p : σ} {id : TaskId}, knows (WorkerPool.setCoreSize n p) id →
    knows p id
  shutdown : ∀ {p : σ} {id : TaskId}, knows (WorkerPool.shutdown p) id → knows p id
  stop : ∀ {p q : σ} {jobs : List (Task ν)}, WorkerPool.shutdownNow p = (jobs, q) →
    (∀ t ∈ jobs, knows p t.id) ∧ ∀ id, knows q id → knows p id
  moves : ∀ {p q : σ} {id : TaskId}, rules.moves p q → knows q id → knows p id
  yields : ∀ {p q : σ} {t : Task ν}, rules.yields p t q →
    knows p t.id ∧ ∀ id, knows q id → knows p id

/-- So is a pool that keeps its jobs, and does not hold any more what it gives up. -/
theorem Faithful.of_keeps {held : σ → Multiset (Task ν)} (keeps : ∀ p, KeepsJobs held p)
    (moves : ∀ {p q}, rules.moves p q → held q = held p)
    (yields : ∀ {p t q}, rules.yields p t q → held p = t ::ₘ held q) :
    Faithful rules fun p id => id ∈ (held p).map Task.id where
  accepts {t p q id} answer mem := by
    rw [(keeps p).accepts answer, Multiset.map_cons] at mem
    exact Multiset.mem_cons.mp mem
  refuses {t p q why id} answer mem := by rwa [(keeps p).refuses answer] at mem
  setCoreSize {n p id} mem := by rwa [(keeps p).setCoreSize] at mem
  shutdown {p id} mem := by rwa [(keeps p).shutdown] at mem
  stop {p q jobs} stopped := by
    rw [(keeps p).shutdownNow stopped, Multiset.map_add]
    constructor
    · intro t mem
      exact Multiset.mem_add.mpr (.inl (Multiset.mem_map_of_mem _ (Multiset.mem_coe.mpr mem)))
    · exact fun id mem => Multiset.mem_add.mpr (.inr mem)
  moves {p q id} moved mem := by rwa [moves moved] at mem
  yields {p q t} given := by
    rw [yields given, Multiset.map_cons]
    exact ⟨Multiset.mem_cons_self _ _, fun id mem => Multiset.mem_cons_of_mem mem⟩

/-- Only entrusted tasks have been completed, or ever can be. -/
structure Handled (knows : σ → TaskId → Prop) (bag : Multiset (Frame ν)) (s : Scene σ ν) :
    Prop where
  completed : ∀ id ∈ s.world.completed, s.world.Entrusted id
  pool : ∀ id, knows s.exec.pool id → s.world.Entrusted id
  returned : ∀ t ∈ s.returned, s.world.Entrusted t.id
  completing : ∀ id ∈ tally Frame.completing bag, s.world.Entrusted id
  handing : ∀ id ∈ tally Frame.handing bag, s.world.Entrusted id

omit [WorkerPool σ (Task ν)] in
/-- Whatever is new anywhere is entrusted. -/
theorem Handled.extend {bag bag' : Multiset (Frame ν)} {s s' : Scene σ ν} (h : Handled knows bag s)
    (grows : ∀ id, s.world.Entrusted id → s'.world.Entrusted id)
    (completed : ∀ id ∈ s'.world.completed, id ∈ s.world.completed ∨ s'.world.Entrusted id)
    (pool : ∀ id, knows s'.exec.pool id → knows s.exec.pool id ∨ s'.world.Entrusted id)
    (returned : ∀ t ∈ s'.returned, t ∈ s.returned ∨ s'.world.Entrusted t.id)
    (completing : ∀ id ∈ tally Frame.completing bag',
      id ∈ tally Frame.completing bag ∨ s'.world.Entrusted id)
    (handing : ∀ id ∈ tally Frame.handing bag',
      id ∈ tally Frame.handing bag ∨ s'.world.Entrusted id) : Handled knows bag' s' where
  completed id mem := (completed id mem).elim (grows id ∘ h.completed id) fun new => new
  pool id mem := (pool id mem).elim (grows id ∘ h.pool id) fun new => new
  returned t mem := (returned t mem).elim (grows t.id ∘ h.returned t) fun new => new
  completing id mem := (completing id mem).elim (grows id ∘ h.completing id) fun new => new
  handing id mem := (handing id mem).elim (grows id ∘ h.handing id) fun new => new

omit [WorkerPool σ (Task ν)] in
/-- Tasks may become entrusted, and nothing else happens to them. -/
theorem Handled.mono {bag bag' : Multiset (Frame ν)} {s s' : Scene σ ν} (h : Handled knows bag s)
    (grows : ∀ id, s.world.Entrusted id → s'.world.Entrusted id)
    (completed : s'.world.completed = s.world.completed)
    (pool : ∀ id, knows s'.exec.pool id → knows s.exec.pool id ∨ s'.world.Entrusted id)
    (returned : s'.returned = s.returned)
    (completing : tally Frame.completing bag' = tally Frame.completing bag)
    (handing : tally Frame.handing bag' = tally Frame.handing bag) : Handled knows bag' s' := by
  refine h.extend grows ?_ pool ?_ ?_ ?_
  · rw [completed]
    exact fun id => .inl
  · rw [returned]
    exact fun t => .inl
  · rw [completing]
    exact fun id => .inl
  · rw [handing]
    exact fun id => .inl

omit [WorkerPool σ (Task ν)] in
/-- A thread takes up an entrusted job. -/
theorem Handled.takeUp {bag : Multiset (Frame ν)} {s s' : Scene σ ν} {job : Task ν}
    {acts : List JobAct} (h : Handled knows bag s) (world : s'.world = s.world)
    (own : s.world.Entrusted job.id)
    (pool : ∀ id, knows s'.exec.pool id → knows s.exec.pool id)
    (returned : ∀ t ∈ s'.returned, t ∈ s.returned) :
    Handled knows (.job job acts ::ₘ bag) s' := by
  refine h.extend ?_ ?_ (fun id mem => .inl (pool id mem)) (fun t mem => .inl (returned t mem))
    ?_ ?_
  · rw [world]
    exact fun id old => old
  · rw [world]
    exact fun id => .inl
  · rw [world]
    intro id mem
    rcases mem_tally_cons.mp mem with mem | mem
    · rw [Frame.completing] at mem
      split at mem
      · exact .inr (by rwa [Multiset.mem_singleton.mp mem])
      · exact absurd mem (Multiset.notMem_zero id)
    · exact .inl mem
  · intro id mem
    rcases mem_tally_cons.mp mem with mem | mem
    · exact absurd mem (Multiset.notMem_zero id)
    · exact .inl mem

theorem Handled.pass (faithful : Faithful rules knows) {me : ThreadId} {f g : Frame ν}
    {rest : Multiset (Frame ν)} {s s' : Scene σ ν} (h : Handled knows (f ::ₘ rest) s)
    (step : Scene.PassStep me s f g s') : Handled knows (g ::ₘ rest) s' := by
  have completing : tally Frame.completing (g ::ₘ rest) = tally Frame.completing (f ::ₘ rest) := by
    rw [tally_cons, tally_cons, Frame.completing_of_inPass step.inPass,
      Frame.completing_of_inPass step.inPass_before]
  have handing : tally Frame.handing (g ::ₘ rest) = tally Frame.handing (f ::ₘ rest) := by
    rw [tally_cons, tally_cons, Frame.handing_of_inPass step.inPass,
      Frame.handing_of_inPass step.inPass_before]
  have done := step.completed
  have returned := step.setting.2.2.2
  cases step with
  | tuned active queued | untuned active queued =>
      have keeps := Scene.keeps_retune active queued s
      refine h.mono (fun id old => old.of_eq keeps.accepted keeps.withdrawn) done ?_ returned
        completing handing
      rw [keeps.pool]
      exact fun id => .inl
  | mark t =>
      have keeps := Scene.keeps_marked t s
      refine h.mono (fun id old => old.of_eq keeps.accepted keeps.withdrawn) done ?_ returned
        completing handing
      rw [keeps.pool]
      exact fun id => .inl
  | setCore =>
      exact h.mono (fun id old => old.record _) done (fun id mem => .inl (faithful.setCoreSize mem))
        returned completing handing
  | accepted t draining refused answer =>
      refine h.mono (fun id old => old.record _) done ?_ returned completing handing
      intro id mem
      rcases faithful.accepts answer mem with rfl | old
      · exact .inr (.inl (by simp))
      · exact .inl old
  | turnedDown t draining refused answer =>
      exact h.mono (fun id old => old.record _) done
        (fun id mem => .inl (faithful.refuses answer mem)) returned completing handing
  | _ => exact h.mono (fun id old => old) done (fun id => .inl) returned completing handing

theorem handled_outline (faithful : Faithful rules knows) :
    Outline (σ := σ) (ν := ν) rules (fun _ s => s.alive = true) fun _ => Handled knows where
  enter {me f rest s s'} _ _ step h := by
    cases step with
    | push | shutting =>
        refine h.mono (fun id old => old.record _) (by simp) (fun id => .inl) rfl ?_ ?_ <;>
          simp [Frame.completing, Frame.handing]
    | resume =>
        refine h.mono (fun id old => old) rfl (fun id => .inl) rfl ?_ ?_ <;>
          simp [Frame.completing, Frame.handing]
  pass _ _ step h := h.pass faithful step
  leave {refused rest s} _ _ h := by
    refine h.mono (fun id old => old) rfl (fun id => .inl) rfl ?_ ?_
    · rw [tally_add, tally_discards Frame.completing_spent]
      simp [Frame.completing]
    · rw [tally_add, tally_discards fun _ => rfl]
      simp [Frame.handing]
  quiet {o me f new rest s s'} _ alive step h := by
    have grows : ∀ id, s.world.Entrusted id → s'.world.Entrusted id :=
      fun id old => old.of_eq step.keeps.accepted step.keeps.withdrawn
    have pool : ∀ id, knows s'.exec.pool id → knows s.exec.pool id ∨ s'.world.Entrusted id := by
      rw [step.keeps.pool]
      exact fun id => .inl
    have handing : tally Frame.handing ((new : Multiset (Frame ν)) + rest)
        = tally Frame.handing (f ::ₘ rest) := by
      rw [tally_add, tally_cons, step.handing]
    rcases step.completing alive with ⟨id, rfl, rfl, done⟩ | ⟨same, done⟩
    · have own : s.world.Entrusted id :=
        h.completing id (mem_tally_cons.mpr (.inl (Multiset.mem_singleton_self id)))
      refine h.extend grows ?_ pool ?_ ?_ ?_
      · rw [done]
        intro u mem
        refine (List.mem_append.mp mem).imp_right fun mem => ?_
        rw [List.mem_singleton.mp mem]
        exact grows id own
      · rw [step.keeps.returned]
        exact fun t => .inl
      · rw [tally_add, Multiset.coe_singleton, tally_singleton]
        intro u mem
        rcases Multiset.mem_add.mp mem with mem | mem
        · exact absurd mem (Multiset.notMem_zero u)
        · exact .inl (mem_tally_cons.mpr (.inr mem))
      · rw [handing]
        exact fun u => .inl
    · refine h.mono grows done pool step.keeps.returned ?_ handing
      rw [tally_add, tally_cons, same]
  shutdown _ _ h := by
    refine h.mono (fun id old => old) rfl (fun id mem => .inl (faithful.shutdown mem)) rfl ?_ ?_ <;>
      simp [Frame.completing, Frame.handing]
  withdraw {rest s} _ _ _ h := by
    refine h.extend (fun id old => old.record _) (fun id mem => .inl (by simpa using mem))
      (fun id => .inl) (fun t => .inl) ?_ ?_
    · intro id mem
      rcases mem_tally_cons.mp mem with mem | mem
      · exact absurd mem (Multiset.notMem_zero id)
      · exact .inl (mem_tally_cons.mpr (.inr mem))
    · -- What is about to be handed back has just been taken out of the backlog.
      intro id mem
      rcases mem_tally_cons.mp mem with mem | mem
      · refine .inr (.inr ?_)
        rw [World.withdrawn_record]
        exact List.mem_append_right _ (Multiset.mem_coe.mp mem)
      · exact .inl (mem_tally_cons.mpr (.inr mem))
  stop {o backlog jobs pool rest s} _ _ stopped h := by
    obtain ⟨handed, kept⟩ := faithful.stop stopped
    refine h.extend (fun id old => old.record _) (fun id mem => .inl (by simpa using mem))
      (fun id mem => .inl (kept id mem)) ?_ (fun id mem => .inl (mem_tally_cons.mpr (.inr mem)))
      (fun id mem => .inl (mem_tally_cons.mpr (.inr mem)))
    intro t mem
    refine (List.mem_append.mp mem).imp_right fun mem => .record ?_ _
    rcases List.mem_append.mp mem with mem | mem
    · exact h.pool t.id (handed t mem)
    · exact h.handing t.id (mem_tally_cons.mpr (.inl (List.mem_map_of_mem mem)))
  call {o c bag s} _ _ h := by
    refine h.mono (fun id old => old) rfl (fun id => .inl) rfl ?_ ?_ <;>
      cases c <;> simp [Call.frame, Frame.completing, Frame.handing]
  finish {o job mode pool bag s} _ given _ h := by
    obtain ⟨own, kept⟩ := faithful.yields given
    exact h.takeUp rfl (h.pool job.id own) kept fun t mem => mem
  finishReturned {o job mode before after bag s} _ split _ h := by
    refine h.takeUp rfl (h.returned job (by simp [split])) (fun id mem => mem) ?_
    intro t mem
    rw [split]
    rcases List.mem_append.mp mem with mem | mem
    · exact List.mem_append_left _ mem
    · exact List.mem_append_right _ (List.mem_cons_of_mem _ mem)
  pool moved _ h := h.mono (fun id old => old) rfl (fun id mem => .inl (faithful.moves moved mem))
    rfl rfl rfl

end Runs

end TwoTier
