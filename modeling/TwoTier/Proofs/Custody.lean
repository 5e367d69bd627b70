import Mathlib.Tactic.Abel
import TwoTier.Proofs.Fifo

/-!
Runs of submissions and completions.

Nobody shuts the executor down or stops it, and every job that is taken out of the pool is
completed (`Rules.Working`). The pool may have any readings, but it knows which jobs it holds
(`Custody`): an accepted job is added, a job given up is taken out, and nothing else changes.

Then every accepted task is in one place: the pool holds it, a thread is on its way to its
completion, or its completion has run (`accounted_reaches`).
-/

namespace TwoTier

variable {σ ν : Type}

namespace Frame

/-- The task whose completion is still to come of a frame. -/
def completing : Frame ν → Multiset TaskId
  | .job t acts => if .complete ∈ acts then {t.id} else 0
  | .completed id => {id}
  | _ => 0

theorem stops_of_inPass {f : Frame ν} (inside : f.inPass = true) : f.stops = false := by
  cases f with
  | shutdown | shutdownNow | stopPool _ | enterShutdown => simp [inPass] at inside
  | _ => rfl

theorem completing_of_inPass {f : Frame ν} (inside : f.inPass = true) : f.completing = 0 := by
  cases f with
  | job _ _ | completed _ => simp [inPass] at inside
  | _ => rfl

@[simp] theorem completing_spent (t : Task ν) : (job t []).completing = 0 := by
  simp [completing]

end Frame

/-! ### What is left out of such runs -/

/-- Idle threads only submit, and jobs are taken out of the pool to be completed. -/
structure Rules.Working (rules : Rules σ ν) : Prop where
  submits : ∀ {c}, rules.calls c → ∃ work reply, c = .submit work reply
  completes : ∀ {mode}, rules.modes mode → .complete ∈ mode.acts

/-- The executor is as it was built, and nobody is about to shut it down or to stop it. -/
structure Undisturbed (config : Config) (main : Option ThreadId) (bag : Multiset (Frame ν))
    (s : Scene σ ν) : Prop where
  alive : s.alive = true
  config : s.exec.config = config
  mainThread : s.exec.mainThread = main
  returned : s.returned = []
  frames : ∀ f ∈ bag, f.stops = false

namespace Undisturbed

variable {config : Config} {main : Option ThreadId} {bag bag' : Multiset (Frame ν)} {f : Frame ν}
  {s s' : Scene σ ν}

theorem of_keeps (h : Undisturbed config main bag s) (keeps : Scene.Keeps s s')
    (frames : ∀ f ∈ bag', f.stops = false) : Undisturbed config main bag' s' :=
  ⟨keeps.alive.trans h.alive, keeps.config.trans h.config, keeps.mainThread.trans h.mainThread,
    keeps.returned.trans h.returned, frames⟩

/-- A frame of a shutdown or a stop is not about. -/
theorem absurd {P : Prop} (h : Undisturbed config main (f ::ₘ bag) s) (stops : f.stops = true) :
    P := by
  have none := h.frames f (Multiset.mem_cons_self f bag)
  rw [stops] at none
  contradiction

end Undisturbed

variable [WorkerPool σ (Task ν)]

theorem Scene.PassStep.setting {me : ThreadId} {f g : Frame ν} {s s' : Scene σ ν}
    (h : PassStep me s f g s') : s'.alive = s.alive ∧ s'.exec.config = s.exec.config ∧
      s'.exec.mainThread = s.exec.mainThread ∧ s'.returned = s.returned := by
  cases h with
  | tuned active queued _ | untuned active queued _ =>
      have keeps := keeps_retune active queued s
      exact ⟨keeps.alive, keeps.config, keeps.mainThread, keeps.returned⟩
  | mark t _ _ =>
      have keeps := keeps_marked t s
      exact ⟨keeps.alive, keeps.config, keeps.mainThread, keeps.returned⟩
  | _ => exact ⟨rfl, rfl, rfl, rfl⟩

theorem undisturbed_outline {rules : Rules σ ν}
    (submits : ∀ {c}, rules.calls c → ∃ work reply, c = .submit work reply) (config : Config)
    (main : Option ThreadId) :
    Outline rules (fun _ _ => True) fun _ => Undisturbed config main where
  enter {me f rest s s'} _ _ step inv := by
    obtain ⟨-, others⟩ := Multiset.forall_mem_cons.mp inv.frames
    have frames : ∀ g ∈ .pass ::ₘ rest, g.stops = false :=
      Multiset.forall_mem_cons.mpr ⟨rfl, others⟩
    cases step with
    | push t => exact ⟨inv.alive, inv.config, inv.mainThread, inv.returned, frames⟩
    | resume => exact ⟨inv.alive, inv.config, inv.mainThread, inv.returned, frames⟩
    | shutting => exact inv.absurd rfl
  pass {me f g rest s s'} _ _ step inv := by
    obtain ⟨alive, config, mainThread, returned⟩ := step.setting
    obtain ⟨-, others⟩ := Multiset.forall_mem_cons.mp inv.frames
    exact ⟨alive.trans inv.alive, config.trans inv.config, mainThread.trans inv.mainThread,
      returned.trans inv.returned,
      Multiset.forall_mem_cons.mpr ⟨Frame.stops_of_inPass step.inPass, others⟩⟩
  leave {refused rest s} _ _ inv := by
    refine ⟨inv.alive, inv.config, inv.mainThread, inv.returned, ?_⟩
    intro g mem
    rcases Multiset.mem_add.mp mem with mem | mem
    · obtain ⟨t, -, rfl⟩ := List.mem_map.mp (Multiset.mem_coe.mp mem)
      rfl
    · exact inv.frames g (Multiset.mem_cons_of_mem mem)
  quiet {o me f new rest s s'} _ _ step inv := by
    refine inv.of_keeps step.keeps ?_
    intro g mem
    rcases Multiset.mem_add.mp mem with mem | mem
    · exact (step.calm g (Multiset.mem_coe.mp mem)).2
    · exact inv.frames g (Multiset.mem_cons_of_mem mem)
  shutdown _ _ inv := inv.absurd rfl
  withdraw _ _ _ inv := inv.absurd rfl
  stop _ _ _ inv := inv.absurd rfl
  call {o c bag s} allowed _ inv := by
    obtain ⟨work, reply, rfl⟩ := submits allowed
    exact ⟨inv.alive, inv.config, inv.mainThread, inv.returned,
      Multiset.forall_mem_cons.mpr ⟨rfl, inv.frames⟩⟩
  finish _ _ _ inv := ⟨inv.alive, inv.config, inv.mainThread, inv.returned,
    Multiset.forall_mem_cons.mpr ⟨rfl, inv.frames⟩⟩
  finishReturned {o job mode before after bag s} _ split _ inv := by
    rw [inv.returned] at split
    simp at split
  pool _ _ inv := ⟨inv.alive, inv.config, inv.mainThread, inv.returned, inv.frames⟩

theorem undisturbed_reaches {rules : Rules σ ν}
    (submits : ∀ {c}, rules.calls c → ∃ work reply, c = .submit work reply) {config : Config}
    {main : Option ThreadId} {pool : σ} {s : Scene σ ν} {y : System σ ν}
    (built : Scene.build config main pool = .ok s) (run : System.Reaches rules (.idle s) y) :
    Undisturbed config main y.bag y.scene := by
  obtain ⟨-, flight, rfl⟩ := Scene.build_ok built
  exact (undisturbed_outline submits config main).always (fun _ _ => trivial) rfl
    ⟨rfl, rfl, rfl, rfl, by simp⟩ run

/-! ### Where accepted tasks are -/

/-- A pool that knows which jobs it holds. -/
structure Custody (rules : Rules σ ν) (held : σ → Multiset (Task ν)) : Prop where
  accepts : ∀ {t : Task ν} {p q : σ}, WorkerPool.offer t p = (none, q) → held q = t ::ₘ held p
  refuses : ∀ {t : Task ν} {p q : σ} {why : Error}, WorkerPool.offer t p = (some why, q) →
    held q = held p
  setCoreSize : ∀ (n : Nat) (p : σ), held (WorkerPool.setCoreSize n p) = held p
  moves : ∀ {p q}, rules.moves p q → held q = held p
  yields : ∀ {p t q}, rules.yields p t q → held p = t ::ₘ held q

/-- Every accepted task has been completed, or the pool holds it, or it is being completed. -/
def Accounted (held : σ → Multiset (Task ν)) (bag : Multiset (Frame ν)) (s : Scene σ ν) : Prop :=
  (s.world.accepted : Multiset TaskId) =
    ↑s.world.completed + (held s.exec.pool).map Task.id + tally Frame.completing bag

namespace Scene

variable {me : ThreadId} {f : Frame ν} {new : List (Frame ν)} {s s' : Scene σ ν}

/-- A completion leads to a pass, and other quiet steps leave completions where they are. -/
theorem QuietStep.completing (h : QuietStep me s f new s') (alive : s.alive = true) :
    (∃ id, f = .completed id ∧ new = [.enter] ∧
      s'.world.completed = s.world.completed ++ [id]) ∨
    (tally Frame.completing (new : Multiset (Frame ν)) = f.completing ∧
      s'.world.completed = s.world.completed) := by
  cases h with
  | completed id alive => exact .inl ⟨id, rfl, rfl, by simp⟩
  | tooLate id gone => rw [alive] at gone; contradiction
  | pastGate c | discard c =>
      refine .inr ⟨?_, by simp [record]⟩
      rw [tally_submitAll_append fun _ _ => rfl]
      rfl
  | submit work reply alive => exact .inr ⟨by simp [Frame.completing], rfl⟩
  | survey c => exact .inr ⟨by simp [Frame.completing], completed_scan s⟩
  | finish c => exact .inr ⟨by simp [Frame.completing], completed_finish c me s.world⟩
  | hangUp reply => exact .inr ⟨by simp [Frame.completing], rfl⟩
  | _ => exact .inr ⟨by simp [Frame.completing], by simp [record]⟩

end Scene

/-- A pass moves a task into the pool if it moves any. -/
theorem accounted_pass {rules : Rules σ ν} {held : σ → Multiset (Task ν)}
    (custody : Custody rules held) {me : ThreadId} {f g : Frame ν} {rest : Multiset (Frame ν)}
    {s s' : Scene σ ν} (step : Scene.PassStep me s f g s') (h : Accounted held (f ::ₘ rest) s) :
    Accounted held (g ::ₘ rest) s' := by
  unfold Accounted at h ⊢
  rw [tally_cons, Frame.completing_of_inPass step.inPass_before, zero_add] at h
  rw [tally_cons, Frame.completing_of_inPass step.inPass, zero_add, step.completed]
  cases step with
  | tuned active queued _ | untuned active queued _ =>
      have keeps := Scene.keeps_retune active queued s
      rwa [keeps.accepted, keeps.pool]
  | mark t _ _ =>
      have keeps := Scene.keeps_marked t s
      rwa [keeps.accepted, keeps.pool]
  | setCore active queued target => simpa [custody.setCoreSize] using h
  | accepted t draining refused ho =>
      have accepted : ((s.world.accepted ++ [t.id] : List TaskId) : Multiset TaskId)
          = ↑s.world.accepted + {t.id} := (Multiset.coe_add _ _).symm
      rw [World.accepted_record, custody.accepts ho, Multiset.map_cons, ← Multiset.singleton_add]
      change ((s.world.accepted ++ [t.id] : List TaskId) : Multiset TaskId) = _
      rw [accepted, h]
      abel
  | turnedDown t draining refused ho => simpa [custody.refuses ho, Buffer.forget] using h
  | _ => exact h

theorem accounted_outline {rules : Rules σ ν} (working : rules.Working) {config : Config}
    {main : Option ThreadId} {held : σ → Multiset (Task ν)} (custody : Custody rules held) :
    Outline rules (Undisturbed config main) fun _ => Accounted held where
  enter {me f rest s s'} _ basis step inv := by
    unfold Accounted at inv ⊢
    cases step with
    | push t => simpa [Frame.completing, Buffer.push, Buffer.lock] using inv
    | resume => simpa [Frame.completing, Buffer.lock] using inv
    | shutting => exact basis.absurd rfl
  pass _ _ step inv := accounted_pass custody step inv
  leave {refused rest s} _ _ inv := by
    unfold Accounted at inv ⊢
    rw [tally_add, tally_discards Frame.completing_spent]
    simpa [Frame.completing, Buffer.unlock] using inv
  quiet {o me f new rest s s'} _ basis step inv := by
    unfold Accounted at inv ⊢
    rw [step.keeps.accepted, step.keeps.pool, inv, tally_add, tally_cons]
    rcases step.completing basis.alive with ⟨id, rfl, rfl, completed⟩ | ⟨same, completed⟩
    · have moved : ((s.world.completed ++ [id] : List TaskId) : Multiset TaskId)
          = ↑s.world.completed + {id} := (Multiset.coe_add _ _).symm
      rw [completed, moved]
      simp only [tally_coe, List.map_singleton, List.sum_singleton, Frame.completing, zero_add]
      abel
    · rw [completed, same]
  shutdown _ basis _ := basis.absurd rfl
  withdraw _ basis _ _ := basis.absurd rfl
  stop _ basis _ _ := basis.absurd rfl
  call {o c bag s} allowed _ inv := by
    obtain ⟨work, reply, rfl⟩ := working.submits allowed
    simpa [Accounted, Call.frame, Frame.completing] using inv
  finish {o job mode pool bag s} allowed yields _ inv := by
    have completes : (Frame.job job mode.acts).completing = {job.id} :=
      if_pos (working.completes allowed)
    unfold Accounted at inv ⊢
    rw [inv, custody.yields yields, Multiset.map_cons, ← Multiset.singleton_add, tally_cons,
      completes]
    abel
  finishReturned {o job mode before after bag s} _ split basis inv := by
    rw [basis.returned] at split
    simp at split
  pool {o pool bag s} moves _ inv := by
    unfold Accounted at inv ⊢
    rwa [custody.moves moves]

/-- Submissions only, and completions for all jobs. -/
def Bounds.working (fit : Scene (HandPool (Task ν)) ν → Bool) : Bounds ν where
  calls c := match c with
    | .submit _ _ => true
    | _ => false
  modes m := decide (.complete ∈ m.acts)
  fit

theorem Bounds.working_rules (fit : Scene (HandPool (Task ν)) ν → Bool) :
    (working fit).rules.Working where
  submits {c} h := by
    cases c with
    | submit work reply => exact ⟨work, reply, rfl⟩
    | _ => contradiction
  completes h := of_decide_eq_true h

/-- A pool driven by hand knows which jobs it holds. -/
theorem HandPool.custody (b : Bounds ν) :
    Custody b.rules fun p : HandPool (Task ν) => (p.held : Multiset (Task ν)) where
  accepts {t p q} h := by
    rcases HandPool.offer_cases t p with taken | ⟨why, n, turned⟩
    · obtain ⟨-, rfl⟩ := Prod.mk.inj (taken.symm.trans h)
      rw [← Multiset.coe_add, add_comm]
      rfl
    · cases turned.symm.trans h
  refuses {t p q why} h := by
    rcases HandPool.offer_cases t p with taken | ⟨_, n, turned⟩
    · cases taken.symm.trans h
    · obtain ⟨-, rfl⟩ := Prod.mk.inj (turned.symm.trans h)
      rfl
  setCoreSize n p := by
    change ((HandPool.setCoreSize n p).held : Multiset (Task ν)) = p.held
    unfold HandPool.setCoreSize
    split <;> rfl
  moves {p q} h := by
    obtain ⟨n, rfl⟩ := h
    rfl
  yields {p t q} h := by
    obtain ⟨index, taken⟩ := h
    obtain ⟨before, after, held, rfl⟩ := HandPool.held_of_take? taken
    rw [held]
    exact Multiset.coe_eq_coe.mpr List.perm_middle

/-- In every run of submissions and completions, all accepted tasks are accounted for. -/
theorem accounted_reaches {rules : Rules σ ν} (working : rules.Working)
    {held : σ → Multiset (Task ν)} (custody : Custody rules held) {config : Config}
    {main : Option ThreadId} {pool : σ} (empty : held pool = 0) {s : Scene σ ν} {y : System σ ν}
    (built : Scene.build config main pool = .ok s) (run : System.Reaches rules (.idle s) y) :
    Accounted held y.bag y.scene := by
  have basis : ∀ w, System.Reaches rules (.idle s) w → Undisturbed config main w.bag w.scene :=
    fun w before => undisturbed_reaches working.submits built before
  obtain ⟨-, flight, rfl⟩ := Scene.build_ok built
  exact (accounted_outline working custody).always basis rfl (by simp [Accounted, empty]) run

end TwoTier
