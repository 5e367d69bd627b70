import TwoTier.Proofs.Bands
import TwoTier.Proofs.Custody

/-!
The gate follows the backlog.

A pass admits one task at most, although the backlog may call for many more workers than are busy.
Still, over a pool that takes every job while it runs and counts the jobs it holds, the workers keep
up: whenever all threads are idle and tasks wait, at least as many workers are busy as the backlog
calls for. Without a main thread never more are busy than the configuration allows.

What the invariant counts is the supply (`supply`): the jobs that the pool holds and the passes that
are on their way because a job is being completed. Each of those passes can make up for one missing
worker, and bands that rise with the backlog do the rest.
-/

namespace TwoTier

variable {σ ν : Type}

/-- The passes that a frame will still bring about by a completion. -/
def Frame.resuming : Frame ν → Nat
  | .job _ acts => if .complete ∈ acts then 1 else 0
  | .completed _ => 1
  | .enter => 1
  | _ => 0

@[simp] theorem Frame.resuming_spent (t : Task ν) : (Frame.job t []).resuming = 0 := by
  simp [resuming]

theorem Frame.resuming_of_inPass {f : Frame ν} (inside : f.inPass = true) : f.resuming = 0 := by
  cases f with
  | job _ _ | completed _ | enter => simp [inPass] at inside
  | _ => rfl

/-- The jobs in the pool and the passes on their way. -/
def supply (held : σ → Multiset (Task ν)) (bag : Multiset (Frame ν)) (s : Scene σ ν) : Nat :=
  (held s.exec.pool).card + tally Frame.resuming bag

/-- What holds at each place of a pass, by the length of the backlog, the number of jobs that the
pool holds and the supply. -/
def Tight (config : Config) (main : Option ThreadId) :
    Option (Frame ν) → (backlog busy supply : Nat) → Prop
  | none, backlog, _, supply | some (.leave _), backlog, _, supply =>
    0 < backlog → tunedCoreSize backlog config ≤ supply
  | some .pass, backlog, _, supply | some .readActive, backlog, _, supply =>
    1 < backlog → tunedCoreSize (backlog - 1) config ≤ supply + 1
  | some .bypass, backlog, _, supply =>
    (1 < backlog → tunedCoreSize (backlog - 1) config ≤ supply + 1) ∧ main ≠ none
  | some (.readQueued active), backlog, busy, supply =>
    (1 < backlog → tunedCoreSize (backlog - 1) config ≤ supply + 1) ∧ busy ≤ active ∧
      active ≤ supply
  | some (.retune active queued), backlog, busy, supply =>
    (1 < backlog → tunedCoreSize (backlog - 1) config ≤ supply + 1) ∧ busy ≤ active ∧
      active ≤ supply ∧ queued ≤ config.maxQueueSize
  | some (.setCore active queued target), backlog, busy, supply
  | some (.decide active queued target), backlog, busy, supply =>
    (1 < backlog → tunedCoreSize (backlog - 1) config ≤ supply + 1) ∧ busy ≤ active ∧
      active ≤ supply ∧ queued ≤ config.maxQueueSize ∧ target = tunedCoreSize backlog config
  | some (.handOver _ draining _), backlog, busy, supply
  | some (.offer _ draining _), backlog, busy, supply =>
    draining = false ∧ (0 < backlog → tunedCoreSize backlog config ≤ supply + 1) ∧
      (main = none → busy < config.maxCoreSize)
  | some (.drain _), _, _, _ => False
  | _, _, _, _ => True

/-- Jobs may leave the pool at any time. -/
theorem Tight.mono {config : Config} {main : Option ThreadId} {o : Option (Frame ν)}
    {backlog busy busy' supply : Nat} (h : Tight config main o backlog busy supply)
    (less : busy' ≤ busy) : Tight config main o backlog busy' supply := by
  cases o with
  | none => exact h
  | some f =>
      cases f with
      | readQueued active => exact ⟨h.1, less.trans h.2.1, h.2.2⟩
      | retune active queued => exact ⟨h.1, less.trans h.2.1, h.2.2⟩
      | setCore active queued target => exact ⟨h.1, less.trans h.2.1, h.2.2⟩
      | decide active queued target => exact ⟨h.1, less.trans h.2.1, h.2.2⟩
      | handOver t draining refused =>
          exact ⟨h.1, h.2.1, fun alone => Nat.lt_of_le_of_lt less (h.2.2 alone)⟩
      | offer t draining refused =>
          exact ⟨h.1, h.2.1, fun alone => Nat.lt_of_le_of_lt less (h.2.2 alone)⟩
      | _ => exact h

/-- Without a main thread the pool never holds too many jobs, and the gate is tight. -/
def Bounded (config : Config) (main : Option ThreadId) (held : σ → Multiset (Task ν)) :
    Assertion σ ν := fun o bag s =>
  (main = none → (held s.exec.pool).card ≤ config.maxCoreSize) ∧
    Tight config main o s.exec.backlog.length (held s.exec.pool).card (supply held bag s)

theorem Bounded.mono {config : Config} {main : Option ThreadId} {held : σ → Multiset (Task ν)}
    {o : Option (Frame ν)} {bag bag' : Multiset (Frame ν)} {s s' : Scene σ ν}
    (h : Bounded config main held o bag s) (backlog : s'.exec.backlog = s.exec.backlog)
    (less : (held s'.exec.pool).card ≤ (held s.exec.pool).card)
    (same : supply held bag' s' = supply held bag s) : Bounded config main held o bag' s' := by
  refine ⟨fun alone => less.trans (h.1 alone), ?_⟩
  rw [backlog, same]
  exact h.2.mono less

section Runs

variable [WorkerPool σ (Task ν)]

/-- A pool that runs, takes every job, counts the jobs it holds as active, and keeps its ready queue
within the bound. -/
structure Prompt (rules : Rules σ ν) (held : σ → Multiset (Task ν)) : Prop where
  running : ∀ {s}, rules.fit s → WorkerPool.isShutdown s.exec.pool = false
  takes : ∀ {s} (t : Task ν), rules.fit s → (WorkerPool.offer t s.exec.pool).1 = none
  counts : ∀ {s}, rules.fit s → WorkerPool.activeCount s.exec.pool = (held s.exec.pool).card
  queued : ∀ {s}, rules.fit s → WorkerPool.queueLength s.exec.pool ≤ s.exec.config.maxQueueSize

/-- Quiet steps carry passes on their way along. -/
theorem Scene.QuietStep.resuming {me : ThreadId} {f : Frame ν} {new : List (Frame ν)}
    {s s' : Scene σ ν} (h : QuietStep me s f new s') (alive : s.alive = true) :
    tally Frame.resuming (new : Multiset (Frame ν)) = f.resuming := by
  cases h with
  | tooLate id gone => rw [alive] at gone; contradiction
  | pastGate c | discard c =>
      rw [tally_submitAll_append fun _ _ => rfl]
      rfl
  | _ => simp [Frame.resuming]

variable {rules : Rules σ ν} {config : Config} {main : Option ThreadId}
  {held : σ → Multiset (Task ν)}

theorem bounded_pass (custody : Custody rules held) (prompt : Prompt rules held)
    (valid : config.Valid) {me : ThreadId} {f g : Frame ν} {rest : Multiset (Frame ν)}
    {s s' : Scene σ ν} (fit : rules.fit s) (known : Undisturbed config main (f ::ₘ rest) s)
    (step : Scene.PassStep me s f g s') (h : Bounded config main held (some f) (f ::ₘ rest) s) :
    Bounded config main held (some g) (g ::ₘ rest) s' := by
  have before : supply held (f ::ₘ rest) s
      = (held s.exec.pool).card + tally Frame.resuming rest := by
    rw [supply, tally_cons, Frame.resuming_of_inPass step.inPass_before, zero_add]
  have after : supply held (g ::ₘ rest) s'
      = (held s'.exec.pool).card + tally Frame.resuming rest := by
    rw [supply, tally_cons, Frame.resuming_of_inPass step.inPass, zero_add]
  unfold Bounded at h ⊢
  rw [before] at h
  rw [after]
  obtain ⟨most, tight⟩ := h
  have same := known.config
  cases step with
  | shut shut =>
      rw [prompt.running fit] at shut
      contradiction
  | main _ here =>
      refine ⟨most, tight, ?_⟩
      intro alone
      rw [known.mainThread, alone] at here
      contradiction
  | gated _ _ => exact ⟨most, tight⟩
  | readActive =>
      have counts := prompt.counts fit
      exact ⟨most, tight, counts.ge, by omega⟩
  | readQueued active =>
      exact ⟨most, tight.1, tight.2.1, tight.2.2, same ▸ prompt.queued fit⟩
  | tuned active queued _ | untuned active queued _ =>
      have keeps := Scene.keeps_retune active queued s
      rw [keeps.pool, keeps.backlog]
      exact ⟨most, tight.1, tight.2.1, tight.2.2.1, tight.2.2.2, by rw [same]⟩
  | setCore active queued target =>
      dsimp only
      rw [custody.setCoreSize]
      exact ⟨most, tight⟩
  | closed active queued target shut =>
      -- The ready queue has room, so it was the active workers that shut the gate.
      obtain ⟨-, -, enough, room, rfl⟩ := tight
      rw [same] at shut
      exact ⟨most, fun waits => by omega⟩
  | empty none hf =>
      refine ⟨most, ?_⟩
      intro waits
      rw [none] at waits
      exact absurd waits (Nat.lt_irrefl 0)
  | takeHead head hf =>
      rw [head, List.length_cons] at tight
      cases hf with
      | drain refused => exact tight.elim
      | bypass =>
          obtain ⟨spare, here⟩ := tight
          exact ⟨most, rfl, fun waits => spare (Nat.succ_lt_succ waits),
            fun alone => absurd alone here⟩
      | decide room free =>
          obtain ⟨spare, busy, -, -, rfl⟩ := tight
          refine ⟨most, rfl, fun waits => spare (Nat.succ_lt_succ waits), ?_⟩
          intro alone
          exact busy.trans_lt (free.trans_le (tunedCoreSize_le_max valid.ordered _))
  | mark t draining refused =>
      have keeps := Scene.keeps_marked t s
      rw [keeps.pool, keeps.backlog]
      exact ⟨most, tight⟩
  | @accepted t draining refused pool taken =>
      obtain ⟨rfl, spare, free⟩ := tight
      -- The pool holds one job more, and the gate had left room for just one.
      have more : (held pool).card = (held s.exec.pool).card + 1 := by
        rw [custody.accepts taken, Multiset.card_cons]
      dsimp only
      rw [more]
      refine ⟨free, ?_⟩
      intro waits
      have enough := spare waits
      omega
  | turnedDown t draining refused ho =>
      have taken := prompt.takes t fit
      rw [ho] at taken
      contradiction

theorem bounded_outline (working : rules.Working) (custody : Custody rules held)
    (prompt : Prompt rules held) (valid : config.Valid) :
    Outline rules (Undisturbed config main) (Bounded config main held) where
  enter {me f rest s s'} _ known step h := by
    obtain ⟨most, tight⟩ := h
    cases step with
    | push t =>
        have longer : ((s.exec.lock me).push t).backlog.length = s.exec.backlog.length + 1 := by
          simp [Buffer.push, Buffer.lock]
        refine ⟨most, ?_⟩
        rw [longer]
        intro waits
        have enough := tight (by omega)
        simp only [supply, tally_cons, Frame.resuming] at enough ⊢
        exact enough.trans (Nat.le_succ _)
    | resume =>
        refine ⟨most, ?_⟩
        intro waits
        have waits : 1 < s.exec.backlog.length := waits
        have enough := tight (by omega)
        -- The pass uses up the completion that brought it, hence the one more on the right.
        have fewer := tunedCoreSize_mono valid.ordered (Nat.sub_le s.exec.backlog.length 1)
        simp only [supply, tally_cons, Frame.resuming] at enough ⊢
        change tunedCoreSize (s.exec.backlog.length - 1) config
          ≤ (held s.exec.pool).card + (0 + tally Frame.resuming rest) + 1
        omega
    | shutting => exact known.absurd rfl
  pass fit known step h := bounded_pass custody prompt valid fit known step h
  leave {refused rest s} _ _ h := by
    refine ⟨h.1, fun waits => (h.2 waits).trans_eq ?_⟩
    rw [supply, supply, tally_add, tally_discards Frame.resuming_spent, tally_cons]
    rfl
  quiet {o me f new rest s s'} _ known step h := by
    refine h.mono step.keeps.backlog (by rw [step.keeps.pool]) ?_
    simp only [supply, step.keeps.pool, tally_add, tally_cons, step.resuming known.alive]
  shutdown _ known _ := known.absurd rfl
  withdraw _ known _ _ := known.absurd rfl
  stop _ known _ _ := known.absurd rfl
  call {o c bag s} allowed _ h := by
    obtain ⟨work, reply, rfl⟩ := working.submits allowed
    exact h.mono rfl (Nat.le_refl _) (by simp [supply, Call.frame, Frame.resuming])
  finish {o job mode pool bag s} allowed yields _ h := by
    have given : (held s.exec.pool).card = (held pool).card + 1 := by
      rw [custody.yields yields, Multiset.card_cons]
    have resuming : (Frame.job job mode.acts).resuming = 1 := if_pos (working.completes allowed)
    refine h.mono rfl (by dsimp only; omega) ?_
    simp only [supply, tally_cons, resuming, given]
    omega
  finishReturned {o job mode before after bag s} _ split known _ := by
    rw [known.returned] at split
    simp at split
  pool {o pool bag s} moves _ h := by
    have same := custody.moves moves
    exact h.mono rfl (by rw [same]) (by simp only [supply, same])

/-- Whenever all threads are idle, a backlog has at least as many workers busy as it calls for, and
without a main thread never more are busy than the configuration allows. -/
theorem busy_between_bounds (working : rules.Working) (custody : Custody rules held)
    (prompt : Prompt rules held) {pool : σ} (empty : held pool = 0) {s : Scene σ ν}
    {y : System σ ν} (built : Scene.build config main pool = .ok s)
    (run : System.Reaches rules (.idle s) y) (last : rules.fit y.scene)
    (rest : ∀ t, y.threads.get t = []) :
    (0 < y.scene.exec.backlog.length → tunedCoreSize y.scene.exec.backlog.length config
        ≤ WorkerPool.activeCount y.scene.exec.pool) ∧
      (main = none → WorkerPool.activeCount y.scene.exec.pool ≤ config.maxCoreSize) := by
  have undisturbed : ∀ w, System.Reaches rules (.idle s) w →
      Undisturbed config main w.bag w.scene :=
    fun w before => undisturbed_reaches working.submits built before
  obtain ⟨valid, flight, rfl⟩ := Scene.build_ok built
  have valid := Config.valid_of_validate valid
  have free := holder_at_rest rfl run rest
  obtain ⟨most, tight⟩ := ((bounded_outline working custody prompt valid).reaches undisturbed rfl
    ⟨fun _ => by simp [empty], fun waits => absurd waits (Nat.lt_irrefl 0)⟩ run).1 free
  rw [System.bag_eq_zero rest, supply, tally_zero] at tight
  rw [prompt.counts last]
  exact ⟨tight, most⟩

end Runs

/-! ### A pool that is prompt, driven by hand -/

namespace Sample

/-- Runs that go on while the pool is prompt. -/
def prompt : Bounds Unit := .working fun s =>
  decide (s.exec.pool.shut = false ∧ s.exec.pool.reject = 0 ∧ s.exec.pool.active = .held ∧
    WorkerPool.queueLength s.exec.pool ≤ s.exec.config.maxQueueSize)

theorem prompt_rules :
    Prompt prompt.rules fun p : HandPool (Task Unit) => (p.held : Multiset (Task Unit)) where
  running fit := (of_decide_eq_true fit).1
  takes {s} t fit := by
    obtain ⟨running, accepting, -⟩ := of_decide_eq_true fit
    change (HandPool.offer t s.exec.pool).1 = none
    simp [HandPool.offer, running, accepting]
  counts {s} fit := by
    obtain ⟨-, -, counting, -⟩ := of_decide_eq_true fit
    change s.exec.pool.read s.exec.pool.active = _
    rw [counting]
    rfl
  queued fit := (of_decide_eq_true fit).2.2.2

/-- One worker while at most ten tasks wait, two beyond that, and three beyond a hundred. -/
def wideConfig : Config := ⟨1, 2, 3, 1, .ofSeconds 30, "worker", false⟩

def wideScene : Scene (HandPool (Task Unit)) Unit :=
  { exec := ⟨wideConfig, .new 1, [], none, .steady, none, none, 0, 0, 0, 0, none⟩
    alive := true, world := World.fresh.record (.created wideConfig), returned := [] }

theorem wideScene_built : Scene.build wideConfig none (.new 1) = .ok wideScene := rfl

end Sample

set_option maxRecDepth 8000 in
open Sample in
/-- Eleven waiting tasks make room for a second worker, and ten then wait. -/
theorem busy_between_bounds_raised :
    ∃ y, System.Reaches prompt.rules (.idle wideScene) y ∧ prompt.rules.fit y.scene ∧
      (∀ t, y.threads.get t = []) ∧ y.scene.exec.backlog.length = 10 ∧
      y.scene.exec.pool.held.map Task.id = [⟨1⟩, ⟨2⟩] ∧
      ((0 < y.scene.exec.backlog.length → tunedCoreSize y.scene.exec.backlog.length wideConfig
          ≤ WorkerPool.activeCount y.scene.exec.pool) ∧
        (none = (none : Option ThreadId) →
          WorkerPool.activeCount y.scene.exec.pool ≤ wideConfig.maxCoreSize)) := by
  have replayed : ∃ y, System.replay prompt (calls 1 12 (submit "a")
      ++ (List.replicate 10 (calls 1 10 (submit "b"))).flatten ++ calls 1 13 (submit "c"))
      (.idle wideScene) = some y ∧ prompt.fit y.scene = true ∧ y.threads.entries = [] ∧
        y.scene.exec.backlog.length = 10 ∧ y.scene.exec.pool.held.map Task.id = [⟨1⟩, ⟨2⟩] :=
    ⟨_, rfl, rfl, rfl, rfl, rfl⟩
  obtain ⟨y, replayed, last, quiet, waiting, holds⟩ := replayed
  have run := System.replay_reaches .refl replayed
  have rest := System.idle_of_entries quiet
  exact ⟨y, run, last, rest, waiting, holds, busy_between_bounds (Bounds.working_rules _)
    (HandPool.custody _) prompt_rules rfl wideScene_built run last rest⟩

end TwoTier
