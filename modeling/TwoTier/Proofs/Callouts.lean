import TwoTier.Proofs.Register

/-!
Where code runs that is not the executor's.

An executor calls code it knows nothing of: a closure when it is started or thrown away, the sink
when a scan finds slow tasks. Such code may submit again, so a pass that called it would wait for
its own lock, or begin another pass with a task in hand.

No pass does. A thread has the lock exactly while the top frame of its stack is one of a pass, and
under the top there is none (`System.Guarded`); the mark of a task in hand is set only while that
task is being offered (`marker_outline`). So whoever is called finds that its thread is in no pass,
and if no other thread is at work it finds the executor as a finished pass leaves it
(`callers_find_no_pass`).
-/

namespace TwoTier

variable {σ ν : Type}

namespace Frame

/-- The frames at which a thread runs code that is not the executor's, or is about to: closures that
are started, wait, end or are thrown away, and whatever makes a submission or another call; and
those at which a submission scans the register, for which it calls the sink. -/
def callsOut : Frame ν → Bool
  | .survey _ => true
  | f => !f.inLibrary

theorem inPass_of_callsOut {f : Frame ν} (out : f.callsOut = true) : f.inPass = false := by
  cases f with
  | survey => rfl
  | _ => simp_all [callsOut, inLibrary]

theorem inPass_of_not_engages {f : Frame ν} (loose : f.engages = false) : f.inPass = false := by
  cases f with
  | submit | job | completed | start | atGate | finish | discard | hangUp => rfl
  | _ => simp [engages] at loose

/-- The task that a pass is offering to the pool. -/
def offering : Frame ν → Option TaskId
  | .offer t _ _ => some t.id
  | _ => none

theorem offering_afterOffer (draining : Bool) (refused : List (Task ν)) :
    (Scene.afterOffer draining refused).offering = none := by
  cases draining <;> rfl

end Frame

/-- Code that is not the executor's runs on a thread: it is idle, or its next frame calls out. -/
def System.CallsOut (t : ThreadId) (y : System σ ν) : Prop :=
  ∀ f ∈ (y.threads.get t).head?, f.callsOut = true

/-! ### The lock -/

namespace System

/-- A thread has the lock exactly while its top frame is one of a pass, and under the top no frame
is. -/
structure Guarded (y : System σ ν) : Prop where
  holder : ∀ t, y.scene.exec.holder = some t ↔ ∃ f ∈ (y.threads.get t).head?, f.inPass = true
  below : ∀ t, ∀ f ∈ (y.threads.get t).tail, f.inPass = false

namespace Guarded

variable {t : ThreadId} {y z : System σ ν} {s : Scene σ ν} {stack : List (Frame ν)}

theorem idle (free : s.exec.holder = none) : Guarded (idle s) := by
  constructor <;> simp [System.idle, free]

/-- A thread that does not have the lock is inside no pass. -/
theorem outside (h : y.Guarded) (free : y.scene.exec.holder ≠ some t) :
    ∀ f ∈ y.threads.get t, f.inPass = false := by
  have below := h.below t
  have top := (h.holder t).not.mp free
  cases stack : y.threads.get t with
  | nil => simp
  | cons f under =>
      rw [stack] at below top
      refine List.forall_mem_cons.mpr ⟨?_, below⟩
      exact Bool.eq_false_iff.mpr fun inside => top ⟨f, rfl, inside⟩

/-- What other threads do not notice: they are outside passes before and after. -/
theorem set (h : y.Guarded) (others : ∀ u, u ≠ t → y.scene.exec.holder = some u →
      s.exec.holder = some u)
    (own : s.exec.holder = some t ↔ ∃ f ∈ stack.head?, f.inPass = true)
    (kept : ∀ u, u ≠ t → s.exec.holder = some u → y.scene.exec.holder = some u)
    (below : ∀ f ∈ stack.tail, f.inPass = false) : Guarded ⟨s, y.threads.set t stack⟩ := by
  constructor
  · intro u
    by_cases same : u = t
    · subst same
      rw [Stacks.get_set_self]
      exact own
    · rw [Stacks.get_set_of_ne same, ← h.holder u]
      exact ⟨kept u same, others u same⟩
  · intro u
    by_cases same : u = t
    · subst same
      rw [Stacks.get_set_self]
      exact below
    · rw [Stacks.get_set_of_ne same]
      exact h.below u

/-- A thread outside passes stays outside, and the lock with whoever has it. -/
theorem calm (h : y.Guarded) (free : y.scene.exec.holder ≠ some t)
    (holder : s.exec.holder = y.scene.exec.holder) (calm : ∀ f ∈ stack, f.inPass = false) :
    Guarded ⟨s, y.threads.set t stack⟩ := by
  refine h.set (fun u _ => holder.trans) ?_ (fun u _ => holder.symm.trans)
    fun f mem => calm f (List.mem_of_mem_tail mem)
  rw [holder]
  refine ⟨fun held => absurd held free, ?_⟩
  rintro ⟨f, mem, inside⟩
  rw [calm f (List.mem_of_mem_head? mem)] at inside
  contradiction

variable [WorkerPool σ (Task ν)]

theorem turn (h : y.Guarded) (turn : y.turn? t = some z) : z.Guarded := by
  obtain ⟨f, new, rest, top, step, threads, -⟩ := turn_stack turn
  obtain ⟨scene, after⟩ := z
  obtain rfl : after = y.threads.set t (new ++ rest) := threads
  have below := h.below t
  have holder := h.holder t
  rw [top] at below holder
  have stays (old : f.inPass = false) : y.scene.exec.holder ≠ some t := by
    intro held
    obtain ⟨g, mem, inside⟩ := holder.mp held
    obtain rfl := Option.some.inj mem
    rw [old] at inside
    contradiction
  -- While the thread has the lock nobody else has.
  have alone {u : ThreadId} {P : Prop} (old : f.inPass = true) (other : u ≠ t)
      (held : y.scene.exec.holder = some u) : P := by
    have own : y.scene.exec.holder = some t := holder.mpr ⟨f, rfl, old⟩
    exact absurd (Option.some.inj (held.symm.trans own)) other
  cases inside : f.inPass with
  | true =>
      rcases Scene.step_pass inside step with ⟨g, rfl, pass⟩ | ⟨refused, rfl, rfl, same⟩
      · have kept : scene.exec.holder = y.scene.exec.holder := pass.holder
        refine h.set (fun u other => alone inside other) ?_ (fun u other held => ?_) below
        · rw [kept]
          exact ⟨fun _ => ⟨g, rfl, pass.inPass⟩, fun _ => holder.mpr ⟨f, rfl, inside⟩⟩
        · exact kept.symm.trans held
      · obtain rfl : scene = _ := same
        have calm : ∀ g ∈ refused.map (fun t => Frame.job t []) ++ rest, g.inPass = false := by
          intro g mem
          rcases List.mem_append.mp mem with mem | mem
          · exact not_inPass_discards refused g mem
          · exact below g mem
        refine h.set (fun u other => alone inside other) ?_ (fun u _ held => ?_)
          fun g mem => calm g (List.mem_of_mem_tail mem)
        · refine ⟨fun held => by simp [Buffer.unlock] at held, ?_⟩
          rintro ⟨g, mem, inside⟩
          rw [calm g (List.mem_of_mem_head? mem)] at inside
          contradiction
        · simp [Buffer.unlock] at held
  | false =>
      cases waits : f.entersPass with
      | true =>
          obtain ⟨free, rfl, enter⟩ := Scene.step_enter waits step
          have taken : scene.exec.holder = some t := enter.holder
          refine h.set (fun u _ held => ?_) ⟨fun _ => ⟨.pass, rfl, rfl⟩, fun _ => taken⟩
            (fun u other held => ?_) below
          · rw [free] at held
            contradiction
          · exact absurd (Option.some.inj (held.symm.trans taken)) other
      | false =>
          have outside := Scene.step_outside inside waits step
          refine h.calm (stays inside) outside.holder fun g mem => ?_
          rcases List.mem_append.mp mem with mem | mem
          · exact outside.outside g mem
          · exact below g mem

theorem next {rules : Rules σ ν} (h : y.Guarded) (next : Next rules y z) : z.Guarded := by
  have apart {u : ThreadId} (idle : y.threads.get u = []) : y.scene.exec.holder ≠ some u := by
    intro held
    obtain ⟨f, mem, -⟩ := (h.holder u).mp held
    simp [idle] at mem
  cases next with
  | turn t turn => exact h.turn turn
  | call t c idle => exact h.calm (apart idle) rfl (by simpa using not_inPass_call c)
  | finish t job mode pool idle => exact h.calm (apart idle) rfl (by simp [Frame.inPass])
  | finishReturned t before after job mode idle =>
      exact h.calm (apart idle) rfl (by simp [Frame.inPass])
  | pool pool moved => exact ⟨h.holder, h.below⟩

end Guarded

end System

/-! ### The mark -/

section Mark

variable [WorkerPool σ (Task ν)] {rules : Rules σ ν} {me : ThreadId} {f g : Frame ν}
  {new : List (Frame ν)} {s s' : Scene σ ν}

theorem Scene.PassStep.handoff (h : PassStep me s f g s')
    (before : s.exec.handoff = f.offering) : s'.exec.handoff = g.offering := by
  cases h with
  | tuned active queued | untuned active queued =>
      have same : (s.retune active queued).2.exec.handoff = s.exec.handoff := by
        unfold Scene.retune
        dsimp only
        split <;> rfl
      exact same.trans before
  | empty none takes | takeHead head takes => cases takes <;> exact before
  | mark t draining refused => exact congrArg some (s.enterFlight_id t).symm
  | accepted t draining refused => exact (Frame.offering_afterOffer draining refused).symm
  | turnedDown t draining refused => exact (Frame.offering_afterOffer draining _).symm
  | _ => exact before

theorem Scene.QuietStep.handoff (h : QuietStep me s f new s') :
    s'.exec.handoff = s.exec.handoff := by
  cases h with
  | survey c =>
      change s.scan.2.exec.handoff = s.exec.handoff
      unfold Scene.scan
      cases s.exec.flight <;> rfl
  | _ => rfl

/-- The mark is that of the task which a pass is offering. -/
theorem marker_outline : Outline (σ := σ) (ν := ν) rules (fun _ _ => True)
    fun o _ s => s.exec.handoff = o.bind Frame.offering where
  enter _ _ step inv := by cases step <;> exact inv
  pass _ _ step inv := step.handoff inv
  leave _ _ inv := inv
  quiet _ _ step inv := step.handoff.trans inv
  shutdown _ _ inv := inv
  withdraw _ _ _ inv := inv
  stop _ _ _ inv := inv
  call _ _ inv := inv
  finish _ _ _ inv := inv
  finishReturned _ _ _ inv := inv
  pool _ _ inv := inv

end Mark

/-! ### Runs with scans, and to the executor's end -/

section Runs

variable [WorkerPool σ (Task ν)] {rules : Rules σ ν} {crew : ThreadId → Prop}
  {known inv : Multiset (Frame ν) → Scene σ ν → Prop} {s : Scene σ ν} {t : ThreadId}
  {x y z : System σ ν}

namespace System

/-- The last holder lets the executor go, and its thread throws the backlog away. -/
def forsaken (t : ThreadId) (y : System σ ν) : System σ ν :=
  y.letGo.interrupt t (y.scene.exec.backlog.map fun job => .job job FinishMode.dropOnly.acts)

/-- Runs in which only the threads of a crew ever have business. Whoever is outside the executor may
scan the register, and the last holder may let the executor go. -/
inductive Roams (rules : Rules σ ν) (crew : ThreadId → Prop) (x : System σ ν) :
    System σ ν → Prop where
  | refl : Roams rules crew x x
  | next {y z : System σ ν} : Roams rules crew x y → rules.fit y.scene → Next rules y z →
      (∀ t, ¬ crew t → z.threads.get t = []) → Roams rules crew x z
  | scan {y : System σ ν} (t : ThreadId) : Roams rules crew x y → y.CallsOut t →
      Roams rules crew x y.scanned
  | letGo {y : System σ ν} (t : ThreadId) : Roams rules crew x y → crew t →
      (∀ u, ∀ f ∈ y.threads.get u, f.engages = false) → Roams rules crew x (y.forsaken t)

/-- A run of one thread is such a run. -/
theorem Alone.roams {me : ThreadId} (before : Roams rules (· = me) x y)
    (run : Alone rules me y z) : Roams rules (· = me) x z := by
  induction run with
  | refl => exact before
  | tail _ fit next only ih => exact ih.next fit next only

theorem bag_forsaken : (y.forsaken t).bag
    = ↑(y.scene.exec.backlog.map fun job => Frame.job job []) + y.bag :=
  bag_interrupt t _ _

theorem Guarded.roams (start : x.Guarded) (run : Roams rules crew x y) : y.Guarded := by
  induction run with
  | refl => exact start
  | next _ _ next _ ih => exact ih.next next
  | scan t _ _ ih =>
      refine ⟨fun t => ?_, ih.below⟩
      rw [System.scanned, (Scene.keeps_scan _).holder]
      exact ih.holder t
  | @letGo y t _ _ free ih =>
      have calm {u : ThreadId} : ∀ f ∈ y.threads.get u, f.inPass = false := fun f mem =>
        Frame.inPass_of_not_engages (free u f mem)
      refine ih.calm (s := y.letGo.scene) (fun held => ?_) rfl fun f mem => ?_
      · obtain ⟨f, mem, inside⟩ := (ih.holder t).mp held
        rw [calm f (List.mem_of_mem_head? mem)] at inside
        contradiction
      · rcases List.mem_append.mp mem with mem | mem
        · exact not_inPass_discards y.scene.exec.backlog f mem
        · exact calm f mem

end System

/-- An invariant of runs of turns and calls is one of these if a scan keeps it, and the end of the
executor. -/
theorem Upheld.roams (up : Upheld rules known inv)
    (steady : ∀ {bag s}, inv bag s → inv bag (Scene.scan s).2)
    (ends : ∀ {y : System σ ν} {t}, inv y.bag y.scene → inv (y.forsaken t).bag y.letGo.scene)
    (basis : ∀ {w}, System.Roams rules crew x w → known w.bag w.scene)
    (start : inv x.bag x.scene) (run : System.Roams rules crew x y) : inv y.bag y.scene := by
  induction run with
  | refl => exact start
  | next before fit next _ ih => exact up.next fit (basis before) ih next
  | scan _ _ _ ih => exact steady ih
  | letGo _ _ _ _ ih => exact ends ih

theorem exclusive_roams (free : s.exec.holder = none)
    (run : System.Roams rules crew (.idle s) y) : Exclusive y.bag y.scene := by
  refine exclusive_upheld.roams ?_ ?_ (fun _ => trivial)
    (.of_no_pass free (by simp [System.bag_idle])) run
  · intro bag s alone
    rwa [Exclusive, (Scene.keeps_scan s).holder]
  · intro y t alone
    rw [System.bag_forsaken]
    refine Exclusive.congr (s := y.scene) 0 _ (by simpa using alone) rfl (by simp) ?_
    exact fun g mem => not_inPass_discards _ g (Multiset.mem_coe.mp mem)

/-- An outline of scenes alone holds in these runs if a scan keeps it, and the end of the executor.
-/
theorem Outline.roams {P : Option (Frame ν) → Scene σ ν → Prop}
    (out : Outline rules (fun _ _ => True) fun o _ => P o)
    (steady : ∀ {o s}, P o s → P o (Scene.scan s).2)
    (ends : ∀ {o} {y : System σ ν}, P o y.scene → P o y.letGo.scene)
    (free : s.exec.holder = none) (start : P none s) (run : System.Roams rules crew (.idle s) y) :
    Assertion.Stands (fun o _ => P o) y.bag y.scene := by
  refine out.upheld.roams ?_ ?_ (fun before => ⟨exclusive_roams free before, trivial⟩)
    ⟨fun _ => start, by simp [System.bag_idle]⟩ run
  · intro bag s stands
    rw [Assertion.Stands, (Scene.keeps_scan s).holder]
    exact ⟨fun free => steady (stands.1 free), fun f mem inside => steady (stands.2 f mem inside)⟩
  · intro y t stands
    refine ⟨fun free => ends (stands.1 free), fun f mem inside => ?_⟩
    rw [System.bag_forsaken] at mem
    rcases Multiset.mem_add.mp mem with mem | mem
    · rw [not_inPass_discards _ f (Multiset.mem_coe.mp mem)] at inside
      contradiction
    · exact ends (stands.2 f mem inside)

theorem marker_roams (free : s.exec.holder = none) (unmarked : s.exec.handoff = none)
    (run : System.Roams rules crew (.idle s) y) :
    Assertion.Stands (fun o _ s => s.exec.handoff = o.bind Frame.offering) y.bag y.scene := by
  refine marker_outline.roams (fun {o s} inv => ?_) id free unmarked run
  have same : s.scan.2.exec.handoff = s.exec.handoff := by
    unfold Scene.scan
    cases s.exec.flight <;> rfl
  exact same.trans inv

theorem counted_roams (free : s.exec.holder = none) (start : Counted s)
    (run : System.Roams rules crew (.idle s) y) : Counted y.scene := by
  have stands : Assertion.Stands (fun _ _ => Counted) y.bag y.scene := by
    refine counted_outline.roams (fun {o s} counted => ?_)
      (fun counted => counted.of_eq rfl rfl rfl rfl rfl) free start run
    have same : s.scan.2.exec.admitted = s.exec.admitted ∧
        s.scan.2.exec.rejected = s.exec.rejected := by
      unfold Scene.scan
      cases s.exec.flight <;> exact ⟨rfl, rfl⟩
    exact counted.of_eq same.1 same.2 (Scene.dropped_scan s) (Scene.keeps_scan s).offers
      (Scene.marks_scan (fun _ => rfl) s)
  obtain ⟨-, counted⟩ := stands.due (exclusive_roams free run)
  exact counted

/-! ### The register in these runs -/

theorem Scene.step_alive {f : Frame ν} {new : List (Frame ν)} {s' : Scene σ ν}
    (h : s.step t f = some (new, s')) : s'.alive = s.alive := by
  cases step_cases h with
  | pass pass => exact pass.setting.1
  | leave => rfl
  | enter _ enter => cases enter <;> rfl
  | outside outside =>
      cases outside with
      | quiet quiet => exact quiet.keeps.alive
      | shutdown | withdraw | stop => rfl

/-- Nobody but its last holder lets the executor go, and a register is kept from the start or
never. -/
theorem System.Next.setting (next : Next rules y z) : z.scene.alive = y.scene.alive ∧
    (y.scene.exec.flight = none → z.scene.exec.flight = none) := by
  cases next with
  | turn t turn =>
      obtain ⟨f, new, rest, -, step, -⟩ := turn_stack turn
      refine ⟨Scene.step_alive step, fun off => ?_⟩
      have register := Scene.step_register step
      rw [off] at register
      generalize z.scene.exec.flight = after at register
      cases register <;> rfl
  | _ => exact ⟨rfl, id⟩

namespace System.Roams

/-- Who has business belongs to the crew. -/
theorem crewed (idle : ∀ t, x.threads.get t = []) (run : Roams rules crew x y)
    (busy : y.threads.get t ≠ []) : crew t := by
  induction run with
  | refl => exact absurd (idle t) busy
  | next _ _ _ others => exact not_imp_comm.mp (others t) busy
  | scan _ _ _ ih => exact ih busy
  | @letGo y u _ member _ ih =>
      by_cases own : t = u
      · rwa [own]
      · exact ih (by rwa [← Stacks.get_set_of_ne own])

/-- Without diagnostics there is no register. -/
theorem unkept (off : x.scene.exec.flight = none) (run : Roams rules crew x y) :
    y.scene.exec.flight = none := by
  induction run with
  | refl => exact off
  | next _ _ next _ ih => exact next.setting.2 ih
  | @scan y t _ _ ih =>
      obtain ⟨now, flight⟩ := y.scene.flight_scan
      rw [scanned, flight, ih]
      rfl
  | letGo => rfl

/-- There is none either once the executor is gone. -/
theorem gone (start : x.scene.alive = true) (run : Roams rules crew x y)
    (gone : y.scene.alive = false) : y.scene.exec.flight = none := by
  induction run with
  | refl => simp [start] at gone
  | next _ _ next _ ih => exact next.setting.2 (ih (next.setting.1.symm.trans gone))
  | @scan y t _ _ ih =>
      obtain ⟨now, flight⟩ := y.scene.flight_scan
      rw [scanned, flight, ih ((Scene.keeps_scan _).alive.symm.trans gone)]
      rfl
  | letGo => rfl

/-- While the executor is there, a run of one thread is one under diagnostics. -/
theorem watched {me : ThreadId} (sole : ∀ t, crew t → t = me) (run : Roams rules crew x y)
    (alive : y.scene.alive = true) : ∃ trail n, Watched rules me x trail n y := by
  induction run with
  | refl => exact ⟨[], 0, .refl⟩
  | @next y z _ fit next idle ih =>
      obtain ⟨trail, n, before⟩ := ih (next.setting.1.symm.trans alive)
      have only : z.Only me := fun t other => idle t fun member => other (sole t member)
      exact ⟨_, n, before.next fit next only⟩
  | scan _ _ _ ih =>
      obtain ⟨trail, n, before⟩ := ih ((Scene.keeps_scan _).alive.symm.trans alive)
      exact ⟨trail, _, before.scan⟩
  | letGo => contradiction

end System.Roams

/-! ### What a callee finds -/

variable {knows : σ → TaskId → Prop} {config : Config} {main : Option ThreadId} {pool : σ}
  {me : ThreadId}

/-- While the lock is free, a register that is kept has the tasks that the pool has taken and nobody
has completed. -/
theorem register_roams (faithful : Faithful rules knows) (new : ∀ id, ¬ knows pool id)
    (built : Scene.build config main pool = .ok s) (sole : ∀ t, crew t → t = me)
    (run : System.Roams rules crew (.idle s) y) (free : y.scene.exec.holder = none) :
    ∀ r, y.scene.exec.flight = some r → r.taskIds.Perm y.scene.world.outstanding := by
  intro r kept
  have alive : y.scene.alive = true := by
    by_contra gone
    have started : s.alive = true := by
      obtain ⟨-, -, rfl⟩ := Scene.build_ok built
      rfl
    have none := run.gone started (Bool.eq_false_iff.mpr gone)
    rw [kept] at none
    contradiction
  have debug : config.debug = true := by
    by_contra off
    have none := run.unkept ((Scene.build_flight built).trans (if_neg off))
    rw [kept] at none
    contradiction
  obtain ⟨trail, n, watched⟩ := run.watched sole alive
  have recorded := ((recorded_watched faithful new debug built watched).1 free).entries
  rw [Scene.recorded, kept, Option.map_some, Option.elim_none, List.append_nil] at recorded
  rw [← Option.some.inj recorded]
  exact r.taskIds_perm

/-- Over any pool that keeps the jobs it is offered and gives up and hands back only what it has
taken: a thread that starts a closure, throws one away or calls the sink does not have the lock and
is inside no pass, whatever other threads do. A pass that is about to hand a task over finds the
mark clear. And when there is one thread only, whoever it calls finds the lock free, the mark clear,
no pass under way anywhere, and the counters and the register as the journal has them, so that a
submission made there finds every earlier pass finished. -/
theorem callers_find_no_pass (faithful : Faithful rules knows) (new : ∀ id, ¬ knows pool id)
    (built : Scene.build config main pool = .ok s) (run : System.Roams rules crew (.idle s) y) :
    (∀ t, y.CallsOut t → y.scene.exec.holder ≠ some t ∧
      ∀ f ∈ y.threads.get t, f.inPass = false) ∧
    (∀ t task draining refused under,
      y.threads.get t = .handOver task draining refused :: under → y.scene.exec.handoff = none) ∧
    ∀ me, (∀ t, crew t → t = me) → y.CallsOut me →
      y.scene.exec.holder = none ∧ y.scene.exec.handoff = none ∧
      (∀ f ∈ y.bag, f.inPass = false) ∧ Counted y.scene ∧
      ∀ r, y.scene.exec.flight = some r → r.taskIds.Perm y.scene.world.outstanding := by
  have start : s.exec.holder = none ∧ s.exec.handoff = none ∧ Counted s := by
    obtain ⟨-, -, rfl⟩ := Scene.build_ok built
    exact ⟨rfl, rfl, ⟨rfl, rfl, rfl⟩⟩
  obtain ⟨unlocked, unmarked, uncounted⟩ := start
  have guarded := (System.Guarded.idle unlocked).roams run
  have marker := marker_roams unlocked unmarked run
  have away {t : ThreadId} (out : y.CallsOut t) : y.scene.exec.holder ≠ some t := by
    intro held
    obtain ⟨f, mem, inside⟩ := (guarded.holder t).mp held
    rw [Frame.inPass_of_callsOut (out f mem)] at inside
    contradiction
  refine ⟨fun t out => ⟨away out, guarded.outside (away out)⟩, ?_, fun me sole out => ?_⟩
  · intro t task draining refused under top
    have own : Frame.handOver task draining refused ∈ y.threads.get t := by simp [top]
    exact marker.2 _ (Multiset.mem_coe.mpr (Stacks.mem_of_find own)) rfl
  · have calm : ∀ f ∈ y.bag, f.inPass = false := by
      intro f mem
      obtain ⟨t, own⟩ := Stacks.get_of_mem_frames (Multiset.mem_coe.mp mem)
      obtain rfl : t = me := sole t (run.crewed (fun _ => rfl) (List.ne_nil_of_mem own))
      exact guarded.outside (away out) f own
    have free : y.scene.exec.holder = none := by
      by_contra held
      obtain ⟨f, mem, inside⟩ := (exclusive_roams unlocked run).exists_pass held
      rw [calm f mem] at inside
      contradiction
    exact ⟨free, marker.1 free, calm, counted_roams unlocked uncounted run,
      register_roams faithful new built sole run free⟩

end Runs

open Sample in
/-- The pool has one task and another waits. The first task runs and submits a third, upon which the
pool refuses the second. When that is thrown away, under the closure that still runs, the pass is
over: the refusal is counted and the register has the first task only. -/
theorem callers_find_no_pass_at_refusal :
    ∃ y c under, System.Roams (Bounds.none (ν := Unit)).rules (· = .caller 1) (.idle debugScene) y ∧
      y.threads.get (.caller 1) = .discard c :: under ∧ c.work = heir ∧ under.length = 2 ∧
      y.scene.exec.rejected = 1 ∧ y.scene.world.outstanding = [⟨1⟩] ∧
      ((∀ t, y.CallsOut t → y.scene.exec.holder ≠ some t ∧
          ∀ f ∈ y.threads.get t, f.inPass = false) ∧
        (∀ t task draining refused under,
          y.threads.get t = .handOver task draining refused :: under →
            y.scene.exec.handoff = none) ∧
        ∀ me, (∀ t, t = .caller 1 → t = me) → y.CallsOut me →
          y.scene.exec.holder = none ∧ y.scene.exec.handoff = none ∧
          (∀ f ∈ y.bag, f.inPass = false) ∧ Counted y.scene ∧
          ∀ r, y.scene.exec.flight = some r → r.taskIds.Perm y.scene.world.outstanding) := by
  have replayed : ∃ w x y c under,
      System.replay .none (calls 1 12 (.submit parent none)) (.idle debugScene) = some w ∧
      System.replay .none (calls 1 10 (.submit heir none)) w = some x ∧
      System.replay .none (.refuse 1 :: .finish (.caller 1) 0 .runComplete ::
        Act.turns (.caller 1) 16) x = some y ∧
      y.threads.get (.caller 1) = .discard c :: under ∧ c.work = heir ∧ under.length = 2 ∧
      y.scene.exec.rejected = 1 ∧ y.scene.world.outstanding = [⟨1⟩] :=
    ⟨_, _, _, _, _, rfl, rfl, rfl, rfl, rfl, rfl, rfl, rfl⟩
  obtain ⟨w, x, y, c, under, first, second, finish, top, work, depth, rejected, outstanding⟩ :=
    replayed
  have idle := System.only_idle (.caller 1) debugScene
  have taken := System.replay_alone (by decide) .refl idle first
  have waits := System.replay_alone (by decide) taken (taken.only idle) second
  have finishes := System.replay_alone (by decide) waits (waits.only idle) finish
  have run := System.Alone.roams .refl finishes
  exact ⟨y, c, under, run, top, work, depth, rejected, outstanding,
    callers_find_no_pass (HandPool.faithful _) (by simp [HandPool.new]) debugScene_built run⟩

end TwoTier
