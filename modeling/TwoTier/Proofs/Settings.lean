import TwoTier.Proofs.Custody
import TwoTier.Proofs.ServiceSteps
import TwoTier.Proofs.Traces

/-!
What an executor keeps of the configuration that it was made with.

The configuration itself stays with the executor. Of the rest, the pool keeps its name, its
keep-alive, the bound of its ready queue and that of its workers (`ThreadPool.fittings`), and the
register of tasks in flight keeps its threshold; the core size is all that is ever set anew. So an
executor made for a configuration still has all that (`Scene.Shaped`) after any call, whatever its
workers do meanwhile.
-/

namespace TwoTier

namespace ThreadPool

variable {J : Type} {p q : ThreadPool J}

/-- What a pool is made with for good. -/
structure Fittings where
  name : String
  keepAlive : Duration
  capacity : Nat
  maxSize : Nat

def fittings (p : ThreadPool J) : Fittings := ⟨p.name, p.keepAlive, p.capacity, p.maxSize⟩

/-- Those of the pool of an executor. -/
def Fittings.ofConfig (config : Config) : Fittings :=
  ⟨config.threadName, config.keepAlive, config.maxQueueSize, wordMax⟩

theorem aloof_fittings : Aloof (J := J) fittings := fun _ _ _ _ _ _ => rfl

theorem fittings_retire (number : Nat) (p : ThreadPool J) :
    (p.retire number).fittings = p.fittings := aloof_fittings.tryTerminate _

theorem fittings_setCoreSize (size : Nat) (p : ThreadPool J) :
    (p.setCoreSize size).fittings = p.fittings :=
  setCoreSize_same (f := fittings) (fun _ _ _ _ _ _ => rfl) size p

theorem Executes.fittings {job : J} {r : Except (RejectedJob J) Unit} (h : Executes job p r q) :
    q.fittings = p.fittings := by
  cases h <;> rfl

theorem Acts.fittings {number : Nat} {act : WorkerAct} (h : Acts number p act q) :
    q.fittings = p.fittings := by
  cases h with
  | halt | expire | leave => exact fittings_retire number p
  | _ => rfl

theorem fittings_lasting {ν : Type} (f : Fittings) :
    Lasting fun p : ThreadPool (Task ν) => p.fittings = f where
  offer t _ same := (executed t _).fittings.trans same
  setCoreSize n _ same := (fittings_setCoreSize n _).trans same
  shutdown same := (aloof_fittings.shutdown _).trans same
  shutdownNow same := (aloof_fittings.shutdownNow _).trans same

end ThreadPool

variable {ν : Type}

theorem RegisterStep.threshold {f : Frame ν}
    {flight after : Option (FlightRecorder (Option Capture))} (h : RegisterStep flight f after) :
    after.map FlightRecorder.threshold = flight.map FlightRecorder.threshold := by
  cases h with
  | scanned | entered | erased => exact Option.map_map ..
  | kept => rfl

theorem Scene.step_config {σ : Type} [WorkerPool σ (Task ν)] {me : ThreadId} {f : Frame ν}
    {new : List (Frame ν)} {s s' : Scene σ ν} (h : s.step me f = some (new, s')) :
    s'.exec.config = s.exec.config := by
  cases step_cases h with
  | pass pass => exact pass.setting.2.1
  | leave => rfl
  | enter _ enter => cases enter <;> rfl
  | outside outside =>
      cases outside with
      | quiet quiet => exact quiet.keeps.config
      | shutdown | withdraw | stop => rfl

/-! ### Executors -/

/-- An executor has the settings of a configuration. -/
structure Scene.Shaped (config : Config) (s : Scene (ThreadPool (Task ν)) ν) : Prop where
  own : s.exec.config = config
  pool : s.exec.pool.fittings = .ofConfig config
  register : s.exec.flight.map FlightRecorder.threshold =
    if config.debug then some config.keepAlive else none

namespace Scene.Shaped

variable {config : Config} {me : ThreadId} {f : Frame ν} {new : List (Frame ν)}
  {s s' : Scene (ThreadPool (Task ν)) ν}

theorem step (h : Shaped config s) (step : s.step me f = some (new, s')) : Shaped config s' where
  own := (step_config step).trans h.own
  pool := (ThreadPool.fittings_lasting _).step step h.pool
  register := (step_register step).threshold.trans h.register

theorem run (fuel : Nat) (stack : List (Frame ν)) (h : Shaped config s) :
    Shaped config (s.run me fuel stack).2 := by
  induction fuel generalizing s stack with
  | zero => exact h
  | succ fuel ih =>
      cases stack with
      | nil => exact h
      | cons f stack =>
          unfold Scene.run
          cases took : s.step me f with
          | none => exact h
          | some next => exact ih (next.1 ++ stack) (h.step took)

theorem withPool {pool : ThreadPool (Task ν)} (h : Shaped config s)
    (same : pool.fittings = s.exec.pool.fittings) :
    Shaped config { s with exec := { s.exec with pool } } :=
  ⟨h.own, same.trans h.pool, h.register⟩

end Scene.Shaped

namespace Service

variable {config : Config} {y z : Service ν}

theorem act?_shaped {number : Nat} {act : WorkerAct} (h : y.scene.Shaped config)
    (step : act? number act y = some z) : z.scene.Shaped config := by
  obtain ⟨-, step⟩ := acted step
  generalize (y.pool.begins? number act).toList = more at step
  cases step with
  | begin _ did | count _ did | endRun _ did | other _ did =>
      exact h.withPool (ThreadPool.acts did).fittings

theorem step?_shaped (h : y.scene.Shaped config) (step : y.step? = some z) :
    z.scene.Shaped config := by
  obtain ⟨w, -, did⟩ := List.exists_of_findSome?_eq_some step
  unfold workerStep? at did
  split at did
  · split at did
    · exact act?_shaped h did
    · exact act?_shaped h did
    · obtain ⟨act, -, did⟩ := Option.bind_eq_some_iff.mp did
      exact act?_shaped h did
  · obtain ⟨f, new, rest, -, took, -⟩ := System.turn_stack did
    exact h.step took

theorem settleFor_shaped (fuel : Nat) (h : y.scene.Shaped config) :
    (settleFor fuel y).scene.Shaped config := by
  induction fuel generalizing y with
  | zero => exact h
  | succ fuel ih =>
      unfold settleFor
      cases took : y.step? with
      | none => exact h
      | some z => exact ih (step?_shaped h took)

/-- Work that is handed in leaves the settings alone, and so does all that comes of it. -/
theorem execute_shaped (me : ThreadId) (work : Work ν) (reply : Option Nat)
    (h : y.scene.Shaped config) : (Executor.execute me work reply y).2.scene.Shaped config := by
  refine settleFor_shaped _ ?_
  exact h.run _ _

theorem make?_shaped {main : Option ThreadId} (made : make? config main = some (.ok y)) :
    y.scene.Shaped config := by
  obtain ⟨-, s, built, rfl⟩ := make?_ok made
  have register : s.exec.flight.map FlightRecorder.threshold
      = if config.debug then some config.keepAlive else none := by
    rw [Scene.build_flight built]
    split <;> rfl
  obtain ⟨-, flight, rfl⟩ := Scene.build_ok built
  exact ⟨rfl, rfl, register⟩

end Service

end TwoTier
