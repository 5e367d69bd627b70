import TwoTier.Proofs.PoolNaturality
import TwoTier.Proofs.Schedules
import TwoTier.Service

/-!
Executors with workers, to somebody who does not hear how closures end.

Such an onlooker sees the whole pool, each job in its place, and everything that the executor and
its closures do (`Onlooker.deaf`). All endings are alike to it, and it misses the reports of panics.
What workers do, one by one or until they have settled, it sees as it is (`Service.play_muted`).
-/

namespace TwoTier

variable {ν : Type}

/-- The one ending that all endings are taken for. -/
def Ending.muted : Ending ν → Ending Unit := fun _ => .value ()

namespace Onlooker

/-- Somebody who hears neither how closures end nor what is reported. -/
def deaf : Onlooker (ThreadPool (Task ν)) ν (ThreadPool (Task Unit)) Unit where
  ending := Ending.muted
  pool := ThreadPool.map (Task.seen Ending.muted)
  sees e := !e.mayBeOverlooked

theorem deaf_sound : (deaf (ν := ν)).Sound where
  stale _ := rfl
  seen e plain := by simp [deaf, plain]
  value _ := ⟨(), rfl⟩
  panic _ := .inr ⟨⟨(), rfl⟩, fun _ _ => rfl⟩

theorem deaf_fair : (deaf (ν := ν)).Fair where
  isShutdown _ := rfl
  activeCount _ := rfl
  queueLength _ := List.length_map _
  coreSize _ := rfl
  setCoreSize n p := ThreadPool.setCoreSize_map _ p n
  shutdown := ThreadPool.shutdown_map _
  release := ThreadPool.shutdown_map _
  shutdownNow := ThreadPool.shutdownNow_map _

theorem deaf_offers (t : Task ν) (p : ThreadPool (Task ν)) : deaf.Offers t p := by
  have executed := ThreadPool.execute_map (Task.seen Ending.muted) p t
  have answer : WorkerPool.offer (deaf.task t) (deaf.pool p)
      = (ThreadPool.refusal (((p.map (Task.seen Ending.muted)).execute (t.seen Ending.muted)).1),
        ((p.map (Task.seen Ending.muted)).execute (t.seen Ending.muted)).2) := rfl
  rw [Offers, answer, executed]
  refine Prod.ext ?_ rfl
  change ThreadPool.refusal ((p.execute t).1.mapError _) = ThreadPool.refusal (p.execute t).1
  cases (p.execute t).1 <;> rfl

theorem deaf_offering (y : Service ν) : deaf.Offering y :=
  fun _ _ _ _ job _ _ _ => deaf_offers job _

end Onlooker

/-! ### Requests to a pool -/

namespace ThreadPool

/-- What the users of a pool may ask of it beside taking jobs. A stop is asked for in steps. -/
inductive Request where
  | setCoreSize (size : Nat)
  | setCoreTimeout (allowed : Bool)
  | shutdown
  | beginStop
  | drainOne
  | endStop

variable {J K : Type}

/-- The jobs that are handed back with a request, and the pool after it. Who needs the lock waits
while a stop holds it, and a stop ends when it finds the ready queue empty. -/
def request? (p : ThreadPool J) : Request → Option (List J × ThreadPool J)
  | .setCoreSize size => if p.stopping.isSome then none else some ([], p.setCoreSize size)
  | .setCoreTimeout allowed => some ([], { p with allowCoreTimeout := allowed })
  | .shutdown => if p.stopping.isSome then none else some ([], p.shutdown)
  | .beginStop => if p.stopping.isSome then none else some ([], p.beginStop)
  | .drainOne =>
    if p.stopping.isSome && !p.ready.isEmpty then some ([], p.drainOne) else none
  | .endStop => if p.stopping.isSome && p.ready.isEmpty then some p.endStop else none

theorem request?_map (f : J → K) (p : ThreadPool J) (r : Request) :
    (p.map f).request? r = (p.request? r).map fun (jobs, q) => (jobs.map f, q.map f) := by
  have stopping : (p.map f).stopping.isSome = p.stopping.isSome := Option.isSome_map
  cases r with
  | setCoreTimeout allowed => rfl
  | _ =>
      simp only [request?, stopping, isEmpty_ready_map, setCoreSize_map, shutdown_map,
        beginStop_map, drainOne_map, endStop_map]
      split <;> rfl

end ThreadPool

/-! ### Weights -/

section Weights

variable {μ σ σ' : Type} (f : Ending ν → Ending μ)

mutual

theorem Work.weight_map (w : Work ν) : (w.map f).weight = w.weight := by
  match w with
  | ⟨name, gated, thenSubmit, onDrop, ending⟩ =>
    rw [map, weight, weight, weights_mapAll thenSubmit, weights_mapAll onDrop]

theorem Work.weights_mapAll (ws : List (Work ν)) : weights (mapAll f ws) = weights ws := by
  match ws with
  | [] => rfl
  | w :: ws => rw [mapAll, weights, weights, w.weight_map, weights_mapAll ws]

end

theorem Work.weights_map (ws : List (Work ν)) : weights (ws.map (map f)) = weights ws := by
  rw [← mapAll_eq, weights_mapAll]

theorem Closure.weight_map (c : Closure ν) : (c.map f).weight = c.weight := by
  simp [weight, Work.weights_map]

theorem Task.weight_seen (t : Task ν) : (t.seen f).weight = t.weight := by
  rcases t with ⟨id, none | c, capture⟩
  · rfl
  · exact c.weight_map f

theorem Task.weights_seen (ts : List (Task ν)) : weights (ts.map (Task.seen f)) = weights ts := by
  simp [weights, Task.weight_seen]

namespace Onlooker

variable (o : Onlooker σ ν σ' μ)

theorem weight_frame (g : Frame ν) : (o.frame g).weight = g.weight := by
  cases g <;> simp [frame, Frame.weight, Work.weight_map, Work.weights_map, Closure.weight_map,
    Task.weight_seen, Task.weights_seen]

theorem weights_stack (stack : List (Frame ν)) :
    Frame.weights (stack.map o.frame) = Frame.weights stack := by
  simp [Frame.weights, weight_frame]

end Onlooker

theorem Service.phaseWeight_map (phase : Phase (Task ν)) :
    phaseWeight (phase.map (Task.seen (Ending.muted))) = phaseWeight phase := by
  cases phase <;> simp [phaseWeight, Phase.map, Task.weight_seen]

end Weights

/-! ### Workers that are seen -/

namespace Service

open Onlooker (deaf)

/-- The executor to somebody who does not hear how closures end. -/
abbrev muted (y : Service ν) : Service Unit := deaf.system y

variable (y : Service ν) (number : Nat)

theorem fuel_muted : fuel (muted y) = fuel y := by
  have ready : (muted y).pool.ready = y.pool.ready.map (Task.seen Ending.muted) := rfl
  have workers : (muted y).pool.workers
      = y.pool.workers.map (Worker.map (Task.seen Ending.muted)) := rfl
  have entries : (muted y).threads.entries
      = y.threads.entries.map fun e => (e.1, e.2.map deaf.frame) := rfl
  have backlog : (muted y).scene.exec.backlog
      = y.scene.exec.backlog.map (Task.seen Ending.muted) := rfl
  unfold fuel
  rw [ready, workers, entries, backlog]
  simp only [weigh_map, Task.weight_seen, Worker.map, phaseWeight_map, Onlooker.weights_stack]

theorem act_muted (act : WorkerAct) :
    act? number act (muted y) = (act? number act y).map muted := by
  have idle : ((muted y).threads.get (.worker number)).isEmpty
      = (y.threads.get (.worker number)).isEmpty := deaf.rests_system
  have pool : (muted y).pool = y.pool.map (Task.seen Ending.muted) := rfl
  unfold act?
  dsimp only
  rw [idle, pool, ThreadPool.act?_map, ThreadPool.phase?_map]
  split
  · rfl
  rw [Option.map_map, Option.map_map]
  refine Option.map_congr fun q _ => ?_
  have begins (job : Task ν) (acts : List JobAct) :=
    deaf.system_assign (y := withPool q y) (t := .worker number) [.job job acts]
  rcases y.pool.phase? number with _ | phase
  · cases act <;> rfl
  cases act with
  | begin =>
      cases phase with
      | assigned job => exact begins job [.run]
      | _ => rfl
  | count =>
      cases phase with
      | received job => exact begins job [.run]
      | _ => rfl
  | endRun =>
      cases phase with
      | running job => exact begins { job with closure := none } [.complete]
      | _ => rfl
  | _ => rfl

theorem workerStep_muted (w : Worker (Task ν)) :
    workerStep? (w.map (Task.seen Ending.muted)) (muted y) = (workerStep? w y).map muted := by
  have same : (w.map (Task.seen Ending.muted)).number = w.number := rfl
  have idle : ((muted y).threads.get (.worker w.number)).isEmpty
      = (y.threads.get (.worker w.number)).isEmpty := deaf.rests_system
  have next : ((muted y).pool.idleAct? (w.map (Task.seen Ending.muted))).bind
        (fun act => act? w.number act (muted y))
      = ((y.pool.idleAct? w).bind fun act => act? w.number act y).map muted := by
    have act : (muted y).pool.idleAct? (w.map (Task.seen Ending.muted)) = y.pool.idleAct? w :=
      ThreadPool.idleAct?_map _ y.pool w
    rw [act, Option.map_bind]
    exact Option.bind_congr fun act _ => act_muted y w.number act
  unfold workerStep?
  rw [same, idle]
  split
  · obtain ⟨number, phase⟩ := w
    cases phase with
    | running | completing => exact act_muted y number _
    | _ => exact next
  · exact deaf.turn_system Onlooker.deaf_sound Onlooker.deaf_fair (Onlooker.deaf_offering y)

theorem step_muted : step? (muted y) = (step? y).map muted := by
  have workers : (muted y).pool.workers
      = y.pool.workers.map (Worker.map (Task.seen Ending.muted)) := rfl
  unfold step?
  rw [workers, List.findSome?_map, List.map_findSome?]
  exact congrArg (fun h => List.findSome? h _) (funext fun w => workerStep_muted y w)

theorem settleFor_muted (n : Nat) : settleFor n (muted y) = muted (settleFor n y) := by
  induction n generalizing y with
  | zero => rfl
  | succ n ih =>
      unfold settleFor
      rw [step_muted]
      cases step? y with
      | none => rfl
      | some z => exact ih z

theorem settle_muted : settle (muted y) = muted (settle y) := by
  rw [settle, fuel_muted, settleFor_muted, settle]

/-! ### What workers and users of the pool may do -/

inductive PoolMove where
  | act (number : Nat) (act : WorkerAct)
  | request (r : ThreadPool.Request)
  /-- The workers go on until none can. -/
  | settle

/-- What comes of a move. Jobs that the pool hands back are left to callers. -/
def play : PoolMove → Service ν → Option (Service ν)
  | .act number act, y => act? number act y
  | .request r, y => (y.pool.request? r).map fun (jobs, pool) =>
      { y with scene := { y.scene with
          exec := { y.scene.exec with pool }, returned := y.scene.returned ++ jobs } }
  | .settle, y => some (settle y)

theorem play_muted (move : PoolMove) : play move (muted y) = (play move y).map muted := by
  cases move with
  | act number act => exact act_muted y number act
  | request r =>
      have pool : (muted y).pool = y.pool.map (Task.seen Ending.muted) := rfl
      simp only [play, pool, ThreadPool.request?_map, Option.map_map]
      refine Option.map_congr fun ⟨jobs, q⟩ _ => ?_
      simp [Onlooker.system, Onlooker.scene, Onlooker.buffer, deaf]
  | settle => exact congrArg some (settle_muted y)

end Service

end TwoTier
