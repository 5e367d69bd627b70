import TwoTier.Buffer.Step
import TwoTier.Weigh

/-!
One thread, alone, to its end.

`Scene.run` takes the steps of a thread until its stack is empty or it must wait. Every step makes
the thread lighter: a frame's weight bounds the steps that it and the frames after it can still
cause, and a task in the backlog counts too, since a pass may throw it away
(`Scene.weight_step_lt`). So as many steps as the thread weighs are enough, and a thread that
stops with work left is one that must wait (`Scene.run_rests`).
-/

namespace TwoTier

variable {σ ν : Type}

mutual

/-- What a piece of work weighs, with all that it may submit. -/
def Work.weight (w : Work ν) : Nat :=
  match w with
  | ⟨_, _, thenSubmit, onDrop, _⟩ => 40 + weights thenSubmit + weights onDrop

def Work.weights (ws : List (Work ν)) : Nat :=
  match ws with
  | [] => 0
  | w :: ws => w.weight + weights ws

end

def Closure.weight (c : Closure ν) : Nat :=
  6 + Work.weights c.work.thenSubmit + Work.weights c.work.onDrop

def Task.weight (t : Task ν) : Nat := (t.closure.map Closure.weight).getD 0

/-- What tasks weigh whose jobs are to be thrown away. -/
def Task.weights (ts : List (Task ν)) : Nat := weigh (fun t => 1 + t.weight) ts

def Frame.weight : Frame ν → Nat
  | .submit work _ => work.weight
  | .arrive c => 32 + c.weight
  | .survey c => 31 + c.weight
  | .push t => 30 + t.weight
  | .enter => 18
  | .enterShutdown => 18
  | .pass => 17
  | .drain refused => 10 + Task.weights refused
  | .bypass => 12
  | .readActive => 16
  | .readQueued _ => 15
  | .retune _ _ => 14
  | .setCore _ _ _ => 13
  | .decide _ _ _ => 12
  | .handOver t _ refused => 15 + t.weight + Task.weights refused
  | .offer t _ refused => 14 + t.weight + Task.weights refused
  | .leave refused => 1 + Task.weights refused
  | .job t acts => 1 + t.weight + 24 * acts.length
  | .completed _ => 19
  | .start c => 5 + Work.weights c.work.thenSubmit
  | .atGate c => 4 + Work.weights c.work.thenSubmit
  | .finish _ => 1
  | .discard c => 4 + Work.weights c.work.onDrop
  | .hangUp _ => 1
  | .shutdown => 19
  | .shutdownNow => 2
  | .stopPool _ => 1

def Frame.weights (fs : List (Frame ν)) : Nat := weigh Frame.weight fs

/-- What the waiting tasks weigh. -/
def Buffer.weight (b : Buffer σ ν) : Nat := weigh (fun t => 8 + t.weight) b.backlog

namespace Scene

variable [WorkerPool σ (Task ν)]

/-- Takes at most `fuel` steps of thread `me` and gives the frames that are left. -/
def run (me : ThreadId) : Nat → List (Frame ν) → Scene σ ν → List (Frame ν) × Scene σ ν
  | 0, stack, s => (stack, s)
  | _ + 1, [], s => ([], s)
  | fuel + 1, frame :: stack, s =>
    match s.step me frame with
    | none => (frame :: stack, s)
    | some (new, s') => run me fuel (new ++ stack) s'

/-- A call by thread `me`, taken as far as it goes. -/
def call (me : ThreadId) (stack : List (Frame ν)) (s : Scene σ ν) : List (Frame ν) × Scene σ ν :=
  s.run me (Frame.weights stack + s.exec.weight) stack

end Scene

/-! ### Weights -/

section Weights

theorem Frame.weights_append (fs gs : List (Frame ν)) :
    weights (fs ++ gs) = weights fs + weights gs := by
  simp [weights]

theorem Frame.weights_submitAll (ws : List (Work ν)) :
    weights (submitAll ws) = Work.weights ws := by
  induction ws with
  | nil => rfl
  | cons w ws ih => simpa [weights, submitAll, weight, Work.weights] using ih

theorem Frame.weights_discardAll (ts : List (Task ν)) :
    weights (ts.map fun t => Frame.job t []) = Task.weights ts := by
  simp [weights, Task.weights, weight]

theorem Task.weights_append_one (ts : List (Task ν)) (t : Task ν) :
    weights (ts ++ [t]) = weights ts + (1 + t.weight) := by
  simp [weights]

theorem Work.weight_eq (w : Work ν) :
    w.weight = 40 + weights w.thenSubmit + weights w.onDrop := by
  cases w; rfl

end Weights

namespace Scene

theorem scan_backlog (s : Scene σ ν) : s.scan.2.exec.backlog = s.exec.backlog := by
  unfold scan; split <;> rfl

theorem makeTask_weight (c : Closure ν) (s : Scene σ ν) :
    (s.makeTask c).1.weight = c.weight := rfl

theorem makeTask_exec (c : Closure ν) (s : Scene σ ν) : (s.makeTask c).2.exec = s.exec := rfl

theorem enterFlight_weight (t : Task ν) (s : Scene σ ν) :
    (s.enterFlight t).1.weight = t.weight := by
  unfold enterFlight; split <;> rfl

theorem enterFlight_backlog (t : Task ν) (s : Scene σ ν) :
    (s.enterFlight t).2.exec.backlog = s.exec.backlog := by
  unfold enterFlight; split <;> rfl

theorem takeHead_weight_lt (draining : Bool) (refused : List (Task ν)) (s : Scene σ ν) (k : Nat)
    (hk : 9 < k) :
    Frame.weights (s.takeHead draining refused).1 + (s.takeHead draining refused).2.exec.weight
      < k + Task.weights refused + s.exec.weight := by
  unfold takeHead
  split <;> rename_i h <;> simp [Frame.weights, Frame.weight, Buffer.weight, h] <;> omega

variable [WorkerPool σ (Task ν)]

theorem offer_weight_lt (t : Task ν) (draining : Bool) (refused : List (Task ν))
    (s : Scene σ ν) :
    Frame.weights (s.offer t draining refused).1 + (s.offer t draining refused).2.exec.weight
      < 14 + t.weight + Task.weights refused + s.exec.weight := by
  unfold offer
  split <;> cases draining <;>
    simp [afterOffer, Frame.weights, Frame.weight, Buffer.weight, Buffer.forget,
      Task.weights_append_one] <;> omega

theorem retune_weight_lt (active queued : Nat) (s : Scene σ ν) :
    Frame.weights (s.retune active queued).1 + (s.retune active queued).2.exec.weight
      < 14 + s.exec.weight := by
  unfold retune
  dsimp only
  split <;> split <;> simp [Frame.weights, Frame.weight, Buffer.weight]

omit [WorkerPool σ (Task ν)] in
/-- A thread that enters the critical section comes to weigh what the section does. -/
theorem locking_weight_lt {me : ThreadId} {s : Scene σ ν} {r : List (Frame ν) × Scene σ ν}
    {go : Scene σ ν → List (Frame ν) × Scene σ ν} {k : Nat} (h : s.locking me go = some r)
    (lighter : ∀ t, t.exec.weight = s.exec.weight →
      Frame.weights (go t).1 + (go t).2.exec.weight < k + s.exec.weight) :
    Frame.weights r.1 + r.2.exec.weight < k + s.exec.weight := by
  unfold locking at h
  split at h
  · contradiction
  · cases h
    exact lighter _ rfl

theorem job_weight_lt {me : ThreadId} {s : Scene σ ν} {r : List (Frame ν) × Scene σ ν}
    {t : Task ν} {acts : List JobAct} (h : s.step me (.job t acts) = some r) :
    Frame.weights r.1 + r.2.exec.weight < (Frame.job t acts).weight + s.exec.weight := by
  obtain ⟨id, closure, capture⟩ := t
  cases acts with
  | nil =>
    cases closure with
    | none =>
      cases h
      simp only [Frame.weights, Frame.weight, weigh_nil]
      omega
    | some c =>
      cases h
      simp [Frame.weights, Frame.weight, Task.weight, Closure.weight]
      omega
  | cons act acts =>
    cases act with
    | run =>
      cases closure with
      | none =>
        cases h
        simp [Frame.weights, Frame.weight]
      | some c =>
        cases h
        simp [Frame.weights, Frame.weight, Task.weight, Closure.weight]
        omega
    | complete =>
      cases h
      simp [Frame.weights, Frame.weight]
      omega

/-- Every step makes its thread lighter. -/
theorem weight_step_lt {me : ThreadId} {frame : Frame ν} {s : Scene σ ν}
    {r : List (Frame ν) × Scene σ ν} (h : s.step me frame = some r) :
    Frame.weights r.1 + r.2.exec.weight < frame.weight + s.exec.weight := by
  cases frame with
  | submit work reply =>
    simp only [step] at h
    split at h
    · cases h
      simp [Frame.weights, Frame.weight, Work.weight_eq, Closure.weight, World.makeClosure]
      omega
    · cases h
      simp only [Frame.weights, Frame.weight, Work.weight_eq, record, weigh_nil]
      omega
  | arrive c =>
    simp only [step] at h
    split at h
    · cases h
      simp [Frame.weights, Frame.weight, Buffer.weight, Closure.weight]
      omega
    · cases h
      simp [Frame.weights, Frame.weight]
  | survey c =>
    simp only [step, Option.some.injEq] at h
    subst h
    simp [Frame.weights, Frame.weight, makeTask_weight, makeTask_exec, Buffer.weight,
      scan_backlog]
  | push t =>
    simp only [step] at h
    refine locking_weight_lt h fun s' same => ?_
    simp [Frame.weights, Frame.weight, Buffer.weight, Buffer.push] at same ⊢
    omega
  | enter | enterShutdown =>
    simp only [step] at h
    refine locking_weight_lt h fun s' same => ?_
    simp [Frame.weights, Frame.weight, same, record]
  | pass =>
    simp only [step] at h
    split at h
    · cases h
      simp [Frame.weights, Frame.weight, Task.weights]
    · split at h <;> cases h <;> simp [Frame.weights, Frame.weight]
  | drain refused =>
    cases h
    exact takeHead_weight_lt true refused s 10 (by omega)
  | bypass =>
    cases h
    exact takeHead_weight_lt false [] s 12 (by omega)
  | decide active queued target =>
    simp only [step] at h
    split at h <;> cases h
    · exact takeHead_weight_lt false [] s 12 (by omega)
    · simp [Frame.weights, Frame.weight, Task.weights]
  | retune active queued =>
    cases h
    exact retune_weight_lt active queued s
  | handOver t draining refused =>
    simp only [step, Option.some.injEq] at h
    subst h
    simp [Frame.weights, Frame.weight, enterFlight_weight, Buffer.weight, enterFlight_backlog]
  | offer t draining refused =>
    cases h
    exact offer_weight_lt t draining refused s
  | leave refused =>
    cases h
    simp [Frame.weight, Frame.weights_discardAll, Buffer.weight, Buffer.unlock]
  | job t acts => exact job_weight_lt h
  | completed id =>
    simp only [step] at h
    split at h <;> cases h <;>
      simp [Frame.weights, Frame.weight, Buffer.weight, Buffer.forget]
  | atGate c =>
    simp only [step] at h
    split at h
    · cases h
      simp [Frame.weights_append, Frame.weights_submitAll, Frame.weight]
      simp [Frame.weights, Frame.weight]
      omega
    · contradiction
  | discard c =>
    cases h
    simp [Frame.weights_append, Frame.weights_submitAll, Frame.weight, record]
    simp [Frame.weights, Frame.weight]
    omega
  | shutdownNow =>
    simp only [step] at h
    split at h
    · contradiction
    · cases h
      simp [Frame.weights, Frame.weight, Buffer.weight]
      omega
  | _ =>
    cases h
    simp [Frame.weights, Frame.weight, Buffer.weight, record]

/-- A thread that has as many steps as it weighs ends, or stops where it must wait. -/
theorem run_rests (me : ThreadId) (fuel : Nat) (stack : List (Frame ν)) (s : Scene σ ν)
    (h : Frame.weights stack + s.exec.weight ≤ fuel) :
    match s.run me fuel stack with
    | ([], _) => True
    | (frame :: _, s') => s'.step me frame = none := by
  induction fuel generalizing stack s with
  | zero =>
    cases stack with
    | nil => simp [run]
    | cons frame stack =>
      cases hs : s.step me frame with
      | none => simp [run, hs]
      | some r =>
        have := weight_step_lt hs
        simp [Frame.weights] at h
        omega
  | succ fuel ih =>
    cases stack with
    | nil => simp [run]
    | cons frame stack =>
      cases hs : s.step me frame with
      | none => simp [run, hs]
      | some r =>
        have lt := weight_step_lt hs
        simp only [run, hs]
        apply ih
        rw [Frame.weights_append]
        simp only [Frame.weights, weigh_cons] at h lt ⊢
        omega

/-- The same for a call. -/
theorem call_rests (me : ThreadId) (stack : List (Frame ν)) (s : Scene σ ν) :
    match s.call me stack with
    | ([], _) => True
    | (frame :: _, s') => s'.step me frame = none :=
  run_rests me _ stack s (Nat.le_refl _)

end Scene

end TwoTier
