import TwoTier.Buffer.Run

/-!
Many threads at one executor.

Each thread has a stack of frames, and the threads take turns step by step. Which thread goes next
is not fixed here: `System.turn?` says what one turn does, and `System.Reaches` allows turns, new
calls, finishing jobs and changes of the pool by itself in any order. What the pool may do, what
threads may call and how they may finish jobs are the `Rules` of a run.
-/

namespace TwoTier

namespace Stacks

variable {ν : Type}

/-- The stack of a thread in a list of stacks. -/
def find (t : ThreadId) : List (ThreadId × List (Frame ν)) → List (Frame ν)
  | [] => []
  | (u, stack) :: rest => if u = t then stack else find t rest

/-- The stacks of all other threads. -/
def without (t : ThreadId) : List (ThreadId × List (Frame ν)) → List (ThreadId × List (Frame ν))
  | [] => []
  | (u, stack) :: rest => if u = t then without t rest else (u, stack) :: without t rest

theorem find_without_self (t : ThreadId) (l : List (ThreadId × List (Frame ν))) :
    find t (without t l) = [] := by
  induction l with
  | nil => rfl
  | cons p l ih => by_cases h : p.1 = t <;> simp [without, find, h, ih]

theorem find_without_of_ne {t u : ThreadId} (h : u ≠ t)
    (l : List (ThreadId × List (Frame ν))) : find u (without t l) = find u l := by
  induction l with
  | nil => rfl
  | cons p l ih =>
    by_cases ht : p.1 = t
    · simp [without, find, ht, ih, Ne.symm h]
    · by_cases hu : p.1 = u <;> simp [without, find, ht, hu, h, ih]

theorem mem_keys_without {t u : ThreadId} {l : List (ThreadId × List (Frame ν))}
    (h : u ∈ (without t l).map Prod.fst) : u ≠ t ∧ u ∈ l.map Prod.fst := by
  induction l with
  | nil => simp [without] at h
  | cons p l ih =>
    by_cases ht : p.1 = t
    · simp only [without, ht, if_true] at h
      exact ⟨(ih h).1, by simpa using .inr (by simpa using (ih h).2)⟩
    · simp only [without, ht, if_false, List.map_cons, List.mem_cons] at h
      rcases h with rfl | h
      · exact ⟨ht, by simp⟩
      · exact ⟨(ih h).1, by simpa using .inr (by simpa using (ih h).2)⟩

theorem distinct_without (t : ThreadId) {l : List (ThreadId × List (Frame ν))}
    (h : (l.map Prod.fst).Nodup) : ((without t l).map Prod.fst).Nodup := by
  induction l with
  | nil => simp [without]
  | cons p l ih =>
    obtain ⟨fresh, rest⟩ := List.nodup_cons.mp (show (p.1 :: l.map Prod.fst).Nodup from h)
    by_cases ht : p.1 = t
    · simpa [without, ht] using ih rest
    · simp only [without, ht, if_false, List.map_cons]
      exact List.nodup_cons.mpr ⟨fun mem => fresh (mem_keys_without mem).2, ih rest⟩

end Stacks

/-- The stacks of the threads that have business. -/
structure Stacks (ν : Type) where
  entries : List (ThreadId × List (Frame ν))
  /-- No thread has two stacks. -/
  distinct : (entries.map Prod.fst).Nodup

namespace Stacks

variable {ν : Type}

def empty : Stacks ν := ⟨[], by simp⟩

def get (t : ThreadId) (k : Stacks ν) : List (Frame ν) := find t k.entries

/-- Replaces a stack; an empty stack is not kept. -/
def set (t : ThreadId) (stack : List (Frame ν)) (k : Stacks ν) : Stacks ν :=
  if stack.isEmpty then ⟨without t k.entries, distinct_without t k.distinct⟩
  else ⟨(t, stack) :: without t k.entries, by
    simp only [List.map_cons]
    exact List.nodup_cons.mpr ⟨fun mem => (mem_keys_without mem).1 rfl,
      distinct_without t k.distinct⟩⟩

@[simp] theorem get_empty (t : ThreadId) : get t (empty : Stacks ν) = [] := rfl

@[simp] theorem get_set_self (t : ThreadId) (stack : List (Frame ν)) (k : Stacks ν) :
    (k.set t stack).get t = stack := by
  cases stack with
  | nil => simp [set, get, find_without_self]
  | cons f fs => simp [set, get, find]

theorem get_set_of_ne {t u : ThreadId} (h : u ≠ t) (stack : List (Frame ν)) (k : Stacks ν) :
    (k.set t stack).get u = k.get u := by
  cases stack with
  | nil => simp [set, get, find_without_of_ne h]
  | cons f fs => simp [set, get, find, Ne.symm h, find_without_of_ne h]

end Stacks

/-- An executor with all the threads that use it. -/
structure System (σ ν : Type) where
  scene : Scene σ ν
  threads : Stacks ν

namespace System

variable {σ ν : Type}

/-- An executor that no thread uses yet. -/
def idle (scene : Scene σ ν) : System σ ν := ⟨scene, .empty⟩

/-- A thread gets a stack of its own to work off. -/
def assign (t : ThreadId) (stack : List (Frame ν)) (y : System σ ν) : System σ ν :=
  { y with threads := y.threads.set t stack }

variable [WorkerPool σ (Task ν)]

/-- One step of a thread: `none` if it has nothing to do or must wait. -/
def turn? (t : ThreadId) (y : System σ ν) : Option (System σ ν) :=
  match y.threads.get t with
  | [] => none
  | frame :: rest =>
    (y.scene.step t frame).map fun (new, scene) =>
      { scene, threads := y.threads.set t (new ++ rest) }

end System

/-- What a thread that is idle may call. -/
inductive Call (ν : Type) where
  | submit (work : Work ν) (reply : Option Nat)
  | shutdown
  | shutdownNow

def Call.frame {ν : Type} : Call ν → Frame ν
  | .submit work reply => .submit work reply
  | .shutdown => .shutdown
  | .shutdownNow => .shutdownNow

/-- What may happen in a run beside the turns of its threads. -/
structure Rules (σ ν : Type) where
  /-- How the pool may change by itself. -/
  moves : σ → σ → Prop
  /-- Which jobs the pool may give up to a thread that finishes them, and what is left of it. -/
  yields : σ → Task ν → σ → Prop
  /-- What idle threads may call. -/
  calls : Call ν → Prop
  /-- How jobs may be finished. -/
  modes : FinishMode → Prop
  /-- The scenes from which the run goes on. -/
  fit : Scene σ ν → Prop

namespace System

variable {σ ν : Type} [WorkerPool σ (Task ν)]

/-- What may happen at any moment. -/
inductive Next (rules : Rules σ ν) : System σ ν → System σ ν → Prop where
  /-- A thread takes a step. -/
  | turn {y z : System σ ν} (t : ThreadId) (h : y.turn? t = some z) : Next rules y z
  /-- An idle thread calls the executor. -/
  | call {y : System σ ν} (t : ThreadId) (c : Call ν) (idle : y.threads.get t = [])
      (allowed : rules.calls c) : Next rules y (y.assign t [c.frame])
  /-- An idle thread finishes a job that it takes from the pool. -/
  | finish {y : System σ ν} (t : ThreadId) (job : Task ν) (mode : FinishMode) (pool : σ)
      (idle : y.threads.get t = []) (allowed : rules.modes mode)
      (h : rules.yields y.scene.exec.pool job pool) :
      Next rules y
        { scene := { y.scene with exec := { y.scene.exec with pool } }
          threads := y.threads.set t [.job job mode.acts] }
  /-- An idle thread finishes a job that a stop handed back. -/
  | finishReturned {y : System σ ν} (t : ThreadId) (before after : List (Task ν)) (job : Task ν)
      (mode : FinishMode) (idle : y.threads.get t = []) (allowed : rules.modes mode)
      (h : y.scene.returned = before ++ job :: after) :
      Next rules y
        { scene := { y.scene with returned := before ++ after }
          threads := y.threads.set t [.job job mode.acts] }
  /-- The pool changes by itself. -/
  | pool {y : System σ ν} (pool : σ) (h : rules.moves y.scene.exec.pool pool) :
      Next rules y
        { y with scene := { y.scene with exec := { y.scene.exec with pool } } }

/-- What can come of a system in any number of moments. -/
inductive Reaches (rules : Rules σ ν) (y : System σ ν) : System σ ν → Prop where
  | refl : Reaches rules y y
  | tail {z w : System σ ν} : Reaches rules y z → rules.fit z.scene → Next rules z w →
      Reaches rules y w

end System

end TwoTier
