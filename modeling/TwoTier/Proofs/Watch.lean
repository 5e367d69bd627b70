import TwoTier.Proofs.Alone

/-!
Runs under diagnostics.

One thread is at work, and at any moment somebody may scan the register of tasks in flight. A
`System.Watched` run counts these scans and keeps a trail of the tasks that submissions have made,
in the order in which they were made; both are kept beside the run and change nothing in it.

What is an invariant of runs without such scans is one here if a scan keeps it (`Outline.watched`).
-/

namespace TwoTier

variable {σ ν : Type}

namespace Frame

/-- The frames at which a thread is inside the executor, where no closure runs or is thrown away. -/
def inLibrary : Frame ν → Bool
  | .arrive _ | .survey _ | .completed _ | .stopPool _ => true
  | f => f.inPass || f.entersPass

theorem inPass_of_not_inLibrary {f : Frame ν} (outside : f.inLibrary = false) :
    f.inPass = false := by
  cases f with
  | arrive | survey | completed | stopPool => rfl
  | _ => simp_all [inLibrary]

end Frame

namespace System

/-- The register is scanned. -/
def scanned (y : System σ ν) : System σ ν := { y with scene := y.scene.scan.2 }

/-- The task that a thread has made between two moments: its survey has come to an end. -/
def made (me : ThreadId) (y z : System σ ν) : List (Task ν) :=
  match y.threads.get me, z.threads.get me with
  | .survey _ :: _, .push t :: _ => [t]
  | _, _ => []

section

variable [WorkerPool σ (Task ν)] {rules : Rules σ ν} {me : ThreadId} {x y z : System σ ν}
  {trail : List (Task ν)} {n : Nat}

/-- Runs of one thread with scans from outside: the tasks that were made, and how many such scans
there were. -/
inductive Watched (rules : Rules σ ν) (me : ThreadId) (x : System σ ν) :
    List (Task ν) → Nat → System σ ν → Prop where
  | refl : Watched rules me x [] 0 x
  | next {trail : List (Task ν)} {n : Nat} {y z : System σ ν} : Watched rules me x trail n y →
      rules.fit y.scene → Next rules y z → z.Only me →
      Watched rules me x (trail ++ made me y z) n z
  | scan {trail : List (Task ν)} {n : Nat} {y : System σ ν} : Watched rules me x trail n y →
      Watched rules me x trail (n + 1) y.scanned

theorem Watched.only (run : Watched rules me x trail n y) (start : x.Only me) : y.Only me := by
  induction run with
  | refl => exact start
  | next _ _ _ only => exact only
  | scan _ ih => exact ih

/-- A run of one thread leaves a trail. -/
theorem Watched.alone (before : Watched rules me x trail n y) (run : Alone rules me y z) :
    ∃ more, Watched rules me x (trail ++ more) n z := by
  induction run with
  | refl => exact ⟨[], by rwa [List.append_nil]⟩
  | tail _ fit next only ih =>
      obtain ⟨more, run⟩ := ih
      exact ⟨_, by simpa using run.next fit next only⟩

end

end System

/-! ### Invariants under diagnostics -/

section Runs

variable [WorkerPool σ (Task ν)] {rules : Rules σ ν} {me : ThreadId} {x y z : System σ ν}
  {trail : List (Task ν)} {n : Nat} {known inv : Multiset (Frame ν) → Scene σ ν → Prop}
  {A : Assertion σ ν} {s : Scene σ ν}

theorem Upheld.watched (up : Upheld rules known inv)
    (steady : ∀ {bag s}, inv bag s → inv bag (Scene.scan s).2)
    (basis : ∀ {trail n w}, System.Watched rules me x trail n w → known w.bag w.scene)
    (start : inv x.bag x.scene) (run : System.Watched rules me x trail n y) :
    inv y.bag y.scene := by
  induction run with
  | refl => exact start
  | next before fit next _ ih => exact up.next fit (basis before) ih next
  | scan _ ih => exact steady ih

theorem exclusive_watched (free : s.exec.holder = none)
    (run : System.Watched rules me (.idle s) trail n y) : Exclusive y.bag y.scene := by
  refine exclusive_upheld.watched ?_ (fun _ => trivial)
    (.of_no_pass free (by simp [System.bag_idle])) run
  intro bag s alone
  rwa [Exclusive, (Scene.keeps_scan s).holder]

theorem Outline.watched (out : Outline rules known A)
    (steady : ∀ {o bag s}, A o bag s → A o bag (Scene.scan s).2)
    (basis : ∀ {trail n w}, System.Watched rules me (.idle s) trail n w → known w.bag w.scene)
    (free : s.exec.holder = none) (start : A none 0 s)
    (run : System.Watched rules me (.idle s) trail n y) : A.Stands y.bag y.scene := by
  refine out.upheld.watched ?_ (fun before => ⟨exclusive_watched free before, basis before⟩)
    ⟨fun _ => start, by simp [System.bag_idle]⟩ run
  intro bag s stands
  rw [Assertion.Stands, (Scene.keeps_scan s).holder]
  exact ⟨fun free => steady (stands.1 free), fun f mem inside => steady (stands.2 f mem inside)⟩

theorem Outline.always_watched {I : Multiset (Frame ν) → Scene σ ν → Prop}
    (out : Outline rules known fun _ => I) (steady : ∀ {bag s}, I bag s → I bag (Scene.scan s).2)
    (basis : ∀ {trail n w}, System.Watched rules me (.idle s) trail n w → known w.bag w.scene)
    (free : s.exec.holder = none) (start : I 0 s)
    (run : System.Watched rules me (.idle s) trail n y) : I y.bag y.scene := by
  obtain ⟨-, holds⟩ := (out.watched steady basis free start run).due (exclusive_watched free run)
  exact holds

variable {config : Config} {main : Option ThreadId} {pool : σ}

theorem fresh_watched (built : Scene.build config main pool = .ok s)
    (run : System.Watched rules me (.idle s) trail n y) : Fresh y.bag y.scene := by
  obtain ⟨-, flight, rfl⟩ := Scene.build_ok built
  refine fresh_outline.always_watched ?_ (fun _ => trivial) rfl ⟨?_, ?_⟩ run
  · intro bag s fresh
    have keeps := Scene.keeps_scan s
    exact fresh.of_eq (by rw [joining, keeps.pushed]; rfl) keeps.nextTask
  · simp [joining]
  · simp [joining]

theorem ordered_watched (built : Scene.build config main pool = .ok s)
    (run : System.Watched rules me (.idle s) trail n y) :
    Assertion.Stands (fun o _ s => Ordered o s) y.bag y.scene := by
  have basis {trail : List (Task ν)} {n : Nat} {w : System σ ν}
      (before : System.Watched rules me (.idle s) trail n w) : Fresh w.bag w.scene :=
    fresh_watched built before
  obtain ⟨-, flight, rfl⟩ := Scene.build_ok built
  refine ordered_outline.watched (fun ordered => ?_) basis rfl ⟨?_, ?_⟩ run
  · exact ordered.of_keeps rfl (Scene.keeps_scan _)
  · simp [World.retained]
  · simp

/-! ### Where the thread is inside the executor -/

/-- A step puts frames of the executor on top only. -/
theorem Scene.step_tail {f : Frame ν} {new : List (Frame ν)} {s' : Scene σ ν}
    (h : s.step me f = some (new, s')) : ∀ g ∈ new.tail, g.inLibrary = false := by
  intro g mem
  cases Scene.step_cases h with
  | pass _ =>
      cases mem
  | leave =>
      obtain ⟨t, -, rfl⟩ := List.mem_map.mp (List.mem_of_mem_tail mem)
      rfl
  | enter _ _ => cases mem
  | outside outside =>
      cases outside with
      | quiet quiet =>
          cases quiet with
          | pastGate c | discard c =>
              rcases List.mem_append.mp (List.mem_of_mem_tail mem) with mem | mem
              · obtain ⟨work, -, rfl⟩ := List.mem_map.mp mem
                rfl
              · rw [List.mem_singleton.mp mem]
                rfl
          | run | complete =>
              rw [List.mem_singleton.mp mem]
              rfl
          | _ => cases mem
      | shutdown | withdraw | stop => cases mem

/-- Under its top frame the thread is outside the executor. -/
theorem outside_watched (start : x.threads.get me = []) (only : x.Only me)
    (run : System.Watched rules me x trail n y) :
    ∀ f ∈ (y.threads.get me).tail, f.inLibrary = false := by
  induction run with
  | refl => simp [start]
  | scan _ ih => exact ih
  | @next trail n y z before fit next after ih =>
      have assigned {t : ThreadId} (idle : y.threads.get t = []) (f : Frame ν)
          (threads : z.threads = y.threads.set t [f]) :
          ∀ g ∈ (z.threads.get me).tail, g.inLibrary = false := by
        obtain rfl : t = me := after.eq (by simp [threads])
        simp [threads]
      cases next with
      | turn t turn =>
          obtain ⟨f, new, rest, top, step, threads, -⟩ := System.turn_stack turn
          obtain rfl : t = me := (before.only only).eq (by simp [top])
          rw [threads, Stacks.get_set_self]
          rw [top] at ih
          intro g mem
          cases new with
          | nil => exact ih g (List.mem_of_mem_tail mem)
          | cons f' more =>
              rcases List.mem_append.mp mem with mem | mem
              · exact Scene.step_tail step g mem
              · exact ih g mem
      | call t c idle => exact assigned idle _ rfl
      | finish t job mode pool idle => exact assigned idle _ rfl
      | finishReturned t earlier later job mode idle => exact assigned idle _ rfl
      | pool => exact ih

end Runs

end TwoTier
