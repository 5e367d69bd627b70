import Mathlib.Data.Multiset.Bind
import Mathlib.Data.Multiset.Count
import TwoTier.Buffer.Interleaving
import TwoTier.Proofs.Steps

/-!
Invariants of interleaved runs.

Which thread does something matters little to the executor: what counts is which frames are about.
So the frames of all threads are thrown into one bag (`System.bag`), and a turn replaces one frame
of the bag by others. At most one frame of a pass is in the bag, and one is there exactly while the
lock is held (`exclusive`).

An invariant is then given as an `Outline`: one assertion for the free lock and one for each frame
at which a pass may stand. Its clauses are the usual ones for threads that share a lock: a pass
takes each assertion to the next, and what other threads do meanwhile keeps it.
`Outline.reaches` makes an invariant of every run out of that.
-/

namespace TwoTier

variable {σ ν : Type}

namespace Stacks

/-- The frames of all threads but one. -/
def others (t : ThreadId) (k : Stacks ν) : List (Frame ν) :=
  (without t k.entries).flatMap Prod.snd

def frames (k : Stacks ν) : List (Frame ν) := k.entries.flatMap Prod.snd

theorem frames_set (t : ThreadId) (stack : List (Frame ν)) (k : Stacks ν) :
    (k.set t stack).frames = stack ++ k.others t := by
  cases stack with
  | nil => rfl
  | cons f stack => rfl

theorem without_of_absent {t : ThreadId} {l : List (ThreadId × List (Frame ν))}
    (absent : t ∉ l.map Prod.fst) : without t l = l := by
  induction l with
  | nil => rfl
  | cons p l ih =>
      have differs : p.1 ≠ t := fun same => absent (by simp [same])
      have later : t ∉ l.map Prod.fst := fun mem => absent (List.mem_cons_of_mem _ mem)
      simp only [without, differs, if_false, ih later]

theorem frames_perm (t : ThreadId) (k : Stacks ν) : k.frames.Perm (k.get t ++ k.others t) := by
  obtain ⟨l, distinct⟩ := k
  simp only [frames, get, others]
  induction l with
  | nil => exact .refl _
  | cons p l ih =>
      obtain ⟨fresh, rest⟩ := List.nodup_cons.mp (show (p.1 :: l.map Prod.fst).Nodup from distinct)
      by_cases same : p.1 = t
      · subst same
        simp [find, without, without_of_absent fresh]
      · simp only [find, without, same, if_false, List.flatMap_cons]
        exact ((ih rest).append_left p.2).trans (List.perm_append_comm_assoc _ _ _)

theorem find_of_mem {t : ThreadId} {stack : List (Frame ν)}
    {l : List (ThreadId × List (Frame ν))} (distinct : (l.map Prod.fst).Nodup)
    (mem : (t, stack) ∈ l) : find t l = stack := by
  induction l with
  | nil => cases mem
  | cons p l ih =>
      obtain ⟨fresh, rest⟩ := List.nodup_cons.mp (show (p.1 :: l.map Prod.fst).Nodup from distinct)
      rcases List.mem_cons.mp mem with rfl | mem
      · simp [find]
      · have differs : p.1 ≠ t := fun same => fresh (same ▸ List.mem_map_of_mem mem)
        simp only [find, differs, if_false]
        exact ih rest mem

/-- Every frame is on the stack of some thread. -/
theorem get_of_mem_frames {k : Stacks ν} {f : Frame ν} (mem : f ∈ k.frames) : ∃ t, f ∈ k.get t := by
  obtain ⟨⟨t, stack⟩, entry, among⟩ := List.mem_flatMap.mp mem
  exact ⟨t, by rwa [get, find_of_mem k.distinct entry]⟩

theorem mem_of_find {t : ThreadId} {f : Frame ν} {l : List (ThreadId × List (Frame ν))}
    (mem : f ∈ find t l) : f ∈ l.flatMap Prod.snd := by
  induction l with
  | nil => cases mem
  | cons p l ih =>
      rw [List.flatMap_cons]
      by_cases own : p.1 = t
      · simp only [find, own, if_true] at mem
        exact List.mem_append_left _ mem
      · simp only [find, own, if_false] at mem
        exact List.mem_append_right _ (ih mem)

theorem mem_others {t u : ThreadId} {k : Stacks ν} {f : Frame ν} (differs : u ≠ t)
    (mem : f ∈ k.get u) : f ∈ k.others t := by
  apply mem_of_find (t := u)
  rwa [find_without_of_ne differs]

end Stacks

namespace System

/-- The frames of all threads. -/
def bag (y : System σ ν) : Multiset (Frame ν) := y.threads.frames

theorem bag_idle (s : Scene σ ν) : (idle s).bag = 0 := rfl

theorem bag_assign {y : System σ ν} {t : ThreadId} (idle : y.threads.get t = [])
    (stack : List (Frame ν)) : ((y.threads.set t stack).frames : Multiset (Frame ν))
      = ↑stack + y.bag := by
  have same : y.threads.frames.Perm (y.threads.others t) := by
    simpa [idle] using y.threads.frames_perm t
  rw [Stacks.frames_set, ← Multiset.coe_add, bag, Multiset.coe_eq_coe.mpr same]

/-- Without business the bag is empty. -/
theorem bag_eq_zero {y : System σ ν} (rest : ∀ t, y.threads.get t = []) : y.bag = 0 := by
  obtain ⟨scene, l, distinct⟩ := y
  suffices ∀ p ∈ l, p.2 = [] by
    simpa [bag, Stacks.frames, List.flatMap_eq_nil_iff] using fun a b mem => this (a, b) mem
  intro p mem
  have own : Stacks.find p.1 l = [] := rest p.1
  clear rest
  induction l with
  | nil => simp at mem
  | cons q l ih =>
      obtain ⟨fresh, distinct⟩ := List.nodup_cons.mp
        (show (q.1 :: l.map Prod.fst).Nodup from distinct)
      rcases List.mem_cons.mp mem with rfl | mem
      · simpa [Stacks.find] using own
      · have differs : q.1 ≠ p.1 := fun same => fresh (same ▸ List.mem_map_of_mem mem)
        simp only [Stacks.find, differs, if_false] at own
        exact ih distinct mem own

variable [WorkerPool σ (Task ν)]

theorem Reaches.trans {rules : Rules σ ν} {x y z : System σ ν} (before : Reaches rules x y)
    (after : Reaches rules y z) : Reaches rules x z := by
  induction after with
  | refl => exact before
  | tail _ fit next ih => exact ih.tail fit next

/-- A turn replaces the top frame of one stack, and with it one frame of the bag. -/
theorem turn_stack {y z : System σ ν} {t : ThreadId} (h : y.turn? t = some z) :
    ∃ f new rest, y.threads.get t = f :: rest ∧ y.scene.step t f = some (new, z.scene) ∧
      z.threads = y.threads.set t (new ++ rest) ∧
      y.bag = f ::ₘ ↑(rest ++ y.threads.others t) ∧
      z.bag = ↑new + ↑(rest ++ y.threads.others t) := by
  unfold turn? at h
  cases top : y.threads.get t with
  | nil => simp [top] at h
  | cons f rest =>
      rw [top] at h
      obtain ⟨⟨new, scene⟩, step, rfl⟩ := Option.map_eq_some_iff.mp h
      refine ⟨f, new, rest, rfl, step, rfl, ?_, ?_⟩
      · have perm := y.threads.frames_perm t
        rw [top] at perm
        exact Multiset.coe_eq_coe.mpr perm
      · simp only [bag, Stacks.frames_set, List.append_assoc, Multiset.coe_add]

theorem bag_turn {y z : System σ ν} {t : ThreadId} (h : y.turn? t = some z) :
    ∃ f new rest, y.bag = f ::ₘ rest ∧ y.scene.step t f = some (new, z.scene) ∧
      z.bag = ↑new + rest := by
  obtain ⟨f, new, rest, -, step, -, before, after⟩ := turn_stack h
  exact ⟨f, new, _, before, step, after⟩

end System

/-! ### Sums over the bag -/

section Tally

variable {M : Type} [AddCommMonoid M]

/-- What the frames of a bag amount to together, each for its part. -/
def tally (w : Frame ν → M) (bag : Multiset (Frame ν)) : M := (bag.map w).sum

variable (w : Frame ν → M) (bag bag' : Multiset (Frame ν)) (f : Frame ν)

@[simp] theorem tally_zero : tally w 0 = 0 := by simp [tally]

@[simp] theorem tally_cons : tally w (f ::ₘ bag) = w f + tally w bag := by simp [tally]

@[simp] theorem tally_singleton : tally w {f} = w f := by simp [tally]

@[simp] theorem tally_add : tally w (bag + bag') = tally w bag + tally w bag' := by simp [tally]

@[simp] theorem tally_coe (l : List (Frame ν)) : tally w ↑l = (l.map w).sum := by simp [tally]

variable {w}

theorem tally_eq_zero {bag : Multiset (Frame ν)} (none : ∀ f ∈ bag, w f = 0) : tally w bag = 0 := by
  apply Multiset.sum_eq_zero
  intro x mem
  obtain ⟨f, among, rfl⟩ := Multiset.mem_map.mp mem
  exact none f among

theorem mem_tally {α : Type} {w : Frame ν → Multiset α} {bag : Multiset (Frame ν)} {f : Frame ν}
    (among : f ∈ bag) {a : α} (mem : a ∈ w f) : a ∈ tally w bag := by
  obtain ⟨rest, rfl⟩ := Multiset.exists_cons_of_mem among
  rw [tally_cons]
  exact Multiset.mem_add.mpr (.inl mem)

theorem mem_tally_cons {α : Type} {w : Frame ν → Multiset α} {rest : Multiset (Frame ν)}
    {f : Frame ν} {a : α} : a ∈ tally w (f ::ₘ rest) ↔ a ∈ w f ∨ a ∈ tally w rest := by
  rw [tally_cons, Multiset.mem_add]

theorem tally_submitAll (none : ∀ work reply, w (.submit work reply) = 0) (works : List (Work ν)) :
    tally w (Frame.submitAll works : Multiset (Frame ν)) = 0 := by
  apply tally_eq_zero
  intro f mem
  obtain ⟨work, -, rfl⟩ := List.mem_map.mp (Multiset.mem_coe.mp mem)
  exact none work _

/-- Submissions that nobody counts, before one more frame. -/
theorem tally_submitAll_append (none : ∀ work reply, w (.submit work reply) = 0)
    (works : List (Work ν)) (f : Frame ν) :
    tally w (Frame.submitAll works ++ [f] : List (Frame ν)) = w f := by
  rw [← Multiset.coe_add, tally_add, tally_submitAll none, zero_add]
  exact tally_singleton w f

theorem tally_discards (none : ∀ t, w (.job t []) = 0) (refused : List (Task ν)) :
    tally w (refused.map (fun t => .job t []) : List (Frame ν)) = 0 := by
  apply tally_eq_zero
  intro f mem
  obtain ⟨t, -, rfl⟩ := List.mem_map.mp (Multiset.mem_coe.mp mem)
  exact none t

end Tally

/-! ### Invariants over the bag -/

section Upheld

variable [WorkerPool σ (Task ν)]

/-- What keeps an invariant of the bag and the scene, given one that is known already. -/
structure Upheld (rules : Rules σ ν) (known inv : Multiset (Frame ν) → Scene σ ν → Prop) :
    Prop where
  step : ∀ {me f new rest s s'}, rules.fit s → known (f ::ₘ rest) s → inv (f ::ₘ rest) s →
    s.step me f = some (new, s') → inv (↑new + rest) s'
  call : ∀ {c bag s}, rules.calls c → known bag s → inv bag s → inv (c.frame ::ₘ bag) s
  finish : ∀ {job mode pool bag} {s : Scene σ ν}, rules.modes mode →
    rules.yields s.exec.pool job pool → known bag s → inv bag s →
    inv (.job job mode.acts ::ₘ bag) { s with exec := { s.exec with pool } }
  finishReturned : ∀ {job mode before after bag} {s : Scene σ ν}, rules.modes mode →
    s.returned = before ++ job :: after → known bag s → inv bag s →
    inv (.job job mode.acts ::ₘ bag) { s with returned := before ++ after }
  pool : ∀ {pool bag} {s : Scene σ ν}, rules.moves s.exec.pool pool → known bag s → inv bag s →
    inv bag { s with exec := { s.exec with pool } }

variable {rules : Rules σ ν} {known inv : Multiset (Frame ν) → Scene σ ν → Prop}

/-- Whatever happens next, the invariant stays. -/
theorem Upheld.next {y z : System σ ν} (up : Upheld rules known inv) (fit : rules.fit y.scene)
    (basis : known y.bag y.scene) (holds : inv y.bag y.scene) (next : System.Next rules y z) :
    inv z.bag z.scene := by
  cases next with
  | turn t h =>
      obtain ⟨f, new, rest, hy, hs, hz⟩ := System.bag_turn h
      rw [hz]
      exact up.step fit (hy ▸ basis) (hy ▸ holds) hs
  | call t c idle allowed =>
      change inv ((y.threads.set t [c.frame]).frames : Multiset (Frame ν)) _
      rw [System.bag_assign idle]
      exact up.call allowed basis holds
  | finish t job mode pool idle allowed h =>
      change inv ((y.threads.set t [.job job mode.acts]).frames : Multiset (Frame ν)) _
      rw [System.bag_assign idle]
      exact up.finish allowed h basis holds
  | finishReturned t before after job mode idle allowed h =>
      change inv ((y.threads.set t [.job job mode.acts]).frames : Multiset (Frame ν)) _
      rw [System.bag_assign idle]
      exact up.finishReturned allowed h basis holds
  | pool pool h => exact up.pool h basis holds

theorem Upheld.reaches {y z : System σ ν} (up : Upheld rules known inv)
    (basis : ∀ w, System.Reaches rules y w → known w.bag w.scene)
    (start : inv y.bag y.scene) (run : System.Reaches rules y z) : inv z.bag z.scene := by
  induction run with
  | refl => exact start
  | @tail w z before fit next ih => exact up.next fit (basis w before) ih next

end Upheld

/-! ### The lock -/

/-- A pass is under way exactly while the lock is held, and then one only. -/
def Exclusive (bag : Multiset (Frame ν)) (s : Scene σ ν) : Prop :=
  bag.countP (fun f => f.inPass = true) = if s.exec.holder.isSome then 1 else 0

namespace Exclusive

variable {bag rest : Multiset (Frame ν)} {f : Frame ν} {s : Scene σ ν}

theorem no_pass (h : Exclusive bag s) (free : s.exec.holder = none) (mem : f ∈ bag) :
    f.inPass = false := by
  have none : bag.countP (fun f => f.inPass = true) = 0 := by simpa [Exclusive, free] using h
  exact Bool.eq_false_iff.mpr (Multiset.countP_eq_zero.mp none f mem)

/-- While a frame of a pass is there, the lock is held and there is no other. -/
theorem alone (h : Exclusive (f ::ₘ rest) s) (inside : f.inPass = true) :
    s.exec.holder ≠ none ∧ ∀ g ∈ rest, g.inPass = false := by
  unfold Exclusive at h
  rw [Multiset.countP_cons_of_pos _ (p := fun f : Frame ν => f.inPass = true) inside] at h
  cases holder : s.exec.holder with
  | none => simp [holder] at h
  | some t =>
      refine ⟨by simp, ?_⟩
      intro g mem
      have none : rest.countP (fun f => f.inPass = true) = 0 := by simpa [holder] using h
      exact Bool.eq_false_iff.mpr (Multiset.countP_eq_zero.mp none g mem)

theorem exists_pass (h : Exclusive bag s) (held : s.exec.holder ≠ none) :
    ∃ f ∈ bag, f.inPass = true := by
  rw [Exclusive, if_pos (Option.isSome_iff_ne_none.mpr held)] at h
  exact Multiset.countP_pos.mp (h ▸ Nat.one_pos)

theorem of_no_pass (free : s.exec.holder = none) (none : ∀ g ∈ bag, g.inPass = false) :
    Exclusive bag s := by
  simp only [Exclusive, free]
  exact Multiset.countP_eq_zero.mpr fun g mem => by simp [none g mem]

theorem cons_of_inPass (held : s.exec.holder ≠ none) (inside : f.inPass = true)
    (none : ∀ g ∈ rest, g.inPass = false) : Exclusive (f ::ₘ rest) s := by
  unfold Exclusive
  rw [Multiset.countP_cons_of_pos _ (p := fun f : Frame ν => f.inPass = true) inside,
    Multiset.countP_eq_zero.mpr fun g mem => by simp [none g mem],
    if_pos (Option.isSome_iff_ne_none.mpr held)]

/-- Frames outside a pass make no difference. -/
theorem congr {s' : Scene σ ν} (old new : Multiset (Frame ν)) (h : Exclusive (old + rest) s)
    (holder : s'.exec.holder = s.exec.holder) (before : ∀ g ∈ old, g.inPass = false)
    (after : ∀ g ∈ new, g.inPass = false) : Exclusive (new + rest) s' := by
  unfold Exclusive at h ⊢
  rw [Multiset.countP_add, Multiset.countP_eq_zero.mpr fun g mem => by simp [before g mem]] at h
  rw [Multiset.countP_add, Multiset.countP_eq_zero.mpr fun g mem => by simp [after g mem], holder]
  exact h

end Exclusive

section Outline

variable [WorkerPool σ (Task ν)] {rules : Rules σ ν}

theorem not_inPass_discards (refused : List (Task ν)) :
    ∀ g ∈ refused.map (fun t => Frame.job t []), g.inPass = false := by
  intro g mem
  obtain ⟨t, -, rfl⟩ := List.mem_map.mp mem
  rfl

theorem not_inPass_call (c : Call ν) : c.frame.inPass = false := by
  cases c <;> rfl

theorem exclusive_upheld : Upheld rules (fun _ _ => True) (Exclusive (σ := σ) (ν := ν)) where
  step {me f new rest s s'} _ _ inv h := by
    cases inside : f.inPass with
    | true =>
        obtain ⟨held, none⟩ := inv.alone inside
        rcases Scene.step_pass inside h with ⟨g, rfl, pass⟩ | ⟨refused, rfl, rfl, rfl⟩
        · exact .cons_of_inPass (pass.holder ▸ held) pass.inPass none
        · refine .of_no_pass rfl ?_
          intro g mem
          rcases Multiset.mem_add.mp mem with mem | mem
          · exact not_inPass_discards refused g (Multiset.mem_coe.mp mem)
          · exact none g mem
    | false =>
        cases waits : f.entersPass with
        | true =>
            obtain ⟨free, rfl, enter⟩ := Scene.step_enter waits h
            exact .cons_of_inPass (by simp [enter.holder]) rfl
              fun g mem => inv.no_pass free (Multiset.mem_cons_of_mem mem)
        | false =>
            have outside := Scene.step_outside inside waits h
            exact inv.congr {f} ↑new outside.holder (by simpa using inside) outside.outside
  call {c bag s} _ _ inv :=
    Exclusive.congr (s := s) 0 {c.frame} (by simpa using inv) rfl (by simp)
      (by simpa using not_inPass_call c)
  finish {job mode pool bag s} _ _ _ inv :=
    Exclusive.congr (s := s) 0 {.job job mode.acts} (by simpa using inv) rfl (by simp)
      (by simp [Frame.inPass])
  finishReturned {job mode before after bag s} _ _ _ inv :=
    Exclusive.congr (s := s) 0 {.job job mode.acts} (by simpa using inv) rfl (by simp)
      (by simp [Frame.inPass])
  pool _ _ inv := inv

/-- No two passes are under way at once. -/
theorem exclusive {s : Scene σ ν} {y : System σ ν} (free : s.exec.holder = none)
    (run : System.Reaches rules (.idle s) y) : Exclusive y.bag y.scene :=
  exclusive_upheld.reaches (fun _ _ => trivial) (.of_no_pass free (by simp [System.bag_idle])) run

/-- Nobody has the lock while all threads are idle. -/
theorem holder_at_rest {s : Scene σ ν} {y : System σ ν} (free : s.exec.holder = none)
    (run : System.Reaches rules (.idle s) y) (rest : ∀ t, y.threads.get t = []) :
    y.scene.exec.holder = none := by
  have alone := exclusive free run
  rw [System.bag_eq_zero rest, Exclusive] at alone
  cases holder : y.scene.exec.holder with
  | none => rfl
  | some t => simp [holder] at alone

end Outline

/-! ### Outlines of a pass -/

/-- An assertion for the free lock, under `none`, and one for each frame at which a pass may
stand. -/
abbrev Assertion (σ ν : Type) := Option (Frame ν) → Multiset (Frame ν) → Scene σ ν → Prop

/-- The assertion that is due holds. -/
def Assertion.Stands (A : Assertion σ ν) (bag : Multiset (Frame ν)) (s : Scene σ ν) : Prop :=
  (s.exec.holder = none → A none bag s) ∧ ∀ f ∈ bag, f.inPass = true → A (some f) bag s

/-- Some assertion is due at any time. -/
theorem Assertion.Stands.due {A : Assertion σ ν} {bag : Multiset (Frame ν)} {s : Scene σ ν}
    (stands : A.Stands bag s) (alone : Exclusive bag s) : ∃ o, A o bag s := by
  by_cases free : s.exec.holder = none
  · exact ⟨none, stands.1 free⟩
  · obtain ⟨f, mem, inside⟩ := alone.exists_pass free
    exact ⟨f, stands.2 f mem inside⟩

section Outline

variable [WorkerPool σ (Task ν)]

open Scene in
/-- The clauses under which an assertion is an invariant. `enter`, `pass` and `leave` follow a
pass; in the others `o` is any place at which a pass may stand meanwhile. -/
structure Outline (rules : Rules σ ν) (known : Multiset (Frame ν) → Scene σ ν → Prop)
    (A : Assertion σ ν) : Prop where
  enter : ∀ {me f rest s s'}, rules.fit s → known (f ::ₘ rest) s → EnterStep me s f s' →
    A none (f ::ₘ rest) s → A (some .pass) (.pass ::ₘ rest) s'
  pass : ∀ {me f g rest s s'}, rules.fit s → known (f ::ₘ rest) s → PassStep me s f g s' →
    A (some f) (f ::ₘ rest) s → A (some g) (g ::ₘ rest) s'
  leave : ∀ {refused rest} {s : Scene σ ν}, rules.fit s → known (.leave refused ::ₘ rest) s →
    A (some (.leave refused)) (.leave refused ::ₘ rest) s →
    A none (↑(refused.map fun t => Frame.job t []) + rest) { s with exec := s.exec.unlock }
  quiet : ∀ {o me f new rest s s'}, rules.fit s → known (f ::ₘ rest) s →
    QuietStep me s f new s' → A o (f ::ₘ rest) s → A o (↑new + rest) s'
  shutdown : ∀ {o rest} {s : Scene σ ν}, rules.fit s → known (.shutdown ::ₘ rest) s →
    A o (.shutdown ::ₘ rest) s → A o (.enterShutdown ::ₘ rest)
      { s with exec := { s.exec with pool := WorkerPool.shutdown s.exec.pool } }
  withdraw : ∀ {rest} {s : Scene σ ν}, rules.fit s → known (.shutdownNow ::ₘ rest) s →
    s.exec.holder = none → A none (.shutdownNow ::ₘ rest) s →
    A none (.stopPool s.exec.backlog ::ₘ rest)
      { s with exec := { s.exec with backlog := [] }
               world := s.world.record (.withdrawn (s.exec.backlog.map Task.id)) }
  stop : ∀ {o backlog jobs pool rest} {s : Scene σ ν}, rules.fit s →
    known (.stopPool backlog ::ₘ rest) s →
    WorkerPool.shutdownNow s.exec.pool = (jobs, pool) → A o (.stopPool backlog ::ₘ rest) s →
    A o rest
      { s with exec := { s.exec with pool }
               returned := s.returned ++ (jobs ++ backlog)
               world := s.world.record (.stopped (jobs.map Task.id) (backlog.map Task.id)) }
  call : ∀ {o c bag s}, rules.calls c → known bag s → A o bag s → A o (c.frame ::ₘ bag) s
  finish : ∀ {o job mode pool bag} {s : Scene σ ν}, rules.modes mode →
    rules.yields s.exec.pool job pool → known bag s → A o bag s →
    A o (.job job mode.acts ::ₘ bag) { s with exec := { s.exec with pool } }
  finishReturned : ∀ {o job mode before after bag} {s : Scene σ ν}, rules.modes mode →
    s.returned = before ++ job :: after → known bag s → A o bag s →
    A o (.job job mode.acts ::ₘ bag) { s with returned := before ++ after }
  pool : ∀ {o pool bag} {s : Scene σ ν}, rules.moves s.exec.pool pool → known bag s →
    A o bag s → A o bag { s with exec := { s.exec with pool } }

variable {rules : Rules σ ν} {known : Multiset (Frame ν) → Scene σ ν → Prop} {A : Assertion σ ν}

/-- A step outside passes keeps the assertion that is due, wherever a pass stands. -/
theorem Outline.outside (out : Outline rules known A) {o : Option (Frame ν)} {me : ThreadId}
    {f : Frame ν} {new : List (Frame ν)} {rest : Multiset (Frame ν)} {s s' : Scene σ ν}
    (fit : rules.fit s) (basis : known (f ::ₘ rest) s) (inside : f.inPass = false)
    (waits : f.entersPass = false) (h : s.step me f = some (new, s'))
    (place : s.exec.holder = none → o = none) (due : A o (f ::ₘ rest) s) :
    A o (↑new + rest) s' := by
  cases Scene.step_outside inside waits h with
  | quiet quiet => exact out.quiet fit basis quiet due
  | shutdown => exact out.shutdown fit basis due
  | withdraw free =>
      rw [place free] at due ⊢
      exact out.withdraw fit basis free due
  | stop backlog stopped => simpa using out.stop fit basis stopped due

theorem Outline.upheld (out : Outline rules known A) :
    Upheld rules (fun bag s => Exclusive bag s ∧ known bag s) A.Stands where
  step {me f new rest s s'} fit basis inv h := by
    obtain ⟨alone, basis⟩ := basis
    cases inside : f.inPass with
    | true =>
        obtain ⟨held, none⟩ := alone.alone inside
        have due := inv.2 f (Multiset.mem_cons_self f rest) inside
        rcases Scene.step_pass inside h with ⟨g, rfl, pass⟩ | ⟨refused, rfl, rfl, rfl⟩
        · refine ⟨fun free => absurd (pass.holder ▸ free) held, ?_⟩
          intro g' mem inside'
          rcases Multiset.mem_cons.mp mem with rfl | mem
          · exact out.pass fit basis pass due
          · simp [none g' mem] at inside'
        · refine ⟨fun _ => out.leave fit basis due, ?_⟩
          intro g mem inside'
          rcases Multiset.mem_add.mp mem with mem | mem
          · simp [not_inPass_discards refused g (Multiset.mem_coe.mp mem)] at inside'
          · simp [none g mem] at inside'
    | false =>
        cases waits : f.entersPass with
        | true =>
            obtain ⟨free, rfl, enter⟩ := Scene.step_enter waits h
            refine ⟨fun free' => by simp [enter.holder] at free', ?_⟩
            intro g mem inside'
            rcases Multiset.mem_cons.mp mem with rfl | mem
            · exact out.enter fit basis enter (inv.1 free)
            · simp [alone.no_pass free (Multiset.mem_cons_of_mem mem)] at inside'
        | false =>
            have outside := Scene.step_outside inside waits h
            refine ⟨fun free => ?_, fun g mem inside' => ?_⟩
            · have free := outside.holder ▸ free
              exact out.outside fit basis inside waits h (fun _ => rfl) (inv.1 free)
            · rcases Multiset.mem_add.mp mem with mem | mem
              · simp [outside.outside g (Multiset.mem_coe.mp mem)] at inside'
              · have mem := Multiset.mem_cons_of_mem (b := f) mem
                exact out.outside fit basis inside waits h
                  (fun free => by simp [alone.no_pass free mem] at inside') (inv.2 g mem inside')
  call {c bag s} allowed basis inv := by
    refine ⟨fun free => out.call allowed basis.2 (inv.1 free), ?_⟩
    intro g mem inside
    rcases Multiset.mem_cons.mp mem with rfl | mem
    · simp [not_inPass_call c] at inside
    · exact out.call allowed basis.2 (inv.2 g mem inside)
  finish {job mode pool bag s} allowed yields basis inv := by
    refine ⟨fun free => out.finish allowed yields basis.2 (inv.1 free), ?_⟩
    intro g mem inside
    rcases Multiset.mem_cons.mp mem with rfl | mem
    · simp [Frame.inPass] at inside
    · exact out.finish allowed yields basis.2 (inv.2 g mem inside)
  finishReturned {job mode before after bag s} allowed split basis inv := by
    refine ⟨fun free => out.finishReturned allowed split basis.2 (inv.1 free),
      fun g mem inside => ?_⟩
    rcases Multiset.mem_cons.mp mem with rfl | mem
    · simp [Frame.inPass] at inside
    · exact out.finishReturned allowed split basis.2 (inv.2 g mem inside)
  pool moves basis inv :=
    ⟨fun free => out.pool moves basis.2 (inv.1 free),
      fun g mem inside => out.pool moves basis.2 (inv.2 g mem inside)⟩

/-- An outline that holds of an idle executor holds in all its runs. -/
theorem Outline.reaches (out : Outline rules known A) {s : Scene σ ν} {y : System σ ν}
    (basis : ∀ w, System.Reaches rules (.idle s) w → known w.bag w.scene)
    (free : s.exec.holder = none) (start : A none 0 s) (run : System.Reaches rules (.idle s) y) :
    A.Stands y.bag y.scene :=
  out.upheld.reaches (fun w before => ⟨exclusive free before, basis w before⟩)
    ⟨fun _ => start, by simp [System.bag_idle]⟩ run

/-- An assertion that is the same everywhere goes on holding once it holds. -/
theorem Outline.lasts {I : Multiset (Frame ν) → Scene σ ν → Prop}
    (out : Outline rules known fun _ => I) {y z : System σ ν}
    (basis : ∀ w, System.Reaches rules y w → Exclusive w.bag w.scene ∧ known w.bag w.scene)
    (start : I y.bag y.scene) (run : System.Reaches rules y z) : I z.bag z.scene := by
  have stands := out.upheld.reaches basis ⟨fun _ => start, fun _ _ _ => start⟩ run
  obtain ⟨-, holds⟩ := stands.due (basis z run).1
  exact holds

/-- An assertion that is the same everywhere holds in all runs. -/
theorem Outline.always {I : Multiset (Frame ν) → Scene σ ν → Prop}
    (out : Outline rules known fun _ => I) {s : Scene σ ν} {y : System σ ν}
    (basis : ∀ w, System.Reaches rules (.idle s) w → known w.bag w.scene)
    (free : s.exec.holder = none) (start : I 0 s) (run : System.Reaches rules (.idle s) y) :
    I y.bag y.scene :=
  out.lasts (fun w before => ⟨exclusive free before, basis w before⟩) start run

end Outline

end TwoTier
