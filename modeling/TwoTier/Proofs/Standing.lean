import TwoTier.Proofs.Closures
import TwoTier.Buffer.Handles

/-!
How a handle may stand.

A closure with a handle is in one place as long as it exists, and its inbox has one sender exactly
until it has ended or is gone. `Standing.Sound` lists the standings that a handle goes through, and
what becomes of the closure takes one to the next. What a reader learns from each is `Tells`.
-/

namespace TwoTier

variable {σ ν : Type}

/-! ### Notes of one handle -/

namespace Note

variable (i : Nat)

theorem filterMap_concat_toList {α β : Type} (p : α → Option β) (l : List α) (a : α) :
    (l ++ [a]).filterMap p = l.filterMap p ++ (p a).toList := by
  rw [List.filterMap_append, List.filterMap_eq_flatMap_toList p [a], List.flatMap_singleton]

variable (h : List (Note ν)) (n : Note ν)

@[simp] theorem works_concat : works i (h ++ [n]) = works i h ++ (n.work? i).toList :=
  filterMap_concat_toList _ h n

@[simp] theorem marks_concat : marks i (h ++ [n]) = marks i h ++ (n.mark? i).toList :=
  filterMap_concat_toList _ h n

@[simp] theorem results_concat : results i (h ++ [n]) = results i h ++ (n.result? i).toList :=
  filterMap_concat_toList _ h n

end Note

/-! ### How a handle may stand -/

/-- What a run has come to for one handle: the work submitted with it, what became of the closure,
what was read, the closures that have not been started, those that run, those that are being thrown
away, and the inbox. -/
structure Standing (ν : Type) where
  works : List (Work ν)
  marks : List (Mark ν)
  results : List (Except Error ν)
  unstarted : Multiset (Work ν)
  running : Multiset (Work ν)
  dying : Nat
  box : Option (Inbox ν)

/-- Nothing was learnt from a reading. -/
def waited (results : List (Except Error ν)) : Prop := ∀ r ∈ results, r = .error .timeout

namespace Standing

/-- A closure is in one place until it has ended or is gone, and so long its inbox has one
sender. -/
inductive Sound : Standing ν → Prop where
  | unopened : Sound ⟨[], [], [], 0, 0, 0, none⟩
  /-- The inbox of a collective call. -/
  | shared {a : Standing ν} (works : a.works = []) (opened : a.box ≠ none) : Sound a
  | waiting (w : Work ν) {results : List (Except Error ν)} (vain : waited results) :
      Sound ⟨[w], [], results, {w}, 0, 0, some ⟨[], 1⟩⟩
  | running (w : Work ν) {results : List (Except Error ν)} (vain : waited results) :
      Sound ⟨[w], [.started], results, 0, {w}, 0, some ⟨[], 1⟩⟩
  | ended (w : Work ν) {results : List (Except Error ν)} (vain : waited results) :
      Sound ⟨[w], [.started, .ended w.ending], results, 0, 0, 0, some ⟨[w.ending], 0⟩⟩
  | known (w : Work ν) {results : List (Except Error ν)} (learnt : ¬ waited results) :
      Sound ⟨[w], [.started, .ended w.ending], results, 0, 0, 0, some ⟨[], 0⟩⟩
  | dying (w : Work ν) {results : List (Except Error ν)} (vain : waited results) :
      Sound ⟨[w], [.condemned], results, 0, 0, 1, some ⟨[], 1⟩⟩
  | gone (w : Work ν) (results : List (Except Error ν)) :
      Sound ⟨[w], [.condemned, .gone], results, 0, 0, 0, some ⟨[], 0⟩⟩

variable {a : Standing ν} {w : Work ν} {m : Multiset (Work ν)} {n : Nat} {b : Inbox ν}

theorem eq_of_singleton {w' : Work ν} (h : ({w'} : Multiset (Work ν)) = {w} + m) :
    w' = w ∧ m = 0 := by
  have size := congrArg Multiset.card h
  simp only [Multiset.card_singleton, Multiset.card_add] at size
  obtain rfl : m = 0 := Multiset.card_eq_zero.mp (by omega)
  exact ⟨Multiset.singleton_inj.mp (by simpa using h), rfl⟩

theorem zero_ne_singleton_add (h : (0 : Multiset (Work ν)) = {w} + m) : False := by
  have size := congrArg Multiset.card h
  simp at size

theorem Sound.submit (h : a.Sound) (new : a.box = none) (w : Work ν) :
    Sound { a with
      works := a.works ++ [w], unstarted := {w} + a.unstarted, box := some (.withSenders 1) } := by
  cases h with
  | unopened => exact .waiting w (by simp [waited])
  | shared _ opened => exact absurd new opened
  | _ => contradiction

theorem Sound.unopened_works (h : a.Sound) (new : a.box = none) : a.works = [] := by
  cases h with
  | unopened => rfl
  | shared _ opened => exact absurd new opened
  | _ => contradiction

theorem Sound.start (h : a.Sound) (among : a.unstarted = {w} + m) :
    Sound { a with marks := a.marks ++ [.started]
                   unstarted := m, running := {w} + a.running } := by
  cases h with
  | waiting w' vain =>
      obtain ⟨rfl, rfl⟩ := eq_of_singleton among
      exact .running w' vain
  | shared works opened => exact .shared works opened
  | _ => exact (zero_ne_singleton_add among).elim

theorem Sound.finish (h : a.Sound) (among : a.running = {w} + m) :
    Sound { a with
      marks := a.marks ++ [.ended w.ending]
      running := m
      box := a.box.map fun b => (b.send w.ending).hangUp } := by
  cases h with
  | running w' vain =>
      obtain ⟨rfl, rfl⟩ := eq_of_singleton among
      exact .ended w' vain
  | shared works opened => exact .shared works (by simpa using opened)
  | _ => exact (zero_ne_singleton_add among).elim

theorem Sound.discard (h : a.Sound) (among : a.unstarted = {w} + m) :
    Sound { a with
      marks := a.marks ++ [.condemned], unstarted := m, dying := 1 + a.dying } := by
  cases h with
  | waiting w' vain =>
      obtain ⟨rfl, rfl⟩ := eq_of_singleton among
      exact .dying w' vain
  | shared works opened => exact .shared works opened
  | _ => exact (zero_ne_singleton_add among).elim

theorem Sound.hangUp (h : a.Sound) (among : a.dying = 1 + n) :
    Sound { a with
      marks := a.marks ++ [.gone], dying := n, box := a.box.map Inbox.hangUp } := by
  cases h with
  | dying w' vain =>
      obtain rfl : n = 0 := by simpa using among.symm
      exact .gone w' _
  | shared works opened => exact .shared works (by simpa using opened)
  | _ => exact absurd (show 0 = 1 + n from among) (by omega)

theorem waited_append {results : List (Except Error ν)} (vain : waited results) :
    waited (results ++ [.error .timeout]) := by
  intro r mem
  rcases List.mem_append.mp mem with mem | mem
  · exact vain r mem
  · exact List.mem_singleton.mp mem

theorem not_waited_append {results : List (Except Error ν)} {r : Except Error ν}
    (learnt : ¬ waited results ∨ r ≠ .error .timeout) : ¬ waited (results ++ [r]) := by
  intro vain
  rcases learnt with learnt | learnt
  · exact learnt fun r' mem => vain r' (List.mem_append_left _ mem)
  · exact learnt (vain r (by simp))

theorem Sound.read (h : a.Sound) (own : a.box = some b) :
    Sound { a with results := a.results ++ [b.joinNow.1], box := some b.joinNow.2 } := by
  cases h with
  | unopened => contradiction
  | shared works opened => exact .shared works (by simp)
  | waiting w vain =>
      obtain rfl := Option.some.inj own
      exact .waiting w (waited_append vain)
  | running w vain =>
      obtain rfl := Option.some.inj own
      exact .running w (waited_append vain)
  | dying w vain =>
      obtain rfl := Option.some.inj own
      exact .dying w (waited_append vain)
  | gone w results =>
      obtain rfl := Option.some.inj own
      exact .gone w _
  | known w learnt =>
      obtain rfl := Option.some.inj own
      exact .known w (not_waited_append (.inl learnt))
  | ended w vain =>
      obtain rfl := Option.some.inj own
      refine .known w (not_waited_append (.inr ?_))
      change w.ending.result ≠ _
      cases w.ending <;> simp [Ending.result]

/-- The closures that exist. -/
def existing (a : Standing ν) : Nat := a.unstarted.card + a.running.card + a.dying

end Standing

/-! ### What a reader learns -/

/-- What a reading that follows only vain ones has to do with the fate of the closure, given the
work that was submitted, what became of the closure, and how many of them exist. -/
structure Tells (w : Work ν) (marks : List (Mark ν)) (existing : Nat) (r : Except Error ν) :
    Prop where
  timeout : r = .error .timeout ↔ existing = 1
  single : existing ≤ 1
  value : ∀ v, r = .ok v ↔ marks = [.started, .ended (.value v)]
  panic : ∀ message, r = .error (.taskPanicked message) ↔
    ∃ payload, payload.message = message ∧ marks = [.started, .ended (.panic payload)]
  dropped : r = .error .taskDropped ↔ marks = [.condemned, .gone]
  /-- A closure ends only as its work says. -/
  ending : ∀ e, .ended e ∈ marks → e = w.ending

namespace Tells

variable {w : Work ν} {marks : List (Mark ν)}

/-- The closure exists and has not ended. -/
theorem unsettled (running : ∀ e, .ended e ∉ marks) (here : .gone ∉ marks) :
    Tells w marks 1 (.error .timeout) where
  timeout := by simp
  single := Nat.le_refl 1
  value v := by
    refine ⟨fun h => by contradiction, ?_⟩
    rintro rfl
    exact absurd (by simp) (running (.value v))
  panic message := by
    refine ⟨fun h => by simp at h, ?_⟩
    rintro ⟨payload, -, rfl⟩
    exact absurd (by simp) (running (.panic payload))
  dropped := by
    refine ⟨fun h => by simp at h, ?_⟩
    rintro rfl
    exact absurd (by simp) here
  ending e mem := absurd mem (running e)

theorem ended (w : Work ν) : Tells w [.started, .ended w.ending] 0 w.ending.result where
  timeout := by cases w.ending <;> simp [Ending.result]
  single := Nat.zero_le 1
  value v := by cases w.ending <;> simp [Ending.result]
  panic message := by cases w.ending <;> simp [Ending.result]
  dropped := by cases w.ending <;> simp [Ending.result]
  ending e mem := by simpa using mem

theorem gone (w : Work ν) : Tells w [.condemned, .gone] 0 (.error .taskDropped) where
  timeout := by simp
  single := Nat.zero_le 1
  value v := by simp
  panic message := by simp
  dropped := by simp
  ending e mem := by simp at mem

end Tells

namespace Standing

/-- Waiting for a result comes to the same as reading it when it is there. -/
theorem Sound.tells {a : Standing ν} {w : Work ν} (h : a.Sound) (mem : w ∈ a.works)
    (vain : waited a.results) : ∃ b, a.box = some b ∧ Tells w a.marks a.existing b.joinNow.1 ∧
      ∀ r, b.join? = some r ↔ r ≠ .error .timeout ∧ b.joinNow.1 = r := by
  cases h with
  | unopened => cases mem
  | shared works opened =>
      rw [works] at mem
      cases mem
  | known w' learnt => exact absurd vain learnt
  | waiting w' _ | running w' _ | dying w' _ =>
      refine ⟨_, rfl, Tells.unsettled (by simp) (by simp), fun r => ⟨fun h => by contradiction, ?_⟩⟩
      rintro ⟨learnt, rfl⟩
      exact absurd rfl learnt
  | ended w' _ =>
      obtain rfl := List.mem_singleton.mp mem
      refine ⟨_, rfl, Tells.ended w, fun r => ?_⟩
      change some w.ending.result = some r ↔ r ≠ .error .timeout ∧ w.ending.result = r
      cases w.ending <;> simp [Ending.result] <;> rintro rfl <;> simp
  | gone w' results =>
      refine ⟨_, rfl, Tells.gone w, fun r => ?_⟩
      change some (.error .taskDropped) = some r ↔ r ≠ .error .timeout ∧ .error .taskDropped = r
      simp
      rintro rfl
      simp

end Standing

/-! ### Inboxes -/

namespace Replies

variable {i : Nat} {r : Replies ν}

theorem get?_modify (j : Nat) (f : Inbox ν → Inbox ν) :
    (r.modify j f).get? i = if j = i then (r.get? i).map f else r.get? i := by
  unfold modify get?
  rw [List.getElem?_modify]
  by_cases own : j = i
  · simp [own]
  · simp [own]

@[simp] theorem get?_hangUp (reply : Option Nat) :
    (r.hangUp reply).get? i = if reply = some i then (r.get? i).map Inbox.hangUp else r.get? i := by
  cases reply with
  | none => simp [hangUp]
  | some j => simp [hangUp, get?_modify]

@[simp] theorem get?_deliver (reply : Option Nat) (e : Ending ν) :
    (r.deliver reply e).get? i
      = if reply = some i then (r.get? i).map fun b => (b.send e).hangUp else r.get? i := by
  cases reply with
  | none => simp [deliver]
  | some j => simp [deliver, get?_modify]

/-- A new inbox has a number that no inbox had. -/
theorem get?_openBox (n : Nat) : (r.openBox n).2.get? i
    = if (r.openBox n).1 = i then some (.withSenders n) else r.get? i := by
  change (r.boxes ++ [Inbox.withSenders n])[i]? = if r.boxes.length = i then _ else r.boxes[i]?
  split
  · rename_i last
    simp [← last]
  · rename_i other
    rcases Nat.lt_or_gt_of_ne other with beyond | before
    · rw [List.getElem?_eq_none (by simp; omega), List.getElem?_eq_none (by omega)]
    · rw [List.getElem?_append_left before]

theorem get?_new (n : Nat) : r.get? (r.openBox n).1 = none :=
  List.getElem?_eq_none (Nat.le_refl _)

end Replies

@[simp] theorem World.replies_record (e : Event) (w : World ν) :
    (w.record e).replies = w.replies := rfl

/-- The end of a closure reaches its inbox. -/
@[simp] theorem World.replies_finish (c : Closure ν) (on : ThreadId) (w : World ν) :
    (w.finish c on).replies = w.replies.deliver c.reply c.work.ending := by
  unfold finish
  cases c.reply with
  | none => cases c.work.ending <;> rfl
  | some i => rfl

end TwoTier
