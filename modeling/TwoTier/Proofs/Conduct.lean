import Mathlib.Data.Multiset.Filter
import Mathlib.Tactic.Abel
import TwoTier.Executor
import TwoTier.Proofs.Standing

/-!
How an executor conducts itself.

Whoever waits for results knows an executor by what becomes of the closures that it is given: it
takes a closure or refuses it, and one that it has taken is run, thrown away, or still in its hands.
`Conduct` says that an executor's inboxes tell of these fates and of nothing else: a closure that
was run has left its ending, and one that was thrown away or refused has let go of its inbox. When a
closure is run, and in which order with others, is left to the executor.

A call that submits several works hands them in one after the other (`Conduct.handIn`). Whatever was
taken was then run or thrown away or is in the executor's hands (`handIn_balance`), and an inbox
holds the endings of those that were run, in the order of their ends (`Heard`).
-/

namespace TwoTier

open Executor

variable {ε ν : Type}

/-! ### Closures and fates -/

/-- A closure whose ending is waited for: the work, and the inbox. -/
structure Parcel (ν : Type) where
  box : Nat
  work : Work ν

/-- A closure, if somebody waits for its ending. -/
def Closure.parcel? (c : Closure ν) : Option (Parcel ν) := c.reply.map (⟨·, c.work⟩)

/-- What was done with a closure. -/
inductive Fate (ν : Type) where
  | run (p : Parcel ν)
  /-- It was thrown away without having run. -/
  | drop (p : Parcel ν)

/-- The closures for one inbox. -/
def Parcel.sentTo (i : Nat) (m : Multiset (Parcel ν)) : Multiset (Parcel ν) := m.filter (·.box = i)

namespace Fate

def parcel : Fate ν → Parcel ν
  | .run p => p
  | .drop p => p

def ending? : Fate ν → Option (Ending ν)
  | .run p => some p.work.ending
  | .drop _ => none

/-- The fates that concern one inbox. -/
def about (i : Nat) (fs : List (Fate ν)) : List (Fate ν) := fs.filter fun f => f.parcel.box = i

/-- The endings that came to one inbox, in their order. -/
def endings (i : Nat) (fs : List (Fate ν)) : List (Ending ν) := (about i fs).filterMap ending?

/-- The closures that were dealt with. -/
def parcels (fs : List (Fate ν)) : Multiset (Parcel ν) := ↑(fs.map parcel)

variable {i : Nat} {fs fs' : List (Fate ν)} {p : Parcel ν}

@[simp] theorem about_append : about i (fs ++ fs') = about i fs ++ about i fs' :=
  List.filter_append ..

@[simp] theorem endings_append : endings i (fs ++ fs') = endings i fs ++ endings i fs' := by
  simp [endings]

@[simp] theorem parcels_append : parcels (fs ++ fs') = parcels fs + parcels fs' := by
  simp [parcels]

@[simp] theorem parcels_nil : parcels ([] : List (Fate ν)) = 0 := rfl

@[simp] theorem about_nil : about i ([] : List (Fate ν)) = [] := rfl

theorem mem_parcels : p ∈ parcels fs ↔ ∃ f ∈ fs, f.parcel = p := by
  simp [parcels]

theorem parcels_about : parcels (about i fs) = Parcel.sentTo i (parcels fs) := by
  simp only [parcels, about, Parcel.sentTo, Multiset.filter_coe, List.filter_map]
  rfl

theorem nothing {left : Multiset (Parcel ν)} (balance : 0 = parcels fs + left) :
    fs = [] ∧ left = 0 := by
  have none : 0 = fs.length + left.card := by
    simpa [parcels] using congrArg Multiset.card balance
  exact ⟨List.eq_nil_of_length_eq_zero (by omega), Multiset.card_eq_zero.mp (by omega)⟩

/-- A single closure was run or thrown away, or it is what is left. -/
theorem alone {left : Multiset (Parcel ν)} (balance : {p} = parcels fs + left) :
    (fs = [.run p] ∧ left = 0) ∨ (fs = [.drop p] ∧ left = 0) ∨ (fs = [] ∧ left = {p}) := by
  cases fs with
  | nil =>
      refine .inr (.inr ⟨rfl, ?_⟩)
      simpa using balance.symm
  | cons f rest =>
      have one : 1 = (rest.length + 1) + left.card := by
        simpa [parcels] using congrArg Multiset.card balance
      obtain rfl : rest = [] := List.eq_nil_of_length_eq_zero (by omega)
      obtain rfl : left = 0 := Multiset.card_eq_zero.mp (by omega)
      obtain rfl : f.parcel = p := by simpa [parcels] using balance.symm
      cases f with
      | run p => exact .inl ⟨rfl, rfl⟩
      | drop p => exact .inr (.inl ⟨rfl, rfl⟩)

end Fate

namespace Parcel

variable {i : Nat} {m m' : Multiset (Parcel ν)} {p : Parcel ν}

@[simp] theorem sentTo_add : sentTo i (m + m') = sentTo i m + sentTo i m' :=
  Multiset.filter_add ..

theorem sentTo_cons : sentTo i (p ::ₘ m) = (if p.box = i then {p} else 0) + sentTo i m :=
  Multiset.filter_cons m

theorem sentTo_eq_zero : sentTo i m = 0 ↔ ∀ p ∈ m, p.box ≠ i :=
  Multiset.filter_eq_nil

end Parcel

/-- What fates that concern an inbox make of it: an ending for each closure that was run, and one
sender fewer for each that was dealt with. -/
def Inbox.after (fs : List (Fate ν)) (b : Inbox ν) : Inbox ν :=
  ⟨b.arrived ++ fs.filterMap Fate.ending?, b.senders - fs.length⟩

theorem Replies.get?_hangUp_ne_none {r : Replies ν} {reply : Option Nat} {i : Nat} :
    (r.hangUp reply).get? i ≠ none ↔ r.get? i ≠ none := by
  rw [get?_hangUp]
  split <;> simp

/-! ### From one moment to another -/

/-- By these fates some of the closures in an executor's hands are dealt with, and the inboxes hear
of it. -/
structure Passage (fs : List (Fate ν)) (hands : Multiset (Parcel ν)) (r : Replies ν)
    (hands' : Multiset (Parcel ν)) (r' : Replies ν) : Prop where
  balance : hands = Fate.parcels fs + hands'
  boxes : ∀ i b, r.get? i = some b → r'.get? i = some (b.after (Fate.about i fs))

/-- Every closure that was dealt with or is in hand goes to an inbox that exists. -/
def Addressed (fs : List (Fate ν)) (hands : Multiset (Parcel ν)) (r : Replies ν) : Prop :=
  ∀ p ∈ Fate.parcels fs + hands, r.get? p.box ≠ none

/-- An inbox holds the endings of the closures that were run, and its senders are the closures in
hand and `n` others. -/
def Heard (i n : Nat) (fs : List (Fate ν)) (hands : Multiset (Parcel ν)) (r : Replies ν) : Prop :=
  r.get? i = some ⟨Fate.endings i fs, (Parcel.sentTo i hands).card + n⟩

theorem Heard.there {fs : List (Fate ν)} {hands : Multiset (Parcel ν)} {r : Replies ν} {i n : Nat}
    (heard : Heard i n fs hands r) : r.get? i ≠ none := by
  rw [Heard] at heard
  simp [heard]

section Passages

variable {fs fs' : List (Fate ν)} {hands hands' hands'' : Multiset (Parcel ν)}
  {r r' r'' : Replies ν} {i n : Nat} {p : Parcel ν}

namespace Passage

/-- Nothing is done. -/
theorem refl : Passage [] hands r hands r where
  balance := by simp
  boxes i b own := by simpa [Inbox.after] using own

theorem run : Passage [.run p] (p ::ₘ hands) r hands (r.deliver (some p.box) p.work.ending) where
  balance := rfl
  boxes i b own := by
    by_cases same : p.box = i
    · simp [same, own, Fate.about, Fate.parcel, Fate.ending?, Inbox.after, Inbox.send, Inbox.hangUp]
    · simp [same, own, Fate.about, Fate.parcel, Inbox.after]

theorem drop : Passage [.drop p] (p ::ₘ hands) r hands (r.hangUp (some p.box)) where
  balance := rfl
  boxes i b own := by
    by_cases same : p.box = i
    · simp [same, own, Fate.about, Fate.parcel, Fate.ending?, Inbox.after, Inbox.hangUp]
    · simp [same, own, Fate.about, Fate.parcel, Inbox.after]

/-- A closure ends, and whoever waits for it hears of it. -/
theorem ran (c : Closure ν) : Passage (c.parcel?.map .run).toList (↑c.parcel?.toList + hands) r
    hands (r.deliver c.reply c.work.ending) := by
  unfold Closure.parcel?
  cases c.reply with
  | none => simpa [Replies.deliver] using refl
  | some i => exact run

theorem thrownAway (c : Closure ν) : Passage (c.parcel?.map .drop).toList
    (↑c.parcel?.toList + hands) r hands (r.hangUp c.reply) := by
  unfold Closure.parcel?
  cases c.reply with
  | none => simpa [Replies.hangUp] using refl
  | some i => exact drop

theorem trans (first : Passage fs hands r hands' r') (second : Passage fs' hands' r' hands'' r'') :
    Passage (fs ++ fs') hands r hands'' r'' where
  balance := by rw [first.balance, second.balance, Fate.parcels_append, add_assoc]
  boxes i b own := by
    rw [second.boxes i _ (first.boxes i b own)]
    simp [Inbox.after, Nat.sub_sub]

/-- No inbox goes away. -/
theorem keeps (passage : Passage fs hands r hands' r') (own : r.get? i ≠ none) :
    r'.get? i ≠ none := by
  obtain ⟨b, own⟩ := Option.ne_none_iff_exists'.mp own
  simp [passage.boxes i b own]

theorem addressed (passage : Passage fs' hands r hands' r') (start : Addressed fs hands r) :
    Addressed (fs ++ fs') hands' r' := by
  intro p mem
  apply passage.keeps
  apply start
  rwa [passage.balance, ← add_assoc, ← Fate.parcels_append]

theorem heard (passage : Passage fs' hands r hands' r') (start : Heard i n fs hands r) :
    Heard i n (fs ++ fs') hands' r' := by
  have length : (Parcel.sentTo i (Fate.parcels fs')).card = (Fate.about i fs').length := by
    rw [← Fate.parcels_about]
    simp [Fate.parcels]
  have count : (Parcel.sentTo i hands).card
      = (Fate.about i fs').length + (Parcel.sentTo i hands').card := by
    rw [passage.balance, Parcel.sentTo_add, Multiset.card_add, length]
  rw [Heard, passage.boxes i _ start, Inbox.after, Fate.endings_append, count,
    Nat.add_assoc, Nat.add_sub_cancel_left]
  rfl

end Passage

/-- A closure is given out for an inbox that exists. -/
theorem Addressed.cons (start : Addressed fs hands r) (own : r.get? p.box ≠ none) :
    Addressed fs (p ::ₘ hands) r := by
  intro q mem
  rw [Multiset.add_cons] at mem
  rcases Multiset.mem_cons.mp mem with rfl | mem
  · exact own
  · exact start q mem

theorem Addressed.mono (start : Addressed fs hands r)
    (keeps : ∀ i, r.get? i ≠ none → r'.get? i ≠ none) : Addressed fs hands r' :=
  fun p mem => keeps p.box (start p mem)

/-- A sender becomes that of a closure in hand. -/
theorem Heard.cons (start : Heard i (n + if p.box = i then 1 else 0) fs hands r) :
    Heard i n fs (p ::ₘ hands) r := by
  rw [Heard] at start ⊢
  rw [start, Parcel.sentTo_cons]
  by_cases same : p.box = i
  · rw [if_pos same, if_pos same, Multiset.singleton_add, Multiset.card_cons, Nat.add_assoc,
      Nat.add_comm 1]
  · simp [same]

/-- A sender lets go. -/
theorem Heard.hangUp {j : Nat} (start : Heard i (n + if j = i then 1 else 0) fs hands r) :
    Heard i n fs hands (r.hangUp (some j)) := by
  rw [Heard] at start ⊢
  by_cases same : j = i
  · simp [start, same, Inbox.hangUp, ← Nat.add_assoc]
  · simpa [same] using start

/-- Nobody has written to an inbox that does not exist yet. -/
theorem Heard.of_new (start : Addressed fs hands r) (new : r.get? i = none)
    (own : r'.get? i = some (.withSenders n)) : Heard i n fs hands r' := by
  have silent : Fate.about i fs = [] := by
    rw [Fate.about, List.filter_eq_nil_iff]
    intro f mem
    have dealt : f.parcel ∈ Fate.parcels fs := Fate.mem_parcels.mpr ⟨f, mem, rfl⟩
    have other := start f.parcel (Multiset.mem_add.mpr (.inl dealt))
    simpa using fun same : f.parcel.box = i => other (same ▸ new)
  have nobody : Parcel.sentTo i hands = 0 := by
    rw [Parcel.sentTo_eq_zero]
    rintro p mem rfl
    exact start p (Multiset.mem_add.mpr (.inr mem)) new
  rw [Heard, own, Fate.endings, silent, nobody]
  simp [Inbox.withSenders]

end Passages

/-! ### Executors -/

/-- What an executor does with the closures that it is given: what it has in its hands, what it does
in the course of a call that brings a closure, and what goes on while a caller waits. A closure that
is taken comes to the others in hand, and one that is refused lets go of its inbox; other inboxes
may be opened at any time. -/
structure Conduct (ε ν : Type) [Executor ε ν] where
  /-- What holds of the executor whatever it is asked, and what the rest relies on. -/
  sound : ε → Prop
  hands : ε → Multiset (Parcel ν)
  during : ThreadId → Parcel ν → ε → List (Fate ν)
  meanwhile : ε → List (Fate ν)
  replies_set (r : Replies ν) (e : ε) : replies (setReplies r e) = r
  hands_set (r : Replies ν) (e : ε) : hands (setReplies r e) = hands e
  sound_set {e : ε} (r : Replies ν) : sound e → sound (setReplies r e)
  sound_execute {me : ThreadId} {p : Parcel ν} {e : ε} :
    sound e → sound (execute me p.work (some p.box) e).2
  taken {me : ThreadId} {p : Parcel ν} {e : ε} : sound e →
    (execute me p.work (some p.box) e).1 = .ok () →
      Passage (during me p e) (p ::ₘ hands e) (replies e)
        (hands (execute me p.work (some p.box) e).2) (replies (execute me p.work (some p.box) e).2)
  refused {me : ThreadId} {p : Parcel ν} {e : ε} {why : Error} : sound e →
    (execute me p.work (some p.box) e).1 = .error why →
      Passage (during me p e) (hands e) ((replies e).hangUp (some p.box))
        (hands (execute me p.work (some p.box) e).2) (replies (execute me p.work (some p.box) e).2)
  waited {e : ε} : sound e → Passage (meanwhile e) (hands e) (replies e) (hands (whileWaiting e))
    (replies (whileWaiting e))

/-- One of several works that a call hands in: the closure, the answer, and what was done with
closures before the answer came. -/
structure HandIn (ν : Type) where
  parcel : Parcel ν
  answer : Except Error Unit
  fates : List (Fate ν)

namespace HandIn

def taken? (h : HandIn ν) : Option (Parcel ν) :=
  match h.answer with
  | .ok () => some h.parcel
  | .error _ => none

def refusal? (h : HandIn ν) : Option Error :=
  match h.answer with
  | .ok () => none
  | .error why => some why

/-- The closures that were taken. -/
def taken (hs : List (HandIn ν)) : List (Parcel ν) := hs.filterMap taken?

def refusals (hs : List (HandIn ν)) : List Error := hs.filterMap refusal?

def fatesOf (hs : List (HandIn ν)) : List (Fate ν) := hs.flatMap fates

theorem taken_cons (h : HandIn ν) (hs : List (HandIn ν)) :
    taken (h :: hs) = h.taken?.toList ++ taken hs := by
  cases answer : h.taken? <;> simp [taken, answer]

theorem refusals_cons (h : HandIn ν) (hs : List (HandIn ν)) :
    refusals (h :: hs) = h.refusal?.toList ++ refusals hs := by
  cases answer : h.refusal? <;> simp [refusals, answer]

theorem mem_taken {hs : List (HandIn ν)} {p : Parcel ν} :
    p ∈ taken hs ↔ ∃ h ∈ hs, h.answer = .ok () ∧ h.parcel = p := by
  rw [taken, List.mem_filterMap]
  apply exists_congr
  intro h
  apply and_congr_right
  intro _
  cases answer : h.answer with
  | ok => simp [taken?, answer]
  | error why => simp [taken?, answer]

theorem fatesOf_cons (h : HandIn ν) (hs : List (HandIn ν)) :
    fatesOf (h :: hs) = h.fates ++ fatesOf hs :=
  List.flatMap_cons

end HandIn

/-- A call that hands in several works and then waits: how they were handed in, all that was done
with closures until the wait was over, and the executor by then. -/
structure Round (ε ν : Type) where
  handIns : List (HandIn ν)
  fates : List (Fate ν)
  last : ε

namespace Conduct

variable [Executor ε ν] (C : Conduct ε ν) (me : ThreadId) (give : Replies ν → Nat × Replies ν)
  {fs : List (Fate ν)} {e : ε}

/-- After some fates, no closure was or is for an inbox that does not exist yet. -/
structure Known (fs : List (Fate ν)) (e : ε) : Prop where
  sound : C.sound e
  addressed : Addressed fs (C.hands e) (replies e)

include C in
theorem replies_given : replies (onReplies give e).2 = (give (replies e)).2 := C.replies_set ..

theorem hands_given : C.hands (onReplies give e).2 = C.hands e := C.hands_set ..

variable {C} in
theorem sound_given (sound : C.sound e) : C.sound (onReplies give e).2 := C.sound_set _ sound

/-- No closure in hand is for a new inbox. -/
theorem Known.unused {C : Conduct ε ν} (known : C.Known fs e) {i : Nat}
    (new : (replies e).get? i = none) : Parcel.sentTo i (C.hands e) = 0 := by
  rw [Parcel.sentTo_eq_zero]
  rintro p among rfl
  exact known.addressed p (Multiset.mem_add.mpr (.inr among)) new

/-- Hands a closure in. -/
def hand (p : Parcel ν) (e : ε) : HandIn ν × ε :=
  (⟨p, (execute me p.work (some p.box) e).1, C.during me p e⟩,
    (execute me p.work (some p.box) e).2)

/-- Hands works in one after the other; `give` provides the inbox for the next. -/
def handIn : List (Work ν) → ε → List (HandIn ν) × ε
  | [], e => ([], e)
  | w :: ws, e =>
    let (i, e) := onReplies give e
    let (h, e) := C.hand me ⟨i, w⟩ e
    let (hs, e) := handIn ws e
    (h :: hs, e)

section OneHandIn

variable {C : Conduct ε ν} {me : ThreadId} {p : Parcel ν} {h : HandIn ν} {e' : ε} {i n : Nat}

theorem hand_sound (sound : C.sound e) (handed : C.hand me p e = (h, e')) : C.sound e' := by
  obtain ⟨-, rfl⟩ := Prod.mk.inj handed
  exact C.sound_execute sound

/-- A hand-in is a passage, of the closure with those in hand if it is taken, and else of the others
only. -/
theorem hand_cases (sound : C.sound e) (handed : C.hand me p e = (h, e')) :
    (h.answer = .ok () ∧
      Passage h.fates (p ::ₘ C.hands e) (replies e) (C.hands e') (replies e')) ∨
    (∃ why, h.answer = .error why) ∧
      Passage h.fates (C.hands e) ((replies e).hangUp (some p.box)) (C.hands e') (replies e') := by
  obtain ⟨rfl, rfl⟩ := Prod.mk.inj handed
  cases answer : (execute me p.work (some p.box) e).1 with
  | ok => exact .inl ⟨rfl, C.taken sound answer⟩
  | error why => exact .inr ⟨⟨why, rfl⟩, C.refused sound answer⟩

theorem hand_balance (sound : C.sound e) (handed : C.hand me p e = (h, e')) :
    ↑h.taken?.toList + C.hands e = Fate.parcels h.fates + C.hands e' := by
  have parcel : h.parcel = p := by
    obtain ⟨rfl, -⟩ := Prod.mk.inj handed
    rfl
  rcases hand_cases sound handed with ⟨answer, passage⟩ | ⟨⟨why, answer⟩, passage⟩
  · simp only [HandIn.taken?, answer, parcel]
    exact passage.balance
  · simp only [HandIn.taken?, answer]
    rw [← passage.balance]
    exact zero_add _

/-- An inbox hears of what is done, also that for which the closure is. -/
theorem hand_heard (sound : C.sound e) (handed : C.hand me p e = (h, e'))
    (start : Heard i (n + if p.box = i then 1 else 0) fs (C.hands e) (replies e)) :
    Heard i n (fs ++ h.fates) (C.hands e') (replies e') := by
  rcases hand_cases sound handed with ⟨-, passage⟩ | ⟨-, passage⟩
  · exact passage.heard start.cons
  · exact passage.heard start.hangUp

/-- No inbox goes away when a closure is handed in. -/
theorem hand_keeps (sound : C.sound e) (handed : C.hand me p e = (h, e'))
    (own : (replies e).get? i ≠ none) : (replies e').get? i ≠ none := by
  rcases hand_cases sound handed with ⟨-, passage⟩ | ⟨-, passage⟩
  · exact passage.keeps own
  · exact passage.keeps (Replies.get?_hangUp_ne_none.mpr own)

theorem Known.hand (start : C.Known fs e) (own : (replies e).get? p.box ≠ none)
    (handed : C.hand me p e = (h, e')) : C.Known (fs ++ h.fates) e' := by
  refine ⟨hand_sound start.sound handed, ?_⟩
  rcases hand_cases start.sound handed with ⟨-, passage⟩ | ⟨-, passage⟩
  · exact passage.addressed (start.addressed.cons own)
  · apply passage.addressed
    apply start.addressed.mono
    intro i there
    exact Replies.get?_hangUp_ne_none.mpr there

end OneHandIn

variable {give}

/-- The first work of a row is handed in, and then the others. -/
theorem of_handIn_cons {w : Work ν} {ws : List (Work ν)} {all : List (HandIn ν)} {e' : ε}
    (handed : C.handIn me give (w :: ws) e = (all, e')) :
    ∃ h hs between, all = h :: hs ∧ h.parcel = ⟨(give (replies e)).1, w⟩ ∧
      C.hand me ⟨(give (replies e)).1, w⟩ (onReplies give e).2 = (h, between) ∧
      C.handIn me give ws between = (hs, e') := by
  obtain ⟨rfl, rfl⟩ := Prod.mk.inj handed
  exact ⟨_, _, _, rfl, rfl, rfl, rfl⟩

/-- Every work of the list is handed in, at its place. -/
theorem handIn_works {works : List (Work ν)} {hs : List (HandIn ν)} {e' : ε}
    (handed : C.handIn me give works e = (hs, e')) : hs.map (·.parcel.work) = works := by
  induction works generalizing e hs with
  | nil =>
      obtain ⟨rfl, -⟩ := Prod.mk.inj handed
      rfl
  | cons w ws ih =>
      obtain ⟨h, hs, between, rfl, parcel, -, rest⟩ := C.of_handIn_cons me handed
      rw [List.map_cons, parcel, ih rest]

/-- What is true of all that an executor does in the course of a call is true of all that is done
while works are handed in. -/
theorem handIn_fates {P : Fate ν → Prop} (during : ∀ p e, ∀ f ∈ C.during me p e, P f)
    {works : List (Work ν)} {hs : List (HandIn ν)} {e' : ε}
    (handed : C.handIn me give works e = (hs, e')) : ∀ f ∈ HandIn.fatesOf hs, P f := by
  induction works generalizing e hs with
  | nil =>
      obtain ⟨rfl, -⟩ := Prod.mk.inj handed
      simp [HandIn.fatesOf]
  | cons w ws ih =>
      obtain ⟨h, hs, between, rfl, -, first, rest⟩ := C.of_handIn_cons me handed
      obtain ⟨rfl, -⟩ := Prod.mk.inj first
      rw [HandIn.fatesOf_cons, List.forall_mem_append]
      exact ⟨during _ _, ih rest⟩

theorem handIn_sound {works : List (Work ν)} {hs : List (HandIn ν)} {e' : ε} (sound : C.sound e)
    (handed : C.handIn me give works e = (hs, e')) : C.sound e' := by
  induction works generalizing e hs with
  | nil =>
      obtain ⟨-, rfl⟩ := Prod.mk.inj handed
      exact sound
  | cons w ws ih =>
      obtain ⟨h, hs, between, -, -, first, rest⟩ := C.of_handIn_cons me handed
      exact ih (hand_sound (sound_given _ sound) first) rest

/-- What was taken, and what was in hand before, has been dealt with or is in hand. -/
theorem handIn_balance {works : List (Work ν)} {hs : List (HandIn ν)} {e' : ε} (sound : C.sound e)
    (handed : C.handIn me give works e = (hs, e')) :
    ↑(HandIn.taken hs) + C.hands e = Fate.parcels (HandIn.fatesOf hs) + C.hands e' := by
  induction works generalizing e hs with
  | nil =>
      obtain ⟨rfl, rfl⟩ := Prod.mk.inj handed
      rfl
  | cons w ws ih =>
      obtain ⟨h, hs, between, rfl, -, first, rest⟩ := C.of_handIn_cons me handed
      have given := sound_given give sound
      have one := hand_balance given first
      rw [C.hands_given] at one
      calc ↑(HandIn.taken (h :: hs)) + C.hands e
          = (↑h.taken?.toList + C.hands e) + ↑(HandIn.taken hs) := by
            rw [HandIn.taken_cons, ← Multiset.coe_add, add_right_comm]
        _ = Fate.parcels h.fates + (↑(HandIn.taken hs) + C.hands between) := by
            rw [one, add_assoc, add_comm (C.hands between)]
        _ = Fate.parcels (HandIn.fatesOf (h :: hs)) + C.hands e' := by
            rw [ih (hand_sound given first) rest, HandIn.fatesOf_cons, Fate.parcels_append,
              add_assoc]

end Conduct

end TwoTier
