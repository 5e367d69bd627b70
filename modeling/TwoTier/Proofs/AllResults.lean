import Mathlib.Data.List.Forall2
import TwoTier.Proofs.Assisted

/-!
All results of a list of works, in their order.

Each work is handed in with an inbox of its own, before the caller waits for any of them. So an
inbox hears of one closure at most: its ending comes, or the closure is thrown away, or it stays in
the executor's hands and the caller waits for ever (`Fate.alone`). Which closures are run first does
not matter, since nobody else writes to the inbox.
-/

namespace TwoTier

open Executor

variable {ε ν : Type} [Executor ε ν]

/-- What a caller is told about a work that was handed in, given what was done with closures. -/
inductive Learns (fs : List (Fate ν)) (h : HandIn ν) : Except Error ν → Prop where
  | refused {why : Error} : h.answer = .error why → Learns fs h (.error why)
  | value {v : ν} : h.answer = .ok () → Fate.about h.parcel.box fs = [.run h.parcel] →
      h.parcel.work.ending = .value v → Learns fs h (.ok v)
  | panic {payload : Payload} : h.answer = .ok () → Fate.about h.parcel.box fs = [.run h.parcel] →
      h.parcel.work.ending = .panic payload → Learns fs h (.error (.taskPanicked payload.message))
  | dropped : h.answer = .ok () → Fate.about h.parcel.box fs = [.drop h.parcel] →
      Learns fs h (.error .taskDropped)

namespace HandIn

/-- What a submission gives: the number of the inbox, or the refusal. -/
def handle (h : HandIn ν) : Except Error Nat := h.answer.map fun _ => h.parcel.box

theorem sentTo_taken_eq_zero {hs : List (HandIn ν)} {i : Nat}
    (absent : i ∉ hs.map (·.parcel.box)) :
    Parcel.sentTo i (taken hs : Multiset (Parcel ν)) = 0 := by
  rw [Parcel.sentTo_eq_zero]
  rintro p among rfl
  obtain ⟨h, mem, -, rfl⟩ := mem_taken.mp (Multiset.mem_coe.mp among)
  exact absent (List.mem_map_of_mem mem)

/-- Of the closures that were taken one goes to the inbox. -/
theorem sentTo_taken {hs : List (HandIn ν)} (distinct : (hs.map (·.parcel.box)).Nodup)
    {h : HandIn ν} (mem : h ∈ hs) (answer : h.answer = .ok ()) :
    Parcel.sentTo h.parcel.box (taken hs : Multiset (Parcel ν)) = {h.parcel} := by
  obtain ⟨before, after, rfl⟩ := List.append_of_mem mem
  rw [List.map_append, List.map_cons, List.nodup_middle, List.nodup_cons, List.mem_append,
    not_or] at distinct
  obtain ⟨⟨earlier, later⟩, -⟩ := distinct
  have split : taken (before ++ h :: after) = taken before ++ h.parcel :: taken after := by
    simp [taken, taken?, answer]
  rw [split, ← Multiset.coe_add, ← Multiset.cons_coe, Parcel.sentTo_add, Parcel.sentTo_cons,
    sentTo_taken_eq_zero earlier, sentTo_taken_eq_zero later, if_pos rfl, zero_add, add_zero]

end HandIn

namespace Conduct

variable (C : Conduct ε ν) (me : ThreadId) {e : ε}

/-- Works are submitted, and their results are waited for. -/
def submitRound (works : List (Work ν)) (e : ε) : Round ε ν :=
  let (handIns, e) := C.handIn me (Replies.openBox 1) works e
  ⟨handIns, HandIn.fatesOf handIns ++ C.meanwhile e, whileWaiting e⟩

/-- A submission opens an inbox, which hears of nothing but its own closure; older inboxes hear what
is done with theirs. -/
theorem submit_heard {fs : List (Fate ν)} {w : Work ν} {h : HandIn ν} {e' : ε}
    (start : C.Known fs e)
    (handed : C.hand me ⟨((replies e).openBox 1).1, w⟩ (onReplies (Replies.openBox 1) e).2
      = (h, e')) :
    C.Known (fs ++ h.fates) e' ∧
      Heard ((replies e).openBox 1).1 0 (fs ++ h.fates) (C.hands e') (replies e') ∧
      ∀ j, (replies e).get? j ≠ none → (replies e').get? j ≠ none ∧
        (Heard j 0 fs (C.hands e) (replies e) →
          Heard j 0 (fs ++ h.fates) (C.hands e') (replies e')) := by
  have new : (replies e).get? ((replies e).openBox 1).1 = none := Replies.get?_new 1
  have there : (replies (onReplies (Replies.openBox 1) e).2).get? ((replies e).openBox 1).1
      = some (.withSenders 1) := by
    rw [C.replies_given, Replies.get?_openBox, if_pos rfl]
  have older : ∀ j, (replies e).get? j ≠ none → ((replies e).openBox 1).1 ≠ j ∧
      (replies (onReplies (Replies.openBox 1) e).2).get? j = (replies e).get? j := by
    intro j own
    have other : ((replies e).openBox 1).1 ≠ j := by
      rintro rfl
      exact own new
    rw [C.replies_given, Replies.get?_openBox, if_neg other]
    exact ⟨other, rfl⟩
  have held := C.hands_given (Replies.openBox 1) (e := e)
  have sound := sound_given (Replies.openBox 1) start.sound
  -- The inbox is opened before the work is handed in, so all there was is still in its place.
  refine ⟨?_, ?_, ?_⟩
  · apply Known.hand ⟨sound, ?_⟩ (by simp [there]) handed
    rw [held]
    apply start.addressed.mono
    intro j own
    rwa [(older j own).2]
  · apply hand_heard sound handed
    rw [held]
    simpa using Heard.of_new start.addressed new there
  · intro j own
    obtain ⟨other, same⟩ := older j own
    constructor
    · apply hand_keeps sound handed
      rwa [same]
    · intro heard
      apply hand_heard sound handed
      rw [held, Heard, same, if_neg other]
      exact heard

/-- Every submission of a row has an inbox of its own, which hears of nothing but its closure. -/
theorem submits_heard {fs : List (Fate ν)} {hs : List (HandIn ν)} {e' : ε} (works : List (Work ν))
    (start : C.Known fs e) (handed : C.handIn me (Replies.openBox 1) works e = (hs, e')) :
    (∀ j, Heard j 0 fs (C.hands e) (replies e) →
      Heard j 0 (fs ++ HandIn.fatesOf hs) (C.hands e') (replies e')) ∧
    (∀ h ∈ hs, (replies e).get? h.parcel.box = none ∧
      Heard h.parcel.box 0 (fs ++ HandIn.fatesOf hs) (C.hands e') (replies e')) ∧
    (hs.map (·.parcel.box)).Nodup := by
  induction works generalizing e fs hs with
  | nil =>
      obtain ⟨rfl, rfl⟩ := Prod.mk.inj handed
      simp [HandIn.fatesOf]
  | cons w ws ih =>
      obtain ⟨h, hs, between, rfl, parcel, first, rest⟩ := C.of_handIn_cons me handed
      obtain ⟨known, own, older⟩ := C.submit_heard me start first
      obtain ⟨later, others, distinct⟩ := ih known rest
      have number : h.parcel.box = ((replies e).openBox 1).1 := by
        rw [parcel]
      rw [HandIn.fatesOf_cons, ← List.append_assoc]
      refine ⟨?_, ?_, ?_⟩
      · intro j heard
        exact later j ((older j heard.there).2 heard)
      · intro h mem
        rcases List.mem_cons.mp mem with rfl | mem
        · rw [number]
          exact ⟨Replies.get?_new 1, later _ own⟩
        · obtain ⟨new, heard⟩ := others h mem
          refine ⟨?_, heard⟩
          by_contra there
          exact (older _ there).1 new
      · rw [List.map_cons, List.nodup_cons]
        refine ⟨?_, distinct⟩
        intro again
        obtain ⟨h', mem, same⟩ := List.mem_map.mp again
        apply own.there
        rw [← number, ← same]
        exact (others h' mem).1

/-- The handles of a row of submissions, in their order. -/
theorem submitAll_eq {works : List (Work ν)} {hs : List (HandIn ν)} {e' : ε}
    (handed : C.handIn me (Replies.openBox 1) works e = (hs, e')) :
    submitAll me works e = (hs.map HandIn.handle, e') := by
  induction works generalizing e hs with
  | nil =>
      obtain ⟨rfl, rfl⟩ := Prod.mk.inj handed
      rfl
  | cons w ws ih =>
      obtain ⟨h, hs, between, rfl, -, first, rest⟩ := C.of_handIn_cons me handed
      have one : submit me w e = (h.handle, between) := by
        obtain ⟨rfl, rfl⟩ := Prod.mk.inj first
        rfl
      rw [submitAll, one, List.map_cons]
      simp only [ih rest]

end Conduct

/-! ### What is learnt from the handles -/

namespace HandIn

variable {fs : List (Fate ν)} {hands : Multiset (Parcel ν)} {r : Replies ν} {h : HandIn ν}

theorem joined_refused {why : Error} (answer : h.answer = .error why) :
    joinSubmitted? r h.handle = some (.error why) := by
  simp [handle, answer, joinSubmitted?, Except.map]

/-- The handle of a submission that was taken gives a result exactly if the closure is no longer in
hand, and the result is the right one. -/
theorem joined_taken (answer : h.answer = .ok ()) (heard : Heard h.parcel.box 0 fs hands r)
    (balance : {h.parcel}
      = Fate.parcels (Fate.about h.parcel.box fs) + Parcel.sentTo h.parcel.box hands) :
    ((joinSubmitted? r h.handle).isSome = true ↔ h.parcel ∉ hands) ∧
      ∀ o, joinSubmitted? r h.handle = some o → Learns fs h o := by
  have among : h.parcel ∈ hands ↔ h.parcel ∈ Parcel.sentTo h.parcel.box hands := by
    simp [Parcel.sentTo]
  have known : joinSubmitted? r h.handle
      = Inbox.join? ⟨Fate.endings h.parcel.box fs, (Parcel.sentTo h.parcel.box hands).card⟩ := by
    rw [Heard] at heard
    simp [handle, answer, joinSubmitted?, Except.map, heard]
  rw [known, among, Fate.endings]
  rcases Fate.alone balance with ⟨run, none⟩ | ⟨dropped, none⟩ | ⟨silent, left⟩
  · rw [run, none]
    constructor
    · exact iff_of_true rfl (Multiset.notMem_zero _)
    · intro o told
      obtain rfl : h.parcel.work.ending.result = o := Option.some.inj told
      cases ending : h.parcel.work.ending with
      | value v => exact .value answer run ending
      | panic payload => exact .panic answer run ending
  · rw [dropped, none]
    constructor
    · exact iff_of_true rfl (Multiset.notMem_zero _)
    · intro o told
      obtain rfl : .error .taskDropped = o := Option.some.inj told
      exact .dropped answer dropped
  · rw [silent, left]
    constructor
    · simp [Inbox.join?, Inbox.receive]
    · intro o told
      cases told

end HandIn

section Lists

variable {α β : Type} {f : α → Option β}

theorem mapM_isSome_iff {l : List α} :
    (l.mapM f).isSome = true ↔ ∀ a ∈ l, (f a).isSome = true := by
  induction l with
  | nil => simp
  | cons a l ih =>
      rw [List.mapM_cons, List.forall_mem_cons, ← ih]
      cases f a with
      | none => simp
      | some b => cases l.mapM f <;> simp

theorem forall₂_of_mapM {R : α → β → Prop} {l : List α} {bs : List β} (found : l.mapM f = some bs)
    (each : ∀ a ∈ l, ∀ b, f a = some b → R a b) : List.Forall₂ R l bs := by
  induction l generalizing bs with
  | nil =>
      obtain rfl : [] = bs := by simpa using found
      exact .nil
  | cons a l ih =>
      simp only [List.mapM_cons, Option.bind_eq_bind, Option.bind_eq_some_iff, Option.pure_def,
        Option.some.injEq] at found
      obtain ⟨b, first, rest, others, rfl⟩ := found
      obtain ⟨head, tail⟩ := List.forall_mem_cons.mp each
      exact .cons (head b first) (ih others tail)

end Lists

/-- When the wait is over, what was taken in a row of submissions has been dealt with or is in
hand. -/
theorem Conduct.submitRound_balance (C : Conduct ε ν) (me : ThreadId) {works : List (Work ν)}
    {hs : List (HandIn ν)} {e e' : ε} (sound : C.sound e)
    (handed : C.handIn me (Replies.openBox 1) works e = (hs, e')) :
    ↑(HandIn.taken hs) + C.hands e
      = Fate.parcels (HandIn.fatesOf hs ++ C.meanwhile e') + C.hands (whileWaiting e') := by
  rw [C.handIn_balance me sound handed, (C.waited (C.handIn_sound me sound handed)).balance,
    Fate.parcels_append, add_assoc]

/-- What the handle of a submission gives when the wait is over. -/
theorem Conduct.submitRound_joined (C : Conduct ε ν) (me : ThreadId) {works : List (Work ν)}
    {hs : List (HandIn ν)} {e e' : ε} (known : C.Known [] e)
    (handed : C.handIn me (Replies.openBox 1) works e = (hs, e')) {h : HandIn ν} (mem : h ∈ hs) :
    ((joinSubmitted? (replies (whileWaiting e')) h.handle).isSome = true ↔
      (h.answer = .ok () → h.parcel ∉ C.hands (whileWaiting e'))) ∧
    ∀ o, joinSubmitted? (replies (whileWaiting e')) h.handle = some o →
      Learns (HandIn.fatesOf hs ++ C.meanwhile e') h o := by
  cases answer : h.answer with
  | error why =>
      rw [HandIn.joined_refused answer]
      constructor
      · simp
      · rintro o ⟨⟩
        exact .refused answer
  | ok =>
      obtain ⟨-, inboxes, distinct⟩ := C.submits_heard me works known handed
      obtain ⟨new, heard⟩ := inboxes h mem
      have waited := C.waited (C.handIn_sound me known.sound handed)
      have own := congrArg (Parcel.sentTo h.parcel.box)
        (C.submitRound_balance me known.sound handed)
      rw [Parcel.sentTo_add, Parcel.sentTo_add, HandIn.sentTo_taken distinct mem answer,
        known.unused new, add_zero, ← Fate.parcels_about] at own
      simpa using HandIn.joined_taken answer (waited.heard heard) own

/-- A call for all results hands the works in, waits, and asks each handle in turn. -/
theorem Conduct.invokeAll_eq (C : Conduct ε ν) (me : ThreadId) {works : List (Work ν)}
    {hs : List (HandIn ν)} {e e' : ε}
    (handed : C.handIn me (Replies.openBox 1) works e = (hs, e')) :
    C.submitRound me works e
        = ⟨hs, HandIn.fatesOf hs ++ C.meanwhile e', whileWaiting e'⟩ ∧
      invokeAll me works e
        = (hs.mapM fun h => joinSubmitted? (replies (whileWaiting e')) h.handle,
          whileWaiting e') := by
  constructor
  · simp only [submitRound, handed]
  · simp only [invokeAll, C.submitAll_eq me handed, List.mapM_map]
    rfl

/-- Each outcome is what there is to learn of the work at its place. -/
theorem Conduct.invokeAll_learns (C : Conduct ε ν) (me : ThreadId) {works : List (Work ν)} {e : ε}
    (known : C.Known [] e) {outcomes : List (Except Error ν)}
    (found : (invokeAll me works e).1 = some outcomes) :
    List.Forall₂ (Learns (C.submitRound me works e).fates) (C.submitRound me works e).handIns
      outcomes := by
  rcases handed : C.handIn me (Replies.openBox 1) works e with ⟨hs, e'⟩
  obtain ⟨round, result⟩ := C.invokeAll_eq me handed
  rw [result] at found
  rw [round]
  apply forall₂_of_mapM found
  intro h mem
  exact (C.submitRound_joined me known handed mem).2

/-- For every list of works, and every executor that takes or refuses each of them, and runs what it
has taken, throws it away or keeps it, in any order, before the caller waits or while it waits: each
work is handed in once, in its place and with an inbox of its own, before the caller waits for the
first result. All results are returned exactly if the executor keeps none of the closures that it
has taken. And if they are, there is one outcome for each work, at the work's place: the refusal,
the value, the message of the panic, or the loss of the task. -/
theorem invokeAll_told (C : Conduct ε ν) (me : ThreadId) (works : List (Work ν)) {e : ε}
    (known : C.Known [] e) :
    let x := C.submitRound me works e
    x.handIns.map (·.parcel.work) = works ∧ (x.handIns.map (·.parcel.box)).Nodup ∧
      (∃ e', C.handIn me (Replies.openBox 1) works e = (x.handIns, e') ∧
        whileWaiting e' = x.last ∧ (invokeAll me works e).2 = x.last) ∧
      ↑(HandIn.taken x.handIns) + C.hands e = Fate.parcels x.fates + C.hands x.last ∧
      ((invokeAll me works e).1.isSome = true ↔
        ∀ p ∈ HandIn.taken x.handIns, p ∉ C.hands x.last) ∧
      ∀ outcomes, (invokeAll me works e).1 = some outcomes →
        List.Forall₂ (Learns x.fates) x.handIns outcomes := by
  have learnt : ∀ outcomes, (invokeAll me works e).1 = some outcomes →
      List.Forall₂ (Learns (C.submitRound me works e).fates) (C.submitRound me works e).handIns
        outcomes := fun _ => C.invokeAll_learns me known
  rcases handed : C.handIn me (Replies.openBox 1) works e with ⟨hs, e'⟩
  obtain ⟨round, result⟩ := C.invokeAll_eq me handed
  rw [round, result] at learnt ⊢
  refine ⟨C.handIn_works me handed, (C.submits_heard me works known handed).2.2,
    ⟨e', rfl, rfl, rfl⟩, C.submitRound_balance me known.sound handed, ?_, learnt⟩
  rw [mapM_isSome_iff]
  constructor
  · intro all p taken
    obtain ⟨h, mem, answer, rfl⟩ := HandIn.mem_taken.mp taken
    exact (C.submitRound_joined me known handed mem).1.mp (all h mem) answer
  · intro none h mem
    apply (C.submitRound_joined me known handed mem).1.mpr
    intro answer
    exact none h.parcel (HandIn.mem_taken.mpr ⟨h, mem, answer, rfl⟩)

open Assisted.Sample in
/-- One of five works is refused, and the others end in another order than that in which they were
submitted. -/
theorem invokeAll_told_in_disorder :
    let x := Assisted.conduct.submitRound .main works start
    let outcomes := [.ok 1, .error (.rejected (.other "full")), .error (.taskPanicked "boom"),
      .error .taskDropped, .ok 5]
    x.handIns.map (·.parcel.work) = works ∧
      x.fates.map (·.parcel.work.name) = ["c", "e", "a", "d"] ∧
      (invokeAll .main works start).1 = some outcomes ∧
      List.Forall₂ (Learns x.fates) x.handIns outcomes := by
  obtain ⟨listed, -, -, -, -, told⟩ := invokeAll_told Assisted.conduct .main works start_known
  have result : (invokeAll .main works start).1 = some [.ok 1,
      .error (.rejected (.other "full")), .error (.taskPanicked "boom"), .error .taskDropped,
      .ok 5] := rfl
  exact ⟨listed, rfl, result, told _ result⟩

end TwoTier
