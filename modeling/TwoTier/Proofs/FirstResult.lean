import TwoTier.Proofs.Assisted

/-!
The first result of a list of works.

The works share an inbox, so endings come in the order in which closures end. The caller goes
through them until it finds a value. If it finds none it goes on waiting as long as somebody may
still send, and every closure that the executor has in its hands may: the wait is over when a value
has come or when none of the closures is left. The error that is then returned is picked by
`Verdict`: panics come before refusals, and the latest of either counts.
-/

namespace TwoTier

open Executor

variable {ε ν : Type}

/-- What a caller who wants the first value is told, given the refusals, and the endings in the
order in which they came. -/
inductive Verdict (refusals : List Error) : List (Ending ν) → Except Error ν → Prop where
  | value {before : List Payload} {v : ν} {after : List (Ending ν)} :
      Verdict refusals (before.map .panic ++ .value v :: after) (.ok v)
  | panicked {before : List Payload} {payload : Payload} :
      Verdict refusals ((before ++ [payload]).map .panic) (.error (.taskPanicked payload.message))
  | refused {before : List Error} {why : Error} :
      refusals = before ++ [why] → Verdict refusals [] (.error why)
  | dropped : refusals = [] → Verdict refusals [] (.error .taskDropped)

namespace Verdict

variable {refusals : List Error} {endings : List (Ending ν)} {r : Except Error ν}

/-- Some value comes, or closures panic only. -/
theorem value_or_panics (endings : List (Ending ν)) :
    (∃ (before : List Payload) (v : ν) (after : List (Ending ν)),
      endings = before.map .panic ++ .value v :: after) ∨
    ∃ payloads : List Payload, endings = payloads.map .panic := by
  induction endings with
  | nil => exact .inr ⟨[], rfl⟩
  | cons first rest ih =>
      cases first with
      | value v => exact .inl ⟨[], v, rest, rfl⟩
      | panic payload =>
          rcases ih with ⟨before, v, after, rfl⟩ | ⟨payloads, rfl⟩
          · exact .inl ⟨payload :: before, v, after, rfl⟩
          · exact .inr ⟨payload :: payloads, rfl⟩

/-- There is always something to tell. -/
theorem total (refusals : List Error) (endings : List (Ending ν)) :
    ∃ r, Verdict refusals endings r := by
  rcases value_or_panics endings with ⟨before, v, after, rfl⟩ | ⟨payloads, rfl⟩
  · exact ⟨_, .value⟩
  · rcases List.eq_nil_or_concat' payloads with rfl | ⟨before, payload, rfl⟩
    · rcases List.eq_nil_or_concat' refusals with rfl | ⟨before, why, rfl⟩
      · exact ⟨_, .dropped rfl⟩
      · exact ⟨_, .refused rfl⟩
    · exact ⟨_, .panicked⟩

/-- A value is told exactly if one came. -/
theorem ok_iff (verdict : Verdict refusals endings r) :
    (∃ v, r = .ok v) ↔ ∃ v, Ending.value v ∈ endings := by
  cases verdict with
  | @value before v after => exact iff_of_true ⟨v, rfl⟩ ⟨v, by simp⟩
  | panicked | refused | dropped => simp

end Verdict

namespace Inbox

variable {b : Inbox ν} {refusals : List Error} {r : Except Error ν}

/-- Reading on after panics: only the last of them is remembered. -/
theorem firstValue?_panics (payloads : List Payload) (rest : List (Ending ν))
    (lastError : Option Error) :
    firstValue?.go b lastError (payloads.map .panic ++ rest)
      = firstValue?.go b
        ((payloads.getLast?.map fun payload => .taskPanicked payload.message).or lastError)
        rest := by
  induction payloads generalizing lastError with
  | nil => rfl
  | cons payload payloads ih =>
      change firstValue?.go b (some (.taskPanicked payload.message))
        (payloads.map .panic ++ rest) = _
      rw [ih, List.getLast?_cons]
      cases payloads.getLast? <;> rfl

/-- A caller who waits for the first value learns the verdict when a value has come or nobody can
send any more, and waits until then. -/
theorem firstValue?_eq_some_iff {endings : List (Ending ν)} (verdict : Verdict refusals endings r)
    (senders : Nat) (told : Except Error ν) :
    firstValue? refusals.getLast? ⟨endings, senders⟩ = some told ↔
      r = told ∧ ((∃ v, r = .ok v) ∨ senders = 0) := by
  unfold firstValue?
  cases verdict with
  | value =>
      rw [firstValue?_panics]
      simp [firstValue?.go, Ending.result]
  | @panicked before payload =>
      rw [← List.append_nil (List.map _ _), firstValue?_panics, List.getLast?_concat]
      by_cases shut : senders = 0 <;> simp [firstValue?.go, shut]
  | refused last =>
      rw [last, List.getLast?_concat]
      by_cases shut : senders = 0 <;> simp [firstValue?.go, shut]
  | dropped none =>
      rw [none]
      by_cases shut : senders = 0 <;> simp [firstValue?.go, shut]

end Inbox

namespace Conduct

variable [Executor ε ν] (C : Conduct ε ν) (me : ThreadId) {e : ε} {box : Nat}

/-- Provides an inbox with one sender more. -/
def sharing (box : Nat) (r : Replies ν) : Nat × Replies ν := (box, r.modify box Inbox.share)

/-- Works that share an inbox are submitted, and the first value is waited for, unless none of them
was taken. -/
def shareRound (works : List (Work ν)) (e : ε) : Round ε ν :=
  let (box, e) := onReplies (Replies.openBox 1) e
  let (handIns, e) := C.handIn me (sharing box) works e
  let e := setReplies ((replies e).modify box Inbox.hangUp) e
  if (HandIn.taken handIns).length = 0 then ⟨handIns, HandIn.fatesOf handIns, e⟩
  else ⟨handIns, HandIn.fatesOf handIns ++ C.meanwhile e, whileWaiting e⟩

/-- The closures of a row of works that share an inbox. -/
theorem shared_parcels {works : List (Work ν)} {hs : List (HandIn ν)} {e' : ε}
    (handed : C.handIn me (sharing box) works e = (hs, e')) :
    hs.map (·.parcel) = works.map (⟨box, ·⟩) := by
  induction works generalizing e hs with
  | nil =>
      obtain ⟨rfl, -⟩ := Prod.mk.inj handed
      rfl
  | cons w ws ih =>
      obtain ⟨h, hs, between, rfl, parcel, -, rest⟩ := C.of_handIn_cons me handed
      rw [List.map_cons, List.map_cons, parcel, ih rest, sharing]

/-- The shared inbox hears what is done with its closures; the caller is one of its senders. -/
theorem shared_heard {fs : List (Fate ν)} {works : List (Work ν)} {hs : List (HandIn ν)} {e' : ε}
    (sound : C.sound e) (start : Heard box 1 fs (C.hands e) (replies e))
    (handed : C.handIn me (sharing box) works e = (hs, e')) :
    Heard box 1 (fs ++ HandIn.fatesOf hs) (C.hands e') (replies e') := by
  induction works generalizing e fs hs with
  | nil =>
      obtain ⟨rfl, rfl⟩ := Prod.mk.inj handed
      simpa [HandIn.fatesOf] using start
  | cons w ws ih =>
      obtain ⟨h, hs, between, rfl, parcel, first, rest⟩ := C.of_handIn_cons me handed
      have given := sound_given (sharing box) sound
      have shared : Heard box 2 fs (C.hands (onReplies (sharing box) e).2)
          (replies (onReplies (sharing box) e).2) := by
        rw [Heard] at start ⊢
        rw [C.hands_given, C.replies_given]
        simp only [sharing, Replies.get?_modify, if_true, start, Option.map_some, Inbox.share]
      rw [HandIn.fatesOf_cons, ← List.append_assoc]
      refine ih (hand_sound given first) (hand_heard given first ?_) rest
      simpa [sharing] using shared

/-- How many works were taken, and the last refusal. -/
theorem submitShared_eq {works : List (Work ν)} {hs : List (HandIn ν)} {e' : ε}
    (handed : C.handIn me (sharing box) works e = (hs, e')) (taken : Nat)
    (lastError : Option Error) :
    submitShared me box works taken lastError e
      = ((taken + (HandIn.taken hs).length, (HandIn.refusals hs).getLast?.or lastError), e') := by
  induction works generalizing e hs taken lastError with
  | nil =>
      obtain ⟨rfl, rfl⟩ := Prod.mk.inj handed
      rfl
  | cons w ws ih =>
      obtain ⟨h, hs, between, rfl, -, first, rest⟩ := C.of_handIn_cons me handed
      have call : execute me w (some box) (setReplies ((replies e).modify box Inbox.share) e)
          = (h.answer, between) := by
        obtain ⟨rfl, rfl⟩ := Prod.mk.inj first
        rfl
      rw [HandIn.taken_cons, HandIn.refusals_cons]
      cases answer : h.answer with
      | ok =>
          have one : h.taken? = some h.parcel := by simp [HandIn.taken?, answer]
          have none : h.refusal? = none := by simp [HandIn.refusal?, answer]
          simp only [submitShared, call, answer, ih rest, one, none]
          simp [Nat.add_assoc, Nat.add_comm 1]
      | error why =>
          have none : h.taken? = none := by simp [HandIn.taken?, answer]
          have one : h.refusal? = some why := by simp [HandIn.refusal?, answer]
          simp only [submitShared, call, answer, ih rest, one, none, Option.toList_none,
            Option.toList_some, List.nil_append, List.singleton_append, List.getLast?_cons]
          cases (HandIn.refusals hs).getLast? <;> rfl

/-- What was taken for the shared inbox was dealt with or is in hand. -/
theorem shared_balance {works : List (Work ν)} {hs : List (HandIn ν)} {e' : ε}
    (sound : C.sound e) (unused : Parcel.sentTo box (C.hands e) = 0)
    (handed : C.handIn me (sharing box) works e = (hs, e')) :
    ↑(HandIn.taken hs) = Fate.parcels (Fate.about box (HandIn.fatesOf hs))
      + Parcel.sentTo box (C.hands e') := by
  have own : Parcel.sentTo box (HandIn.taken hs : Multiset (Parcel ν)) = HandIn.taken hs := by
    rw [Parcel.sentTo, Multiset.filter_eq_self]
    intro p among
    obtain ⟨h, mem, -, rfl⟩ := HandIn.mem_taken.mp (Multiset.mem_coe.mp among)
    have listed : h.parcel ∈ hs.map (·.parcel) := List.mem_map_of_mem mem
    rw [C.shared_parcels me handed] at listed
    obtain ⟨w, -, same⟩ := List.mem_map.mp listed
    rw [← same]
  have all := congrArg (Parcel.sentTo box) (C.handIn_balance me sound handed)
  rwa [Parcel.sentTo_add, Parcel.sentTo_add, own, unused, add_zero, ← Fate.parcels_about] at all

/-- The inbox that works will share is empty at first. -/
theorem shared_new (known : C.Known [] e) :
    Parcel.sentTo ((replies e).openBox 1).1 (C.hands (onReplies (Replies.openBox 1) e).2) = 0 ∧
      Heard ((replies e).openBox 1).1 1 [] (C.hands (onReplies (Replies.openBox 1) e).2)
        (replies (onReplies (Replies.openBox 1) e).2) := by
  have new : (replies e).get? ((replies e).openBox 1).1 = none := Replies.get?_new 1
  rw [C.hands_given, C.replies_given]
  refine ⟨known.unused new, Heard.of_new known.addressed new ?_⟩
  rw [Replies.get?_openBox, if_pos rfl]

/-- The caller lets go of the inbox when all works have been submitted. -/
theorem shared_hangUp {fs : List (Fate ν)} {e' : ε} (sound : C.sound e)
    (hung : setReplies ((replies e).modify box Inbox.hangUp) e = e')
    (heard : Heard box 1 fs (C.hands e) (replies e)) :
    C.sound e' ∧ C.hands e' = C.hands e ∧ Heard box 0 fs (C.hands e') (replies e') := by
  obtain rfl := hung
  rw [C.hands_set, C.replies_set]
  refine ⟨C.sound_set _ sound, rfl, Heard.hangUp (j := box) ?_⟩
  simpa using heard

/-- A round ends with the caller going through the inbox, or without a wait if no work was taken.
What was taken was dealt with or is in hand. -/
theorem shareRound_course (works : List (Work ν)) (known : C.Known [] e) :
    let box := ((replies e).openBox 1).1
    let x := C.shareRound me works e
    x.handIns.map (·.parcel) = works.map (⟨box, ·⟩) ∧
      ↑(HandIn.taken x.handIns)
        = Fate.parcels (Fate.about box x.fates) + Parcel.sentTo box (C.hands x.last) ∧
      invokeAny me works e = (if (HandIn.taken x.handIns).length = 0
        then some (.error ((HandIn.refusals x.handIns).getLast?.getD (.rejected .noTasks)))
        else Inbox.firstValue? (HandIn.refusals x.handIns).getLast?
          ⟨Fate.endings box x.fates, (Parcel.sentTo box (C.hands x.last)).card⟩, x.last) := by
  intro box
  obtain ⟨e₁, opened⟩ : ∃ e₁, onReplies (Replies.openBox 1) e = (box, e₁) := ⟨_, rfl⟩
  obtain ⟨unused, start⟩ : Parcel.sentTo box (C.hands e₁) = 0 ∧
      Heard box 1 [] (C.hands e₁) (replies e₁) := by
    have new := C.shared_new known
    rwa [opened] at new
  have sound : C.sound e₁ := by
    have given := sound_given (Replies.openBox 1) known.sound
    rwa [opened] at given
  rcases handed : C.handIn me (sharing box) works e₁ with ⟨hs, e₂⟩
  obtain ⟨e₃, hung⟩ : ∃ e₃, setReplies ((replies e₂).modify box Inbox.hangUp) e₂ = e₃ := ⟨_, rfl⟩
  obtain ⟨sound', held, heard⟩ := C.shared_hangUp (C.handIn_sound me sound handed) hung
    (C.shared_heard me sound start handed)
  have parcels := C.shared_parcels me handed
  have balance := C.shared_balance me sound unused handed
  rw [← held] at balance
  have received := C.submitShared_eq me handed 0 none
  by_cases idle : (HandIn.taken hs).length = 0
  · have round : C.shareRound me works e = ⟨hs, HandIn.fatesOf hs, e₃⟩ := by
      simp only [shareRound, opened, handed, hung, idle, if_true]
    rw [round]
    refine ⟨parcels, balance, ?_⟩
    simp only [invokeAny, opened, received, hung, zero_add, idle, if_true, Option.or_none]
  · have round : C.shareRound me works e
        = ⟨hs, HandIn.fatesOf hs ++ C.meanwhile e₃, whileWaiting e₃⟩ := by
      simp only [shareRound, opened, handed, hung, idle, if_false]
    rw [round]
    refine ⟨parcels, ?_, ?_⟩
    · rw [balance, (C.waited sound').balance, Parcel.sentTo_add, ← Fate.parcels_about, ← add_assoc,
        ← Fate.parcels_append, ← Fate.about_append]
    · have own : (replies (whileWaiting e₃)).get? box
          = some ⟨Fate.endings box (HandIn.fatesOf hs ++ C.meanwhile e₃),
            (Parcel.sentTo box (C.hands (whileWaiting e₃))).card⟩ :=
        (C.waited sound').heard heard
      simp only [invokeAny, opened, received, hung, zero_add, idle, if_false, Option.or_none, own,
        Option.bind_some]

end Conduct

/-- If no work of a list was taken, one was refused. -/
theorem HandIn.refusals_ne_nil {hs : List (HandIn ν)} (given : hs ≠ []) (none : taken hs = []) :
    refusals hs ≠ [] := by
  cases hs with
  | nil => exact absurd rfl given
  | cons h hs =>
      rw [taken_cons] at none
      rw [refusals_cons]
      cases answer : h.answer with
      | ok => simp [taken?, answer] at none
      | error why => simp [refusal?, answer]

/-- For every list of works, and every executor that takes or refuses each of them, and runs what it
has taken, throws it away or keeps it, in any order, before the caller waits or while it waits: the
works are handed in one after the other, and what was taken has been run, or thrown away, or is
kept. Without works the call is refused. With works it returns exactly if a closure that was taken
has ended in a value, or if none is kept; and then it returns the first value in the order of the
ends, or else the message of the last panic, or else the last refusal, or else that the tasks were
dropped. -/
theorem invokeAny_verdict [Executor ε ν] (C : Conduct ε ν) (me : ThreadId) (works : List (Work ν))
    {e : ε} (known : C.Known [] e) :
    let box := ((replies e).openBox 1).1
    let x := C.shareRound me works e
    let endings := Fate.endings box x.fates
    let kept := Parcel.sentTo box (C.hands x.last)
    x.handIns.map (·.parcel) = works.map (⟨box, ·⟩) ∧
      ↑(HandIn.taken x.handIns) = Fate.parcels (Fate.about box x.fates) + kept ∧
      (invokeAny me works e).2 = x.last ∧
      (works = [] → (invokeAny me works e).1 = some (.error (.rejected .noTasks))) ∧
      (works ≠ [] →
        ((invokeAny me works e).1.isSome = true ↔ (∃ v, .value v ∈ endings) ∨ kept = 0) ∧
        ∀ r, (invokeAny me works e).1 = some r →
          Verdict (HandIn.refusals x.handIns) endings r) := by
  intro box x endings kept
  obtain ⟨parcels, balance, result⟩ := C.shareRound_course me works known
  refine ⟨parcels, balance, ?_, ?_, ?_⟩
  · rw [result]
  · rintro rfl
    rfl
  · intro given
    -- without a work that was taken the last refusal is what the empty inbox would give
    have same : (invokeAny me works e).1
        = Inbox.firstValue? (HandIn.refusals x.handIns).getLast? ⟨endings, kept.card⟩ := by
      rw [result]
      by_cases idle : (HandIn.taken x.handIns).length = 0
      · have free : HandIn.taken x.handIns = [] := List.eq_nil_of_length_eq_zero idle
        have listed : x.handIns ≠ [] := by
          intro unlisted
          rw [unlisted] at parcels
          exact given (List.map_eq_nil_iff.mp parcels.symm)
        obtain ⟨before, why, last⟩ :=
          (List.eq_nil_or_concat' (HandIn.refusals x.handIns)).resolve_left
            (HandIn.refusals_ne_nil listed free)
        rw [free] at balance
        have silent : endings = [] := congrArg (·.filterMap Fate.ending?) (Fate.nothing balance).1
        have empty : kept = 0 := (Fate.nothing balance).2
        rw [if_pos idle, silent, empty, last, List.getLast?_concat]
        rfl
      · exact if_neg idle
    obtain ⟨r, verdict⟩ := Verdict.total (HandIn.refusals x.handIns) endings
    have told := Inbox.firstValue?_eq_some_iff verdict kept.card
    rw [verdict.ok_iff, Multiset.card_eq_zero] at told
    rw [same]
    constructor
    · constructor
      · intro there
        obtain ⟨r', found⟩ := Option.isSome_iff_exists.mp there
        exact ((told r').mp found).2
      · intro enough
        rw [(told r).mpr ⟨rfl, enough⟩]
        rfl
    · intro r' found
      obtain ⟨rfl, -⟩ := (told r').mp found
      exact verdict

open Assisted.Sample in
/-- One of five works is refused, and the first of the others to end panics; the value of the next
is returned, although an earlier work of the list ends in a value as well. -/
theorem invokeAny_verdict_after_panic :
    let x := Assisted.conduct.shareRound .main works start
    Fate.endings 0 x.fates = [.panic (.fixed "boom"), .value 5, .value 1] ∧
      HandIn.refusals x.handIns = [.rejected (.other "full")] ∧
      (invokeAny .main works start).1 = some (.ok 5) ∧
      Verdict (HandIn.refusals x.handIns) (Fate.endings 0 x.fates) (.ok 5) := by
  obtain ⟨-, -, -, -, given⟩ := invokeAny_verdict Assisted.conduct .main works start_known
  have result : (invokeAny .main works start).1 = some (.ok 5) := rfl
  exact ⟨rfl, rfl, result, (given (by decide)).2 _ result⟩

end TwoTier
