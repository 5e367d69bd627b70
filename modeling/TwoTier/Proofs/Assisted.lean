import TwoTier.Executor.Scripted
import TwoTier.Proofs.Conduct

/-!
Executors of any conduct.

A scripted executor runs, keeps, throws away or refuses what each call brings, as its plan says
(`Scripted.conduct`). While a caller waits nothing happens to the closures that it has kept. An
assistant changes that: it takes kept closures out in any order and runs each of them or throws it
away (`Assisted.conduct`). So between them plan and agenda can refuse any of the works that are
handed in, throw away any of those that were taken, and run the others in any order, before the
caller waits or while it does.
-/

namespace TwoTier

variable {ν : Type}

namespace Scripted

/-- The kept closures whose endings are waited for. -/
def hands (s : Scripted ν) : Multiset (Parcel ν) := ↑(s.kept.filterMap Closure.parcel?)

/-- What an entry of a plan does with a closure, before the call returns. -/
def fates (p : Parcel ν) : Handling → List (Fate ν)
  | .runHere => [.run p]
  | .runApart => [.run p]
  | .keep => []
  | .discard => [.drop p]
  | .refuse _ => []

@[simp] theorem replies_runOn (thread : ThreadId) (c : Closure ν) (s : Scripted ν) :
    (s.runOn thread c).world.replies = s.world.replies.deliver c.reply c.work.ending := by
  simp [runOn]

section Handled

variable {me : ThreadId} {p : Parcel ν} {ticket : Nat} {s : Scripted ν} {h : Handling}

/-- Whatever an entry of the plan does with a closure that is taken, the closure is run or thrown
away or comes to those that are kept. -/
theorem handle_taken (answer : (handle me ⟨ticket, p.work, some p.box⟩ s h).1.result = .ok ()) :
    Passage (fates p h) (p ::ₘ hands s) s.world.replies
      (hands (handle me ⟨ticket, p.work, some p.box⟩ s h).2)
      (handle me ⟨ticket, p.work, some p.box⟩ s h).2.world.replies := by
  cases h with
  | runHere | runApart =>
      simp only [handle, replies_runOn]
      exact .run
  | keep =>
      have kept : hands { s with kept := s.kept ++ [⟨ticket, p.work, some p.box⟩] }
          = p ::ₘ hands s := by
        rw [hands, List.filterMap_append]
        exact Multiset.coe_eq_coe.mpr (List.perm_append_singleton p _)
      simp only [handle, kept]
      exact .refl
  | discard => exact .drop
  | refuse why => cases answer

/-- A closure that is refused is thrown away. -/
theorem handle_refused {why : Error}
    (answer : (handle me ⟨ticket, p.work, some p.box⟩ s h).1.result = .error why) :
    Passage (fates p h) (hands s) (s.world.replies.hangUp (some p.box))
      (hands (handle me ⟨ticket, p.work, some p.box⟩ s h).2)
      (handle me ⟨ticket, p.work, some p.box⟩ s h).2.world.replies := by
  cases h with
  | refuse why => exact .refl
  | runHere =>
      simp only [handle] at answer
      split at answer <;> cases answer
  | runApart | keep | discard => cases answer

end Handled

/-- A scripted executor does what the entry of its plan says. -/
def conduct : Conduct (Scripted ν) ν where
  sound _ := True
  hands := hands
  during _ p s := fates p (.ofPlan s.plan s.calls)
  meanwhile _ := []
  replies_set _ _ := rfl
  hands_set _ _ := rfl
  sound_set _ := id
  sound_execute := id
  taken _ answer := handle_taken answer
  refused _ answer := handle_refused answer
  waited _ := .refl

/-- Takes a kept closure out, and runs it on a thread of its own or throws it away. -/
def attend (s : Scripted ν) (index : Nat) (runs : Bool) : Scripted ν :=
  match s.kept[index]? with
  | none => s
  | some c =>
    let s := { s with kept := s.kept.eraseIdx index }
    if runs then s.runOn (.worker s.calls) c else s.throwAway c

/-- What that does, if somebody waits for the closure. -/
def attended (s : Scripted ν) (index : Nat) (runs : Bool) : List (Fate ν) :=
  ((s.kept[index]?.bind Closure.parcel?).map (if runs then .run else .drop)).toList

theorem attend_passage (s : Scripted ν) (index : Nat) (runs : Bool) :
    Passage (s.attended index runs) (hands s) s.world.replies (hands (s.attend index runs))
      (s.attend index runs).world.replies := by
  unfold attended attend
  cases taken : s.kept[index]? with
  | none => exact .refl
  | some c =>
      obtain ⟨inside, own⟩ := List.getElem?_eq_some_iff.mp taken
      have among : hands s
          = ↑c.parcel?.toList + hands { s with kept := s.kept.eraseIdx index } := by
        have split := (List.getElem_cons_eraseIdx_perm inside).filterMap Closure.parcel?
        rw [own] at split
        rw [hands, ← Multiset.coe_eq_coe.mpr split]
        cases parcel : c.parcel? <;> simp [hands, parcel]
      rw [among]
      cases runs with
      | true =>
          simp only [if_true, replies_runOn]
          exact .ran c
      | false => exact .thrownAway c

end Scripted

/-- An executor that follows a plan, with an assistant who acts while a caller waits. -/
structure Assisted (ν : Type) where
  script : Scripted ν
  /-- Which of the kept closures is taken out next, and whether it is run. -/
  agenda : List (Nat × Bool)

namespace Assisted

/-- The assistant works the agenda off. -/
def assist : List (Nat × Bool) → Scripted ν → Scripted ν
  | [], s => s
  | (index, runs) :: agenda, s => assist agenda (s.attend index runs)

/-- What is done with closures meanwhile. -/
def assisted : List (Nat × Bool) → Scripted ν → List (Fate ν)
  | [], _ => []
  | (index, runs) :: agenda, s => s.attended index runs ++ assisted agenda (s.attend index runs)

theorem assist_passage (agenda : List (Nat × Bool)) (s : Scripted ν) :
    Passage (assisted agenda s) (Scripted.hands s) s.world.replies
      (Scripted.hands (assist agenda s)) (assist agenda s).world.replies := by
  induction agenda generalizing s with
  | nil => exact .refl
  | cons entry agenda ih => exact (s.attend_passage entry.1 entry.2).trans (ih _)

instance : Executor (Assisted ν) ν where
  execute me work reply a :=
    let (answer, script) := Executor.execute me work reply a.script
    (answer, { a with script })
  replies a := Executor.replies a.script
  setReplies r a := { a with script := Executor.setReplies r a.script }
  whileWaiting a := ⟨assist a.agenda a.script, []⟩

def conduct : Conduct (Assisted ν) ν where
  sound _ := True
  hands a := Scripted.hands a.script
  during me p a := Scripted.conduct.during me p a.script
  meanwhile a := assisted a.agenda a.script
  replies_set _ _ := rfl
  hands_set _ _ := rfl
  sound_set _ := id
  sound_execute := id
  taken := Scripted.conduct.taken
  refused := Scripted.conduct.refused
  waited {a} _ := assist_passage a.agenda a.script

namespace Sample

def works : List (Work Nat) :=
  [.plain "a" (.value 1), .plain "b" (.value 2), .plain "c" (.panic (.fixed "boom")),
    .plain "d" (.value 4), .plain "e" (.value 5)]

/-- Keeps all works but the second, which it refuses. While the caller waits, the third, the fifth
and the first of the list are run, in this order, and the fourth is thrown away. -/
def start : Assisted Nat where
  script := .ofPlan [.keep, .refuse (.rejected (.other "full")), .keep]
  agenda := [(1, true), (2, true), (0, true), (0, false)]

theorem start_known : conduct.Known [] start :=
  ⟨trivial, fun p mem => absurd mem (Multiset.notMem_zero p)⟩

end Sample

end Assisted

end TwoTier
