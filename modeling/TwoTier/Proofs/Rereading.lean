import TwoTier.Proofs.Handles

/-!
When a handle reports its task as dropped.

A handle may be read again and again. As long as it was read in vain only, it reports the loss of
its task exactly if the closure was thrown away. But a reading takes the ending out of the inbox,
and the sender is gone by then: whoever reads once more, or waits for the result, finds the inbox as
it is after a loss and is told that the task was dropped, although its closure has ended and its
result was read (`Blank.taken`). `handle_dropped_iff` says that these are the only two ways, for all
calls of a handle at all moments.
-/

namespace TwoTier

variable {σ ν : Type}

/-- Why a handle reports its task as dropped, given the work that was submitted, what became of the
closure and what was read before. -/
inductive Blank (w : Work ν) (marks : List (Mark ν)) (results : List (Except Error ν)) : Prop where
  /-- The closure was thrown away without having run. -/
  | discarded (lost : marks = [.condemned, .gone])
  /-- The closure has ended, and an earlier reading took its ending away. -/
  | taken (ended : marks = [.started, .ended w.ending]) (heard : w.ending.result ∈ results)

theorem blank_iff {w : Work ν} {marks : List (Mark ν)} {results : List (Except Error ν)} :
    Blank w marks results ↔ marks = [.condemned, .gone] ∨
      marks = [.started, .ended w.ending] ∧ w.ending.result ∈ results := by
  constructor
  · rintro (lost | ⟨ended, heard⟩)
    · exact .inl lost
    · exact .inr ⟨ended, heard⟩
  · rintro (lost | ⟨ended, heard⟩)
    · exact .discarded lost
    · exact .taken ended heard

/-! ### What was read before -/

theorem Ending.result_ne_timeout (e : Ending ν) : e.result ≠ .error .timeout := by
  cases e <;> simp [result]

theorem Ending.result_ne_dropped (e : Ending ν) : e.result ≠ .error .taskDropped := by
  cases e <;> simp [result]

theorem not_waited_of_heard {w : Work ν} {results : List (Except Error ν)}
    (heard : w.ending.result ∈ results) : ¬ waited results :=
  fun vain => w.ending.result_ne_timeout (vain _ heard)

namespace Standing.Sound

variable {a : Standing ν} {w : Work ν} {b : Inbox ν}

/-- Once something was learnt, nothing becomes of the closure any more. -/
theorem settled_of_learnt (sound : a.Sound) (mem : w ∈ a.works) (learnt : ¬ waited a.results) :
    a.marks.length = 2 := by
  cases sound with
  | unopened => cases mem
  | shared works =>
      rw [works] at mem
      cases mem
  | known | gone => rfl
  | waiting _ vain | running _ vain | ended _ vain | dying _ vain => exact absurd vain learnt

theorem results_of_unopened (sound : a.Sound) (new : a.box = none) : a.results = [] := by
  cases sound with
  | unopened => rfl
  | shared _ opened => exact absurd new opened
  | _ => contradiction

/-- The first reading that is not in vain gets the ending. -/
theorem joinNow_of_ended (sound : a.Sound) (mem : w ∈ a.works) (ended : .ended w.ending ∈ a.marks)
    (vain : waited a.results) (own : a.box = some b) : b.joinNow.1 = w.ending.result := by
  cases sound with
  | unopened => cases mem
  | shared works =>
      rw [works] at mem
      cases mem
  | ended w' =>
      obtain rfl := List.mem_singleton.mp mem
      obtain rfl := Option.some.inj own
      rfl
  | known _ learnt => exact absurd vain learnt
  | waiting | running | dying | gone => simp at ended

/-- What the calls of a handle answer, if all that was learnt before is the ending. -/
theorem answers (sound : a.Sound) (mem : w ∈ a.works)
    (heard : .ended w.ending ∈ a.marks → ¬ waited a.results → w.ending.result ∈ a.results) :
    ∃ b, a.box = some b ∧
      (b.joinNow.1 = .error .taskDropped ↔ Blank w a.marks a.results) ∧
      (b.join? = some (.error .taskDropped) ↔ Blank w a.marks a.results) ∧
      (b.isFinished = true ↔
        a.marks = [.started, .ended w.ending] ∧ w.ending.result ∉ a.results) := by
  cases sound with
  | unopened => cases mem
  | shared works =>
      rw [works] at mem
      cases mem
  | waiting | running | dying =>
      refine ⟨_, rfl, ?_, ?_, ?_⟩ <;>
        simp [blank_iff, Inbox.joinNow, Inbox.join?, Inbox.receive, Inbox.isFinished]
  | @ended w' results vain =>
      obtain rfl := List.mem_singleton.mp mem
      have unheard : w.ending.result ∉ results := fun heard => not_waited_of_heard heard vain
      have other : ¬ Blank w [.started, .ended w.ending] results := by simp [blank_iff, unheard]
      refine ⟨_, rfl, iff_of_false w.ending.result_ne_dropped other, iff_of_false ?_ other, ?_⟩
      · simpa [Inbox.join?, Inbox.receive] using w.ending.result_ne_dropped
      · simp [unheard, Inbox.isFinished]
  | known w' learnt =>
      obtain rfl := List.mem_singleton.mp mem
      have heard := heard (by simp) learnt
      refine ⟨_, rfl, ?_, ?_, ?_⟩ <;>
        simp [blank_iff, heard, Inbox.joinNow, Inbox.join?, Inbox.receive, Inbox.isFinished]
  | gone w' results =>
      refine ⟨_, rfl, ?_, ?_, ?_⟩ <;>
        simp [blank_iff, Inbox.joinNow, Inbox.join?, Inbox.receive, Inbox.isFinished]

end Standing.Sound

/-! ### The readings of a run -/

section Runs

variable [WorkerPool σ (Task ν)] {moves : σ → σ → Prop} {yields : σ → Task ν → σ → Prop}
  {held : σ → Multiset (Task ν)} {h more past later : List (Note ν)} {x y z : System σ ν} {i : Nat}
  {r : Except Error ν}

/-- A moment brings one note at most. -/
theorem System.Happens.notes (step : System.Happens moves yields past y more z) :
    more = [] ∨ (∃ work, more = [.submitted (y.scene.world.replies.openBox 1).1 work]) ∨
      (∃ j m, more = [.fate j m]) ∨
      ∃ j r replies, more = [.read j r] ∧
        y.scene.world.replies.joinNow? j = some (r, replies) := by
  cases step with
  | turn t =>
      have one (reply : Option Nat) (m : Mark ν) :
          reply.toList.map (Note.fate · m) = [] ∨
            ∃ j m', reply.toList.map (Note.fate · m) = [.fate j m'] := by
        cases reply with
        | none => exact .inl rfl
        | some j => exact .inr ⟨j, m, rfl⟩
      have own : ∀ f : Frame ν, f.notes = [] ∨ ∃ j m, f.notes = [.fate j m] := by
        intro f
        cases f with
        | start c | finish c | discard c => exact one c.reply _
        | hangUp reply => exact one reply _
        | _ => exact .inl rfl
      unfold System.notes
      cases y.threads.get t with
      | nil => exact .inl rfl
      | cons f rest => exact (own f).imp_right fun fate => .inr (.inl fate)
  | submit t work => exact .inr (.inl ⟨work, rfl⟩)
  | read j result replies found => exact .inr (.inr (.inr ⟨j, result, replies, rfl, found⟩))
  | _ => exact .inl rfl

/-- A reading that was noted was made in the course of the run. -/
theorem System.Chronicle.reading (run : System.Chronicle moves yields x h y)
    (split : h = past ++ .read i r :: later) :
    ∃ z replies, System.Chronicle moves yields x past z ∧
      z.scene.world.replies.joinNow? i = some (r, replies) := by
  induction run generalizing later with
  | refl => simp at split
  | @tail h more y z before step ih =>
      -- the reading is the last note, or it was noted before
      have noted (n : Note ν) (one : more = [n]) (found : n = .read i r →
            ∃ replies, y.scene.world.replies.joinNow? i = some (r, replies)) :
          ∃ z replies, System.Chronicle moves yields x past z ∧
            z.scene.world.replies.joinNow? i = some (r, replies) := by
        rw [one] at split
        rcases List.eq_nil_or_concat' later with rfl | ⟨earlier, last, rfl⟩
        · obtain ⟨rfl, same⟩ := List.append_inj' split rfl
          obtain ⟨replies, found⟩ := found (List.singleton_inj.mp same)
          exact ⟨y, replies, before, found⟩
        · rw [← List.cons_append, ← List.append_assoc] at split
          exact ih (List.append_inj' split rfl).1
      rcases step.notes with rfl | ⟨work, one⟩ | ⟨j, m, one⟩ | ⟨j, r', replies, one, found⟩
      · rw [List.append_nil] at split
        exact ih split
      · exact noted _ one nofun
      · exact noted _ one nofun
      · refine noted _ one fun same => ⟨replies, ?_⟩
        obtain ⟨rfl, rfl⟩ := Note.read.inj same
        exact found

/-- What was learnt from a handle is the ending of its closure, if that has ended. -/
theorem heard_chronicle {config : Config} {main : Option ThreadId} {pool : σ} {s : Scene σ ν}
    (owner : Owner moves yields held) (empty : held pool = 0)
    (built : Scene.build config main pool = .ok s)
    (run : System.Chronicle moves yields (.idle s) h y) {work : Work ν}
    (mem : work ∈ Note.works i h) (ended : .ended work.ending ∈ Note.marks i h)
    (learnt : ¬ waited (Note.results i h)) : work.ending.result ∈ Note.results i h := by
  induction run with
  | refl => cases mem
  | @tail h more y z before step ih =>
      have sound := (told_chronicle owner built empty before).sound i
      have sound' := (told_chronicle owner built empty (before.tail step)).sound i
      rcases step.notes with rfl | ⟨work', rfl⟩ | ⟨j, m, rfl⟩ | ⟨j, r, replies, rfl, found⟩
      · simp only [List.append_nil] at mem ended learnt ⊢
        exact ih mem ended learnt
      · by_cases own : (y.scene.world.replies.openBox 1).1 = i
        · have new : (standing i held h y.bag y.scene).box = none := by
            rw [← own]
            exact Replies.get?_new 1
          have blank : Note.results i h = [] := sound.results_of_unopened new
          exact absurd (by simp [blank, waited]) learnt
        · simpa using ih (by simpa [own] using mem) (by simpa [own] using ended)
            (by simpa [own] using learnt)
      · by_cases own : j = i
        · have mem' : work ∈ Note.works i h := by simpa using mem
          have learnt' : ¬ waited (Note.results i h) := by simpa using learnt
          have before : (Note.marks i h).length = 2 := sound.settled_of_learnt mem' learnt'
          have after : (Note.marks i (h ++ [.fate j m])).length = 2 :=
            sound'.settled_of_learnt mem learnt
          simp [own, before] at after
        · simpa using ih (by simpa [own] using mem) (by simpa [own] using ended)
            (by simpa [own] using learnt)
      · have mem' : work ∈ Note.works i h := by simpa using mem
        have ended' : .ended work.ending ∈ Note.marks i h := by simpa using ended
        rw [Note.results_concat]
        by_cases vain : waited (Note.results i h)
        · by_cases own : j = i
          · subst own
            obtain ⟨b, box, same⟩ := Option.map_eq_some_iff.mp found
            obtain ⟨rfl, -⟩ := Prod.mk.inj same
            rw [sound.joinNow_of_ended mem' ended' vain box]
            simp
          · exact absurd (by simpa [own] using vain) learnt
        · exact List.mem_append_left _ (ih mem' ended' vain)

variable {config : Config} {main : Option ThreadId} {pool : σ} {s : Scene σ ν} {work : Work ν}

/-- What the calls of a handle answer at some moment of a run. -/
theorem answers_chronicle (owner : Owner moves yields held) (empty : held pool = 0)
    (built : Scene.build config main pool = .ok s)
    (run : System.Chronicle moves yields (.idle s) h y) (submitted : .submitted i work ∈ h) :
    ∃ b, y.scene.world.replies.get? i = some b ∧
      (b.joinNow.1 = .error .taskDropped ↔ Blank work (Note.marks i h) (Note.results i h)) ∧
      (b.join? = some (.error .taskDropped) ↔ Blank work (Note.marks i h) (Note.results i h)) ∧
      (b.isFinished = true ↔ Note.marks i h = [.started, .ended work.ending] ∧
        work.ending.result ∉ Note.results i h) := by
  have mem := Note.mem_works submitted
  exact ((told_chronicle owner built empty run).sound i).answers mem
    (heard_chronicle owner empty built run mem)

/-- Over any pool that keeps its jobs, whatever it does with them, and whoever submits, finishes
jobs, shuts down, stops or lets the executor go: each call of a handle that was made in the run, and
each that may be made now, be it with a time limit or without, reports the task as dropped exactly
if the closure was thrown away without having run, or if it has ended and an earlier call has
returned its result. Whether the result is there to be read is told rightly at any moment. -/
theorem handle_dropped_iff (owner : Owner moves yields held) (empty : held pool = 0)
    (built : Scene.build config main pool = .ok s)
    (run : System.Chronicle moves yields (.idle s) h y) (submitted : .submitted i work ∈ h) :
    (∀ past r later, h = past ++ .read i r :: later → .submitted i work ∈ past →
      (r = .error .taskDropped ↔ Blank work (Note.marks i past) (Note.results i past))) ∧
    (∃ r replies, y.scene.world.replies.joinNow? i = some (r, replies) ∧
      (r = .error .taskDropped ↔ Blank work (Note.marks i h) (Note.results i h))) ∧
    (Executor.joinSubmitted? y.scene.world.replies (.ok i) = some (.error .taskDropped) ↔
      Blank work (Note.marks i h) (Note.results i h)) ∧
    (y.scene.world.replies.isFinished? i = some true ↔
      Note.marks i h = [.started, .ended work.ending] ∧
        work.ending.result ∉ Note.results i h) := by
  refine ⟨?_, ?_⟩
  · intro past r later split earlier
    obtain ⟨z, replies, before, found⟩ := run.reading split
    obtain ⟨b, own, now, -⟩ := answers_chronicle owner empty built before earlier
    rw [Replies.joinNow?, own] at found
    obtain ⟨rfl, -⟩ := Prod.mk.inj (Option.some.inj found)
    exact now
  · obtain ⟨b, own, now, waiting, there⟩ := answers_chronicle owner empty built run submitted
    refine ⟨⟨b.joinNow.1, _, by rw [Replies.joinNow?, own]; rfl, now⟩, ?_, ?_⟩
    · change (y.scene.world.replies.get? i).bind Inbox.join? = _ ↔ _
      rw [own]
      exact waiting
    · rw [Replies.isFinished?, own, Option.map_some, Option.some_inj]
      exact there

end Runs

open Sample in
/-- The executor is shut down before the submission, whose closure is thrown away. The handle is
read and then joined. -/
theorem handle_dropped_iff_after_shutdown :
    ∃ past y, System.Chronicle HandPool.reorders HandPool.gives (.idle scene)
        (past ++ [.read 0 (.error .taskDropped)]) y ∧
      .submitted 0 (.plain "a" (.value ())) ∈ past ∧
      Note.marks 0 past = [.condemned, .gone] ∧
      Blank (.plain "a" (.value ())) (Note.marks 0 past) (Note.results 0 past) ∧
      Executor.joinSubmitted? y.scene.world.replies (.ok 0) = some (.error .taskDropped) ∧
      y.scene.world.replies.isFinished? 0 ≠ some true := by
  obtain ⟨x, y, replies, shut, alive, number, thrown, found⟩ :
      ∃ x y replies, System.turns? (.caller 1) 5
          ((System.idle scene).assign (.caller 1) [Call.frame .shutdown]) = some ([], x) ∧
        x.scene.alive = true ∧ (x.scene.world.replies.openBox 1).1 = 0 ∧
        System.turns? (.caller 1) 4 (x.ask (.caller 1) (.plain "a" (.value ())))
          = some ([.fate 0 .condemned, .fate 0 .gone], y) ∧
        y.scene.world.replies.joinNow? 0 = some (.error .taskDropped, replies) :=
    ⟨_, _, _, rfl, rfl, rfl, rfl, rfl⟩
  have first : System.Chronicle HandPool.reorders HandPool.gives (.idle scene) _ x :=
    System.Chronicle.turns (.tail .refl (.call (.caller 1) .shutdown rfl rfl)) shut
  have second := System.Chronicle.turns (first.tail (.submit (.caller 1) _ alive)) thrown
  rw [number] at second
  have run : System.Chronicle HandPool.reorders HandPool.gives (.idle scene)
      ([.submitted 0 (.plain "a" (.value ())), .fate 0 .condemned, .fate 0 .gone]
        ++ [.read 0 (.error .taskDropped)]) (y.withReplies replies) :=
    second.tail (.read 0 _ replies found)
  obtain ⟨noted, -, joined, finished⟩ :=
    handle_dropped_iff HandPool.owner rfl scene_built run List.mem_cons_self
  refine ⟨_, _, run, List.mem_cons_self, rfl, (noted _ _ [] rfl List.mem_cons_self).mp rfl,
    joined.mpr (.discarded rfl), fun there => ?_⟩
  have ended : [Mark.condemned, .gone] = [.started, .ended (.value ())] := (finished.mp there).1
  cases ended

open Sample in
/-- The closure has run to its end and its result was read; whoever asks again is told that the task
was dropped. -/
theorem handle_dropped_after_result :
    ∃ h y replies, System.Chronicle HandPool.reorders HandPool.gives (.idle scene) h y ∧
      .submitted 0 (.plain "a" (.value ())) ∈ h ∧
      Note.marks 0 h = [.started, .ended (.value ())] ∧ Note.results 0 h = [.ok ()] ∧
      y.scene.world.replies.joinNow? 0 = some (.error .taskDropped, replies) ∧
      Executor.joinSubmitted? y.scene.world.replies (.ok 0) = some (.error .taskDropped) := by
  obtain ⟨x, job, pool, y, replies, replies', submitted, idle, taken, ran, found, again, joined⟩ :
      ∃ x job pool y replies replies', System.turns? (.caller 1) 12
          ((System.idle scene).ask (.caller 1) (.plain "a" (.value ()))) = some ([], x) ∧
        x.threads.get (.caller 1) = [] ∧ x.scene.exec.pool.take? 0 = some (job, pool) ∧
        System.turns? (.caller 1) 14
          { scene := { x.scene with exec := { x.scene.exec with pool } }
            threads := x.threads.set (.caller 1) [.job job FinishMode.runComplete.acts] }
          = some ([.fate 0 .started, .fate 0 (.ended (.value ()))], y) ∧
        y.scene.world.replies.joinNow? 0 = some (.ok (), replies) ∧
        replies.joinNow? 0 = some (.error .taskDropped, replies') ∧
        Executor.joinSubmitted? replies (.ok 0) = some (.error .taskDropped) :=
    ⟨_, _, _, _, _, _, rfl, rfl, rfl, rfl, rfl, rfl, rfl⟩
  have first : System.Chronicle HandPool.reorders HandPool.gives (.idle scene) _ x :=
    System.Chronicle.turns (.tail .refl (.submit (.caller 1) _ rfl)) submitted
  have second := System.Chronicle.turns
    (first.tail (.finish (.caller 1) job .runComplete pool idle ⟨0, taken⟩)) ran
  exact ⟨_, y.withReplies replies, replies', second.tail (.read 0 _ replies found),
    List.mem_cons_self, rfl, rfl, again, joined⟩

end TwoTier
