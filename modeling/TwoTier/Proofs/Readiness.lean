import TwoTier.Proofs.Rereading

/-!
Whether a handle that can be joined says so.

A handle can be asked whether its result is there, and it can be read without waiting. The first
question looks at the inbox only: it is answered yes as long as an ending lies there unread. A
reader also learns something from an empty inbox that nobody will send to any more, namely that
there is nothing to wait for. So a handle that says yes never makes a reader wait, but a handle
that says no may do so too: `finished_agrees_iff` says that the two agree exactly as long as the
handle does not report a loss (`Blank`). Whoever asks again and again until the answer is yes never
gets to the loss of a task.
-/

namespace TwoTier

variable {σ ν : Type}

namespace Inbox

/-- An ending lies there exactly if a reader gets a result other than the loss of the task. -/
theorem isFinished_iff (b : Inbox ν) : b.isFinished = true ↔
    b.joinNow.1 ≠ .error .timeout ∧ b.joinNow.1 ≠ .error .taskDropped := by
  obtain ⟨arrived, senders⟩ := b
  cases arrived with
  | nil =>
      refine iff_of_false (by simp [isFinished]) ?_
      rintro ⟨learnt, kept⟩
      by_cases closed : senders = 0
      · exact kept (by simp [joinNow, receive, closed])
      · exact learnt (by simp [joinNow, receive, closed])
  | cons e rest => exact iff_of_true rfl ⟨e.result_ne_timeout, e.result_ne_dropped⟩

/-- Whoever waits for the result goes on at once exactly if a reader is not told to wait. -/
theorem join?_isSome_iff (b : Inbox ν) :
    b.join?.isSome = true ↔ b.joinNow.1 ≠ .error .timeout := by
  obtain ⟨arrived, senders⟩ := b
  cases arrived with
  | nil => by_cases closed : senders = 0 <;> simp [join?, joinNow, receive, closed]
  | cons e rest => exact iff_of_true rfl e.result_ne_timeout

end Inbox

section Runs

variable [WorkerPool σ (Task ν)] {moves : σ → σ → Prop} {yields : σ → Task ν → σ → Prop}
  {held : σ → Multiset (Task ν)} {h : List (Note ν)} {y : System σ ν} {i : Nat} {config : Config}
  {main : Option ThreadId} {pool : σ} {s : Scene σ ν} {work : Work ν}

/-- Over any pool that keeps its jobs, whatever it does with them, and whoever submits, finishes
jobs, shuts down, stops, reads handles or lets the executor go: at any moment a handle can be asked
whether it is finished, and it can be read. A reader is told to wait exactly if waiting for the
result would block. If the handle says that it is finished it does not block. And it says so exactly
if it does not block, unless the closure was thrown away without having run, or has ended and its
result was read before: then, and only then, the handle is not finished although it would not
block. -/
theorem finished_agrees_iff (owner : Owner moves yields held) (empty : held pool = 0)
    (built : Scene.build config main pool = .ok s)
    (run : System.Chronicle moves yields (.idle s) h y) (submitted : .submitted i work ∈ h) :
    ∃ finished r replies, y.scene.world.replies.isFinished? i = some finished ∧
      y.scene.world.replies.joinNow? i = some (r, replies) ∧
      ((Executor.joinSubmitted? y.scene.world.replies (.ok i)).isSome = true ↔
        r ≠ .error .timeout) ∧
      (finished = true → r ≠ .error .timeout) ∧
      ((finished = true ↔ r ≠ .error .timeout) ↔
        ¬ Blank work (Note.marks i h) (Note.results i h)) := by
  obtain ⟨b, own, lost, -⟩ := answers_chronicle owner empty built run submitted
  refine ⟨b.isFinished, b.joinNow.1, y.scene.world.replies.modify i fun _ => b.joinNow.2,
    ?_, ?_, ?_, fun there => (b.isFinished_iff.mp there).1, ?_⟩
  · rw [Replies.isFinished?, own, Option.map_some]
  · rw [Replies.joinNow?, own]
    rfl
  · change ((y.scene.world.replies.get? i).bind Inbox.join?).isSome = true ↔ _
    rw [own]
    exact b.join?_isSome_iff
  · rw [← lost, b.isFinished_iff]
    constructor
    · intro agree dropped
      have learnt : b.joinNow.1 ≠ .error .timeout := by simp [dropped]
      exact (agree.mpr learnt).2 dropped
    · intro kept
      exact and_iff_left kept

end Runs

open Sample in
/-- The closure has run to its end and nobody has read its result: the handle says that it is
finished. -/
theorem finished_agrees_iff_after_end :
    ∃ h y, System.Chronicle HandPool.reorders HandPool.gives (.idle scene) h y ∧
      .submitted 0 (.plain "a" (.value ())) ∈ h ∧
      Note.marks 0 h = [.started, .ended (.value ())] ∧ Note.results 0 h = [] ∧
      ∃ finished r replies, y.scene.world.replies.isFinished? 0 = some finished ∧
        y.scene.world.replies.joinNow? 0 = some (r, replies) ∧
        finished = true ∧ r ≠ .error .timeout := by
  obtain ⟨x, job, pool, y, submitted, idle, taken, ran, read⟩ :
      ∃ x job pool y, System.turns? (.caller 1) 12
          ((System.idle scene).ask (.caller 1) (.plain "a" (.value ()))) = some ([], x) ∧
        x.threads.get (.caller 1) = [] ∧ x.scene.exec.pool.take? 0 = some (job, pool) ∧
        System.turns? (.caller 1) 14
          { scene := { x.scene with exec := { x.scene.exec with pool } }
            threads := x.threads.set (.caller 1) [.job job FinishMode.runComplete.acts] }
          = some ([.fate 0 .started, .fate 0 (.ended (.value ()))], y) ∧
        (y.scene.world.replies.joinNow? 0).map Prod.fst = some (.ok ()) :=
    ⟨_, _, _, _, rfl, rfl, rfl, rfl, rfl⟩
  have first : System.Chronicle HandPool.reorders HandPool.gives (.idle scene) _ x :=
    System.Chronicle.turns (.tail .refl (.submit (.caller 1) _ rfl)) submitted
  have run : System.Chronicle HandPool.reorders HandPool.gives (.idle scene)
      [.submitted 0 (.plain "a" (.value ())), .fate 0 .started, .fate 0 (.ended (.value ()))] y :=
    System.Chronicle.turns
      (first.tail (.finish (.caller 1) job .runComplete pool idle ⟨0, taken⟩)) ran
  obtain ⟨finished, r, replies, asked, found, -, -, agree⟩ :=
    finished_agrees_iff HandPool.owner rfl scene_built run List.mem_cons_self
  have learnt : r ≠ .error .timeout := by
    rw [found] at read
    obtain rfl : r = .ok () := Option.some.inj read
    simp
  have kept : ¬ Blank (.plain "a" (.value ())) [.started, .ended (.value ())] [] := by
    simp [blank_iff]
  exact ⟨_, y, run, List.mem_cons_self, rfl, rfl, finished, r, replies, asked, found,
    (agree.mpr kept).mpr learnt, learnt⟩

open Sample in
/-- The pool refuses the task, whose closure is thrown away. A reader does not have to wait, and the
handle says that it is not finished. -/
theorem unfinished_after_refusal :
    ∃ h y replies, System.Chronicle HandPool.reorders HandPool.gives (.idle scene) h y ∧
      .submitted 0 (.plain "a" (.value ())) ∈ h ∧
      Note.marks 0 h = [.condemned, .gone] ∧ Note.results 0 h = [] ∧
      y.scene.world.replies.joinNow? 0 = some (.error .taskDropped, replies) ∧
      y.scene.world.replies.isFinished? 0 = some false := by
  obtain ⟨pool, y, replies, orders, refused, found, asked⟩ :
      ∃ pool y replies, HandPool.reorders scene.exec.pool pool ∧
        System.turns? (.caller 1) 15 (System.ask (.caller 1) (.plain "a" (.value ()))
            { System.idle scene with scene := { scene with exec := { scene.exec with pool } } })
          = some ([.fate 0 .condemned, .fate 0 .gone], y) ∧
        y.scene.world.replies.joinNow? 0 = some (.error .taskDropped, replies) ∧
        y.scene.world.replies.isFinished? 0 = some false :=
    ⟨_, _, _, ⟨1, rfl⟩, rfl, rfl, rfl⟩
  have ordered : System.Chronicle HandPool.reorders HandPool.gives (.idle scene) _ _ :=
    .tail .refl (.pool pool orders)
  exact ⟨_, y, replies, System.Chronicle.turns (ordered.tail (.submit (.caller 1) _ rfl)) refused,
    List.mem_cons_self, rfl, rfl, found, asked⟩

end TwoTier
