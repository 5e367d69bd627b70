import TwoTier.Proofs.MainLoop

/-!
A loop after its deadline.

A loop with a deadline reads the clock only where it finds no message: a message that is there
already is taken out whatever the time, and what is left once there are no handles is run without a
look at the clock. So the loop never waits after its deadline, but it goes on as long as it finds
closures (`overtime_runs_all_posted`): those that wait in the queue when the deadline comes, and
those that closures and other threads post from then on. It starts none of them in overtime exactly
if there are none. Other threads that post often enough keep it going for ever
(`overtime_without_end`).
-/

namespace TwoTier.Looper

variable {s s' : Looper} {a : Act} {acts rest new : List Act} {deadline : Instant}

/-! ### The acts of a loop with a deadline -/

/-- What such a loop does next, as long as it goes on. -/
inductive Pending (deadline : Instant) : Act → Prop where
  | check (ran : Nat) : Pending deadline (.check (.until deadline) ran)
  | receive (ran : Nat) : Pending deadline (.receive (.until deadline) ran)
  | drain (ran : Nat) : Pending deadline (.drain ran)

/-- The acts of the main thread while it is in such a loop: those of a closure that is under way and
then one of the loop, until the loop is over. -/
inductive Timed (deadline : Instant) : List Act → Prop where
  | goesOn {l : Act} (calm : List Act) (own : ∀ a ∈ calm, a.loops = false)
      (pending : Pending deadline l) : Timed deadline (calm ++ [l])
  | finished (ran : Nat) : Timed deadline [.done ran]

namespace Pending

/-- A loop that takes a message goes on. -/
theorem again {n m : Nat} {again : Nat → Act} (h : Pending deadline a) (takes : Takes a n again) :
    Pending deadline (again m) := by
  cases takes with
  | receive =>
      cases h
      exact .check m
  | drain => exact .drain m

/-- A loop that has nothing to run before it goes on, or is over because the queue is empty. -/
theorem step (h : Pending deadline a) (step : Step s a new s') :
    (∃ calm l, new = calm ++ [l] ∧ (∀ b ∈ calm, b.loops = false) ∧ Pending deadline l) ∨
      (∃ ran, new = [.done ran]) ∧ s.queue = [] := by
  have alone {l : Act} (pending : Pending deadline l) :
      ∃ calm l', [l] = calm ++ [l'] ∧ (∀ b ∈ calm, b.loops = false) ∧ Pending deadline l' :=
    ⟨[], l, rfl, fun _ mem => absurd mem List.not_mem_nil, pending⟩
  cases step with
  | goOn patience ran =>
      cases h
      exact .inl (alone (.receive ran))
  | stop => cases h
  | giveUp deadline' ran => exact .inl (alone (.drain ran))
  | take ticket e takes => exact .inl ⟨runCaught e, _, rfl, calm_runCaught e, h.again takes⟩
  | skip takes => exact .inl (alone (h.again takes))
  | expire deadline' ran empty | emptied ran empty => exact .inr ⟨⟨ran, rfl⟩, empty⟩
  | _ => cases h

end Pending

/-- Nothing but a loop ever waits. -/
theorem exists_step_of_calm (calm : a.loops = false) (s : Looper) : ∃ r, s.step a = some r := by
  cases a with
  | check | receive | drain | done => simp [Act.loops] at calm
  | post e noted => cases present : s.present <;> simp [step, present]
  | _ => exact ⟨_, rfl⟩

/-- A loop does not wait once its deadline has come. -/
theorem Pending.exists_step (h : Pending deadline a) (passed : deadline.nanos ≤ s.now.nanos) :
    ∃ r, s.step a = some r := by
  cases h with
  | check ran => by_cases held : 0 < s.handles <;> simp [Looper.step, held]
  | receive ran =>
      cases queue : s.queue with
      | nil => simp [Looper.step, queue, passed]
      | cons m rest => cases m <;> simp [Looper.step, queue]
  | drain ran =>
      cases queue : s.queue with
      | nil => simp [Looper.step, queue]
      | cons m rest => cases m <;> simp [Looper.step, queue]

namespace Timed

theorem ne_nil (h : Timed deadline acts) : acts ≠ [] := by
  cases h with
  | goesOn calm => simp
  | finished => simp

/-- A closure that is under way or a loop that goes on is followed by the rest of the loop, and the
loop is over only if the queue is empty. -/
theorem step (h : Timed deadline (a :: rest)) (step : Step s a new s') :
    Timed deadline (new ++ rest) ∧ ∀ ran, new ++ rest = [.done ran] → s.queue = [] := by
  generalize split : a :: rest = acts at h
  cases h with
  | finished ran =>
      obtain ⟨rfl, -⟩ := List.cons.inj split
      cases step with
      | take _ _ takes | skip takes => cases takes
  | @goesOn l calm own pending =>
      have open' {calm : List Act} {l : Act} (pending : Pending deadline l) (ran : Nat) :
          calm ++ [l] ≠ [.done ran] := by
        intro finished
        have last := congrArg List.getLast? finished
        rw [List.getLast?_concat] at last
        obtain rfl : l = .done ran := Option.some.inj last
        cases pending
      cases calm with
      | nil =>
          obtain ⟨rfl, rfl⟩ := List.cons.inj split
          rw [List.append_nil]
          rcases pending.step step with ⟨calm, l, rfl, own, pending⟩ | ⟨⟨ran, rfl⟩, empty⟩
          · exact ⟨.goesOn calm own pending,
              fun ran finished => absurd finished (open' pending ran)⟩
          · exact ⟨.finished ran, fun _ _ => empty⟩
      | cons b calm =>
          obtain ⟨rfl, rfl⟩ := List.cons.inj split
          obtain ⟨first, others⟩ := List.forall_mem_cons.mp own
          change Timed deadline (new ++ (calm ++ [l])) ∧
            ∀ ran, new ++ (calm ++ [l]) = [.done ran] → _
          rw [← List.append_assoc]
          exact ⟨.goesOn (new ++ calm)
            (List.forall_mem_append.mpr ⟨step.calm first, others⟩) pending,
            fun ran finished => absurd finished (open' pending ran)⟩

theorem exists_step (h : Timed deadline (a :: rest)) (passed : deadline.nanos ≤ s.now.nanos) :
    (∃ ran, a :: rest = [.done ran]) ∨ ∃ r, s.step a = some r := by
  generalize split : a :: rest = acts at h
  cases h with
  | finished ran => exact .inl ⟨ran, rfl⟩
  | @goesOn l calm own pending =>
      refine .inr ?_
      cases calm with
      | nil =>
          obtain ⟨rfl, -⟩ := List.cons.inj split
          exact pending.exists_step passed
      | cons b calm =>
          obtain ⟨rfl, -⟩ := List.cons.inj split
          exact exists_step_of_calm (own _ List.mem_cons_self) s

end Timed

/-! ### A loop among threads -/

/-- No act takes time. -/
theorem Step.now (h : Step s a new s') : s'.now = s.now := by
  cases h <;> rfl

namespace Threads

variable {d e : Diary} {x y z w : Threads}

theorem Next.later (next : Next y z) : y.looper.now.nanos ≤ z.looper.now.nanos := by
  cases next with
  | turn _ step | turnOther _ step =>
      exact Nat.le_of_eq (congrArg Instant.nanos (step_cases step).now).symm
  | handle | clone => exact Nat.le_of_eq (by simp only [handle_eq])
  | time nanos => exact Nat.le_add_right _ nanos
  | _ => exact Nat.le_refl _

/-- In a call that the diary knows as a loop with a deadline, the main thread does what such a loop
does. -/
theorem Course.timed {thread : ThreadId} (course : Course (start thread) d y)
    (call : d.call = some (.until deadline)) : Timed deadline y.mainActs := by
  induction course with
  | refl => cases call
  | next before next ih =>
      refine call_next (I := fun _ acts => Timed deadline acts) ih before.sound.foreign next
        (fun ran => ?_) (fun a rest new _ timed step => (timed.step step).1) (fun _ timed => timed)
        call
      exact .goesOn [] (fun _ mem => absurd mem List.not_mem_nil) (.check ran)
  | drop before idle ih => exact absurd (mainActs_none idle) (ih call).ne_nil

/-- What is known of a run that has begun inside a loop with a deadline and in which that loop has
not returned. -/
structure Overtime (deadline : Instant) (y : Threads) (e : Diary) (w : Threads) : Prop where
  foreign : Foreign w
  timed : Timed deadline w.mainActs
  later : y.looper.now.nanos ≤ w.looper.now.nanos
  order : e.ran ++ w.looper.waiting = y.looper.waiting ++ e.posted

namespace Overtime

/-- A loop that has not returned goes on. -/
theorem timed_next (timed : Timed deadline w.mainActs) (foreign : Foreign w) (next : Next w z)
    (same : returns w z = []) : Timed deadline z.mainActs := by
  cases next.mainMove foreign with
  | acts busy step main =>
      rw [mainActs_some busy] at timed
      rw [mainActs_some main]
      exact (timed.step step).1
  | enters idle => exact absurd (mainActs_none idle) timed.ne_nil
  | @leaves b busy main ended =>
      obtain ⟨acts, borrows⟩ := b
      rcases ended with rfl | ⟨ran, rfl⟩
      · exact absurd (mainActs_some busy) timed.ne_nil
      · simp [returns, busy, main] at same
  | aside main =>
      rw [mainActs, main]
      exact timed

theorem next (h : Overtime deadline y e w) (next : Next w z) (same : returns w z = []) :
    Overtime deadline y (e.enter w z) z where
  foreign := foreign_next h.foreign next
  timed := timed_next h.timed h.foreign next same
  later := Nat.le_trans h.later next.later
  order := by
    change e.ran ++ w.looper.left z.looper ++ z.looper.waiting
      = y.looper.waiting ++ (e.posted ++ w.looper.joined z.looper)
    rw [List.append_assoc, next.traffic.waiting, ← List.append_assoc, h.order, List.append_assoc]

theorem course (foreign : Foreign y) (timed : Timed deadline y.mainActs) (course : Course y e w)
    (same : e.returned = []) : Overtime deadline y e w := by
  induction course with
  | refl => exact ⟨foreign, timed, Nat.le_refl _, (List.append_nil _).symm⟩
  | next _ next ih =>
      obtain ⟨before, now⟩ := List.append_eq_nil_iff.mp same
      exact (ih before).next next now
  | drop _ idle ih => exact absurd (mainActs_none idle) (ih same).timed.ne_nil

end Overtime

/-- What the main thread has still to do, the closures in the queue included. -/
def burden (y : Threads) : Nat := Act.weights y.mainActs + y.looper.weight

/-- After its deadline a loop does not wait, and each of its acts leaves it with less to do. -/
theorem Overtime.goes_on (h : Overtime deadline y e w)
    (passed : deadline.nanos ≤ y.looper.now.nanos) :
    (∃ ran, w.mainActs = [.done ran]) ∨
      ∃ z, Next w z ∧ z.others = w.others ∧ z.burden < w.burden := by
  cases main : w.main with
  | none => exact absurd (mainActs_none main) h.timed.ne_nil
  | some b =>
      obtain ⟨acts, borrows⟩ := b
      have timed := h.timed
      rw [mainActs_some main] at timed ⊢
      cases acts with
      | nil => exact absurd rfl timed.ne_nil
      | cons a rest =>
          refine (timed.exists_step (Nat.le_trans passed h.later)).imp_right ?_
          rintro ⟨⟨new, looper⟩, step⟩
          refine ⟨_, .turn main step, rfl, ?_⟩
          have lighter : Act.weights new + looper.weight < a.weight + w.looper.weight :=
            weight_step_lt step
          rw [burden, burden, mainActs_some main, mainActs_some rfl]
          simp only [Act.weights_append, Act.weights_cons]
          omega

/-- From the moment at which its deadline has come on, a loop runs closures in the order in which
they were posted: first those that were waiting, then those that have been posted since. It does not
wait, and each of its acts leaves it with less to do. And when it comes to its end it has run all
of them. So whatever threads post and whatever the clock shows, it starts no closure in overtime
exactly if none was waiting when the deadline came and none is posted before it comes to its end. -/
theorem overtime_runs_all_posted {thread : ThreadId} (before : Course (start thread) d y)
    (call : d.call = some (.until deadline)) (passed : deadline.nanos ≤ y.looper.now.nanos)
    (course : Course y e w) (same : e.returned = []) :
    e.ran ++ w.looper.waiting = y.looper.waiting ++ e.posted ∧
      ((∃ ran, w.mainActs = [.done ran]) ∨
        ∃ z, Next w z ∧ z.others = w.others ∧ z.burden < w.burden) ∧
      ∀ z ran, Next w z → (∀ n, w.mainActs ≠ [.done n]) → z.mainActs = [.done ran] →
        e.ran = y.looper.waiting ++ e.posted ∧
          (e.ran = [] ↔ y.looper.waiting = [] ∧ e.posted = []) := by
  have overtime := Overtime.course before.sound.foreign (before.timed call) course same
  refine ⟨overtime.order, overtime.goes_on passed, fun z ran next going finished => ?_⟩
  have empty : w.looper.queue = [] := by
    cases next.mainMove overtime.foreign with
    | acts busy step main =>
        have timed := overtime.timed
        rw [mainActs_some busy] at timed
        rw [mainActs_some main] at finished
        exact (timed.step step).2 ran finished
    | enters idle => exact absurd (mainActs_none idle) overtime.timed.ne_nil
    | leaves _ main =>
        rw [mainActs_none main] at finished
        contradiction
    | aside main =>
        rw [mainActs, main] at finished
        exact absurd finished (going ran)
  have all : e.ran = y.looper.waiting ++ e.posted := by
    have order := overtime.order
    rw [Looper.waiting, empty] at order
    exact (List.append_nil _).symm.trans order
  exact ⟨all, all ▸ List.append_eq_nil_iff⟩

end Threads

namespace Sample

/-- Some time has passed. -/
def waited (nanos : Nat) (y : Threads) : Threads :=
  { y with looper := { y.looper with now := y.looper.now.advance nanos } }

/-- Another thread posts a closure that will post one itself, and the loop takes it in time. -/
def inTime : List Move :=
  [.handle, .sendOther (.caller 1) parent, .turnOther, .turnOther, .endsOther, .loop (.until ⟨5⟩),
    .turn, .turn, .turn]

def plain : Errand := ⟨"a", false, false, [], none⟩

/-- Another thread posts a closure. -/
def posts : List Move := [.sendOther (.caller 1) plain, .turnOther, .endsOther]

/-- A loop whose deadline has come, and which has run so many closures since. -/
def late (ran ticket : Nat) (journal : List Event) : Threads :=
  ⟨⟨.main, true, 1, [], ticket, ⟨1⟩, journal⟩, some ⟨[.check (.until ⟨0⟩) ran], false⟩, [], 1⟩

end Sample

open Sample in
/-- The deadline passes while a closure is under way. The closure posts another, which is run in
overtime; then the loop finds the queue empty. -/
theorem overtime_runs_all_posted_of_parent :
    ∃ d y e w z, Threads.Course (.start .main) d y ∧ d.call = some (.until ⟨5⟩) ∧
      5 ≤ y.looper.now.nanos ∧ Threads.Course y e w ∧ e.returned = [] ∧
      Threads.Next w z ∧ z.mainActs = [.done 2] ∧ e.posted.map Prod.fst = [1] ∧
      e.ran = y.looper.waiting ++ e.posted ∧ e.ran ≠ [] := by
  obtain ⟨d, y, began, call, passed, e, w, went, same, posted, looks, z, turn, finished⟩ :
      ∃ d y, Threads.replay inTime (.empty, .start .main) = some (d, y) ∧
        (d.enter y (waited 7 y)).call = some (.until ⟨5⟩) ∧ 5 ≤ (waited 7 y).looper.now.nanos ∧
        ∃ e w, Threads.replay (List.replicate 9 .turn) (.empty, waited 7 y) = some (e, w) ∧
          e.returned = [] ∧ e.posted.map Prod.fst = [1] ∧ w.mainActs = [.receive (.until ⟨5⟩) 2] ∧
          ∃ z, w.move? .turn = some z ∧ z.mainActs = [.done 2] :=
    ⟨_, _, rfl, rfl, by decide, _, _, rfl, rfl, rfl, rfl, _, rfl, rfl⟩
  have before : Threads.Course (.start .main) _ (waited 7 y) :=
    (Threads.Course.replay .refl began).next (.time 7)
  have course : Threads.Course (waited 7 y) e w := Threads.Course.replay .refl went
  have next := Threads.move_next turn
  obtain ⟨-, -, ends⟩ := Threads.overtime_runs_all_posted before call passed course same
  obtain ⟨all, none⟩ := ends z 2 next (by simp [looks]) finished
  refine ⟨_, _, e, w, z, before, call, passed, course, same, next, finished, posted, all, ?_⟩
  intro idle
  rw [(none.mp idle).2] at posted
  contradiction

open Sample in
/-- A closure is posted, and its loop is entered when the deadline has passed: the closure is taken
out to be run all the same. -/
theorem started_after_deadline :
    ∃ d y time, Threads.Course (.start .main) d y ∧ d.call = some (.until ⟨0⟩) ∧
      d.returned = [] ∧ .taken 0 time ∈ y.looper.journal ∧ 0 < time.nanos := by
  obtain ⟨d, y, posted, e, z, looped, call, same, taken⟩ :
      ∃ d y, Threads.replay (.handle :: posts) (.empty, .start .main) = some (d, y) ∧
        ∃ e z, Threads.replay [.loop (.until ⟨0⟩), .turn, .turn]
            (d.enter y (waited 1 y), waited 1 y) = some (e, z) ∧
          e.call = some (.until ⟨0⟩) ∧ e.returned = [] ∧ .taken 0 ⟨1⟩ ∈ z.looper.journal :=
    ⟨_, _, rfl, _, _, rfl, rfl, rfl, List.mem_cons_self⟩
  have before : Threads.Course (.start .main) _ (waited 1 y) :=
    (Threads.Course.replay .refl posted).next (.time 1)
  exact ⟨e, z, ⟨1⟩, before.replay looped, call, same, taken, Nat.one_pos⟩

open Sample in
/-- A thread that posts again and again keeps a loop from ever returning: after its deadline the
loop runs as many closures as one likes. -/
theorem overtime_without_end :
    ∃ d y, Threads.Course (.start .main) d y ∧ d.call = some (.until ⟨0⟩) ∧
      0 < y.looper.now.nanos ∧
      ∀ n, ∃ e w, Threads.Course y e w ∧ e.returned = [] ∧ e.ran.length = n := by
  obtain ⟨d, y, handled, e, entered, call⟩ :
      ∃ d y, Threads.replay [.handle] (.empty, .start .main) = some (d, y) ∧
        ∃ e, Threads.replay [.loop (.until ⟨0⟩)] (d.enter y (waited 1 y), waited 1 y)
            = some (e, late 0 0 []) ∧ e.call = some (.until ⟨0⟩) :=
    ⟨_, _, rfl, _, rfl, rfl⟩
  have before : Threads.Course (.start .main) _ (waited 1 y) :=
    (Threads.Course.replay .refl handled).next (.time 1)
  have kept (n : Nat) : ∃ e ticket journal,
      Threads.Course (late 0 0 []) e (late n ticket journal) ∧ e.returned = [] ∧
        e.ran.length = n := by
    induction n with
    | zero => exact ⟨.empty, 0, [], .refl, rfl, rfl⟩
    | succ n ih =>
        obtain ⟨e, ticket, journal, course, same, ran⟩ := ih
        obtain ⟨e', journal', played, same', ran'⟩ : ∃ e' journal',
            Threads.replay (posts ++ List.replicate 4 .turn) (e, late n ticket journal)
              = some (e', late (n + 1) (ticket + 1) journal') ∧
            e'.returned = e.returned ∧ e'.ran = e.ran ++ [(ticket, plain)] :=
          ⟨_, _, rfl, by simp [Diary.enter, Threads.returns, late],
            by simp [Diary.enter, left, Message.errands, late, enqueue, record]⟩
        refine ⟨e', ticket + 1, journal', course.replay played, same'.trans same, ?_⟩
        rw [ran', List.length_append, ran]
        rfl
  refine ⟨e, late 0 0 [], before.replay entered, call, Nat.one_pos, fun n => ?_⟩
  obtain ⟨e, ticket, journal, course, same, ran⟩ := kept n
  exact ⟨e, _, course, same, ran⟩

end TwoTier.Looper
