import TwoTier.Proofs.HandleCount

/-!
The loop of the main thread runs what is posted.

Beside a run a diary is kept (`Diary`): the closures that have joined the queue, those that loops
have taken out to run them, what the closures that are run will let others know, and the values
that loops have returned. It reads nothing but the queue and what the main thread is in the middle
of; a run with its diary is a `Course`.

Whatever threads post and whichever closures panic, the closures are run in the order in which they
were posted, each once and to its end, and the loops count them all. A loop without a deadline ends
with nothing left to run (`posts_run_once_in_order`): it stops when there are no handles, and from
then on nobody can post.
-/

namespace TwoTier.Looper

variable {s s' : Looper} {a : Act} {new : List Act}

/-! ### How the queue changes -/

/-- What any move of any thread does to the queue. -/
structure Traffic (s s' : Looper) : Prop where
  waiting : s.left s' ++ s'.waiting = s.waiting ++ s.joined s'
  tickets : List.range s'.nextTicket = List.range s.nextTicket ++ (s.joined s').map Prod.fst
  gone : s.present = false → s.joined s' = []
  thread : s'.thread = s.thread
  present : s'.present = s.present

namespace Traffic

theorem step (h : s.step a = some (new, s')) : Traffic s s' := by
  have step := step_cases h
  exact ⟨step.waiting, step.tickets, step.joined_gone, step.setting.1, step.setting.2⟩

/-- The queue stays as it is. -/
theorem still (queue : s'.queue = s.queue) (ticket : s'.nextTicket = s.nextTicket)
    (thread : s'.thread = s.thread) (present : s'.present = s.present) : Traffic s s' := by
  refine ⟨?_, ?_, fun _ => joined_same queue, thread, present⟩
  · rw [left_same queue, joined_same queue, List.append_nil, Looper.waiting, queue]
    rfl
  · rw [joined_same queue, ticket]
    exact (List.append_nil _).symm

theorem refl (s : Looper) : Traffic s s := still rfl rfl rfl rfl

end Traffic

/-! ### Diaries -/

/-- What is noted beside a run. -/
structure Diary where
  /-- The closures that have joined the queue, with their tickets. -/
  posted : List (Nat × Errand)
  /-- The closures that loops have taken out to run them. -/
  ran : List (Nat × Errand)
  /-- What the closures that the main thread runs will have let others know. -/
  plan : List Event
  /-- The values that loops have returned. -/
  returned : List Nat
  /-- The patience of the loop that the main thread is in. -/
  call : Option Patience

namespace Threads

/-- What the main thread has still to do in its call. -/
def mainActs (y : Threads) : List Act := (y.main.map Business.acts).getD []

/-- The acts of a call that the main thread enters. -/
def entered (y z : Threads) : List Act :=
  match y.main, z.main with
  | none, some b => b.acts
  | _, _ => []

/-- The value of a loop that returns. -/
def returns (y z : Threads) : List Nat :=
  match y.main, z.main with
  | some ⟨[.done ran], _⟩, none => [ran]
  | _, _ => []

end Threads

/-- The loop with which a call begins. -/
def Business.patience? (b : Business) : Option Patience :=
  match b.acts with
  | [.check patience _] => some patience
  | _ => none

namespace Diary

def empty : Diary := ⟨[], [], [], [], none⟩

/-- Notes what has happened between two moments. -/
def enter (d : Diary) (y z : Threads) : Diary where
  posted := d.posted ++ y.looper.joined z.looper
  ran := d.ran ++ y.looper.left z.looper
  plan := d.plan ++ y.looper.tells (Threads.entered y z)
    ++ (y.looper.left z.looper).flatMap fun p => y.looper.tells (runCaught p.2)
  returned := d.returned ++ Threads.returns y z
  call :=
    match y.main, z.main with
    | none, some b => b.patience?
    | some _, some _ => d.call
    | _, none => none

end Diary

namespace Threads

/-- Runs with their diaries. The looper may also be dropped, by the main thread. -/
inductive Course (x : Threads) : Diary → Threads → Prop where
  | refl : Course x .empty x
  | next {d : Diary} {y z : Threads} : Course x d y → Next y z → Course x (d.enter y z) z
  | drop {d : Diary} {y : Threads} : Course x d y → y.main = none → Course x d y.dropped

variable {d : Diary} {x y z : Threads}

theorem Next.traffic (next : Next y z) : Traffic y.looper z.looper := by
  cases next with
  | turn _ step | turnOther _ step => exact .step step
  | handle | clone =>
      rw [handle_eq]
      exact .still rfl rfl rfl rfl
  | time => exact .still rfl rfl rfl rfl
  | _ => exact .refl _

/-! ### The order of the queue -/

/-- All closures that were posted have been run, wait, or were thrown away with the looper. -/
structure Ordered (d : Diary) (y : Threads) : Prop where
  posted : ∃ lost, d.posted = d.ran ++ y.looper.waiting ++ lost ∧
    (y.looper.present = true → lost = [])
  tickets : d.posted.map Prod.fst = List.range y.looper.nextTicket

theorem ordered_next (h : Ordered d y) (next : Next y z) : Ordered (d.enter y z) z := by
  obtain ⟨⟨lost, posted, here⟩, tickets⟩ := h
  have traffic := next.traffic
  constructor
  · refine ⟨lost, ?_, fun present => here (traffic.present.symm.trans present)⟩
    change d.posted ++ y.looper.joined z.looper
      = d.ran ++ y.looper.left z.looper ++ z.looper.waiting ++ lost
    rw [List.append_assoc d.ran, traffic.waiting, posted]
    cases present : y.looper.present with
    | true => simp [here present]
    | false => simp [traffic.gone present]
  · change (d.posted ++ y.looper.joined z.looper).map Prod.fst = _
    rw [List.map_append, tickets, traffic.tickets]

theorem ordered_dropped (h : Ordered d y) : Ordered d y.dropped := by
  obtain ⟨⟨lost, posted, here⟩, tickets⟩ := h
  refine ⟨⟨y.looper.waiting ++ lost, ?_, fun present => absurd present Bool.false_ne_true⟩, tickets⟩
  rw [posted, List.append_assoc, List.append_assoc]
  rfl

/-! ### What the main thread does -/

/-- Acts of closures, and then at most one of a loop. -/
def Tidy (acts : List Act) : Prop :=
  ∃ (calm : List Act) (loop : Option Act),
    acts = calm ++ loop.toList ∧ ∀ a ∈ calm, a.loops = false

namespace Tidy

variable {acts rest : List Act}

theorem of_calm (calm : ∀ a ∈ acts, a.loops = false) : Tidy acts :=
  ⟨acts, none, (List.append_nil acts).symm, calm⟩

theorem append (calm : ∀ a ∈ acts, a.loops = false) (h : Tidy rest) : Tidy (acts ++ rest) := by
  obtain ⟨calm', loop, rfl, other⟩ := h
  exact ⟨acts ++ calm', loop, (List.append_assoc _ _ _).symm,
    List.forall_mem_append.mpr ⟨calm, other⟩⟩

theorem single (a : Act) : Tidy [a] := ⟨[], some a, rfl, fun _ mem => absurd mem List.not_mem_nil⟩

/-- The act of a loop is the last. -/
theorem uncons (h : Tidy (a :: rest)) : rest = [] ∨ a.loops = false ∧ Tidy rest := by
  obtain ⟨calm, loop, split, own⟩ := h
  cases calm with
  | nil =>
      cases loop with
      | none => simp at split
      | some l => exact .inl (List.cons.inj split).2
  | cons b calm =>
      obtain ⟨rfl, rfl⟩ := List.cons.inj split
      obtain ⟨first, others⟩ := List.forall_mem_cons.mp own
      exact .inr ⟨first, calm, loop, rfl, others⟩

theorem step {s s' : Looper} {new : List Act} (h : Tidy (a :: rest)) (step : Step s a new s') :
    Tidy (new ++ rest) := by
  rcases h.uncons with rfl | ⟨calm, h⟩
  · rw [List.append_nil]
    cases step with
    | goOn | stop | giveUp | skip | expire | emptied => exact single _
    | take ticket e => exact append (calm_runCaught e) (single _)
    | discard e => exact of_calm (Step.calm (s := s) (.discard e) rfl)
    | post e noted here => exact of_calm (Step.calm (.post e noted here) rfl)
    | postTooLate e noted gone => exact of_calm (Step.calm (.postTooLate e noted gone) rfl)
    | letLastGo => exact single _
    | _ => exact of_calm fun _ mem => absurd mem List.not_mem_nil
  · exact append (step.calm calm) h

end Tidy

/-- No other thread runs closures. -/
def Foreign (y : Threads) : Prop := ∀ b ∈ y.others, ∀ a ∈ b.acts, a.foreign = true

theorem foreign_next (h : Foreign y) (next : Next y z) : Foreign z := by
  cases next with
  | @turnOther before after a rest new borrows looper busy step =>
      unfold Foreign at h
      rw [busy] at h
      obtain ⟨earlier, own, later⟩ := List.forall_mem_append.mp h |>.imp_right
        List.forall_mem_cons.mp
      obtain ⟨first, rest⟩ := List.forall_mem_cons.mp own
      refine List.forall_mem_append.mpr ⟨earlier, List.forall_mem_cons.mpr ⟨?_, later⟩⟩
      exact List.forall_mem_append.mpr ⟨(step_cases step).foreign first, rest⟩
  | @endsOther before after borrows busy =>
      unfold Foreign at h
      rw [busy] at h
      obtain ⟨earlier, -, later⟩ := List.forall_mem_append.mp h |>.imp_right
        List.forall_mem_cons.mp
      exact List.forall_mem_append.mpr ⟨earlier, later⟩
  | letGoOther => exact List.forall_mem_cons.mpr ⟨by simp [Act.foreign], h⟩
  | sendOther me e other => exact List.forall_mem_cons.mpr ⟨foreign_sendActs other e, h⟩
  | _ => exact h

/-- What a move means to the main thread: it carries out an act, enters a call or leaves one, or
somebody else does something that no closure takes notice of. -/
inductive MainMove (y z : Threads) : Prop where
  | acts {a : Act} {rest new : List Act} {borrows : Bool}
      (busy : y.main = some ⟨a :: rest, borrows⟩) (step : Step y.looper a new z.looper)
      (main : z.main = some ⟨new ++ rest, borrows⟩)
  | enters {b : Business} (idle : y.main = none) (main : z.main = some b) (tidy : Tidy b.acts)
      (fresh : ranIn b.acts = 0) (same : z.looper = y.looper)
  | leaves {b : Business} (busy : y.main = some b) (main : z.main = none)
      (ended : b.acts = [] ∨ ∃ ran, b.acts = [.done ran]) (same : z.looper = y.looper)
  | aside (main : z.main = y.main) (left : y.looper.left z.looper = [])
      (told : z.looper.told = y.looper.told)

theorem Next.mainMove (foreign : Foreign y) (next : Next y z) : MainMove y z := by
  cases next with
  | turn busy step => exact .acts busy (step_cases step) rfl
  | ends busy ended => exact .leaves busy rfl ended rfl
  | @turnOther before after a rest new borrows looper busy step =>
      have among : ⟨a :: rest, borrows⟩ ∈ y.others := by simp [busy]
      have own : a.foreign = true := foreign _ among a List.mem_cons_self
      have step := step_cases step
      have left := step.left_calm (Act.calm_of_foreign own)
      refine .aside rfl left ?_
      have told := step.told
      have silent : Act.tells y.looper a = [] := by
        simpa [tells] using tells_foreign (s := y.looper) (List.forall_mem_singleton.mpr own)
      simpa [left, tells_foreign (step.foreign own), silent] using told
  | handle | clone =>
      refine .aside rfl ?_ ?_
      · exact left_same (by rw [handle_eq])
      · rw [handle_eq]
        rfl
  | time => exact .aside rfl (left_same rfl) rfl
  | endsOther | letGoOther | sendOther => exact .aside rfl (left_same rfl) rfl
  | letGo idle | loop _ idle | pending idle => exact .enters idle rfl (.single _) rfl rfl
  | send e idle =>
      have calm := calm_sendActs (s := y.looper) y.looper.thread e
      exact .enters idle rfl (.of_calm calm) (ranIn_calm calm) rfl

/-- The main thread tells what it was to tell, and counts what it runs. -/
structure Reported (d : Diary) (y : Threads) : Prop where
  tidy : Tidy y.mainActs
  told : y.looper.told ++ y.looper.tells y.mainActs = d.plan
  returned : d.returned.sum + ranIn y.mainActs = d.ran.length

theorem mainActs_some {b : Business} (main : y.main = some b) : y.mainActs = b.acts := by
  rw [mainActs, main]
  rfl

theorem mainActs_none (main : y.main = none) : y.mainActs = [] := by
  rw [mainActs, main]
  rfl

theorem reported_next (h : Reported d y) (next : Next y z) (foreign : Foreign y) :
    Reported (d.enter y z) z := by
  have traffic := next.traffic
  have same (acts : List Act) : z.looper.tells acts = y.looper.tells acts :=
    tells_congr traffic.thread traffic.present acts
  obtain ⟨tidy, told, returned⟩ := h
  cases next.mainMove foreign with
  | @acts a rest new borrows busy step main =>
      have enters : entered y z = [] := by rw [entered, busy]
      have returns : returns y z = [] := by simp [Threads.returns, main]
      have single : y.looper.tells (a :: rest) = Act.tells y.looper a ++ y.looper.tells rest := rfl
      rw [mainActs_some busy] at tidy told returned
      rw [single] at told
      refine ⟨?_, ?_, ?_⟩
      · rw [mainActs_some main]
        exact tidy.step step
      · rw [mainActs_some main, same, tells_append, ← List.append_assoc, step.told]
        simp only [Diary.enter, enters, ← told]
        -- A loop that takes a closure has no other acts after its own.
        rcases tidy.uncons with rfl | ⟨calm, -⟩
        · simp [tells]
        · simp [step.left_calm calm, tells]
      · rw [mainActs_some main, ranIn_append, step.ran]
        simp only [Diary.enter, returns, List.append_nil, List.length_append, ← returned,
          ranIn_cons]
        omega
  | @enters b idle main fits fresh looper =>
      have left : y.looper.left z.looper = [] := left_same (congrArg Looper.queue looper)
      have enters : entered y z = b.acts := by rw [entered, idle, main]
      have returns : returns y z = [] := by simp [Threads.returns, idle]
      rw [mainActs_none idle] at told returned
      refine ⟨?_, ?_, ?_⟩
      · rw [mainActs_some main]
        exact fits
      · rw [mainActs_some main, looper]
        simp only [Diary.enter, left, enters, ← told]
        simp [tells]
      · rw [mainActs_some main, fresh]
        simp only [Diary.enter, left, returns, List.append_nil, ← returned]
        rfl
  | @leaves b busy main ended looper =>
      have left : y.looper.left z.looper = [] := left_same (congrArg Looper.queue looper)
      have enters : entered y z = [] := by rw [entered, busy]
      obtain ⟨acts, borrows⟩ := b
      rw [mainActs_some busy] at told returned
      refine ⟨?_, ?_, ?_⟩
      · rw [mainActs_none main]
        exact .of_calm fun _ mem => absurd mem List.not_mem_nil
      · rw [mainActs_none main, looper]
        simp only [Diary.enter, left, enters, ← told]
        rcases ended with rfl | ⟨n, rfl⟩ <;> simp [tells, Act.tells]
      · rw [mainActs_none main]
        simp only [Diary.enter, left, List.append_nil, ← returned, List.sum_append]
        rcases ended with rfl | ⟨n, rfl⟩
        · simp [Threads.returns, busy]
        · simp [Threads.returns, busy, main, ranIn, Act.ran]
  | aside main left still =>
      have acts : z.mainActs = y.mainActs := by rw [mainActs, main]; rfl
      have enters : entered y z = [] := by
        rw [entered, main]
        cases y.main <;> rfl
      have returns : returns y z = [] := by
        rw [Threads.returns, main]
        cases y.main <;> simp
      refine ⟨acts ▸ tidy, ?_, ?_⟩
      · rw [acts, same, still]
        simp [Diary.enter, left, enters, ← told, tells]
      · rw [acts]
        simp [Diary.enter, left, returns, ← returned]

theorem reported_dropped (h : Reported d y) (idle : y.main = none) : Reported d y.dropped := by
  obtain ⟨-, told, returned⟩ := h
  have calm : ∀ a ∈ discards y.looper.queue, a.loops = false := by
    intro a mem
    obtain ⟨p, -, rfl⟩ := List.mem_map.mp mem
    rfl
  have silent : ∀ a ∈ discards y.looper.queue, a.foreign = true := by
    intro a mem
    obtain ⟨p, -, rfl⟩ := List.mem_map.mp mem
    rfl
  rw [mainActs_none idle] at told returned
  refine ⟨.of_calm calm, ?_, ?_⟩
  · change y.looper.told ++ tells _ (discards y.looper.queue) = d.plan
    rw [tells_foreign silent]
    exact told
  · change d.returned.sum + ranIn (discards y.looper.queue) = d.ran.length
    rw [ranIn_calm calm]
    exact returned

/-! ### A loop without a deadline -/

/-- Where such a loop may be: it waits for closures while there are handles, and runs what is left
once there are none. -/
inductive Stage (s : Looper) : Act → Prop where
  | check (ran : Nat) : Stage s (.check .forever ran)
  | receive (ran : Nat) : Stage s (.receive .forever ran)
  | drain (ran : Nat) (free : s.handles = 0) : Stage s (.drain ran)
  | done (ran : Nat) (free : s.handles = 0) (empty : s.waiting = []) : Stage s (.done ran)

namespace Stage

theorem step {s s' : Looper} {new : List Act} (h : Stage s a) (step : Step s a new s') :
    ∃ calm l, new = calm ++ [l] ∧ (∀ b ∈ calm, b.loops = false) ∧ Stage s' l := by
  have alone {l : Act} (stage : Stage s' l) :
      ∃ calm l', [l] = calm ++ [l'] ∧ (∀ b ∈ calm, b.loops = false) ∧ Stage s' l' :=
    ⟨[], l, rfl, fun _ mem => absurd mem List.not_mem_nil, stage⟩
  cases step with
  | goOn =>
      cases h
      exact alone (.receive _)
  | stop ran free => exact alone (.drain ran free)
  | take ticket e takes =>
      refine ⟨runCaught e, _, rfl, calm_runCaught e, ?_⟩
      cases takes with
      | receive =>
          cases h
          exact .check _
      | drain =>
          cases h with
          | drain ran free => exact .drain _ free
  | skip takes =>
      cases takes with
      | receive =>
          cases h
          exact alone (.check _)
      | drain =>
          cases h with
          | drain ran free => exact alone (.drain _ free)
  | emptied ran empty =>
      cases h with
      | drain ran free => exact alone (.done _ free (by rw [Looper.waiting, empty]; rfl))
  | _ => cases h

/-- Without handles nothing changes for the loop. -/
theorem still {s s' : Looper} (h : Stage s a) (traffic : Traffic s s')
    (barren : s.handles = 0 → s'.handles = 0 ∧ s.joined s' = []) : Stage s' a := by
  cases h with
  | check => exact .check _
  | receive => exact .receive _
  | drain ran free => exact .drain _ (barren free).1
  | done ran free empty =>
      have waiting := traffic.waiting
      rw [(barren free).2, empty] at waiting
      exact .done _ (barren free).1 (List.append_eq_nil_iff.mp waiting).2

end Stage

/-- While the main thread is in a call nobody makes a handle out of nothing, and nobody posts
without one. -/
theorem Counted.barren_next (h : Counted y) (next : Next y z) (busy : y.main ≠ none)
    (free : y.looper.handles = 0) :
    z.looper.handles = 0 ∧ y.looper.joined z.looper = [] := by
  obtain ⟨spare, hands⟩ := h.barren free
  have same : z.looper = y.looper → z.looper.handles = 0 ∧ y.looper.joined z.looper = [] := by
    intro looper
    rw [looper]
    exact ⟨free, joined_same rfl⟩
  cases next with
  | turn top step =>
      have own := hands _ (by rw [calls, top]; exact List.mem_cons_self)
      obtain ⟨handles, joined⟩ := (step_cases step).barren own
      exact ⟨handles.trans free, joined⟩
  | turnOther top step =>
      have own := hands _ (by
        rw [calls, top]
        exact List.mem_append_right _ (List.mem_append_right _ List.mem_cons_self))
      obtain ⟨handles, joined⟩ := (step_cases step).barren own
      exact ⟨handles.trans free, joined⟩
  | handle idle => exact absurd idle busy
  | clone held => omega
  | time => exact ⟨free, joined_same rfl⟩
  | _ => exact same rfl

/-- What holds of the main thread when it enters a loop, and is kept by its acts and by all that
others do meanwhile, holds as long as the diary says that it is in the loop. -/
theorem call_next {patience : Patience} {I : Looper → List Act → Prop}
    (h : d.call = some patience → I y.looper y.mainActs) (foreign : Foreign y) (next : Next y z)
    (begins : ∀ ran, I y.looper [.check patience ran])
    (turns : ∀ a rest new, y.main ≠ none → I y.looper (a :: rest) → Step y.looper a new z.looper →
      I z.looper (new ++ rest))
    (aside : y.main ≠ none → I y.looper y.mainActs → I z.looper y.mainActs)
    (call : (d.enter y z).call = some patience) : I z.looper z.mainActs := by
  cases next.mainMove foreign with
  | @acts a rest new borrows busy step main =>
      have before := h (by simpa [Diary.enter, busy, main] using call)
      rw [mainActs_some busy] at before
      rw [mainActs_some main]
      exact turns a rest new (by simp [busy]) before step
  | @enters b idle main tidy fresh looper =>
      have entered : b.patience? = some patience := by simpa [Diary.enter, idle, main] using call
      rw [mainActs_some main, looper]
      unfold Business.patience? at entered
      split at entered
      · rename_i acts
        obtain rfl := Option.some.inj entered
        rw [acts]
        exact begins _
      · contradiction
  | leaves busy main => simp [Diary.enter, busy, main] at call
  | aside main left told =>
      cases busy : y.main with
      | none => simp [Diary.enter, main, busy] at call
      | some b =>
          have same : z.mainActs = y.mainActs := by rw [mainActs, main, mainActs]
          rw [same]
          exact aside (by simp [busy]) (h (by simpa [Diary.enter, main, busy] using call))

/-- The main thread is in a loop without a deadline if the diary says so. -/
def Looping (d : Diary) (y : Threads) : Prop :=
  d.call = some .forever →
    ∃ calm l, y.mainActs = calm ++ [l] ∧ (∀ a ∈ calm, a.loops = false) ∧ Stage y.looper l

theorem looping_next (h : Looping d y) (counted : Counted y) (foreign : Foreign y)
    (next : Next y z) : Looping (d.enter y z) z := by
  refine call_next (I := fun s acts => ∃ (calm : List Act) (l : Act),
    acts = calm ++ [l] ∧ (∀ a ∈ calm, a.loops = false) ∧ Stage s l) h foreign next ?_ ?_ ?_
  · exact fun ran => ⟨[], _, rfl, fun _ mem => absurd mem List.not_mem_nil, .check ran⟩
  · rintro a rest new busy ⟨calm, l, split, own, stage⟩ step
    cases calm with
    | nil =>
        obtain ⟨rfl, rfl⟩ := List.cons.inj split
        obtain ⟨calm, l', rfl, own, stage⟩ := stage.step step
        exact ⟨calm, l', List.append_nil _, own, stage⟩
    | cons b calm =>
        obtain ⟨rfl, rfl⟩ := List.cons.inj split
        obtain ⟨first, others⟩ := List.forall_mem_cons.mp own
        exact ⟨new ++ calm, l, (List.append_assoc _ _ _).symm,
          List.forall_mem_append.mpr ⟨step.calm first, others⟩,
          stage.still next.traffic (counted.barren_next next busy)⟩
  · rintro busy ⟨calm, l, split, own, stage⟩
    exact ⟨calm, l, split, own, stage.still next.traffic (counted.barren_next next busy)⟩

/-! ### In all runs -/

/-- All that is known of a run with its diary. -/
structure Sound (d : Diary) (y : Threads) : Prop where
  ordered : Ordered d y
  foreign : Foreign y
  reported : Reported d y
  counted : Counted y
  looping : Looping d y

theorem Course.sound {thread : ThreadId} (course : Course (start thread) d y) : Sound d y := by
  have started (thread : ThreadId) : Sound .empty (start thread) :=
    ⟨⟨⟨[], rfl, fun _ => rfl⟩, rfl⟩, fun _ mem => absurd mem List.not_mem_nil,
      ⟨.of_calm fun _ mem => absurd mem List.not_mem_nil, rfl, rfl⟩, .started thread,
      fun call => absurd call (by simp [Diary.empty])⟩
  induction course with
  | refl => exact started thread
  | next _ next ih =>
      exact ⟨ordered_next ih.ordered next, foreign_next ih.foreign next,
        reported_next ih.reported next ih.foreign, ih.counted.next next,
        looping_next ih.looping ih.counted ih.foreign next⟩
  | @drop d y _ idle ih =>
      refine ⟨ordered_dropped ih.ordered, ih.foreign, reported_dropped ih.reported idle,
        ih.counted.dropped idle, fun call => ?_⟩
      obtain ⟨calm, l, split, -⟩ := ih.looping call
      rw [mainActs_none idle] at split
      simp at split

/-- Does the moves in order, with the diary kept. -/
def replay : List Move → Diary × Threads → Option (Diary × Threads)
  | [], now => some now
  | m :: moves, (d, y) => (y.move? m).bind fun z => replay moves (d.enter y z, z)

theorem Course.replay {x z : Threads} {e : Diary} {moves : List Move} (course : Course x d y)
    (h : replay moves (d, y) = some (e, z)) : Course x e z := by
  induction moves generalizing d y with
  | nil =>
      obtain ⟨rfl, rfl⟩ := Prod.mk.inj (Option.some.inj h)
      exact course
  | cons m moves ih =>
      obtain ⟨w, move, rest⟩ := Option.bind_eq_some_iff.mp h
      exact ih (course.next (move_next move)) rest

end Threads

namespace Sample

/-- Posts again through its own handle. -/
def parent : Errand := ⟨"b", false, false, [⟨"c", false, false, [], none⟩], none⟩

/-- The loop runs all there is. -/
def looping : List Move := .loop .forever :: List.replicate 18 .turn

end Sample

end TwoTier.Looper
