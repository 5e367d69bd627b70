import Mathlib.Algebra.GroupWithZero.Nat
import TwoTier.Looper.Interleaving

/-!
The steps of a looper, one by one.

`Looper.Step` lists all that an act can do, with what it needs; a step is always one of these
(`Looper.step_cases`). Three things are read off it: how the queue changes (`Looper.joined`,
`Looper.left`), what closures let others know while they run (`Looper.told`), and how far a loop has
counted (`Looper.ranIn`).
-/

namespace TwoTier

/-- The closures among messages, each with its ticket. -/
def Message.errands (queue : List Message) : List (Nat × Errand) :=
  queue.filterMap fun
    | .errand ticket e => some (ticket, e)
    | .released => none

namespace Looper

namespace Act

/-- The acts of a loop itself. -/
def loops : Act → Bool
  | .check _ _ | .receive _ _ | .drain _ | .done _ => true
  | _ => false

/-- What other threads do, which run no closure. -/
def foreign : Act → Bool
  | .clone | .letGo | .release | .post _ false | .discard _ => true
  | _ => false

/-- What running a closure comes to. -/
def runs : Act → Bool
  | .begin _ | .finish _ | .clone | .letGo | .post _ _ | .sent _ _ | .caught _ => true
  | _ => false

/-- The closures that a loop has run before an act of its own. -/
def ran : Act → Nat
  | .check _ n | .receive _ n | .drain n | .done n => n
  | _ => 0

theorem ran_of_calm {a : Act} (calm : a.loops = false) : a.ran = 0 := by
  cases a with
  | check | receive | drain | done => simp [loops] at calm
  | _ => rfl

theorem calm_of_runs {a : Act} (runs : a.runs = true) : a.loops = false := by
  cases a with
  | check | receive | drain | done => simp [Act.runs] at runs
  | _ => rfl

theorem calm_of_foreign {a : Act} (foreign : a.foreign = true) : a.loops = false := by
  cases a with
  | check | receive | drain | done => simp [Act.foreign] at foreign
  | _ => rfl

end Act

/-! ### What an act does -/

/-- The acts that take a message, with the count of the loop and how it goes on. -/
inductive Takes : Act → Nat → (Nat → Act) → Prop where
  | receive (patience : Patience) (ran : Nat) :
      Takes (.receive patience ran) ran (.check patience)
  | drain (ran : Nat) : Takes (.drain ran) ran .drain

inductive Step (s : Looper) : Act → List Act → Looper → Prop where
  | begin (name : String) : Step s (.begin name) [] (s.record (.started name s.thread))
  | finish (name : String) : Step s (.finish name) [] (s.record (.ended name))
  | clone : Step s .clone [] { s with handles := s.handles + 1 }
  | letGo (more : s.handles ≠ 1) : Step s .letGo [] { s with handles := s.handles - 1 }
  | letLastGo (last : s.handles = 1) :
      Step s .letGo [.release] { s with handles := s.handles - 1 }
  | release (here : s.present = true) :
      Step s .release [] { s with queue := s.queue ++ [.released] }
  | unheard (gone : s.present = false) : Step s .release [] s
  | post (e : Errand) (noted : Bool) (here : s.present = true) :
      Step s (.post e noted) (if noted then [.sent e.name true] else []) (s.enqueue e)
  | postTooLate (e : Errand) (noted : Bool) (gone : s.present = false) :
      Step s (.post e noted) (.discard e :: if noted then [.sent e.name false] else []) s
  | discard (e : Errand) :
      Step s (.discard e) (if e.ownsHandle then [.letGo] else []) (s.record (.discarded e.name))
  | sent (name : String) (accepted : Bool) :
      Step s (.sent name accepted) [] (s.record (.sent name accepted))
  | caught (payload : Payload) : Step s (.caught payload) [] (s.record (.panicked payload))
  | goOn (patience : Patience) (ran : Nat) (held : 0 < s.handles) :
      Step s (.check patience ran) [.receive patience ran] s
  | stop (ran : Nat) (free : s.handles = 0) :
      Step s (.check .forever ran) [.drain ran] (s.record (.finished ran))
  | giveUp (deadline : Instant) (ran : Nat) (free : s.handles = 0) :
      Step s (.check (.until deadline) ran) [.drain ran] s
  | take {a : Act} {n : Nat} {again : Nat → Act} {queue : List Message} (ticket : Nat) (e : Errand)
      (takes : Takes a n again) (head : s.queue = .errand ticket e :: queue) :
      Step s a (runCaught e ++ [again (n + 1)])
        { s with queue, journal := .taken ticket s.now :: s.journal }
  | skip {a : Act} {n : Nat} {again : Nat → Act} {queue : List Message} (takes : Takes a n again)
      (head : s.queue = .released :: queue) : Step s a [again n] { s with queue }
  | expire (deadline : Instant) (ran : Nat) (empty : s.queue = []) :
      Step s (.receive (.until deadline) ran) [.done ran] s
  | emptied (ran : Nat) (empty : s.queue = []) : Step s (.drain ran) [.done ran] s

variable {s s' : Looper} {a : Act} {new : List Act}

theorem step_cases (h : s.step a = some (new, s')) : Step s a new s' := by
  cases a with
  | letGo =>
      obtain ⟨rfl, rfl⟩ := Prod.mk.inj (Option.some.inj h)
      by_cases last : s.handles = 1
      · rw [if_pos last]
        exact .letLastGo last
      · rw [if_neg last]
        exact .letGo last
  | release =>
      obtain ⟨rfl, rfl⟩ := Prod.mk.inj (Option.some.inj h)
      by_cases here : s.present = true
      · rw [if_pos here]
        exact .release here
      · rw [if_neg here]
        exact .unheard (Bool.eq_false_iff.mpr here)
  | post e noted =>
      cases here : s.present with
      | true =>
          simp only [step, here, if_true] at h
          obtain ⟨rfl, rfl⟩ := Prod.mk.inj (Option.some.inj h)
          exact .post e noted here
      | false =>
          simp only [step, here, Bool.false_eq_true, if_false] at h
          obtain ⟨rfl, rfl⟩ := Prod.mk.inj (Option.some.inj h)
          exact .postTooLate e noted here
  | check patience ran =>
      by_cases held : 0 < s.handles
      · simp only [step, held, if_true] at h
        obtain ⟨rfl, rfl⟩ := Prod.mk.inj (Option.some.inj h)
        exact .goOn patience ran held
      · have free : s.handles = 0 := Nat.eq_zero_of_not_pos held
        cases patience with
        | forever =>
            simp only [step, held, if_false] at h
            obtain ⟨rfl, rfl⟩ := Prod.mk.inj (Option.some.inj h)
            exact .stop ran free
        | «until» deadline =>
            simp only [step, held, if_false] at h
            obtain ⟨rfl, rfl⟩ := Prod.mk.inj (Option.some.inj h)
            exact .giveUp deadline ran free
  | receive patience ran =>
      cases head : s.queue with
      | nil =>
          cases patience with
          | forever => simp [step, head] at h
          | «until» deadline =>
              simp only [step, head] at h
              obtain ⟨-, h⟩ := Option.ite_none_right_eq_some.mp h
              obtain ⟨rfl, rfl⟩ := Prod.mk.inj (Option.some.inj h)
              exact .expire deadline ran head
      | cons m queue =>
          cases m with
          | errand ticket e =>
              simp only [step, head] at h
              obtain ⟨rfl, rfl⟩ := Prod.mk.inj (Option.some.inj h)
              exact .take ticket e (.receive patience ran) head
          | released =>
              simp only [step, head] at h
              obtain ⟨rfl, rfl⟩ := Prod.mk.inj (Option.some.inj h)
              exact .skip (.receive patience ran) head
  | drain ran =>
      cases head : s.queue with
      | nil =>
          simp only [step, head] at h
          obtain ⟨rfl, rfl⟩ := Prod.mk.inj (Option.some.inj h)
          exact .emptied ran head
      | cons m queue =>
          cases m with
          | errand ticket e =>
              simp only [step, head] at h
              obtain ⟨rfl, rfl⟩ := Prod.mk.inj (Option.some.inj h)
              exact .take ticket e (.drain ran) head
          | released =>
              simp only [step, head] at h
              obtain ⟨rfl, rfl⟩ := Prod.mk.inj (Option.some.inj h)
              exact .skip (.drain ran) head
  | done ran => simp [step] at h
  | begin name =>
      obtain ⟨rfl, rfl⟩ := Prod.mk.inj (Option.some.inj h)
      exact .begin name
  | finish name =>
      obtain ⟨rfl, rfl⟩ := Prod.mk.inj (Option.some.inj h)
      exact .finish name
  | clone =>
      obtain ⟨rfl, rfl⟩ := Prod.mk.inj (Option.some.inj h)
      exact .clone
  | discard e =>
      obtain ⟨rfl, rfl⟩ := Prod.mk.inj (Option.some.inj h)
      exact .discard e
  | sent name accepted =>
      obtain ⟨rfl, rfl⟩ := Prod.mk.inj (Option.some.inj h)
      exact .sent name accepted
  | caught payload =>
      obtain ⟨rfl, rfl⟩ := Prod.mk.inj (Option.some.inj h)
      exact .caught payload

namespace Step

/-- A looper stays on its thread and goes by no act. -/
theorem setting (h : Step s a new s') : s'.thread = s.thread ∧ s'.present = s.present := by
  cases h <;> exact ⟨rfl, rfl⟩

end Step

/-! ### The acts of a closure -/

mutual

/-- A closure neither loops nor leaves messages itself. -/
theorem runs_run (e : Errand) : ∀ a ∈ e.run.1, a.runs = true := by
  match e with
  | ⟨name, _, keep, sends, panic⟩ =>
    have runs := runs_runSends sends
    have owned : ∀ a ∈ (if (keep || !sends.isEmpty) = true then [Act.letGo] else []),
        a.runs = true := by
      split <;> simp [Act.runs]
    rw [Errand.run]
    cases ran : Errand.runSends sends with
    | mk acts stopped =>
      rw [ran] at runs
      cases stopped with
      | none =>
          refine List.forall_mem_append.mpr ⟨List.forall_mem_cons.mpr ⟨rfl, runs⟩, ?_⟩
          exact List.forall_mem_cons.mpr ⟨rfl, owned⟩
      | some payload =>
          exact List.forall_mem_append.mpr ⟨List.forall_mem_cons.mpr ⟨rfl, runs⟩, owned⟩

theorem runs_runSends (es : List Errand) : ∀ a ∈ (Errand.runSends es).1, a.runs = true := by
  match es with
  | [] => simp [Errand.runSends]
  | e :: rest =>
    have others := runs_runSends rest
    have owned : ∀ a ∈ (if e.ownsHandle = true then [Act.clone] else []), a.runs = true := by
      split <;> simp [Act.runs]
    rw [Errand.runSends]
    cases inline : e.inline with
    | false => exact List.forall_mem_append.mpr ⟨owned, List.forall_mem_cons.mpr ⟨rfl, others⟩⟩
    | true =>
        have runs := runs_run e
        rw [if_pos rfl]
        cases ran : e.run with
        | mk acts stopped =>
          rw [ran] at runs
          have first := List.forall_mem_append.mpr ⟨owned, runs⟩
          cases stopped with
          | none => exact List.forall_mem_append.mpr ⟨first, List.forall_mem_cons.mpr ⟨rfl, others⟩⟩
          | some payload => exact first

end

theorem runs_runCaught (e : Errand) : ∀ a ∈ runCaught e, a.runs = true := by
  refine List.forall_mem_append.mpr ⟨runs_run e, fun a mem => ?_⟩
  obtain ⟨payload, -, rfl⟩ := Option.map_eq_some_iff.mp (Option.mem_toList.mp mem)
  rfl

theorem calm_runCaught (e : Errand) : ∀ a ∈ runCaught e, a.loops = false :=
  fun a mem => Act.calm_of_runs (runs_runCaught e a mem)

theorem Step.calm (h : Step s a new s') (calm : a.loops = false) : ∀ b ∈ new, b.loops = false := by
  cases h with
  | post e noted | postTooLate e noted => cases noted <;> simp [Act.loops]
  | discard e => split <;> simp [Act.loops]
  | goOn | stop | giveUp | expire | emptied => simp [Act.loops] at calm
  | take _ _ takes | skip takes => cases takes <;> simp [Act.loops] at calm
  | _ => simp [Act.loops]

theorem Step.foreign (h : Step s a new s') (foreign : a.foreign = true) :
    ∀ b ∈ new, b.foreign = true := by
  cases h with
  | post e noted | postTooLate e noted =>
      cases noted with
      | true => simp [Act.foreign] at foreign
      | false => simp [Act.foreign]
  | discard e => split <;> simp [Act.foreign]
  | take _ _ takes | skip takes => cases takes <;> simp [Act.foreign] at foreign
  | letLastGo => simp [Act.foreign]
  | clone | letGo | release | unheard => exact fun b mem => absurd mem List.not_mem_nil
  | _ => simp [Act.foreign] at foreign

theorem foreign_sendActs {me : ThreadId} (other : me ≠ s.thread) (e : Errand) :
    ∀ a ∈ s.sendActs me e, a.foreign = true := by
  have away : (e.inline && s.isCurrent me) = false := by simp [isCurrent, other]
  rw [sendActs, away]
  refine List.forall_mem_append.mpr ⟨?_, by simp [Act.foreign]⟩
  split <;> simp [Act.foreign]

/-- Whoever sends a closure does what a closure may do. -/
theorem runs_sendActs (me : ThreadId) (e : Errand) : ∀ a ∈ s.sendActs me e, a.runs = true := by
  refine List.forall_mem_append.mpr ⟨?_, ?_⟩
  · split <;> simp [Act.runs]
  · split
    · exact runs_run e
    · simp [Act.runs]

/-- No loop is entered by sending. -/
theorem calm_sendActs (me : ThreadId) (e : Errand) : ∀ a ∈ s.sendActs me e, a.loops = false :=
  fun a mem => Act.calm_of_runs (runs_sendActs me e a mem)

/-! ### The queue -/

/-- The closures that have joined the queue between two moments. -/
def joined (s s' : Looper) : List (Nat × Errand) :=
  Message.errands (s'.queue.drop s.queue.length)

/-- The closures that have left it. -/
def left (s s' : Looper) : List (Nat × Errand) :=
  Message.errands (s.queue.take (s.queue.length - s'.queue.length))

/-- The closures in the queue. -/
def waiting (s : Looper) : List (Nat × Errand) := Message.errands s.queue

@[simp] theorem waiting_record (e : Event) (s : Looper) : (s.record e).waiting = s.waiting := rfl

theorem joined_append {ms : List Message} (queue : s'.queue = s.queue ++ ms) :
    s.joined s' = Message.errands ms := by
  simp [joined, queue]

theorem left_append {ms : List Message} (queue : s'.queue = s.queue ++ ms) : s.left s' = [] := by
  simp [left, queue, Message.errands]

theorem left_cons {m : Message} (queue : s.queue = m :: s'.queue) :
    s.left s' = Message.errands [m] := by
  simp [left, queue]

theorem joined_cons {m : Message} (queue : s.queue = m :: s'.queue) : s.joined s' = [] := by
  have short : s'.queue.length ≤ (m :: s'.queue).length := Nat.le_succ _
  rw [joined, queue, List.drop_eq_nil_of_le short]
  rfl

theorem joined_same (queue : s'.queue = s.queue) : s.joined s' = [] := by
  simp [joined, queue, Message.errands]

theorem left_same (queue : s'.queue = s.queue) : s.left s' = [] := by
  simp [left, queue, Message.errands]

@[simp] theorem joined_record (e : Event) (s : Looper) : s.joined (s.record e) = [] :=
  joined_same rfl

@[simp] theorem left_record (e : Event) (s : Looper) : s.left (s.record e) = [] := left_same rfl

namespace Step

/-- Closures leave at the front and join at the back. -/
theorem waiting (h : Step s a new s') :
    s.left s' ++ s'.waiting = s.waiting ++ s.joined s' := by
  cases h with
  | release | post e =>
      rw [left_append rfl, joined_append rfl]
      simp [Looper.waiting, Message.errands, enqueue]
  | take _ _ _ head | skip _ head =>
      rw [left_cons head, joined_cons head]
      simp [Looper.waiting, Message.errands, head]
  | clone | letGo | letLastGo => simp [left_same, joined_same, Looper.waiting]
  | _ => simp [left_same, joined_same]

/-- The closures that join have the next tickets, and none joins a looper that is gone. -/
theorem tickets (h : Step s a new s') :
    List.range s'.nextTicket = List.range s.nextTicket ++ (s.joined s').map Prod.fst := by
  cases h with
  | release =>
      rw [joined_append rfl]
      simp [Message.errands]
  | post e =>
      rw [joined_append rfl]
      simp [enqueue, Message.errands, List.range_succ]
  | take _ _ _ head | skip _ head =>
      rw [joined_cons head]
      exact (List.append_nil _).symm
  | begin | finish | discard | sent | caught | stop =>
      rw [joined_record, List.map_nil, List.append_nil]
      rfl
  | _ => simp [joined_same]

theorem joined_gone (h : Step s a new s') (gone : s.present = false) : s.joined s' = [] := by
  cases h with
  | release here | post e noted here => simp [gone] at here
  | take _ _ _ head | skip _ head => exact joined_cons head
  | _ => exact joined_same rfl

theorem left_calm (h : Step s a new s') (calm : a.loops = false) : s.left s' = [] := by
  cases h with
  | release | post => exact left_append rfl
  | take _ _ takes | skip takes => cases takes <;> simp [Act.loops] at calm
  | _ => exact left_same rfl

end Step

/-! ### What closures let others know -/

def Event.tells : Event → Bool
  | .started _ _ | .sent _ _ | .ended _ | .panicked _ => true
  | _ => false

/-- What closures that ran have let others know, in order: that they began and ended, what they
sent, and the panics that the loop caught. -/
def told (s : Looper) : List Event := (s.journal.filter Event.tells).reverse

@[simp] theorem told_record (e : Event) (s : Looper) :
    (s.record e).told = s.told ++ if e.tells then [e] else [] := by
  cases known : e.tells <;> simp [told, record, known]

def Act.tells (s : Looper) : Act → List Event
  | .begin name => [.started name s.thread]
  | .finish name => [.ended name]
  | .post e true => [.sent e.name s.present]
  | .sent name accepted => [.sent name accepted]
  | .caught payload => [.panicked payload]
  | _ => []

/-- What acts will let others know. -/
def tells (s : Looper) (acts : List Act) : List Event := acts.flatMap (Act.tells s)

theorem tells_congr (thread : s'.thread = s.thread) (present : s'.present = s.present)
    (acts : List Act) : s'.tells acts = s.tells acts := by
  have same : Act.tells s' = Act.tells s := by
    funext a
    cases a with
    | post e noted => cases noted <;> simp [Act.tells, present]
    | _ => simp [Act.tells, thread]
  rw [tells, tells, same]

theorem tells_append (as bs : List Act) : s.tells (as ++ bs) = s.tells as ++ s.tells bs :=
  List.flatMap_append

theorem tells_foreign {acts : List Act} (foreign : ∀ a ∈ acts, a.foreign = true) :
    s.tells acts = [] := by
  refine List.flatMap_eq_nil_iff.mpr fun a mem => ?_
  have own := foreign a mem
  cases a with
  | post e noted =>
      cases noted with
      | true => simp [Act.foreign] at own
      | false => rfl
  | _ => first | rfl | simp [Act.foreign] at own

/-- What closures let others know is known when they have done it; a loop that takes a closure has
its whole run before it. -/
theorem Step.told (h : Step s a new s') :
    s'.told ++ s.tells new
      = s.told ++ a.tells s ++ (s.left s').flatMap fun p => s.tells (runCaught p.2) := by
  cases h with
  | post e noted here =>
      rw [left_append rfl]
      cases noted <;> simp [Looper.told, tells, Act.tells, enqueue, Event.tells, here]
  | release =>
      rw [left_append rfl]
      simp [Looper.told, tells, Act.tells]
  | postTooLate e noted gone =>
      rw [left_same rfl]
      cases noted <;> simp [tells, Act.tells, gone]
  | discard e =>
      cases e.ownsHandle <;> simp [tells, Act.tells, Event.tells]
  | take ticket e takes head =>
      rw [left_cons head, tells_append]
      cases takes <;> simp [Looper.told, tells, Act.tells, Event.tells, Message.errands]
  | skip takes head =>
      rw [left_cons head]
      cases takes <;> simp [Looper.told, tells, Act.tells, Message.errands]
  | clone | letGo | letLastGo => simp [left_same, Looper.told, tells, Act.tells]
  | _ => simp [left_same, tells, Act.tells, Event.tells]

/-! ### What a loop has counted -/

/-- What the loop among acts has counted. -/
def ranIn (acts : List Act) : Nat := (acts.map Act.ran).sum

theorem ranIn_append (as bs : List Act) : ranIn (as ++ bs) = ranIn as + ranIn bs := by
  simp [ranIn]

theorem ranIn_cons (a : Act) (acts : List Act) : ranIn (a :: acts) = a.ran + ranIn acts := by
  simp [ranIn]

theorem ranIn_calm {acts : List Act} (calm : ∀ a ∈ acts, a.loops = false) : ranIn acts = 0 := by
  refine List.sum_eq_zero_iff_forall_eq_nat.mpr fun n mem => ?_
  obtain ⟨a, among, rfl⟩ := List.mem_map.mp mem
  exact Act.ran_of_calm (calm a among)

/-- A loop counts the closures that it takes out of the queue. -/
theorem Step.ran (h : Step s a new s') : ranIn new = a.ran + (s.left s').length := by
  cases h with
  | post e noted =>
      rw [left_append rfl]
      cases noted <;> rfl
  | release =>
      rw [left_append rfl]
      rfl
  | postTooLate e noted =>
      rw [left_same rfl]
      cases noted <;> rfl
  | discard e => cases e.ownsHandle <;> simp [ranIn, Act.ran]
  | take ticket e takes head =>
      rw [left_cons head, ranIn_append, ranIn_calm (calm_runCaught e), Nat.zero_add]
      cases takes <;> simp [ranIn, Act.ran, Message.errands]
  | skip takes head =>
      rw [left_cons head]
      cases takes <;> simp [ranIn, Act.ran, Message.errands]
  | _ => simp [left_same, ranIn, Act.ran]

/-! ### Replays -/

/-- What happens next among threads; of the other threads the first goes on. -/
inductive Move where
  | turn
  | ends
  | turnOther
  | endsOther
  | handle
  | letGoOther
  | sendOther (me : ThreadId) (e : Errand)
  | loop (patience : Patience)

namespace Threads

def move? (y : Threads) : Move → Option Threads
  | .turn =>
    match y.main with
    | some ⟨a :: rest, borrows⟩ =>
      (y.looper.step a).map fun (new, looper) =>
        { y with looper, main := some ⟨new ++ rest, borrows⟩ }
    | _ => none
  | .ends =>
    match y.main with
    | some ⟨[], borrows⟩ =>
      some { y with main := none, spare := y.spare + Business.returns ⟨[], borrows⟩ }
    | some ⟨[.done n], borrows⟩ =>
      some { y with main := none, spare := y.spare + Business.returns ⟨[.done n], borrows⟩ }
    | _ => none
  | .turnOther =>
    match y.others with
    | ⟨a :: rest, borrows⟩ :: after =>
      (y.looper.step a).map fun (new, looper) =>
        { y with looper, others := ⟨new ++ rest, borrows⟩ :: after }
    | _ => none
  | .endsOther =>
    match y.others with
    | ⟨[], borrows⟩ :: after =>
      some { y with others := after, spare := y.spare + Business.returns ⟨[], borrows⟩ }
    | _ => none
  | .handle =>
    match y.main with
    | none => some { y with looper := y.looper.handle, spare := y.spare + 1 }
    | some _ => none
  | .letGoOther =>
    if 0 < y.spare then
      some { y with others := ⟨[.letGo], false⟩ :: y.others, spare := y.spare - 1 }
    else none
  | .sendOther me e =>
    if me ≠ y.looper.thread ∧ 0 < y.spare then
      some { y with others := ⟨y.looper.sendActs me e, true⟩ :: y.others, spare := y.spare - 1 }
    else none
  | .loop patience =>
    match y.main with
    | none => some { y with main := some ⟨[.check patience 0], false⟩ }
    | some _ => none

theorem move_next {y z : Threads} {m : Move} (h : y.move? m = some z) : Next y z := by
  cases m with
  | turn =>
      simp only [move?] at h
      split at h
      · rename_i a rest borrows busy
        obtain ⟨⟨new, looper⟩, step, rfl⟩ := Option.map_eq_some_iff.mp h
        exact .turn busy step
      · contradiction
  | ends =>
      simp only [move?] at h
      split at h
      · rename_i busy
        obtain rfl := Option.some.inj h
        exact .ends busy (.inl rfl)
      · rename_i n borrows busy
        obtain rfl := Option.some.inj h
        exact .ends busy (.inr ⟨n, rfl⟩)
      · contradiction
  | turnOther =>
      simp only [move?] at h
      split at h
      · rename_i a rest borrows after busy
        obtain ⟨⟨new, looper⟩, step, rfl⟩ := Option.map_eq_some_iff.mp h
        exact @Next.turnOther y [] _ _ _ _ _ _ busy step
      · contradiction
  | endsOther =>
      simp only [move?] at h
      split at h
      · rename_i borrows after busy
        obtain rfl := Option.some.inj h
        exact @Next.endsOther y [] _ _ busy
      · contradiction
  | handle =>
      simp only [move?] at h
      split at h
      · rename_i idle
        obtain rfl := Option.some.inj h
        exact .handle idle
      · contradiction
  | letGoOther =>
      obtain ⟨held, h⟩ := Option.ite_none_right_eq_some.mp h
      obtain rfl := Option.some.inj h
      exact .letGoOther held
  | sendOther me e =>
      obtain ⟨⟨other, held⟩, h⟩ := Option.ite_none_right_eq_some.mp h
      obtain rfl := Option.some.inj h
      exact .sendOther me e other held
  | loop patience =>
      simp only [move?] at h
      split at h
      · rename_i idle
        obtain rfl := Option.some.inj h
        exact .loop patience idle
      · contradiction

end Threads

end Looper

end TwoTier
