import TwoTier.Looper
import TwoTier.Weigh

/-!
One thread at a looper, alone, to its end.

`Looper.perform` carries out acts until there are none or the thread must wait. Every act makes the
thread lighter, a closure in the queue counting with all that it may send, so as many acts as the
thread weighs are enough (`weight_step_lt`, `perform_rests`). The calls of a looper are built on
it.
-/

namespace TwoTier

mutual

/-- What a closure weighs, with all that it may send. -/
def Errand.weight (e : Errand) : Nat :=
  match e with
  | ⟨_, _, _, sends, _⟩ => 14 + weights sends

def Errand.weights (es : List Errand) : Nat :=
  match es with
  | [] => 0
  | e :: es => e.weight + weights es

end

/-- What a message weighs in the queue. -/
def Message.weight : Message → Nat
  | .errand _ e => 11 + Errand.weights e.sends
  | .released => 2

namespace Looper

def Act.weight : Act → Nat
  | .begin _ => 1
  | .finish _ => 1
  | .clone => 1
  | .letGo => 4
  | .release => 3
  | .post e _ => 13 + Errand.weights e.sends
  | .discard _ => 5
  | .sent _ _ => 1
  | .caught _ => 1
  | .check _ _ => 3
  | .receive _ _ => 2
  | .drain _ => 2
  | .done _ => 0

def Act.weights (acts : List Act) : Nat := weigh Act.weight acts

def weight (s : Looper) : Nat := weigh Message.weight s.queue

/-- Carries out at most `fuel` acts and gives those that are left. -/
def runFor : Nat → List Act → Looper → List Act × Looper
  | 0, acts, s => (acts, s)
  | _ + 1, [], s => ([], s)
  | fuel + 1, a :: acts, s =>
    match s.step a with
    | none => (a :: acts, s)
    | some (new, s) => runFor fuel (new ++ acts) s

/-- Carries out acts as far as it goes. -/
def perform (acts : List Act) (s : Looper) : List Act × Looper :=
  runFor (Act.weights acts + s.weight) acts s

/-! ### Weights -/

theorem Act.weights_append (as bs : List Act) : weights (as ++ bs) = weights as + weights bs := by
  simp [weights]

theorem Act.weights_cons (a : Act) (as : List Act) : weights (a :: as) = a.weight + weights as := by
  simp [weights]

theorem Act.weights_nil : weights [] = 0 := rfl

theorem weight_eq (e : Errand) : e.weight = 14 + Errand.weights e.sends := by
  cases e; rfl

mutual

/-- Running a closure weighs less than the closure. -/
theorem weights_run_le (e : Errand) : Act.weights e.run.1 + 8 ≤ e.weight := by
  match e with
  | ⟨name, _, keep, sends, panic⟩ =>
    have h := weights_runSends_le sends
    have owned : Act.weights (if (keep || !sends.isEmpty) = true then [Act.letGo] else []) ≤ 4 := by
      split <;> simp [Act.weights, Act.weight]
    rw [Errand.weight, Errand.run]
    cases hs : Errand.runSends sends with
    | mk acts stopped =>
      rw [hs] at h
      cases stopped <;>
      · simp only [List.cons_append, Act.weights_cons, Act.weights_append, Act.weight]
        simp only at h
        omega

theorem weights_runSends_le (es : List Errand) :
    Act.weights (Errand.runSends es).1 ≤ Errand.weights es := by
  match es with
  | [] => simp [Errand.runSends, Act.weights]
  | e :: rest =>
    have ih := weights_runSends_le rest
    have owned : Act.weights (if e.ownsHandle = true then [Act.clone] else []) ≤ 1 := by
      split <;> simp [Act.weights, Act.weight]
    rw [Errand.weights, Errand.runSends]
    by_cases hi : e.inline = true
    · have h := weights_run_le e
      simp only [hi, if_true]
      cases hr : e.run with
      | mk acts stopped =>
        rw [hr] at h
        cases stopped <;>
        · simp only [Act.weights_cons, Act.weights_append, Act.weight]
          simp only at h
          omega
    · simp only [hi]
      simp only [Bool.false_eq_true, if_false, Act.weights_cons, Act.weights_append, Act.weight,
        weight_eq]
      omega

end

theorem weights_runCaught_le (e : Errand) : Act.weights (runCaught e) + 7 ≤ e.weight := by
  have h := weights_run_le e
  have : Act.weights (e.run.2.map Act.caught).toList ≤ 1 := by
    cases e.run.2 <;> simp [Act.weights, Act.weight]
  rw [runCaught, Act.weights_append]
  omega

/-- To run a closure that is taken out weighs less than it did in the queue. -/
theorem weights_taken_lt (e : Errand) (ticket : Nat) :
    Act.weights (runCaught e) + 3 < Message.weight (.errand ticket e) := by
  have lighter := weights_runCaught_le e
  rw [weight_eq] at lighter
  rw [Message.weight]
  omega

/-- Every act makes a thread lighter, the queue included. -/
theorem weight_step_lt {a : Act} {s : Looper} {r : List Act × Looper} (h : s.step a = some r) :
    Act.weights r.1 + r.2.weight < a.weight + s.weight := by
  cases a with
  | post e noted =>
    simp only [step] at h
    split at h <;> cases h <;> cases noted <;>
      simp [Act.weights, Act.weight, weight, enqueue, Message.weight] <;> omega
  | letGo =>
    cases h
    split <;> simp [Act.weights, Act.weight, weight]
  | release =>
    cases h
    split
    · simp [Act.weights, Act.weight, weight, Message.weight]
      omega
    · simp [Act.weights, Act.weight]
  | discard e =>
    cases h
    split <;> simp [Act.weights, Act.weight, weight, record]
  | check patience ran =>
    cases patience <;> simp only [step] at h <;> split at h <;> cases h <;>
      simp [Act.weights, Act.weight, weight, record]
  | receive patience ran =>
    simp only [step] at h
    split at h
    case h_1 ticket e rest hq =>
      cases h
      have lighter := weights_taken_lt e ticket
      simp only [Act.weights_append, Act.weights_cons, Act.weights_nil, Act.weight, weight, hq,
        weigh_cons]
      omega
    case h_2 rest hq =>
      cases h
      simp [Act.weights, Act.weight, weight, hq, Message.weight]
      omega
    case h_3 => contradiction
    case h_4 deadline hq =>
      split at h
      · cases h
        simp [Act.weights, Act.weight, weight]
      · contradiction
  | drain ran =>
    simp only [step] at h
    split at h
    case h_1 ticket e rest hq =>
      cases h
      have lighter := weights_taken_lt e ticket
      simp only [Act.weights_append, Act.weights_cons, Act.weights_nil, Act.weight, weight, hq,
        weigh_cons]
      omega
    case h_2 rest hq =>
      cases h
      simp [Act.weights, Act.weight, weight, hq, Message.weight]
    case h_3 =>
      cases h
      simp [Act.weights, Act.weight, weight]
  | done ran => contradiction
  | _ =>
    cases h
    simp [Act.weights, Act.weight, weight, record]

/-- With as many acts as it weighs a thread ends, or stops where it must wait. -/
theorem runFor_rests (fuel : Nat) (acts : List Act) (s : Looper)
    (h : Act.weights acts + s.weight ≤ fuel) :
    match runFor fuel acts s with
    | ([], _) => True
    | (a :: _, s') => s'.step a = none := by
  induction fuel generalizing acts s with
  | zero =>
    cases acts with
    | nil => simp [runFor]
    | cons a acts =>
      cases hs : s.step a with
      | none => simp [runFor, hs]
      | some r =>
        have := weight_step_lt hs
        simp [Act.weights] at h
        omega
  | succ fuel ih =>
    cases acts with
    | nil => simp [runFor]
    | cons a acts =>
      cases hs : s.step a with
      | none => simp [runFor, hs]
      | some r =>
        have lt := weight_step_lt hs
        simp only [runFor, hs]
        apply ih
        rw [Act.weights_append]
        simp only [Act.weights_cons] at h
        omega

/-- The same for all acts of a call. -/
theorem perform_rests (acts : List Act) (s : Looper) :
    match s.perform acts with
    | ([], _) => True
    | (a :: _, s') => s'.step a = none :=
  runFor_rests _ acts s (Nat.le_refl _)

/-! ### Calls -/

/-- A new handle. -/
def handle (s : Looper) : Looper := (s.perform [.clone]).2

def letGo (s : Looper) : Looper := (s.perform [.letGo]).2

/-- What sending through a handle comes to. -/
inductive Sent where
  /-- The closure ran or was queued; `false` if the looper is gone. -/
  | returned (accepted : Bool)
  /-- The closure ran at once, and its panic comes out of the call. -/
  | panicked
deriving DecidableEq, Repr

/-- The acts of a thread that sends a closure through a handle. -/
def sendActs (me : ThreadId) (e : Errand) (s : Looper) : List Act :=
  (if e.ownsHandle then [Act.clone] else [])
    ++ if e.inline && s.isCurrent me then e.run.1 else [.post e false]

def send (me : ThreadId) (e : Errand) (s : Looper) : Sent × Looper :=
  let outcome :=
    if e.inline && s.isCurrent me then
      if e.run.2.isSome then .panicked else .returned true
    else .returned s.present
  (outcome, (s.perform (s.sendActs me e)).2)

/-- Sends closures in order, until a panic comes out; `none` if one does. -/
def sendAll (me : ThreadId) : List Errand → Looper → Option (List Bool) × Looper
  | [], s => (some [], s)
  | e :: es, s =>
    match s.send me e with
    | (.panicked, s) => (none, s)
    | (.returned accepted, s) =>
      let (rest, s) := sendAll me es s
      (rest.map (accepted :: ·), s)

/-- The looper is gone: the closures in its queue are thrown away in order. -/
def close (s : Looper) : Looper :=
  let waiting := s.queue.filterMap fun
    | .errand _ e => some (Act.discard e)
    | .released => none
  (perform waiting { s with present := false, queue := [] }).2

/-- What a loop that has gone as far as it can has run, if it is over. -/
def ran? : List Act → Option Nat
  | .done ran :: _ => some ran
  | _ => none

/-- Runs what is in the queue. -/
def runPending (s : Looper) : Nat × Looper :=
  let (acts, s) := s.perform [.drain 0]
  ((ran? acts).getD 0, s)

/-- Runs closures while there are handles: `none` if it would wait for ever. -/
def runAll (s : Looper) : Option Nat × Looper :=
  let (acts, s) := s.perform [.check .forever 0]
  (ran? acts, s)

/-- Goes on with a loop when its deadline has come. -/
def expire (deadline : Instant) (acts : List Act) (s : Looper) : List Act × Looper :=
  perform acts { s with now := ⟨max s.now.nanos deadline.nanos⟩ }

/-- Runs closures while there are handles, and waits for more until the deadline. -/
def runUntil (deadline : Instant) (s : Looper) : Nat × Looper :=
  let (acts, s) := s.perform [.check (.until deadline) 0]
  let (acts, s) := if (ran? acts).isSome then (acts, s) else expire deadline acts s
  ((ran? acts).getD 0, s)

/-- A loop on the main thread, beside another thread that does its acts in portions, each when the
loop waits. -/
def runBeside (loop : List Act) : List (List Act) → Looper → Option Nat × Looper
  | [], s =>
    let (acts, s) := s.perform loop
    (ran? acts, s)
  | portion :: rest, s =>
    let (acts, s) := s.perform loop
    runBeside acts rest (s.perform portion).2

/-- A loop while another thread sends closures, all together or one by one, and then lets its
handle go. -/
def serve (oneByOne : Bool) (patience : Patience) (es : List Errand) (s : Looper) :
    Option Nat × Looper :=
  let sends := es.map (s.sendActs .other)
  let portions := if oneByOne then sends ++ [[.letGo]] else [sends.flatten ++ [.letGo]]
  s.runBeside [.check patience 0] portions

end Looper

end TwoTier
