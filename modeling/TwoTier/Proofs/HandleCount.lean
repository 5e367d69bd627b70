import TwoTier.Proofs.LooperSteps

/-!
Who holds the handles of a looper.

A looper counts its handles. Here they are followed to their holders: nobody's own, lent to a call,
owned by a closure in the queue, or in the hands of a thread that is about to let one go, to send
one along, or to throw away a closure that owns one (`Looper.held`). The count is right
(`Threads.Counted`), and whoever clones a handle or posts has one in hand. So once the count is
nothing it stays so, and nobody posts any more (`Threads.Counted.barren`).
-/

namespace TwoTier

/-- The handles that a closure owns. -/
def Errand.owned (e : Errand) : Nat := if e.ownsHandle then 1 else 0

/-- The handles that closures in a queue own. -/
def Message.owned (queue : List Message) : Nat :=
  ((errands queue).map fun p => p.2.owned).sum

theorem Message.owned_append (ms ns : List Message) :
    Message.owned (ms ++ ns) = Message.owned ms + Message.owned ns := by
  simp [Message.owned, Message.errands]

namespace Looper

namespace Act

/-- The handles that go out of a thread's hands with an act. -/
def gives : Act → Nat
  | .letGo => 1
  | .post e _ | .discard e => e.owned
  | _ => 0

def gains : Act → Nat
  | .clone => 1
  | _ => 0

/-- The handles that must be left in a thread's hands after an act: the one that is cloned or posted
through is there before and after. -/
def needs : Act → Nat
  | .clone => 2
  | .post _ _ => 1
  | _ => 0

/-- Whether handles matter to an act. -/
def neutral : Act → Bool
  | .clone | .letGo | .post _ _ | .discard _ => false
  | _ => true

end Act

/-- The handles in the hands of a thread that is left with `base` of them after its acts. -/
def held (base : Nat) : List Act → Nat
  | [] => base
  | a :: acts => held base acts + a.gives - a.gains

/-- No act lacks a handle. -/
def Covered (base : Nat) : List Act → Prop
  | [] => True
  | a :: acts => a.needs ≤ held base acts ∧ Covered base acts

/-- A thread with `n` handles in hand lacks none for its acts, and is left with `base` of them. -/
structure Holds (base : Nat) (acts : List Act) (n : Nat) : Prop where
  held : held base acts = n
  covered : Covered base acts

variable {s s' : Looper} {a : Act} {acts new as bs : List Act} {base k n : Nat} {e : Errand}

namespace Holds

theorem nil : Holds base [] base := ⟨rfl, trivial⟩

theorem cons (h : Holds base acts n) (needs : a.needs ≤ n) :
    Holds base (a :: acts) (n + a.gives - a.gains) := by
  constructor
  · rw [Looper.held, h.held]
  · exact ⟨h.held ▸ needs, h.covered⟩

theorem neutral (h : Holds base acts n) (neutral : a.neutral = true) :
    Holds base (a :: acts) n := by
  cases a with
  | clone | letGo | post | discard => simp [Act.neutral] at neutral
  | _ => exact h.cons (Nat.zero_le _)

theorem append (h : Holds base bs k) (before : Holds k as n) : Holds base (as ++ bs) n := by
  obtain ⟨held, covered⟩ := before
  induction as generalizing n with
  | nil =>
      obtain rfl : k = n := held
      exact h
  | cons a as ih =>
      obtain ⟨needs, covered⟩ := covered
      exact held ▸ (ih rfl covered).cons needs

/-- A handle that a closure owns goes out of the hands of whoever ran it. -/
theorem letGo (h : Holds base acts n) (owns : Bool) :
    Holds base ((if owns then [Act.letGo] else []) ++ acts) (n + if owns then 1 else 0) := by
  cases owns with
  | true => exact h.cons (Nat.zero_le _)
  | false => exact h

/-- A handle is cloned for a closure that is to own one. -/
theorem clone (h : Holds base acts (n + e.owned)) (enough : 1 ≤ n) :
    Holds base ((if e.ownsHandle then [Act.clone] else []) ++ acts) n := by
  unfold Errand.owned at h
  cases owns : e.ownsHandle with
  | true =>
      rw [owns, if_pos rfl] at h
      exact h.cons (Nat.succ_le_succ enough)
  | false =>
      rw [owns] at h
      exact h

theorem noted (h : Holds base acts n) (noted : Bool) (name : String) (accepted : Bool) :
    Holds base ((if noted then [Act.sent name accepted] else []) ++ acts) n := by
  cases noted with
  | true => exact h.neutral rfl
  | false => exact h

/-- What the acts come to when the first is carried out. -/
theorem uncons (h : Holds base (a :: acts) n) :
    ∃ m, a.needs ≤ m ∧ Holds base acts m ∧ n = m + a.gives - a.gains :=
  ⟨_, h.covered.1, ⟨rfl, h.covered.2⟩, h.held.symm⟩

end Holds

/-! ### The acts of a closure -/

mutual

/-- Whoever runs a closure has its handle in hand first and lets it go. -/
theorem holds_run {acts : List Act} {n : Nat} (e : Errand) (h : Holds base acts n) :
    Holds base (e.run.1 ++ acts) (n + e.owned) := by
  match e with
  | ⟨name, inline, keep, sends, panic⟩ =>
    have owned := h.letGo (keep || !sends.isEmpty)
    have enough : sends = [] ∨ 1 ≤ n + if keep || !sends.isEmpty then 1 else 0 := by
      cases sends with
      | nil => exact .inl rfl
      | cons => exact .inr (by simp)
    change Holds base (_ ++ acts) (n + if keep || !sends.isEmpty then 1 else 0)
    rw [Errand.run]
    cases ran : Errand.runSends sends with
    | mk sendActs stopped =>
      have sent := fun {more} (h : Holds base more _) => ran ▸ holds_runSends sends h enough
      cases stopped with
      | some payload =>
          simp only [List.cons_append, List.append_assoc]
          exact (sent owned).neutral rfl
      | none =>
          simp only [List.cons_append, List.append_assoc]
          exact (sent (owned.neutral rfl)).neutral rfl

theorem holds_runSends {acts : List Act} {n : Nat} (es : List Errand) (h : Holds base acts n)
    (enough : es = [] ∨ 1 ≤ n) : Holds base ((Errand.runSends es).1 ++ acts) n := by
  match es with
  | [] => exact h
  | e :: rest =>
    have one : 1 ≤ n := enough.resolve_left (List.cons_ne_nil e rest)
    have others := holds_runSends rest h (.inr one)
    rw [Errand.runSends]
    cases inline : e.inline with
    | false =>
        simp only [Bool.false_eq_true, if_false, List.append_assoc, List.cons_append]
        exact Holds.clone (others.cons one) one
    | true =>
        simp only [if_true]
        cases ran : e.run with
        | mk runActs stopped =>
          have runs := fun {more} (h : Holds base more n) => ran ▸ holds_run e h
          cases stopped with
          | some payload =>
              simp only [List.append_assoc]
              exact (runs h).clone one
          | none =>
              simp only [List.append_assoc, List.cons_append]
              exact (runs (others.neutral rfl)).clone one

end

theorem holds_runCaught (e : Errand) (h : Holds base acts n) :
    Holds base (runCaught e ++ acts) (n + e.owned) := by
  rw [runCaught, List.append_assoc]
  apply holds_run
  cases e.run.2 with
  | none => exact h
  | some payload => exact h.neutral rfl

/-- Whoever sends through a handle has it before and after. -/
theorem holds_sendActs (me : ThreadId) (e : Errand) : Holds 1 (s.sendActs me e) 1 := by
  rw [sendActs]
  refine Holds.clone ?_ (Nat.le_refl 1)
  split
  · rw [← List.append_nil e.run.1]
    exact holds_run e .nil
  · exact Holds.nil.cons (Nat.le_refl 1)

/-! ### Steps -/

/-- No handle gets lost in a step. -/
theorem Step.holds (h : Step s a new s') (holds : Holds base (a :: acts) n) (le : n ≤ s.handles) :
    ∃ m, Holds base (new ++ acts) m ∧
      s'.handles + n + Message.owned s.queue = s.handles + m + Message.owned s'.queue := by
  obtain ⟨m, needs, rest, rfl⟩ := holds.uncons
  have again {m' : Nat} {again : Nat → Act} (takes : Takes a m' again) (i : Nat) :
      Holds base (again i :: acts) m ∧ m + a.gives - a.gains = m := by
    cases takes <;> exact ⟨rest.neutral rfl, rfl⟩
  cases h with
  | clone =>
      simp only [Act.gives, Act.gains, Act.needs] at needs ⊢
      exact ⟨m, rest, by omega⟩
  | letGo =>
      simp only [Act.gives, Act.gains] at le ⊢
      exact ⟨m, rest, by omega⟩
  | letLastGo =>
      simp only [Act.gives, Act.gains] at le ⊢
      exact ⟨m, rest.neutral rfl, by omega⟩
  | release =>
      refine ⟨m, rest, ?_⟩
      rw [Message.owned_append]
      rfl
  | post e noted =>
      refine ⟨m, rest.noted noted _ _, ?_⟩
      change s.handles + (m + e.owned) + _ = s.handles + m + Message.owned (s.queue ++ _)
      rw [Message.owned_append]
      simp only [Message.owned, Message.errands, List.filterMap_cons, List.filterMap_nil,
        List.map_cons, List.map_nil, List.sum_cons, List.sum_nil]
      omega
  | postTooLate e noted =>
      exact ⟨_, (rest.noted noted _ _).cons (Nat.zero_le _), rfl⟩
  | discard e => exact ⟨_, rest.letGo e.ownsHandle, rfl⟩
  | take ticket e takes head =>
      refine ⟨m + e.owned, ?_, ?_⟩
      · rw [List.append_assoc]
        exact holds_runCaught e (again takes _).1
      · rw [(again takes 0).2, head]
        simp only [Message.owned, Message.errands, List.filterMap_cons, List.map_cons,
          List.sum_cons]
        omega
  | skip takes head =>
      refine ⟨m, (again takes _).1, ?_⟩
      rw [(again takes 0).2, head]
      rfl
  | goOn | stop | giveUp | expire | emptied => exact ⟨m, rest.neutral rfl, rfl⟩
  | _ => exact ⟨m, rest, rfl⟩

/-- Without a handle in hand a thread neither makes nor loses one, and posts nothing. -/
theorem Step.barren (h : Step s a new s') (holds : Holds base (a :: acts) 0) :
    s'.handles = s.handles ∧ s.joined s' = [] := by
  obtain ⟨m, needs, -, none⟩ := holds.uncons
  cases h with
  | clone | letGo | letLastGo | post =>
      simp only [Act.gives, Act.gains, Act.needs] at needs none
      omega
  | release =>
      refine ⟨rfl, ?_⟩
      rw [joined_append rfl]
      rfl
  | take _ _ _ head | skip _ head => exact ⟨rfl, joined_cons head⟩
  | begin | finish | discard | sent | caught | stop => exact ⟨rfl, joined_record _ s⟩
  | _ => exact ⟨rfl, joined_same rfl⟩

/-! ### All threads -/

theorem handle_eq (s : Looper) : s.handle = { s with handles := s.handles + 1 } := by
  have fuel : Act.weights [.clone] + s.weight = s.weight + 1 := Nat.add_comm 1 _
  rw [handle, perform, fuel, runFor]
  cases s.weight <;> rfl

/-- The closures in a queue are to be thrown away. -/
def discards (queue : List Message) : List Act :=
  (Message.errands queue).map fun p => .discard p.2

theorem holds_discards (queue : List Message) : Holds 0 (discards queue) (Message.owned queue) := by
  unfold discards Message.owned
  induction Message.errands queue with
  | nil => exact .nil
  | cons p rest ih =>
      rw [List.map_cons, List.map_cons, List.sum_cons, Nat.add_comm]
      exact ih.cons (Nat.zero_le _)

namespace Threads

/-- The looper is dropped: it takes no messages any more, and the main thread throws away the
closures in the queue. -/
def dropped (y : Threads) : Threads :=
  { y with looper := { y.looper with present := false, queue := [] }
           main := some ⟨discards y.looper.queue, false⟩ }

/-- The calls that threads are in. -/
def calls (y : Threads) : List Business := y.main.toList ++ y.others

/-- The handles in hand in a call, a lent one included. -/
def Business.held (b : Business) : Nat := Looper.held (Business.returns b) b.acts

def inHand (calls : List Business) : Nat := (calls.map Business.held).sum

/-- The looper's count of handles is right, and no thread acts through a handle that it has not. -/
structure Counted (y : Threads) : Prop where
  handles : y.looper.handles = y.spare + inHand y.calls + Message.owned y.looper.queue
  covered : ∀ b ∈ y.calls, Covered (Business.returns b) b.acts

variable {y z : Threads} {b : Business}

theorem inHand_append (as bs : List Business) : inHand (as ++ bs) = inHand as + inHand bs := by
  simp [inHand]

theorem inHand_cons (b : Business) (bs : List Business) :
    inHand (b :: bs) = Business.held b + inHand bs := by
  simp [inHand]

namespace Counted

theorem started (thread : ThreadId) : Counted (start thread) :=
  ⟨rfl, fun _ mem => absurd mem List.not_mem_nil⟩

/-- A call carries out an act. -/
theorem turn {borrows : Bool} {rest : List Act} (before after : List Business) (h : Counted y)
    (step : y.looper.step a = some (new, z.looper))
    (top : y.calls = before ++ ⟨a :: rest, borrows⟩ :: after)
    (calls : z.calls = before ++ ⟨new ++ rest, borrows⟩ :: after) (spare : z.spare = y.spare) :
    Counted z := by
  obtain ⟨handles, covered⟩ := h
  rw [top, inHand_append, inHand_cons] at handles
  rw [top] at covered
  obtain ⟨earlier, own, later⟩ := List.forall_mem_append.mp covered |>.imp_right
    List.forall_mem_cons.mp
  have le : Business.held ⟨a :: rest, borrows⟩ ≤ y.looper.handles := by omega
  obtain ⟨m, ⟨held, covers⟩, account⟩ := (step_cases step).holds ⟨rfl, own⟩ le
  constructor
  · rw [calls, spare, inHand_append, inHand_cons]
    have now : Business.held ⟨new ++ rest, borrows⟩ = m := held
    rw [now]
    change z.looper.handles + Business.held ⟨a :: rest, borrows⟩ + _ = _ at account
    omega
  · rw [calls]
    exact List.forall_mem_append.mpr ⟨earlier, List.forall_mem_cons.mpr ⟨covers, later⟩⟩

/-- A call begins with a handle that was to spare, or with none. -/
theorem begins {n : Nat} (before after : List Business) (h : Counted y)
    (looper : z.looper = y.looper) (calls : z.calls = before ++ b :: after)
    (others : y.calls = before ++ after) (holds : Holds (Business.returns b) b.acts n)
    (spare : z.spare + n = y.spare) : Counted z := by
  obtain ⟨handles, covered⟩ := h
  rw [others] at covered
  rw [others, inHand_append] at handles
  obtain ⟨earlier, later⟩ := List.forall_mem_append.mp covered
  have own : Business.held b = n := holds.held
  constructor
  · rw [calls, looper, inHand_append, inHand_cons, own]
    omega
  · rw [calls]
    exact List.forall_mem_append.mpr ⟨earlier, List.forall_mem_cons.mpr ⟨holds.covered, later⟩⟩

/-- A call ends, and the handle that was lent to it is spare again. -/
theorem ends (before after : List Business) (h : Counted y) (looper : z.looper = y.looper)
    (calls : y.calls = before ++ b :: after) (others : z.calls = before ++ after)
    (ended : Business.held b = Business.returns b)
    (spare : z.spare = y.spare + Business.returns b) : Counted z := by
  obtain ⟨handles, covered⟩ := h
  rw [calls] at covered
  rw [calls, inHand_append, inHand_cons, ended] at handles
  obtain ⟨earlier, -, later⟩ := List.forall_mem_append.mp covered |>.imp_right
    List.forall_mem_cons.mp
  constructor
  · rw [others, looper, spare, inHand_append]
    omega
  · rw [others]
    exact List.forall_mem_append.mpr ⟨earlier, later⟩

theorem next (h : Counted y) (next : Next y z) : Counted z := by
  have cloned (spare : Nat) (more : spare = y.spare + 1) :
      Counted { y with looper := y.looper.handle, spare := spare } := by
    refine ⟨?_, h.covered⟩
    have handles := h.handles
    rw [handle_eq]
    change y.looper.handles + 1 = spare + inHand y.calls + Message.owned y.looper.queue
    omega
  have letGo : Holds 0 [Act.letGo] 1 := Holds.nil.cons (Nat.zero_le _)
  cases next with
  | turn busy step => exact h.turn [] y.others step (by rw [calls, busy]; rfl) rfl rfl
  | ends busy ended =>
      refine h.ends [] y.others rfl (by rw [calls, busy]; rfl) rfl ?_ rfl
      rcases ended with none | ⟨n, settled⟩
      · rw [Business.held, none]
        rfl
      · rw [Business.held, settled]
        rfl
  | @turnOther before after a rest new borrows looper busy step =>
      have top : y.calls = (y.main.toList ++ before) ++ ⟨a :: rest, borrows⟩ :: after := by
        rw [calls, busy, List.append_assoc]
      refine h.turn _ after step top ?_ rfl
      rw [calls, List.append_assoc]
  | @endsOther before after borrows busy =>
      refine h.ends (y.main.toList ++ before) after rfl ?_ ?_ rfl rfl
      · rw [calls, busy, List.append_assoc]
      · rw [calls, List.append_assoc]
  | handle idle | clone held => exact cloned _ rfl
  | letGoOther held =>
      exact h.begins y.main.toList y.others rfl rfl rfl letGo (Nat.sub_add_cancel held)
  | letGo idle held =>
      exact h.begins [] y.others rfl rfl (by rw [calls, idle]; rfl) letGo
        (Nat.sub_add_cancel held)
  | sendOther me e other held =>
      exact h.begins y.main.toList y.others rfl rfl rfl (holds_sendActs me e)
        (Nat.sub_add_cancel held)
  | send e idle held =>
      exact h.begins [] y.others rfl rfl (by rw [calls, idle]; rfl) (holds_sendActs _ e)
        (Nat.sub_add_cancel held)
  | loop patience idle | pending idle =>
      exact h.begins [] y.others rfl rfl (by rw [calls, idle]; rfl) (Holds.nil.neutral rfl) rfl
  | time nanos => exact ⟨h.handles, h.covered⟩

theorem dropped (h : Counted y) (idle : y.main = none) : Counted y.dropped := by
  obtain ⟨handles, covered⟩ := h
  have others : y.calls = y.others := by
    rw [calls, idle]
    rfl
  rw [others] at handles covered
  have discards := holds_discards y.looper.queue
  have own : Business.held ⟨Looper.discards y.looper.queue, false⟩
      = Message.owned y.looper.queue := discards.held
  constructor
  · change y.looper.handles = y.spare + inHand (⟨Looper.discards y.looper.queue, false⟩ :: y.others)
    rw [inHand_cons, own]
    omega
  · exact List.forall_mem_cons.mpr ⟨discards.covered, covered⟩

/-- Without handles no thread has one in hand. -/
theorem barren (h : Counted y) (free : y.looper.handles = 0) :
    y.spare = 0 ∧ ∀ b ∈ y.calls, Holds (Business.returns b) b.acts 0 := by
  have handles := h.handles
  rw [free] at handles
  have none : inHand y.calls = 0 := by omega
  refine ⟨by omega, fun b mem => ⟨?_, h.covered b mem⟩⟩
  exact List.sum_eq_zero_iff_forall_eq_nat.mp none _ (List.mem_map_of_mem mem)

end Counted

end Threads

end Looper

end TwoTier
