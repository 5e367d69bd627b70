import TwoTier.Proofs.MainLoop

/-!
A loop never sleeps through the last release.

A loop looks whether there are handles and only then waits for a message. In between the last handle
may go, and its holder leaves its message still later; messages of handles that went before may have
been taken by then. Whenever the main thread waits there are handles all the same, or a message of a
last holder is in the queue or about to be left (`Threads.Watchful`): every loop looks anew after
every message that it takes.

The handles of a looper come in generations, each with a last holder. Beside a run they are counted,
with the messages that loops have taken (`Threads.Lives`). Every generation leaves one message, so
the count tells how many are still to come.
-/

namespace TwoTier.Looper

variable {s s' : Looper} {a : Act} {acts new : List Act}

/-! ### Waiting -/

/-- Whether an act takes a message or waits for one. -/
def Act.waits : Act → Bool
  | .receive _ _ => true
  | _ => false

theorem Act.not_waits_of_calm (calm : a.loops = false) : a.waits = false := by
  cases a with
  | receive => simp [loops] at calm
  | _ => rfl

/-- A loop waits only after it has found handles. -/
theorem Step.waits (h : Step s a new s') : (∀ b ∈ new, b.waits = false) ∨
    (∃ patience ran, new = [.receive patience ran]) ∧ 0 < s'.handles := by
  by_cases calm : a.loops = false
  · exact .inl fun b mem => Act.not_waits_of_calm (h.calm calm b mem)
  cases h with
  | goOn patience ran held => exact .inr ⟨⟨patience, ran, rfl⟩, held⟩
  | take ticket e takes =>
      refine .inl (List.forall_mem_append.mpr ⟨?_, ?_⟩)
      · exact fun b mem => Act.not_waits_of_calm (calm_runCaught e b mem)
      · cases takes <;> simp [Act.waits]
  | skip takes => cases takes <;> simp [Act.waits]
  | stop | giveUp | expire | emptied => simp [Act.waits]
  | _ => exact absurd rfl calm

/-- Another thread does not take away what keeps a loop from sleeping for ever: there are handles, or
a message is in the queue, or the thread is about to leave one. -/
theorem Step.warns (h : Step s a new s') (foreign : a.foreign = true) (here : s.present = true)
    (warned : 0 < s.handles ∨ .released ∈ s.queue ∨ a = .release) :
    0 < s'.handles ∨ .released ∈ s'.queue ∨ new = [.release] := by
  cases h with
  | clone => exact .inl (Nat.succ_pos _)
  | letGo more =>
      rcases warned with held | queued | last
      · exact .inl (by simp only; omega)
      · exact .inr (.inl queued)
      · contradiction
  | letLastGo => exact .inr (.inr rfl)
  | release => exact .inr (.inl (by simp))
  | unheard gone => simp [here] at gone
  | post e noted =>
      rcases warned with held | queued | last
      · exact .inl held
      · exact .inr (.inl (List.mem_append_left _ queued))
      · contradiction
  | postTooLate | discard =>
      rcases warned with held | queued | last
      · exact .inl held
      · exact .inr (.inl queued)
      · contradiction
  | take _ _ takes | skip takes => cases takes <;> simp [Act.foreign] at foreign
  | _ => simp [Act.foreign] at foreign

namespace Threads

variable {x y z : Threads}

/-- There are handles, or a message of a last holder is in the queue or about to be left. -/
def Warned (y : Threads) : Prop :=
  0 < y.looper.handles ∨ .released ∈ y.looper.queue ∨ Releasing y

/-- The thread in a call leaves the message, or another does. -/
theorem Releasing.split {before after : List Business} {b : Business} (h : Releasing y)
    (busy : y.others = before ++ b :: after) : (∃ rest, b.acts = .release :: rest) ∨
      ∃ b' ∈ before ++ after, ∃ rest, b'.acts = .release :: rest := by
  obtain ⟨b', mem, top⟩ := h
  rw [busy] at mem
  rcases List.mem_append.mp mem with mem | mem
  · exact .inr ⟨b', List.mem_append_left _ mem, top⟩
  · rcases List.mem_cons.mp mem with rfl | mem
    · exact .inl top
    · exact .inr ⟨b', List.mem_append_right _ mem, top⟩

/-- The main thread waits as the first thing it does, and only when it is warned. It lends no handle
to a loop. -/
structure Watchful (y : Threads) : Prop where
  here : y.looper.present = true
  last : ∀ a ∈ y.mainActs.tail, a.waits = false
  warned : ∀ a ∈ y.mainActs.head?, a.waits = true → Warned y
  unlent : ∀ b, y.main = some b → (∃ a ∈ b.acts, a.loops = true) → b.borrows = false

namespace Watchful

theorem started (thread : ThreadId) : Watchful (start thread) :=
  ⟨rfl, by simp [start, mainActs], by simp [start, mainActs], by simp [start]⟩

/-- A main thread that waits for nothing. -/
theorem of_awake (here : z.looper.present = true) (awake : ∀ a ∈ z.mainActs, a.waits = false)
    (unlent : ∀ b, z.main = some b → (∃ a ∈ b.acts, a.loops = true) → b.borrows = false) :
    Watchful z := by
  refine ⟨here, fun a mem => awake a (List.mem_of_mem_tail mem), fun a first waits => ?_, unlent⟩
  have none := awake a (List.mem_of_mem_head? first)
  rw [waits] at none
  contradiction

/-- The main thread enters a call, or leaves one. -/
theorem of_call {call : Option Business} (h : Watchful y) (main : z.main = call)
    (looper : z.looper = y.looper) (awake : ∀ b ∈ call, ∀ a ∈ b.acts, a.waits = false)
    (unlent : ∀ b ∈ call, b.borrows = false ∨ ∀ a ∈ b.acts, a.loops = false) : Watchful z := by
  refine of_awake (looper ▸ h.here) ?_ ?_
  · rw [mainActs, main]
    cases call with
    | none => simp
    | some b => exact awake b rfl
  · rintro b busy ⟨a, mem, loops⟩
    rcases unlent b (main.symm.trans busy) with own | calm
    · exact own
    · rw [calm a mem] at loops
      contradiction

/-- Others do something, while the main thread is where it was. -/
theorem aside (h : Watchful y) (main : z.main = y.main) (here : z.looper.present = y.looper.present)
    (warned : Warned y → Warned z) : Watchful z := by
  have acts : z.mainActs = y.mainActs := by rw [mainActs, main, mainActs]
  refine ⟨here.trans h.here, acts ▸ h.last, ?_, main ▸ h.unlent⟩
  intro a first waits
  exact warned (h.warned a (acts ▸ first) waits)

theorem turn {rest : List Act} {borrows : Bool} (h : Watchful y)
    (busy : y.main = some ⟨a :: rest, borrows⟩) (step : Step y.looper a new z.looper)
    (main : z.main = some ⟨new ++ rest, borrows⟩) : Watchful z := by
  have here : z.looper.present = true := step.setting.2.trans h.here
  have last : ∀ a ∈ rest, a.waits = false := by
    have last := h.last
    rwa [mainActs_some busy] at last
  have unlent : ∀ b, z.main = some b → (∃ a ∈ b.acts, a.loops = true) → b.borrows = false := by
    rintro _ same ⟨b, mem, loops⟩
    obtain rfl := Option.some.inj (main.symm.trans same)
    change borrows = false
    refine h.unlent ⟨a :: rest, borrows⟩ busy ?_
    rcases List.mem_append.mp mem with mem | mem
    · refine ⟨a, List.mem_cons_self, eq_true_of_ne_false fun calm => ?_⟩
      rw [step.calm calm b mem] at loops
      contradiction
    · exact ⟨b, List.mem_cons_of_mem a mem, loops⟩
  rcases step.waits with awake | ⟨⟨patience, ran, rfl⟩, held⟩
  · refine of_awake here ?_ unlent
    rw [mainActs_some main]
    exact List.forall_mem_append.mpr ⟨awake, last⟩
  · refine ⟨here, ?_, fun _ _ _ => .inl held, unlent⟩
    rw [mainActs_some main]
    exact last

theorem next (h : Watchful y) (foreign : Foreign y) (next : Next y z) : Watchful z := by
  have made (spare : Nat) : Watchful { y with looper := y.looper.handle, spare := spare } := by
    have handles := congrArg Looper.handles (handle_eq y.looper)
    refine h.aside rfl ?_ fun _ => .inl ?_
    · rw [handle_eq]
    · exact handles ▸ Nat.succ_pos _
  have joins (b : Business) (spare : Nat) :
      Watchful { y with others := b :: y.others, spare := spare } := by
    refine h.aside rfl rfl (Or.imp_right (Or.imp_right ?_))
    rintro ⟨b', mem, top⟩
    exact ⟨b', List.mem_cons_of_mem b mem, top⟩
  cases next with
  | turn busy step => exact h.turn busy (step_cases step) rfl
  | ends => exact h.of_call rfl rfl (by simp) (by simp)
  | @turnOther before after a rest new borrows looper busy step =>
      have own : a.foreign = true :=
        foreign ⟨a :: rest, borrows⟩ (by simp [busy]) a List.mem_cons_self
      have step := step_cases step
      refine h.aside rfl step.setting.2 fun warned => ?_
      -- Either the thread itself sees to it, or another still is about to leave a message.
      have mine (warned : 0 < y.looper.handles ∨ .released ∈ y.looper.queue ∨ a = .release) :
          Warned { y with looper, others := before ++ ⟨new ++ rest, borrows⟩ :: after } := by
        refine (step.warns own h.here warned).imp_right (Or.imp_right ?_)
        rintro rfl
        exact ⟨_, List.mem_append_right _ List.mem_cons_self, rest, rfl⟩
      rcases warned with held | queued | releasing
      · exact mine (.inl held)
      · exact mine (.inr (.inl queued))
      · rcases releasing.split busy with ⟨rest', top⟩ | ⟨b, mem, top⟩
        · exact mine (.inr (.inr (List.cons.inj top).1))
        · refine .inr (.inr ⟨b, ?_, top⟩)
          exact List.mem_append.mpr ((List.mem_append.mp mem).imp_right (List.mem_cons_of_mem _))
  | endsOther busy =>
      refine h.aside rfl rfl (Or.imp_right (Or.imp_right fun releasing => ?_))
      rcases releasing.split busy with ⟨rest, top⟩ | other
      · contradiction
      · exact other
  | handle | clone => exact made _
  | letGoOther | sendOther => exact joins _ _
  | letGo | loop | pending => exact h.of_call rfl rfl (by simp [Act.waits]) (by simp)
  | send e =>
      have calm := calm_sendActs (s := y.looper) y.looper.thread e
      refine h.of_call rfl rfl ?_ ?_
      · rintro _ ⟨⟩ a mem
        exact Act.not_waits_of_calm (calm a mem)
      · rintro _ ⟨⟩
        exact .inr calm
  | time => exact h.aside rfl rfl id

end Watchful

end Threads

/-! ### Generations of handles -/

/-- Whether the last holder leaves its message with an act. -/
def Act.leaves : Act → Bool
  | .release => true
  | _ => false

/-- The messages that are left with acts. -/
def leaving (acts : List Act) : Nat := acts.countP Act.leaves

/-- The messages of last holders in a queue. -/
def notices (queue : List Message) : Nat :=
  queue.countP fun
    | .released => true
    | .errand _ _ => false

/-- The messages of last holders that have been taken between two moments. -/
def heard (s s' : Looper) : Nat := notices (s.queue.take (s.queue.length - s'.queue.length))

/-- The generations of handles that are alive: one or none. -/
def alive (s : Looper) : Nat := if 0 < s.handles then 1 else 0

theorem leaving_append (as bs : List Act) : leaving (as ++ bs) = leaving as + leaving bs :=
  List.countP_append

theorem leaving_runs (runs : ∀ a ∈ acts, a.runs = true) : leaving acts = 0 := by
  refine List.countP_eq_zero.mpr fun a mem leaves => ?_
  have own := runs a mem
  cases a with
  | release => simp [Act.runs] at own
  | _ => simp [Act.leaves] at leaves

theorem heard_append {ms : List Message} (queue : s'.queue = s.queue ++ ms) : s.heard s' = 0 := by
  simp [heard, queue, notices]

theorem heard_cons {m : Message} (queue : s.queue = m :: s'.queue) : s.heard s' = notices [m] := by
  simp [heard, queue]

theorem heard_same (queue : s'.queue = s.queue) : s.heard s' = 0 := by
  simp [heard, queue, notices]

/-- Messages of last holders stay in the queue until they are taken. -/
theorem Step.notices_left (h : Step s a new s') (here : s.present = true) :
    notices s'.queue + s.heard s' = notices s.queue + leaving [a] := by
  have same (queue : s'.queue = s.queue) (none : leaving [a] = 0) :
      notices s'.queue + s.heard s' = notices s.queue + leaving [a] := by
    rw [heard_same queue, queue, none]
  have taking {n : Nat} {again : Nat → Act} (takes : Takes a n again) : leaving [a] = 0 := by
    cases takes <;> rfl
  cases h with
  | release =>
      rw [heard_append rfl]
      exact List.countP_append
  | unheard gone => simp [here] at gone
  | post e noted =>
      rw [heard_append rfl]
      exact List.countP_append
  | take ticket e takes head =>
      rw [heard_cons head, taking takes, head]
      rfl
  | skip takes head =>
      rw [heard_cons head, taking takes, head]
      simp [notices]
  | _ => exact same rfl rfl

/-- A generation that ends has a message left for it. -/
theorem Step.generations (h : Step s a new s') :
    leaving new + s'.alive = s.alive + (s'.alive - s.alive) := by
  have same (still : s'.alive = s.alive) (none : leaving new = 0) :
      leaving new + s'.alive = s.alive + (s'.alive - s.alive) := by
    rw [none, still, Nat.sub_self, Nat.zero_add, Nat.add_zero]
  cases h with
  | clone =>
      have after : Looper.alive { s with handles := s.handles + 1 } = 1 := if_pos (Nat.succ_pos _)
      have before : s.alive ≤ 1 := by
        unfold Looper.alive
        split <;> decide
      rw [after]
      exact (Nat.zero_add 1).trans (Nat.add_sub_cancel' before).symm
  | letGo more =>
      refine same ?_ rfl
      simp only [Looper.alive]
      split <;> split <;> omega
  | letLastGo last =>
      have before : s.alive = 1 := if_pos (by omega)
      have after : Looper.alive { s with handles := s.handles - 1 } = 0 := if_neg (by simp [last])
      rw [before, after]
      rfl
  | post e noted => exact same rfl (by cases noted <;> rfl)
  | postTooLate e noted => exact same rfl (by cases noted <;> rfl)
  | discard e => exact same rfl (by split <;> rfl)
  | take ticket e takes head =>
      refine same rfl ?_
      rw [leaving_append, leaving_runs (runs_runCaught e)]
      cases takes <;> rfl
  | skip takes => exact same rfl (by cases takes <;> rfl)
  | _ => exact same rfl rfl

/-- The generations of handles that have begun, and those whose messages have been taken. -/
structure Ages where
  begun : Nat
  heard : Nat

/-- Counts on from one moment to the next. -/
def Ages.after (g : Ages) (s s' : Looper) : Ages :=
  ⟨g.begun + (s'.alive - s.alive), g.heard + s.heard s'⟩

namespace Threads

/-- Runs with their generations counted. -/
inductive Lives (x : Threads) : Ages → Threads → Prop where
  | refl : Lives x ⟨0, 0⟩ x
  | next {g : Ages} {y z : Threads} :
      Lives x g y → Next y z → Lives x (g.after y.looper z.looper) z

/-- The messages that threads are about to leave. -/
def departing (calls : List Business) : Nat := (calls.map fun b => leaving b.acts).sum

theorem departing_append (as bs : List Business) :
    departing (as ++ bs) = departing as + departing bs := by
  simp [departing]

theorem departing_cons (b : Business) (bs : List Business) :
    departing (b :: bs) = leaving b.acts + departing bs := by
  simp [departing]

variable {g : Ages} {x y z : Threads}

/-- Of every generation that has begun the message has been taken, or it is in the queue, or it is
about to be left, or the generation is alive. -/
structure Balanced (g : Ages) (y : Threads) : Prop where
  here : y.looper.present = true
  begun : g.begun = g.heard + notices y.looper.queue + departing y.calls + y.looper.alive

namespace Balanced

theorem started (thread : ThreadId) : Balanced ⟨0, 0⟩ (start thread) := ⟨rfl, rfl⟩

/-- An act is carried out, in whichever call. -/
theorem step (h : Balanced g y) (step : Step y.looper a new z.looper)
    (calls : departing z.calls + leaving [a] = departing y.calls + leaving new) :
    Balanced (g.after y.looper z.looper) z := by
  obtain ⟨here, begun⟩ := h
  have left := step.notices_left here
  have ended := step.generations
  refine ⟨step.setting.2.trans here, ?_⟩
  simp only [Ages.after]
  omega

theorem turn {rest : List Act} {borrows : Bool} (before after : List Business) (h : Balanced g y)
    (step : Step y.looper a new z.looper)
    (top : y.calls = before ++ ⟨a :: rest, borrows⟩ :: after)
    (calls : z.calls = before ++ ⟨new ++ rest, borrows⟩ :: after) :
    Balanced (g.after y.looper z.looper) z := by
  refine h.step step ?_
  have own : leaving (a :: rest) = leaving [a] + leaving rest := leaving_append [a] rest
  rw [top, calls, departing_append, departing_append, departing_cons, departing_cons, own,
    leaving_append]
  omega

/-- Nothing happens to the handles nor to the queue. -/
theorem still (h : Balanced g y) (here : z.looper.present = y.looper.present)
    (handles : z.looper.handles = y.looper.handles) (queue : z.looper.queue = y.looper.queue)
    (calls : departing z.calls = departing y.calls) : Balanced (g.after y.looper z.looper) z := by
  have alive : z.looper.alive = y.looper.alive := by rw [Looper.alive, Looper.alive, handles]
  refine ⟨here.trans h.here, ?_⟩
  rw [alive, queue, calls, Ages.after, heard_same queue, alive, Nat.sub_self]
  exact h.begun

theorem next (h : Balanced g y) (next : Next y z) : Balanced (g.after y.looper z.looper) z := by
  have sends (me : ThreadId) (e : Errand) : leaving (y.looper.sendActs me e) = 0 :=
    leaving_runs (runs_sendActs me e)
  cases next with
  | turn busy step =>
      exact h.turn [] y.others (step_cases step) (by rw [calls, busy]; rfl) rfl
  | ends busy ended =>
      refine h.still rfl rfl rfl ?_
      rw [calls, calls, busy, Option.toList_some, List.singleton_append, departing_cons]
      rcases ended with none | ⟨n, settled⟩
      · rw [none]
        exact (Nat.zero_add _).symm
      · rw [settled]
        exact (Nat.zero_add _).symm
  | @turnOther before after a rest new borrows looper busy step =>
      have top : y.calls = (y.main.toList ++ before) ++ ⟨a :: rest, borrows⟩ :: after := by
        rw [calls, busy, List.append_assoc]
      refine h.turn _ after (step_cases step) top ?_
      rw [calls, List.append_assoc]
  | endsOther busy =>
      refine h.still rfl rfl rfl ?_
      simp only [calls, busy, departing_append, departing_cons]
      exact congrArg _ (congrArg _ (Nat.zero_add _).symm)
  | handle | clone =>
      have cloned : Step y.looper .clone [] y.looper.handle := by
        rw [handle_eq]
        exact .clone
      exact h.step cloned rfl
  | letGoOther =>
      refine h.still rfl rfl rfl ?_
      simp only [calls, departing_append, departing_cons]
      exact congrArg _ (Nat.zero_add _)
  | sendOther me e =>
      refine h.still rfl rfl rfl ?_
      simp only [calls, departing_append, departing_cons, sends, Nat.zero_add]
  | send e idle =>
      refine h.still rfl rfl rfl ?_
      rw [calls, calls, idle, Option.toList_some, List.singleton_append, departing_cons, sends]
      exact Nat.zero_add _
  | letGo idle | loop _ idle | pending idle =>
      refine h.still rfl rfl rfl ?_
      rw [calls, calls, idle, Option.toList_some, List.singleton_append, departing_cons]
      exact Nat.zero_add _
  | time => exact h.still rfl rfl rfl rfl

end Balanced

/-! ### In all runs -/

namespace Lives

variable {thread : ThreadId}

theorem course (run : Lives x g y) : ∃ d, Course x d y := by
  induction run with
  | refl => exact ⟨_, .refl⟩
  | next _ next ih =>
      obtain ⟨d, course⟩ := ih
      exact ⟨_, course.next next⟩

theorem sound (run : Lives (start thread) g y) : ∃ d, Sound d y := by
  obtain ⟨d, course⟩ := run.course
  exact ⟨d, course.sound⟩

theorem watchful (run : Lives (start thread) g y) : Watchful y := by
  induction run with
  | refl => exact .started thread
  | next before next ih =>
      obtain ⟨d, sound⟩ := before.sound
      exact ih.next sound.foreign next

theorem balanced (run : Lives (start thread) g y) : Balanced g y := by
  induction run with
  | refl => exact .started thread
  | next _ next ih => exact ih.next next

end Lives

theorem exists_held {bs : List Business} (some : 0 < inHand bs) : ∃ b ∈ bs, 0 < Business.held b := by
  induction bs with
  | nil => exact absurd some (Nat.lt_irrefl 0)
  | cons b bs ih =>
      rw [inHand_cons] at some
      rcases Nat.eq_zero_or_pos (Business.held b) with none | own
      · obtain ⟨b', mem, held⟩ := ih (by omega)
        exact ⟨b', List.mem_cons_of_mem b mem, held⟩
      · exact ⟨b, List.mem_cons_self, own⟩

/-- A loop that waits is all that its thread is in, and has no handle in hand. -/
theorem Watchful.blocked {d : Diary} (h : Watchful y) (sound : Sound d y) (blocked : Blocked y) :
    ∃ ran, y.main = some ⟨[.receive .forever ran], false⟩ := by
  obtain ⟨-, ran, rest, borrows, main⟩ := blocked
  have tidy := sound.reported.tidy
  rw [mainActs_some main] at tidy
  have unlent := h.unlent _ main ⟨_, List.mem_cons_self, rfl⟩
  rcases tidy.uncons with rfl | ⟨calm, -⟩
  · exact ⟨ran, unlent ▸ main⟩
  · contradiction

theorem departing_pos (releasing : Releasing y) : 0 < departing y.others := by
  obtain ⟨b, mem, rest, top⟩ := releasing
  obtain ⟨before, after, split⟩ := List.append_of_mem mem
  have own : leaving b.acts = 1 + leaving rest := by
    rw [top]
    exact leaving_append [.release] rest
  rw [split, departing_append, departing_cons, own]
  omega

/-- Whatever threads do with handles, in however many generations: whenever the main thread waits in
a loop without a deadline and the queue is empty, a handle is alive, or some thread is about to leave
the message of a last holder. A handle that is alive is not in the hands of the thread that waits. Of
the generations that have begun, those have not been heard of that are alive or about to be; so not
all have been. -/
theorem never_sleeps_through_release {thread : ThreadId} (run : Lives (start thread) g y)
    (blocked : Blocked y) :
    (0 < y.looper.handles ∨ Releasing y) ∧
      (0 < y.looper.handles → 0 < y.spare ∨ ∃ b ∈ y.others, 0 < Business.held b) ∧
      g.begun = g.heard + y.looper.alive + departing y.others ∧ g.heard < g.begun := by
  obtain ⟨d, sound⟩ := run.sound
  have watchful := run.watchful
  have begun := run.balanced.begun
  have handles := sound.counted.handles
  have empty : y.looper.queue = [] := blocked.1
  obtain ⟨ran, main⟩ := watchful.blocked sound blocked
  have split : y.calls = ⟨[.receive .forever ran], false⟩ :: y.others := by rw [calls, main]; rfl
  have warned : 0 < y.looper.handles ∨ Releasing y := by
    have warned := watchful.warned (.receive .forever ran) (by simp [mainActs_some main]) rfl
    refine warned.imp_right fun other => other.resolve_left ?_
    simp [empty]
  have balance : g.begun = g.heard + y.looper.alive + departing y.others := by
    have none : leaving [.receive .forever ran] = 0 := rfl
    have unheard : notices [] = 0 := rfl
    rw [split, departing_cons, empty] at begun
    dsimp only at begun
    omega
  refine ⟨warned, fun held => ?_, balance, ?_⟩
  · have none : Business.held ⟨[.receive .forever ran], false⟩ = 0 := rfl
    have unowned : Message.owned [] = 0 := rfl
    rw [split, inHand_cons, empty] at handles
    rcases Nat.eq_zero_or_pos y.spare with spent | spare
    · exact .inr (exists_held (by omega))
    · exact .inl spare
  · rcases warned with held | releasing
    · have alive : y.looper.alive = 1 := if_pos held
      omega
    · have pos := departing_pos releasing
      omega

end Threads

open Threads in
/-- The last handle goes, and before its message is left a second generation begins. The loop finds
that alive, takes the message of the first and waits again; then the second ends as well. -/
theorem never_sleeps_through_release_of_second_generation :
    ∃ g y, Lives (start .main) g y ∧ Blocked y ∧ y.looper.handles = 0 ∧ g = ⟨2, 1⟩ ∧
      ((0 < y.looper.handles ∨ Releasing y) ∧
        (0 < y.looper.handles → 0 < y.spare ∨ ∃ b ∈ y.others, 0 < Business.held b) ∧
        g.begun = g.heard + y.looper.alive + departing y.others ∧ g.heard < g.begun) := by
  have run := Lives.refl (x := start .main)
    |>.next (move_next (m := .handle) rfl) |>.next (move_next (m := .letGoOther) rfl)
    |>.next (move_next (m := .turnOther) rfl) |>.next (move_next (m := .handle) rfl)
    |>.next (move_next (m := .loop .forever) rfl) |>.next (move_next (m := .turn) rfl)
    |>.next (move_next (m := .turnOther) rfl) |>.next (move_next (m := .turn) rfl)
    |>.next (move_next (m := .turn) rfl) |>.next (move_next (m := .letGoOther) rfl)
    |>.next (move_next (m := .turnOther) rfl)
  refine ⟨_, _, run, ?_, rfl, rfl, never_sleeps_through_release run ?_⟩ <;>
    exact ⟨rfl, 0, [], false, rfl⟩

end TwoTier.Looper
