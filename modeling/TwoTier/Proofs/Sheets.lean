import Mathlib.Data.Multiset.Count
import Mathlib.Data.Multiset.Replicate
import TwoTier.Proofs.Bands

/-!
An executor with workers, in numbers.

A `Sheet` keeps of an executor and its workers what the two tiers go by: how many workers stand
where, how many jobs are ready and how many wait, the core size, and what a pass has read so far.
`Sheet.Step` says what can happen to these numbers while the executor settles, and `Sheet.Sound` is
what stays true of them.

A few jobs move at a time: those that were let go together, each with a worker. A job that moves
keeps its worker busy or has just been completed, and then its worker is there for the next. So the
ready queue never fills up (`Sound.tokens`), and no job in it is without a worker that will come for
it (`Sound.served`).
-/

namespace TwoTier

/-- Where a worker stands. -/
inductive Station where
  /-- At the ready queue, or about to be. -/
  | idle
  /-- Its keep-alive ran out. -/
  | out
  /-- It has taken a job that will wait at its gate, and does not count as active yet. -/
  | taken
  /-- Its job waits at its gate, or will. -/
  | blocked
  /-- Its job waits at no gate. -/
  | moving
  /-- It completes a job, and the pass for that has not decided yet. -/
  | due
  /-- It has completed a job, or soon will, without another pass. -/
  | done
deriving DecidableEq

/-- How far a pass has come, with its readings. -/
inductive Course where
  | begun
  | counted (active : Nat)
  | read (active queued : Nat)
  /-- The core size is to be set. -/
  | tuning (active queued target : Nat)
  | tuned (active queued target : Nat)
  /-- The head has left the backlog and will be offered. -/
  | inHand
  | ended

structure Sheet where
  crew : Multiset Station
  ready : Nat
  backlog : Nat
  core : Nat
  /-- The calls whose pass has not decided yet. -/
  call : Nat
  course : Option Course

namespace Sheet

/-- The workers that have a job which has not run. -/
def held (x : Sheet) : Nat :=
  x.crew.count .taken + x.crew.count .blocked + x.crew.count .moving

/-- The jobs in the pool, and the passes that completions bring about. -/
def supply (x : Sheet) : Nat := x.ready + x.held + x.crew.count .due

/-- Nothing moves. -/
structure Rests (x : Sheet) : Prop where
  course : x.course = none
  call : x.call = 0
  moving : x.crew.count .moving = 0
  taken : x.crew.count .taken = 0
  due : x.crew.count .due = 0
  done : x.crew.count .done = 0
  out : x.crew.count .out = 0
  ready : x.ready = 0 ∨ x.crew.count .idle = 0

/-- A pass decides, for a worker that completes a job or for a call. -/
inductive Decides (x : Sheet) : Sheet → Prop where
  | worker {rest : Multiset Station} (crew : x.crew = .due ::ₘ rest) :
      Decides x { x with crew := .done ::ₘ rest }
  | call (one : x.call = 1) : Decides x { x with call := 0 }

/-- What can happen, in numbers. -/
inductive Step (config : Config) (x : Sheet) : Sheet → Prop where
  | submit (rests : x.Rests) : Step config x { x with call := 1 }
  | release {rest : Multiset Station} (n : Nat) (rests : x.Rests) (few : n ≤ config.maxQueueSize)
      (crew : x.crew = .replicate n .blocked + rest) :
      Step config x { x with crew := .replicate n .moving + rest }
  | push (free : x.course = none) (one : x.call = 1) :
      Step config x { x with backlog := x.backlog + 1, course := some .begun }
  | resume (free : x.course = none) (due : 0 < x.crew.count .due) :
      Step config x { x with course := some .begun }
  | count (active : Nat) (course : x.course = some .begun) (least : x.crew.count .blocked ≤ active)
      (most : active ≤ x.crew.count .blocked + x.crew.count .moving) :
      Step config x { x with course := some (.counted active) }
  | read (active : Nat) (course : x.course = some (.counted active)) :
      Step config x { x with course := some (.read active x.ready) }
  | keep (active queued : Nat) (course : x.course = some (.read active queued))
      (same : x.core = tunedCoreSize x.backlog config) :
      Step config x
        { x with course := some (.tuned active queued (tunedCoreSize x.backlog config)) }
  | tune (active queued : Nat) (course : x.course = some (.read active queued)) :
      Step config x
        { x with course := some (.tuning active queued (tunedCoreSize x.backlog config)) }
  /-- Workers may start for what is ready, none beyond the core size. -/
  | setCore (active queued target new : Nat)
      (course : x.course = some (.tuning active queued target))
      (within : new = 0 ∨ x.crew.card + new ≤ target) :
      Step config x { x with core := target, crew := .replicate new .idle + x.crew
                             course := some (.tuned active queued target) }
  | close {x' : Sheet} (active queued target : Nat)
      (course : x.course = some (.tuned active queued target))
      (shut : ¬ (queued ≤ config.maxQueueSize ∧ active < target)) (decides : Decides x x') :
      Step config x { x' with course := some .ended }
  | empty {x' : Sheet} (active queued target : Nat)
      (course : x.course = some (.tuned active queued target)) (nothing : x.backlog = 0)
      (decides : Decides x x') : Step config x { x' with course := some .ended }
  | takeHead (active queued target : Nat) {backlog : Nat}
      (course : x.course = some (.tuned active queued target)) (below : active < target)
      (waits : x.backlog = backlog + 1) :
      Step config x { x with backlog, course := some .inHand }
  | queue {x' : Sheet} (course : x.course = some .inHand) (core : x.core ≤ x.crew.card)
      (decides : Decides x x') :
      Step config x { x' with ready := x.ready + 1, course := some .ended }
  | start {x' : Sheet} {s : Station} (course : x.course = some .inHand)
      (core : x.crew.card < x.core) (decides : Decides x x') (holds : s = .blocked ∨ s = .moving) :
      Step config x { x' with crew := s ::ₘ x'.crew, course := some .ended }
  | leave (course : x.course = some .ended) : Step config x { x with course := none }
  | receive {rest : Multiset Station} {s : Station} {ready : Nat} (crew : x.crew = .idle ::ₘ rest)
      (waits : x.ready = ready + 1) (holds : s = .taken ∨ s = .moving) :
      Step config x { x with crew := s ::ₘ rest, ready }
  | begin {rest : Multiset Station} (crew : x.crew = .taken ::ₘ rest) :
      Step config x { x with crew := .blocked ::ₘ rest }
  | ran {rest : Multiset Station} (crew : x.crew = .moving ::ₘ rest) :
      Step config x { x with crew := .due ::ₘ rest }
  | finish {rest : Multiset Station} (crew : x.crew = .done ::ₘ rest) :
      Step config x { x with crew := .idle ::ₘ rest }
  | timeOut {rest : Multiset Station} (crew : x.crew = .idle ::ₘ rest) (nothing : x.ready = 0)
      (patient : x.call = 0) : Step config x { x with crew := .out ::ₘ rest }
  | stay {rest : Multiset Station} (crew : x.crew = .out ::ₘ rest) :
      Step config x { x with crew := .idle ::ₘ rest }
  | retire {rest : Multiset Station} (crew : x.crew = .out ::ₘ rest) :
      Step config x { x with crew := rest }

/-- So many tasks in the backlog call for no more workers than are supplied. -/
def Tight (config : Config) (x : Sheet) (backlog : Nat) : Prop :=
  0 < backlog → tunedCoreSize backlog config ≤ x.supply

/-- The number of active workers that a pass has read is still supplied, without the pass itself. -/
structure Reads (x : Sheet) (active : Nat) : Prop where
  passing : 0 < x.crew.count .due + x.call
  most : active + 1 ≤ x.supply + x.call
  least : x.call = 1 → x.crew.count .blocked ≤ active

/-- What holds at each place of a pass. A task that a call has just pushed is left out. -/
def At (config : Config) (x : Sheet) : Option Course → Prop
  | none | some .ended => x.Tight config x.backlog
  | some .begun => x.Tight config (x.backlog - x.call) ∧ 0 < x.crew.count .due + x.call
  | some (.counted active) => x.Tight config (x.backlog - x.call) ∧ x.Reads active
  | some (.read active queued) =>
    x.Tight config (x.backlog - x.call) ∧ x.Reads active ∧ queued ≤ config.maxQueueSize
  | some (.tuning active queued target) =>
    x.Tight config (x.backlog - x.call) ∧ x.Reads active ∧ queued ≤ config.maxQueueSize ∧
      target = tunedCoreSize x.backlog config
  | some (.tuned active queued target) =>
    x.Tight config (x.backlog - x.call) ∧ x.Reads active ∧ queued ≤ config.maxQueueSize ∧
      target = tunedCoreSize x.backlog config ∧ x.core = target
  | some .inHand =>
    x.Tight config x.backlog ∧ 0 < x.crew.count .due + x.call ∧
      (x.call = 1 → x.crew.count .blocked < x.core)

structure Sound (config : Config) (x : Sheet) : Prop where
  core : 0 < x.core ∧ x.core ≤ config.maxCoreSize
  crew : x.crew.card ≤ config.maxCoreSize
  /-- The jobs that move, and the passes they or a call bring about. -/
  tokens : x.ready + x.crew.count .moving + x.crew.count .due + x.call ≤ config.maxQueueSize
  served : x.ready ≤ x.crew.count .idle + x.crew.count .done
  one : x.call ≤ 1
  /-- While a call has not decided, nothing else moves. -/
  lone : x.call = 1 → x.ready = 0 ∧ x.crew.count .out = 0 ∧ x.crew.count .taken = 0 ∧
    x.crew.count .moving = 0 ∧ x.crew.count .due = 0 ∧ x.crew.count .done = 0
  course : x.At config x.course

variable {config : Config} {x x' : Sheet}

theorem Tight.mono (valid : config.Valid) {n m : Nat} (h : x.Tight config n) (fewer : m ≤ n)
    (more : x.supply ≤ x'.supply) : x'.Tight config m := by
  intro some
  exact Nat.le_trans (tunedCoreSize_mono valid.ordered fewer)
    (Nat.le_trans (h (Nat.lt_of_lt_of_le some fewer)) more)

theorem Reads.mono {active : Nat} (h : x.Reads active) (call : x'.call = x.call)
    (more : x.supply ≤ x'.supply) (due : x.crew.count .due ≤ x'.crew.count .due)
    (blocked : x.call = 1 → x'.crew.count .blocked ≤ x.crew.count .blocked) : x'.Reads active := by
  obtain ⟨passing, most, least⟩ := h
  rw [← call] at passing most least blocked
  exact ⟨by omega, by omega, fun one => Nat.le_trans (blocked one) (least one)⟩

/-- What workers do between passes leaves a pass where it is. -/
theorem At.mono (valid : config.Valid) {o : Option Course} (h : x.At config o)
    (backlog : x'.backlog = x.backlog) (core : x'.core = x.core) (call : x'.call = x.call)
    (more : x.supply ≤ x'.supply) (due : x.crew.count .due ≤ x'.crew.count .due)
    (blocked : x.call = 1 → x'.crew.count .blocked ≤ x.crew.count .blocked) : x'.At config o := by
  have whole (h : x.Tight config x.backlog) : x'.Tight config x'.backlog := by
    rw [backlog]
    exact h.mono valid (Nat.le_refl _) more
  have older (h : x.Tight config (x.backlog - x.call)) :
      x'.Tight config (x'.backlog - x'.call) := by
    rw [backlog, call]
    exact h.mono valid (Nat.le_refl _) more
  have reads {active : Nat} (h : x.Reads active) : x'.Reads active := h.mono call more due blocked
  cases o with
  | none => exact whole h
  | some course =>
      cases course with
      | ended => exact whole h
      | begun => exact ⟨older h.1, by have := h.2; omega⟩
      | counted active => exact ⟨older h.1, reads h.2⟩
      | read active queued => exact ⟨older h.1, reads h.2.1, h.2.2⟩
      | tuning active queued target => exact ⟨older h.1, reads h.2.1, h.2.2.1, backlog ▸ h.2.2.2⟩
      | tuned active queued target =>
          exact ⟨older h.1, reads h.2.1, h.2.2.1, backlog ▸ h.2.2.2.1, core.trans h.2.2.2.2⟩
      | inHand =>
          refine ⟨whole h.1, by have := h.2.1; omega, fun one => ?_⟩
          have one : x.call = 1 := call.symm.trans one
          exact core ▸ Nat.lt_of_le_of_lt (blocked one) (h.2.2 one)

/-- What a decision changes: a call is over, or a worker that was due is done. -/
structure Decided (x x' : Sheet) : Prop where
  backlog : x'.backlog = x.backlog
  core : x'.core = x.core
  ready : x'.ready = x.ready
  card : x'.crew.card = x.crew.card
  moving : x'.crew.count .moving = x.crew.count .moving
  idle : x'.crew.count .idle = x.crew.count .idle
  tokens : x'.crew.count .due + 1 = x.crew.count .due + x.call
  done : x'.crew.count .done + x.call = x.crew.count .done + 1
  supply : x'.supply + 1 = x.supply + x.call
  call : x'.call = 0

theorem card_eq (crew : Multiset Station) : crew.card = crew.count .idle + crew.count .out
    + crew.count .taken + crew.count .blocked + crew.count .moving + crew.count .due
    + crew.count .done := by
  induction crew using Multiset.induction with
  | empty => simp
  | cons s crew ih => cases s <;> (simp [ih]; omega)

namespace Sound

variable (sound : Sound config x)

include sound

theorem decided (decides : Decides x x') : Decided x x' := by
  have lone := sound.lone
  have one := sound.one
  cases decides with
  | worker crew =>
      have calm : x.call = 0 := by
        by_contra some
        have := (lone (by omega)).2.2.2.2.1
        simp [crew] at this
      refine ⟨rfl, rfl, rfl, ?_, ?_, ?_, ?_, ?_, ?_, calm⟩ <;>
        simp [supply, held, crew, calm]
      omega
  | call calls =>
      obtain ⟨-, -, -, -, due, done⟩ := lone calls
      exact ⟨rfl, rfl, rfl, rfl, rfl, rfl, by simp [due, calls], by simp [done, calls],
        by simp [supply, held, calls], rfl⟩

/-- Nothing is left in the ready queue when nothing moves. -/
theorem ready_of_rests (rests : x.Rests) : x.ready = 0 := by
  have served := sound.served
  rw [rests.done] at served
  rcases rests.ready with empty | nobody
  · exact empty
  · omega

/-- While something moves, no call is under way. -/
theorem quiet (moves : 0 < x.ready + x.crew.count .out + x.crew.count .taken
    + x.crew.count .moving + x.crew.count .due + x.crew.count .done) : x.call = 0 := by
  have one := sound.one
  by_contra some
  obtain ⟨ready, out, taken, moving, due, done⟩ := sound.lone (by omega)
  omega

theorem push (free : x.course = none) (one : x.call = 1) :
    Sound config { x with backlog := x.backlog + 1, course := some .begun } where
  core := sound.core
  crew := sound.crew
  tokens := sound.tokens
  served := sound.served
  one := sound.one
  lone := sound.lone
  course := by
    have course := sound.course
    rw [free] at course
    refine ⟨?_, by simp [one]⟩
    change x.Tight config (x.backlog + 1 - x.call)
    rwa [one]

/-! ### Decisions -/

/-- A pass has decided, and at most one job more is ready or with a worker. -/
theorem conclude (decided : Decided x x') {crew : Multiset Station} {ready : Nat}
    (card : crew.card ≤ config.maxCoreSize)
    (tokens : ready + crew.count .moving + crew.count .due
      ≤ x.ready + x.crew.count .moving + x'.crew.count .due + 1)
    (served : ready ≤ crew.count .idle + crew.count .done)
    (tight : 0 < x.backlog → tunedCoreSize x.backlog config
      ≤ ready + (crew.count .taken + crew.count .blocked + crew.count .moving)
        + crew.count .due) :
    Sound config { x' with crew, ready, course := some .ended } where
  core := decided.core ▸ sound.core
  crew := card
  tokens := by
    have before := sound.tokens
    have passing := decided.tokens
    change ready + crew.count .moving + crew.count .due + x'.call ≤ config.maxQueueSize
    rw [decided.call]
    omega
  served := served
  one := decided.call ▸ Nat.zero_le 1
  lone one := absurd one (by rw [decided.call]; exact Nat.zero_ne_one)
  course := by
    change 0 < x'.backlog → tunedCoreSize x'.backlog config ≤ _
    rw [decided.backlog]
    exact tight

/-- Nothing is taken from the backlog. -/
theorem pass (decided : Decided x x')
    (tight : 0 < x.backlog → tunedCoreSize x.backlog config ≤ x'.supply) :
    Sound config { x' with course := some .ended } := by
  have served := sound.served
  have one := sound.one
  refine sound.conclude decided (decided.card ▸ sound.crew) ?_ ?_ tight
  · rw [decided.ready, decided.moving]
    omega
  · have done := decided.done
    rw [decided.ready, decided.idle]
    omega

/-- The gate is shut because so many workers are active already. -/
theorem close {active queued target : Nat} (course : x.course = some (.tuned active queued target))
    (shut : ¬ (queued ≤ config.maxQueueSize ∧ active < target)) (decides : Decides x x') :
    Sound config { x' with course := some .ended } := by
  have now := sound.course
  rw [course] at now
  obtain ⟨-, reads, room, tuned, -⟩ := now
  have decided := sound.decided decides
  refine sound.pass decided fun _ => ?_
  have supply := decided.supply
  have most := reads.most
  rw [← tuned]
  omega

theorem empty (nothing : x.backlog = 0) (decides : Decides x x') :
    Sound config { x' with course := some .ended } :=
  sound.pass (sound.decided decides) fun some => absurd nothing (Nat.ne_of_gt some)

/-- A job joins the ready queue, and the worker of a completion or an idle worker is there for
it. -/
theorem queue (course : x.course = some .inHand) (core : x.core ≤ x.crew.card)
    (decides : Decides x x') :
    Sound config { x' with ready := x.ready + 1, course := some .ended } := by
  have now := sound.course
  rw [course] at now
  obtain ⟨tight, -, below⟩ := now
  have decided := sound.decided decides
  have served := sound.served
  have one := sound.one
  refine sound.conclude decided (decided.card ▸ sound.crew) ?_ ?_ ?_
  · rw [decided.moving]
    omega
  · have done := decided.done
    rw [decided.idle]
    by_cases calls : x.call = 1
    · obtain ⟨ready, out, taken, moving, due, none⟩ := sound.lone calls
      have below := below calls
      have card := card_eq x.crew
      omega
    · omega
  · intro some
    have enough := tight some
    have supplied := decided.supply
    have ready := decided.ready
    unfold supply held at *
    omega

/-- A job gets a worker of its own. -/
theorem start {s : Station} (course : x.course = some .inHand) (core : x.crew.card < x.core)
    (decides : Decides x x') (holds : s = .blocked ∨ s = .moving) :
    Sound config { x' with crew := s ::ₘ x'.crew, course := some .ended } := by
  have now := sound.course
  rw [course] at now
  obtain ⟨tight, -, -⟩ := now
  have decided := sound.decided decides
  have served := sound.served
  have one := sound.one
  have ready := decided.ready
  refine sound.conclude decided ?_ ?_ ?_ ?_
  · have most := sound.core.2
    simp only [Multiset.card_cons, decided.card]
    omega
  · have moving := decided.moving
    rcases holds with rfl | rfl <;> simp <;> omega
  · have done := decided.done
    have idle := decided.idle
    rcases holds with rfl | rfl <;> simp <;> omega
  · intro some
    have enough := tight some
    have supplied := decided.supply
    unfold supply held at *
    rcases holds with rfl | rfl <;> simp <;> omega

variable (valid : config.Valid)

include valid

/-- A pass goes on, and nothing else happens. -/
theorem goOn {o : Option Course} (course : x.At config o) :
    Sound config { x with course := o } where
  core := sound.core
  crew := sound.crew
  tokens := sound.tokens
  served := sound.served
  one := sound.one
  lone := sound.lone
  course := course.mono valid rfl rfl rfl (Nat.le_refl _) (Nat.le_refl _) fun _ => Nat.le_refl _

/-! ### Steps of workers -/

/-- Workers do something on their own. -/
theorem shift {crew : Multiset Station} {ready : Nat} (quiet : x.call = 0)
    (fewer : crew.card ≤ x.crew.card)
    (tokens : ready + crew.count .moving + crew.count .due ≤ config.maxQueueSize)
    (served : ready ≤ crew.count .idle + crew.count .done)
    (more : x.supply ≤ Sheet.supply { x with crew, ready })
    (due : x.crew.count .due ≤ crew.count .due) : Sound config { x with crew, ready } where
  core := sound.core
  crew := Nat.le_trans fewer sound.crew
  tokens := by
    change ready + crew.count .moving + crew.count .due + x.call ≤ config.maxQueueSize
    rwa [quiet]
  served := served
  one := sound.one
  lone one := absurd one (by rw [quiet]; exact Nat.zero_ne_one)
  course := sound.course.mono valid rfl rfl rfl more due fun one => absurd one (by omega)

theorem receive {rest : Multiset Station} {s : Station} {ready : Nat}
    (split : x.crew = .idle ::ₘ rest) (waits : x.ready = ready + 1)
    (holds : s = .taken ∨ s = .moving) : Sound config { x with crew := s ::ₘ rest, ready } := by
  have served := sound.served
  have tokens := sound.tokens
  rw [split] at served tokens
  refine sound.shift valid (sound.quiet (by omega)) (by simp [split]) ?_ ?_ ?_ ?_ <;>
    rcases holds with rfl | rfl <;> simp [supply, held, split, waits] at served tokens ⊢ <;> omega

/-- A worker goes from one station to another. -/
theorem move {rest : Multiset Station} {s s' : Station} (split : x.crew = s ::ₘ rest)
    (way : (s = .taken ∧ s' = .blocked) ∨ (s = .moving ∧ s' = .due) ∨ (s = .done ∧ s' = .idle) ∨
      (s = .out ∧ s' = .idle)) : Sound config { x with crew := s' ::ₘ rest } := by
  have served := sound.served
  have tokens := sound.tokens
  have quiet := sound.quiet
  rw [split] at served tokens quiet
  refine sound.shift valid (quiet ?_) (by simp [split]) ?_ ?_ ?_ ?_ <;>
    rcases way with ⟨rfl, rfl⟩ | ⟨rfl, rfl⟩ | ⟨rfl, rfl⟩ | ⟨rfl, rfl⟩ <;>
      simp [supply, held, split] at served tokens ⊢ <;> omega

theorem timeOut {rest : Multiset Station} (split : x.crew = .idle ::ₘ rest) (nothing : x.ready = 0)
    (patient : x.call = 0) : Sound config { x with crew := .out ::ₘ rest } := by
  have tokens := sound.tokens
  rw [split] at tokens
  refine sound.shift valid patient (by simp [split]) ?_ ?_ ?_ ?_ <;>
    simp [supply, held, split, nothing] at tokens ⊢
  omega

theorem retire {rest : Multiset Station} (split : x.crew = .out ::ₘ rest) :
    Sound config { x with crew := rest } := by
  have served := sound.served
  have tokens := sound.tokens
  have quiet := sound.quiet
  rw [split] at served tokens quiet
  refine sound.shift valid (quiet ?_) (by simp [split]) ?_ ?_ ?_ ?_ <;>
    simp [supply, held, split] at served tokens ⊢ <;> omega

/-! ### Calls and gates -/

theorem submit (rests : x.Rests) : Sound config { x with call := 1 } where
  core := sound.core
  crew := sound.crew
  tokens := by
    have room : 1 ≤ config.maxQueueSize := valid.queue
    simpa [sound.ready_of_rests rests, rests.moving, rests.due] using room
  served := sound.served
  one := Nat.le_refl 1
  lone _ :=
    ⟨sound.ready_of_rests rests, rests.out, rests.taken, rests.moving, rests.due, rests.done⟩
  course := by
    have course := sound.course
    rw [rests.course] at course
    change At config { x with call := 1 } x.course
    rw [rests.course]
    exact course

theorem release {rest : Multiset Station} {n : Nat} (rests : x.Rests)
    (few : n ≤ config.maxQueueSize) (split : x.crew = .replicate n .blocked + rest) :
    Sound config { x with crew := .replicate n .moving + rest } := by
  have ready := sound.ready_of_rests rests
  have moving := rests.moving
  have due := rests.due
  rw [split, Multiset.count_add] at moving due
  have moving : rest.count .moving = 0 := by omega
  have due : rest.count .due = 0 := by omega
  refine sound.shift valid rests.call (by simp [split]) ?_ ?_ ?_ ?_ <;>
    simp [supply, held, split, ready, Multiset.count_replicate, moving, due] <;> omega

/-! ### Steps of a pass -/

theorem resume (free : x.course = none) (due : 0 < x.crew.count .due) :
    Sound config { x with course := some .begun } := by
  have course := sound.course
  rw [free] at course
  exact sound.goOn valid ⟨Tight.mono valid course (Nat.sub_le _ _) (Nat.le_refl _), by omega⟩

theorem count {active : Nat} (course : x.course = some .begun)
    (least : x.crew.count .blocked ≤ active)
    (most : active ≤ x.crew.count .blocked + x.crew.count .moving) :
    Sound config { x with course := some (.counted active) } := by
  have now := sound.course
  rw [course] at now
  obtain ⟨older, passing⟩ := now
  refine sound.goOn valid ⟨older, passing, ?_, fun _ => least⟩
  unfold supply held
  omega

/-- The ready queue is within its bound whenever a pass reads its length. -/
theorem read {active : Nat} (course : x.course = some (.counted active)) :
    Sound config { x with course := some (.read active x.ready) } := by
  have now := sound.course
  have tokens := sound.tokens
  rw [course] at now
  exact sound.goOn valid ⟨now.1, now.2, by omega⟩

theorem keep {active queued : Nat} (course : x.course = some (.read active queued))
    (same : x.core = tunedCoreSize x.backlog config) :
    Sound config
      { x with course := some (.tuned active queued (tunedCoreSize x.backlog config)) } := by
  have now := sound.course
  rw [course] at now
  exact sound.goOn valid ⟨now.1, now.2.1, now.2.2, rfl, same⟩

theorem tune {active queued : Nat} (course : x.course = some (.read active queued)) :
    Sound config
      { x with course := some (.tuning active queued (tunedCoreSize x.backlog config)) } := by
  have now := sound.course
  rw [course] at now
  exact sound.goOn valid ⟨now.1, now.2.1, now.2.2, rfl⟩

theorem setCore {active queued target new : Nat}
    (course : x.course = some (.tuning active queued target))
    (within : new = 0 ∨ x.crew.card + new ≤ target) :
    Sound config { x with core := target, crew := .replicate new .idle + x.crew
                          course := some (.tuned active queued target) } := by
  have now := sound.course
  rw [course] at now
  obtain ⟨older, reads, room, tuned⟩ := now
  have most : target ≤ config.maxCoreSize := tuned ▸ tunedCoreSize_le_max valid.ordered _
  have crew := sound.crew
  have served := sound.served
  refine ⟨⟨tuned ▸ tunedCoreSize_pos valid _, most⟩, ?_, ?_, ?_, sound.one, ?_, ?_⟩
  · simp only [Multiset.card_add, Multiset.card_replicate]
    omega
  · simpa [Multiset.count_replicate] using sound.tokens
  · simp only [Multiset.count_add, Multiset.count_replicate]
    omega
  · simpa [Multiset.count_replicate] using sound.lone
  · have supply : Sheet.supply { x with core := target, crew := .replicate new .idle + x.crew }
        = x.supply := by
      simp [Sheet.supply, held, Multiset.count_replicate]
    refine ⟨?_, ?_, room, tuned, rfl⟩
    · exact Tight.mono valid older (Nat.le_refl _) supply.ge
    · exact reads.mono rfl supply.ge (by simp) (by simp [Multiset.count_replicate])

theorem takeHead {active queued target backlog : Nat}
    (course : x.course = some (.tuned active queued target)) (below : active < target)
    (waits : x.backlog = backlog + 1) :
    Sound config { x with backlog, course := some .inHand } := by
  have now := sound.course
  rw [course] at now
  obtain ⟨older, reads, -, -, core⟩ := now
  have one := sound.one
  refine ⟨sound.core, sound.crew, sound.tokens, sound.served, one, sound.lone, ?_,
    reads.passing, ?_⟩
  · exact Tight.mono valid older (by simp only [waits]; omega) (Nat.le_refl _)
  · intro calls
    exact core ▸ Nat.lt_of_le_of_lt (reads.least calls) below

/-! ### Every step -/

theorem step (step : Step config x x') : Sound config x' := by
  cases step with
  | submit rests => exact sound.submit valid rests
  | release n rests few split => exact sound.release valid rests few split
  | push free one => exact sound.push free one
  | resume free due => exact sound.resume valid free due
  | count active course least most => exact sound.count valid course least most
  | read active course => exact sound.read valid course
  | keep active queued course same => exact sound.keep valid course same
  | tune active queued course => exact sound.tune valid course
  | setCore active queued target new course within => exact sound.setCore valid course within
  | close active queued target course shut decides => exact sound.close course shut decides
  | empty active queued target course nothing decides => exact sound.empty nothing decides
  | takeHead active queued target course below waits =>
      exact sound.takeHead valid course below waits
  | queue course core decides => exact sound.queue course core decides
  | start course core decides holds => exact sound.start course core decides holds
  | leave course =>
      have now := sound.course
      rw [course] at now
      exact sound.goOn valid (o := none) now
  | receive split waits holds => exact sound.receive valid split waits holds
  | begin split => exact sound.move valid split (.inl ⟨rfl, rfl⟩)
  | ran split => exact sound.move valid split (.inr (.inl ⟨rfl, rfl⟩))
  | finish split => exact sound.move valid split (.inr (.inr (.inl ⟨rfl, rfl⟩)))
  | timeOut split nothing patient => exact sound.timeOut valid split nothing patient
  | stay split => exact sound.move valid split (.inr (.inr (.inr ⟨rfl, rfl⟩)))
  | retire split => exact sound.retire valid split

end Sound

end Sheet

end TwoTier
