import TwoTier.Pool

/-!
A pool whose jobs move only when somebody takes them out.

Accepted jobs are held in order. The readings are either set by hand or follow the number of held
jobs, and refusals can be ordered in advance. Nothing runs by itself.
-/

namespace TwoTier

/-- A reading that is set by hand or counts the held jobs. -/
inductive Reading where
  | held
  | fixed (n : Nat)
deriving DecidableEq, Repr

structure HandPool (J : Type) where
  /-- Accepted jobs that nobody has taken, oldest first. -/
  held : List J
  active : Reading
  queued : Reading
  core : Nat
  /-- Whether a change of the core size has no effect. -/
  fixedCore : Bool
  /-- How many of the next offers are refused. -/
  reject : Nat
  rejectWith : Error
  acceptWhenShut : Bool
  /-- Whether stopping at once hands back the held jobs. -/
  drain : Bool
  shut : Bool
  keepAlive : Duration

namespace HandPool

variable {J : Type}

/-- A pool that holds nothing, counts its held jobs as active and refuses nothing until shut. -/
def new (core : Nat) : HandPool J :=
  { held := [], active := .held, queued := .fixed 0, core, fixedCore := false, reject := 0,
    rejectWith := .rejected (.other "manual pool"), acceptWhenShut := false, drain := false,
    shut := false, keepAlive := .ofSeconds 30 }

def read (p : HandPool J) : Reading → Nat
  | .held => p.held.length
  | .fixed n => n

/-- Ordered refusals come first, then the refusal of a shut pool. -/
def offer (job : J) (p : HandPool J) : Option Error × HandPool J :=
  if 0 < p.reject then (some p.rejectWith, { p with reject := p.reject - 1 })
  else if p.shut && !p.acceptWhenShut then (some (.rejected (.other "manual pool")), p)
  else (none, { p with held := p.held ++ [job] })

def setCoreSize (n : Nat) (p : HandPool J) : HandPool J :=
  if p.fixedCore then p else { p with core := n }

def shutdown (p : HandPool J) : HandPool J := { p with shut := true }

def shutdownNow (p : HandPool J) : List J × HandPool J :=
  if p.drain then (p.held, { p with shut := true, held := [] }) else ([], p.shutdown)

/-- Takes held job number `at` out. -/
def take? (index : Nat) (p : HandPool J) : Option (J × HandPool J) :=
  p.held[index]?.map fun job => (job, { p with held := p.held.eraseIdx index })

instance : WorkerPool (HandPool J) J where
  offer := offer
  activeCount p := p.read p.active
  queueLength p := p.read p.queued
  queueCapacity _ := 10
  workerCount p := p.read p.active
  coreSize p := p.core
  setCoreSize := setCoreSize
  keepAlive p := p.keepAlive
  shutdown := shutdown
  shutdownNow := shutdownNow
  isShutdown p := p.shut
  isTerminated p := p.shut && p.held.isEmpty

section Lemmas

variable {p q : HandPool J} {job : J}

/-- A job that is offered goes to the back of those that are held, or it is refused. -/
theorem offer_cases (job : J) (p : HandPool J) :
    p.offer job = (none, { p with held := p.held ++ [job] }) ∨
      ∃ why n, p.offer job = (some why, { p with reject := n }) := by
  unfold offer
  split
  · exact .inr ⟨_, _, rfl⟩
  · split
    · exact .inr ⟨_, p.reject, rfl⟩
    · exact .inl rfl

/-- A job that is taken out was held somewhere, and the others stay in order. -/
theorem held_of_take? {index : Nat} (taken : p.take? index = some (job, q)) :
    ∃ before after, p.held = before ++ job :: after ∧ q = { p with held := before ++ after } := by
  obtain ⟨found, there, same⟩ := Option.map_eq_some_iff.mp taken
  obtain ⟨rfl, rfl⟩ := Prod.mk.inj same
  obtain ⟨inside, rfl⟩ := List.getElem?_eq_some_iff.mp there
  refine ⟨p.held.take index, p.held.drop (index + 1), ?_, ?_⟩
  · rw [List.getElem_cons_drop, List.take_append_drop]
  · rw [List.eraseIdx_eq_take_drop_succ]

end Lemmas

end HandPool

end TwoTier
