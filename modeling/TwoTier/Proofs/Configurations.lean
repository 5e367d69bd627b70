import TwoTier.Proofs.Bands
import TwoTier.Proofs.Numerals

/-!
The configuration of a program that is given none.

It is what the environment asks for if that can be read and is valid, and else what the machine
suggests (`Config.ambient`). Either way it is valid: a machine suggests a valid configuration
however few hardware threads it has, and what the environment asks for is validated as a whole.
Its sizes are machine words, since other numerals are not read, as long as eight times the hardware
threads are one.
-/

namespace TwoTier

theorem bind_ok {ε α β : Type} {x : Except ε α} {f : α → Except ε β} {b : β}
    (h : x >>= f = .ok b) : ∃ a, x = .ok a ∧ f a = .ok b := by
  cases x with
  | error why => contradiction
  | ok a => exact ⟨a, rfl, h⟩

theorem Environment.number?_lt {env : Environment} {name : String} {n : Nat}
    (read : env.number? name = .ok (some n)) : n < wordLimit := by
  unfold number? at read
  split at read
  · simp at read
  · split at read
    · rename_i word
      cases read
      obtain ⟨-, -, -, small⟩ := Text.readWord_trim.mp word
      exact small
    · contradiction

namespace Config

/-! ### Validity -/

theorem Valid.validate {c : Config} (h : c.Valid) : c.validate = .ok () := by
  have ordered : ¬ (c.coreSize > c.biggerCoreSize ∨ c.biggerCoreSize > c.maxCoreSize) :=
    not_or.mpr ⟨Nat.not_lt.mpr h.bigger, Nat.not_lt.mpr h.max⟩
  unfold Config.validate
  rw [if_neg (Nat.ne_of_gt h.core), if_neg ordered, if_neg (Nat.ne_of_gt h.queue),
    if_neg (Bool.eq_false_iff.mp h.named)]

theorem valid_forParallelism (parallelism : Nat) : (forParallelism parallelism).Valid := by
  constructor <;> dsimp only [forParallelism]
  · omega
  · omega
  · omega
  · decide
  · decide

theorem ofEnvironment_ok {parallelism : Nat} {env : Environment} {c : Config}
    (h : ofEnvironment parallelism env = .ok c) :
    env.override (forParallelism parallelism) = .ok c ∧ c.Valid := by
  obtain ⟨config, overridden, checked⟩ := bind_ok h
  obtain ⟨⟨⟩, valid, same⟩ := bind_ok checked
  cases same
  exact ⟨overridden, valid_of_validate valid⟩

/-- What the environment asks for, or else what the machine suggests. -/
def ambient (parallelism : Nat) (env : Environment) : Config :=
  (ofEnvironment parallelism env).toOption.getD (forParallelism parallelism)

theorem valid_ambient (parallelism : Nat) (env : Environment) :
    (ambient parallelism env).Valid := by
  unfold ambient
  cases asked : ofEnvironment parallelism env with
  | error why => exact valid_forParallelism parallelism
  | ok c => exact (ofEnvironment_ok asked).2

/-! ### Machine words -/

/-- The numbers of a configuration fit into machine words, its keep-alive into a duration. -/
structure Fits (c : Config) : Prop where
  core : c.coreSize < wordLimit
  bigger : c.biggerCoreSize < wordLimit
  max : c.maxCoreSize < wordLimit
  queue : c.maxQueueSize < wordLimit
  keepAlive : c.keepAlive.total ≤ Duration.longest.total

theorem fits_forParallelism {parallelism : Nat} (small : 8 * parallelism < wordLimit) :
    (forParallelism parallelism).Fits := by
  have limit : 8 < wordLimit := by decide
  constructor <;> dsimp only [forParallelism]
  · omega
  · omega
  · omega
  · decide
  · decide

theorem fits_override {env : Environment} {base c : Config} (fits : base.Fits)
    (h : env.override base = .ok c) : c.Fits := by
  obtain ⟨core, core_read, h⟩ := bind_ok h
  obtain ⟨bigger, bigger_read, h⟩ := bind_ok h
  obtain ⟨max, max_read, h⟩ := bind_ok h
  obtain ⟨queue, queue_read, h⟩ := bind_ok h
  obtain ⟨keepAlive, keepAlive_read, h⟩ := bind_ok h
  obtain ⟨debug, -, h⟩ := bind_ok h
  cases h
  have word {name : String} {read : Option Nat} {field : Nat} (answer : env.number? name = .ok read)
      (old : field < wordLimit) : read.getD field < wordLimit := by
    cases read with
    | none => exact old
    | some n => exact Environment.number?_lt answer
  refine ⟨word core_read fits.core, word bigger_read fits.bigger, word max_read fits.max,
    word queue_read fits.queue, ?_⟩
  cases keepAlive with
  | none => exact fits.keepAlive
  | some secs =>
      have small := Environment.number?_lt keepAlive_read
      have longest : Duration.longest.total = wordLimit * nanosPerSecond - 1 := rfl
      change secs * nanosPerSecond + 0 ≤ _
      rw [longest]
      have second : 0 < nanosPerSecond := by decide
      have whole := Nat.mul_le_mul_right nanosPerSecond (Nat.succ_le_of_lt small)
      rw [Nat.succ_mul] at whole
      omega

theorem fits_ambient {parallelism : Nat} (small : 8 * parallelism < wordLimit) (env : Environment) :
    (ambient parallelism env).Fits := by
  unfold ambient
  cases asked : ofEnvironment parallelism env with
  | error why => exact fits_forParallelism small
  | ok c => exact fits_override (fits_forParallelism small) (ofEnvironment_ok asked).1

end Config

end TwoTier
