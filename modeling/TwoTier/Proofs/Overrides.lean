import Mathlib.Order.Bounds.Basic
import TwoTier.Burst
import TwoTier.Proofs.Configurations

/-!
Options laid over a configuration.

A core size given on the command line moves two other sizes: each of them becomes the least size
that is neither below what it was nor below the size under it (`Overridden`). Over a valid
configuration this leaves a single configuration, in which the sizes are in order again. So only a
core size of zero and a queue bound of zero are refused, beside what the environment itself fails
with (`BurstOptions.config_exact`).
-/

namespace TwoTier

/-- The options are laid over `base`: what is given is taken, and every other size is raised only
as far as it must be. -/
structure Overridden (o : BurstOptions) (base c : Config) : Prop where
  core : c.coreSize = o.coreSize.getD base.coreSize
  bigger : IsLeast {n | base.biggerCoreSize ≤ n ∧ c.coreSize ≤ n} c.biggerCoreSize
  max : IsLeast {n | base.maxCoreSize ≤ n ∧ c.biggerCoreSize ≤ n} c.maxCoreSize
  queue : c.maxQueueSize = o.maxQueueSize.getD base.maxQueueSize
  keepAlive : c.keepAlive = (o.keepAliveSecs.map .ofSeconds).getD base.keepAlive
  name : c.threadName = base.threadName
  debug : c.debug = true ↔ o.debug = true ∨ base.debug = true

section

variable {o : BurstOptions} {base c c' : Config}

theorem isLeast_max (m n : Nat) : IsLeast {k | m ≤ k ∧ n ≤ k} (max m n) :=
  ⟨⟨Nat.le_max_left m n, Nat.le_max_right m n⟩, fun _ above => Nat.max_le.mpr above⟩

/-- A size that is large enough stays. -/
theorem isLeast_of_le {m n : Nat} (enough : n ≤ m) : IsLeast {k | m ≤ k ∧ n ≤ k} m :=
  ⟨⟨Nat.le_refl m, enough⟩, fun _ above => above.1⟩

theorem overridden_layOver (valid : base.Valid) : Overridden o base (o.layOver base) := by
  have debug : (o.debug || base.debug) = true ↔ o.debug = true ∨ base.debug = true :=
    Bool.or_eq_true_iff
  unfold BurstOptions.layOver
  cases given : o.coreSize with
  | none =>
      exact
        { core := by rw [given]; rfl
          bigger := isLeast_of_le valid.bigger
          max := isLeast_of_le valid.max
          queue := rfl
          keepAlive := rfl
          name := rfl
          debug := debug }
  | some core =>
      exact
        { core := by rw [given]; rfl
          bigger := isLeast_max _ _
          max := isLeast_max _ _
          queue := rfl
          keepAlive := rfl
          name := rfl
          debug := debug }

namespace Overridden

theorem unique (h : Overridden o base c) (h' : Overridden o base c') : c = c' := by
  have core : c.coreSize = c'.coreSize := h.core.trans h'.core.symm
  have bigger : c.biggerCoreSize = c'.biggerCoreSize :=
    h.bigger.unique (by rw [core]; exact h'.bigger)
  have max : c.maxCoreSize = c'.maxCoreSize := h.max.unique (by rw [bigger]; exact h'.max)
  have queue : c.maxQueueSize = c'.maxQueueSize := h.queue.trans h'.queue.symm
  have keepAlive : c.keepAlive = c'.keepAlive := h.keepAlive.trans h'.keepAlive.symm
  have name : c.threadName = c'.threadName := h.name.trans h'.name.symm
  have debug : c.debug = c'.debug := Bool.eq_iff_iff.mpr (h.debug.trans h'.debug.symm)
  cases c
  cases c'
  cases core
  cases bigger
  cases max
  cases queue
  cases keepAlive
  cases name
  cases debug
  rfl

/-- Only an option can spoil a valid configuration. -/
theorem valid_iff (h : Overridden o base c) (valid : base.Valid) :
    c.Valid ↔ o.coreSize ≠ some 0 ∧ o.maxQueueSize ≠ some 0 := by
  have positive {given : Option Nat} {old : Nat} (was : 0 < old) :
      0 < given.getD old ↔ given ≠ some 0 := by
    cases given with
    | none => simp [was]
    | some n => simp [Nat.pos_iff_ne_zero]
  constructor
  · intro valid'
    constructor
    · exact (positive valid.core).mp (h.core ▸ valid'.core)
    · exact (positive valid.queue).mp (h.queue ▸ valid'.queue)
  · rintro ⟨core, queue⟩
    exact
      { core := h.core ▸ (positive valid.core).mpr core
        bigger := h.bigger.1.2
        max := h.max.1.2
        queue := h.queue ▸ (positive valid.queue).mpr queue
        named := h.name ▸ valid.named }

end Overridden
end

namespace BurstOptions

variable {parallelism : Nat} {env : Environment} {o : BurstOptions} {c : Config}

theorem config_eq_ok : o.config parallelism env = .ok c ↔
    ∃ base, Config.ofEnvironment parallelism env = .ok base ∧ Overridden o base c ∧ c.Valid := by
  constructor
  · intro h
    obtain ⟨base, asked, h⟩ := bind_ok h
    obtain ⟨⟨⟩, valid', same⟩ := bind_ok h
    cases same
    have valid := (Config.ofEnvironment_ok asked).2
    exact ⟨base, asked, overridden_layOver valid, Config.valid_of_validate valid'⟩
  · rintro ⟨base, asked, laid, valid'⟩
    have valid := (Config.ofEnvironment_ok asked).2
    obtain rfl := laid.unique (overridden_layOver valid)
    unfold config
    rw [asked]
    change (o.layOver base).validate >>= _ = _
    rw [valid'.validate]
    rfl

/-- The configuration of a burst. There is one exactly if the environment gives one and neither
the core size nor the queue bound that is asked for is zero, and then it is the environment's with
the options laid over it. -/
theorem config_exact (parallelism : Nat) (env : Environment) (o : BurstOptions) :
    (∀ c, o.config parallelism env = .ok c ↔
      o.coreSize ≠ some 0 ∧ o.maxQueueSize ≠ some 0 ∧
        ∃ base, Config.ofEnvironment parallelism env = .ok base ∧ Overridden o base c ∧
          c.coreSize ≤ c.biggerCoreSize ∧ c.biggerCoreSize ≤ c.maxCoreSize) ∧
    ((∃ c, o.config parallelism env = .ok c) ↔
      (∃ base, Config.ofEnvironment parallelism env = .ok base) ∧
        o.coreSize ≠ some 0 ∧ o.maxQueueSize ≠ some 0) := by
  simp only [config_eq_ok]
  constructor
  · intro c
    constructor
    · rintro ⟨base, asked, laid, valid'⟩
      obtain ⟨core, queue⟩ := (laid.valid_iff (Config.ofEnvironment_ok asked).2).mp valid'
      exact ⟨core, queue, base, asked, laid, valid'.bigger, valid'.max⟩
    · rintro ⟨core, queue, base, asked, laid, -⟩
      have valid := (Config.ofEnvironment_ok asked).2
      exact ⟨base, asked, laid, (laid.valid_iff valid).mpr ⟨core, queue⟩⟩
  · constructor
    · rintro ⟨c, base, asked, laid, valid'⟩
      exact ⟨⟨base, asked⟩, (laid.valid_iff (Config.ofEnvironment_ok asked).2).mp valid'⟩
    · rintro ⟨⟨base, asked⟩, given⟩
      have valid := (Config.ofEnvironment_ok asked).2
      have laid : Overridden o base (o.layOver base) := overridden_layOver valid
      exact ⟨o.layOver base, base, asked, laid, (laid.valid_iff valid).mpr given⟩

end BurstOptions

end TwoTier
