import TwoTier.Tuning

/-!
The core size follows the backlog.

A longer backlog never falls into a lower band, and a longer ready queue never raises the band
(`CoreBand.ofBacklog_le`). With core sizes in order, a longer backlog so never calls for fewer
workers, and what it calls for lies between the two ends of the configuration.

The thresholds stop at the largest word, each from another queue bound on. No backlog is longer than
that word, so a threshold that has stopped is out of reach as the true one is: the band is the one
that ten and a hundred ready queues give in plain numbers (`CoreBand.ofBacklog_eq_iff`).
-/

namespace TwoTier

/-- What validation establishes. -/
structure Config.Valid (c : Config) : Prop where
  core : 0 < c.coreSize
  bigger : c.coreSize ≤ c.biggerCoreSize
  max : c.biggerCoreSize ≤ c.maxCoreSize
  queue : 0 < c.maxQueueSize
  named : c.threadName.isEmpty = false

/-- The core sizes of the bands are in order. -/
structure Config.Ordered (c : Config) : Prop where
  bigger : c.coreSize ≤ c.biggerCoreSize
  max : c.biggerCoreSize ≤ c.maxCoreSize

theorem Config.Valid.ordered {c : Config} (h : c.Valid) : c.Ordered := ⟨h.bigger, h.max⟩

theorem Config.valid_of_validate {c : Config} (h : c.validate = .ok ()) : c.Valid := by
  unfold validate at h
  split at h
  · contradiction
  · rename_i core
    split at h
    · contradiction
    · rename_i sizes
      obtain ⟨bigger, max⟩ := not_or.mp sizes
      split at h
      · contradiction
      · rename_i queue
        split at h
        · contradiction
        · rename_i named
          exact ⟨Nat.pos_of_ne_zero core, Nat.le_of_not_lt bigger, Nat.le_of_not_lt max,
            Nat.pos_of_ne_zero queue, Bool.eq_false_iff.mpr named⟩

theorem saturatingMul_mono {a b c d : Nat} (h : a ≤ b) (k : c ≤ d) :
    saturatingMul a c ≤ saturatingMul b d := by
  unfold saturatingMul
  have := Nat.mul_le_mul h k
  omega

/-- A word is beyond a product that stops at the largest word exactly if it is beyond the whole
product. -/
theorem saturatingMul_lt_iff {a b n : Nat} (word : n < wordLimit) :
    saturatingMul a b < n ↔ a * b < n := by
  unfold saturatingMul wordMax
  omega

namespace CoreBand

/-- The bands in plain numbers: how a backlog compares with ten and a hundred ready queues. -/
def Covers (queue backlog : Nat) : CoreBand → Prop
  | .steady => backlog ≤ 10 * queue
  | .bigger => 10 * queue < backlog ∧ backlog ≤ 100 * queue
  | .max => 100 * queue < backlog

/-- No backlog is in two bands. -/
theorem Covers.unique {queue backlog : Nat} {a b : CoreBand} (ha : a.Covers queue backlog)
    (hb : b.Covers queue backlog) : a = b := by
  cases a <;> cases b <;> simp only [Covers, reduceCtorEq] at ha hb ⊢ <;> omega

section Band

variable {config : Config} {m n : Nat}

theorem covers_ofBacklog (word : n < wordLimit) :
    (ofBacklog n config).Covers config.maxQueueSize n := by
  have hundred := saturatingMul_lt_iff (a := config.maxQueueSize) (b := 100) word
  have ten := saturatingMul_lt_iff (a := config.maxQueueSize) (b := 10) word
  unfold ofBacklog
  split
  · change 100 * config.maxQueueSize < n
    omega
  · split
    · change 10 * config.maxQueueSize < n ∧ n ≤ 100 * config.maxQueueSize
      omega
    · change n ≤ 10 * config.maxQueueSize
      omega

theorem ofBacklog_eq_iff (word : n < wordLimit) {band : CoreBand} :
    ofBacklog n config = band ↔ band.Covers config.maxQueueSize n :=
  ⟨fun same => same ▸ covers_ofBacklog word, (covers_ofBacklog word).unique⟩

/-- A shorter backlog before a ready queue at least as long is in no higher band. -/
theorem ofBacklog_le {c d : Config} (fewer : m ≤ n) (room : d.maxQueueSize ≤ c.maxQueueSize) :
    ofBacklog m c ≤ ofBacklog n d := by
  have hundred := saturatingMul_mono room (Nat.le_refl 100)
  have ten := saturatingMul_mono room (Nat.le_refl 10)
  change (ofBacklog m c).rank ≤ (ofBacklog n d).rank
  unfold ofBacklog
  split
  · apply Nat.le_of_eq
    rw [if_pos (by omega)]
  · split
    · split
      · decide
      · apply Nat.le_of_eq
        rw [if_pos (by omega)]
    · exact Nat.zero_le _

theorem coreSize_mono (sizes : config.Ordered) {a b : CoreBand} (h : a ≤ b) :
    a.coreSize config ≤ b.coreSize config := by
  have bigger := sizes.bigger
  have max := sizes.max
  cases a <;> cases b <;> simp only [coreSize] <;> first | omega | exact absurd h (by decide)

end Band

end CoreBand

section Tuned

variable {config : Config}

theorem tunedCoreSize_mono (sizes : config.Ordered) {m n : Nat} (h : m ≤ n) :
    tunedCoreSize m config ≤ tunedCoreSize n config :=
  CoreBand.coreSize_mono sizes (CoreBand.ofBacklog_le h (Nat.le_refl _))

theorem coreSize_le_tunedCoreSize (sizes : config.Ordered) (n : Nat) :
    config.coreSize ≤ tunedCoreSize n config :=
  CoreBand.coreSize_mono (a := .steady) sizes (Nat.zero_le _)

theorem tunedCoreSize_le_max (sizes : config.Ordered) (n : Nat) :
    tunedCoreSize n config ≤ config.maxCoreSize := by
  refine CoreBand.coreSize_mono (b := .max) sizes ?_
  cases CoreBand.ofBacklog n config <;> decide

theorem tunedCoreSize_pos (valid : config.Valid) (n : Nat) : 0 < tunedCoreSize n config :=
  Nat.lt_of_lt_of_le valid.core (coreSize_le_tunedCoreSize valid.ordered n)

/-- For core sizes in order and every queue bound: a longer backlog is in no lower band and calls
for no fewer core workers, what it calls for lies between the ends, a longer ready queue raises no
band, and thresholds and bands are those of the plain numbers. -/
theorem bands_monotone_exact (sizes : config.Ordered) {a b : Nat} (fewer : a ≤ b)
    (word : b < wordLimit) :
    CoreBand.ofBacklog a config ≤ CoreBand.ofBacklog b config ∧
      config.coreSize ≤ tunedCoreSize a config ∧
      tunedCoreSize a config ≤ tunedCoreSize b config ∧
      tunedCoreSize b config ≤ config.maxCoreSize ∧
      (∀ longer, config.maxQueueSize ≤ longer →
        CoreBand.ofBacklog a { config with maxQueueSize := longer }
          ≤ CoreBand.ofBacklog a config) ∧
      (saturatingMul config.maxQueueSize 10 < a ↔ 10 * config.maxQueueSize < a) ∧
      (saturatingMul config.maxQueueSize 100 < a ↔ 100 * config.maxQueueSize < a) ∧
      ∀ band, CoreBand.ofBacklog a config = band ↔ band.Covers config.maxQueueSize a := by
  have small : a < wordLimit := Nat.lt_of_le_of_lt fewer word
  refine ⟨CoreBand.ofBacklog_le fewer (Nat.le_refl _), coreSize_le_tunedCoreSize sizes a,
    tunedCoreSize_mono sizes fewer, tunedCoreSize_le_max sizes b, ?_, ?_, ?_, ?_⟩
  · intro longer room
    exact CoreBand.ofBacklog_le (Nat.le_refl a) room
  · rw [saturatingMul_lt_iff small, Nat.mul_comm]
  · rw [saturatingMul_lt_iff small, Nat.mul_comm]
  · exact fun band => CoreBand.ofBacklog_eq_iff small

end Tuned

/-- A hundred ready queues of a sixteenth of all words are more than a word holds, and ten are not:
the longest backlog is in the middle band. Before a ready queue twice as long both thresholds have
stopped, and it is in the lowest. -/
theorem bands_monotone_exact_beyond_word :
    let config : Config := { Config.forParallelism 4 with maxQueueSize := wordLimit / 16 }
    let longer : Config := { config with maxQueueSize := wordLimit / 8 }
    config.Ordered ∧ 10 * (wordLimit / 16) ≤ wordMax ∧ wordMax < wordLimit ∧
      CoreBand.ofBacklog (10 * (wordLimit / 16)) config = .steady ∧
      CoreBand.ofBacklog wordMax config = .bigger ∧
      tunedCoreSize (10 * (wordLimit / 16)) config ≤ tunedCoreSize wordMax config ∧
      CoreBand.ofBacklog wordMax longer = .steady ∧
      CoreBand.ofBacklog wordMax longer ≤ CoreBand.ofBacklog wordMax config := by
  intro config longer
  have sizes : config.Ordered := ⟨by decide, by decide⟩
  have fewer : 10 * (wordLimit / 16) ≤ wordMax := by decide
  have word : wordMax < wordLimit := by decide
  obtain ⟨-, -, more, -, -, -, -, short⟩ := bands_monotone_exact sizes fewer word
  obtain ⟨-, -, -, -, lower, -, -, long⟩ := bands_monotone_exact sizes (Nat.le_refl wordMax) word
  obtain ⟨-, -, -, -, -, -, -, roomy⟩ :=
    bands_monotone_exact (show longer.Ordered from ⟨by decide, by decide⟩) (Nat.le_refl wordMax)
      word
  exact ⟨sizes, fewer, word, (short .steady).mpr (Nat.le_refl (10 * (wordLimit / 16))),
    (long .bigger).mpr ⟨by decide, by decide⟩, more,
    (roomy .steady).mpr (show wordMax ≤ 10 * (wordLimit / 8) by decide),
    lower (wordLimit / 8) (by decide)⟩

end TwoTier
