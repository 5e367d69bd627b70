import TwoTier.Config

/-!
How many core workers a backlog calls for.

The backlog's length falls into one of three bands, counted in ready queues, and each band has its
core size in the configuration. The two thresholds are computed with saturating multiplication, so
a huge queue bound makes a band unreachable and never wraps.
-/

namespace TwoTier

inductive CoreBand where
  /-- At most ten ready queues. -/
  | steady
  /-- More than ten ready queues, at most a hundred. -/
  | bigger
  /-- More than a hundred ready queues. -/
  | max
deriving DecidableEq, Repr, Inhabited

namespace CoreBand

/-- The place of a band in the order of the bands. -/
def rank : CoreBand → Nat
  | .steady => 0
  | .bigger => 1
  | .max => 2

instance : LE CoreBand := ⟨fun a b => a.rank ≤ b.rank⟩

instance : LT CoreBand := ⟨fun a b => a.rank < b.rank⟩

instance (a b : CoreBand) : Decidable (a ≤ b) := inferInstanceAs (Decidable (a.rank ≤ b.rank))

instance (a b : CoreBand) : Decidable (a < b) := inferInstanceAs (Decidable (a.rank < b.rank))

/-- The band of a backlog, the highest threshold first. -/
def ofBacklog (backlog : Nat) (config : Config) : CoreBand :=
  if backlog > saturatingMul config.maxQueueSize 100 then .max
  else if backlog > saturatingMul config.maxQueueSize 10 then .bigger
  else .steady

def coreSize (config : Config) : CoreBand → Nat
  | .steady => config.coreSize
  | .bigger => config.biggerCoreSize
  | .max => config.maxCoreSize

def name : CoreBand → String
  | .steady => "Steady"
  | .bigger => "Bigger"
  | .max => "Max"

end CoreBand

/-- The core size for `backlog` waiting tasks. -/
def tunedCoreSize (backlog : Nat) (config : Config) : Nat :=
  (CoreBand.ofBacklog backlog config).coreSize config

end TwoTier
