import TwoTier.Buffer.Calls
import TwoTier.Pool.HandDriven

/-!
A buffering executor over a pool that is driven by hand: held jobs are taken out and finished on
whatever thread asks.
-/

namespace TwoTier.Scene

variable {ν : Type}

/-- Takes held job number `index` out and finishes it, `count` times or until there is none; says
how many were finished. -/
def finishHeld (me : ThreadId) (mode : FinishMode) (index : Nat) :
    Nat → Scene (HandPool (Task ν)) ν → Nat × Scene (HandPool (Task ν)) ν
  | 0, s => (0, s)
  | count + 1, s =>
    match s.exec.pool.take? index with
    | none => (0, s)
    | some (t, pool) =>
      let s := { s with exec := { s.exec with pool } }
      let (n, s) := finishHeld me mode index count (s.finishAll me mode [t])
      (n + 1, s)

end TwoTier.Scene
