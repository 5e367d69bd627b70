import TwoTier.CommandLine
import TwoTier.Proofs.Overrides
import TwoTier.Proofs.ServiceSteps

/-!
Which waits have a deadline.

A deadline is a sum of a moment and a length of time, and the clock holds only half of the seconds
that a length can have. A pool computes one for every wait, whatever its state, so a wait that is
long enough panics. A burst limits what it allows itself to the longest duration, which is beyond
the clock already: that limit never makes a difference to whether the burst has a deadline
(`BurstOptions.limit_le_budget`). Once there is one, what remains until then can always be waited
for. `deadlines_panic_iff` says all of this, and which calls of the program fail so.
-/

namespace TwoTier

namespace Instant

variable {t : Instant} {d : Duration}

theorem add?_eq_none : t.add? d = none ↔ limit ≤ t.nanos + d.total := by
  unfold add?
  split
  · rename_i within
    exact iff_of_false nofun (Nat.not_le.mpr within)
  · rename_i beyond
    exact iff_of_true rfl (Nat.not_lt.mp beyond)

theorem add?_eq_some {u : Instant} (sum : t.add? d = some u) :
    u.nanos = t.nanos + d.total ∧ u.nanos < limit := by
  obtain ⟨within, same⟩ := Option.ite_none_right_eq_some.mp sum
  cases same
  exact ⟨rfl, within⟩

theorem limit_le_longest : limit ≤ Duration.longest.total := by
  decide

end Instant

namespace ThreadPool

variable {J : Type} {p : ThreadPool J} {now : Instant} {timeout : Duration}

theorem awaitTermination_eq_none :
    p.awaitTermination now timeout = none ↔ Instant.limit ≤ now.nanos + timeout.total := by
  rw [awaitTermination, Option.map_eq_none_iff, Instant.add?_eq_none]

theorem awaitTermination_of_within (within : now.nanos + timeout.total < Instant.limit) :
    p.awaitTermination now timeout = some p.isTerminated := by
  rw [awaitTermination, Instant.add?, if_pos within, Option.map_some]

end ThreadPool

namespace BurstOptions

variable {o : BurstOptions} {start deadline now : Instant}

/-- The time that all tasks take one after the other, and a minute. -/
def allowance (o : BurstOptions) : Nat :=
  o.taskTime.total * min o.tasks 4294967295 + (Duration.ofSeconds 60).total

/-- What is cut off the time of a burst is beyond the clock anyway. -/
theorem limit_le_budget (before : Nat) :
    Instant.limit ≤ before + o.budget.total ↔ Instant.limit ≤ before + o.allowance := by
  have longest := Instant.limit_le_longest
  unfold budget allowance Duration.saturatingAdd Duration.saturatingScale
  dsimp only
  omega

theorem deadline?_eq_none :
    o.deadline? start = none ↔ Instant.limit ≤ start.nanos + o.allowance := by
  rw [deadline?, Instant.add?_eq_none, limit_le_budget]

/-- What remains until a deadline is not beyond the clock. -/
theorem since_within (due : o.deadline? start = some deadline)
    (running : now.nanos < Instant.limit) :
    now.nanos + (deadline.since now).total < Instant.limit := by
  obtain ⟨-, within⟩ := Instant.add?_eq_some due
  unfold Instant.since
  dsimp only
  omega

end BurstOptions

namespace CommandLine

/-- What the program prints when a deadline is beyond the clock. -/
def beyondClock : Output := panicked "overflow when adding duration to instant"

theorem failed_ne_beyondClock (out : List String) (message : String) :
    failed out message ≠ beyondClock := fun same =>
  absurd (congrArg Output.exitCode same) (show 1 ≠ 101 by decide)

theorem runBurst_eq_beyondClock {parallelism : Nat} {env : Environment} {o : BurstOptions} :
    runBurst parallelism env o = beyondClock ↔
      (∃ c, o.config parallelism env = .ok c ∧ c.maxQueueSize ≤ ThreadPool.maxCapacity) ∧
        Instant.limit ≤ o.allowance := by
  have start : o.deadline? ⟨0⟩ = none ↔ Instant.limit ≤ o.allowance := by
    rw [BurstOptions.deadline?_eq_none, Nat.zero_add]
  have valid {c : Config} (asked : o.config parallelism env = .ok c) : c.validate = .ok () := by
    obtain ⟨base, -, -, valid⟩ := BurstOptions.config_eq_ok.mp asked
    exact valid.validate
  rw [← start]
  fun_cases runBurst parallelism env o with
  | case1 why asked =>
      refine iff_of_false (failed_ne_beyondClock _ _) ?_
      rintro ⟨⟨c, same, -⟩, -⟩
      cases asked.symm.trans same
  | case2 c asked made =>
      have full := (Service.make?_eq_none (valid asked)).mp made
      refine iff_of_false (by decide) ?_
      rintro ⟨⟨c', same, room⟩, -⟩
      cases asked.symm.trans same
      exact absurd room (Nat.not_le.mpr full)
  | case3 c asked why made =>
      obtain ⟨y, same⟩ := Service.make?_of_valid (valid asked) made
      cases same
  | case4 c asked y made due =>
      refine iff_of_true rfl ⟨⟨c, asked, Nat.not_lt.mp fun full => ?_⟩, due⟩
      cases made.symm.trans ((Service.make?_eq_none (valid asked)).mpr full)
  | case5 c asked y made deadline due summary fine =>
      refine iff_of_false (fun same => ?_) fun h => nomatch due.symm.trans h.2
      exact absurd (congrArg Output.exitCode same) (show 0 ≠ 101 by decide)
  | case6 c asked y made deadline due summary complaint =>
      exact iff_of_false (failed_ne_beyondClock _ _) fun h => nomatch due.symm.trans h.2

end CommandLine

/-- Which waits have no deadline. A pool's wait has none exactly if it would end beyond the clock,
whatever the state of the pool; in every other case the answer is whether the pool has terminated.
A burst has none exactly if its tasks, one after the other, and a minute would end beyond the clock;
where it has one, the time until then can be waited for. So the program panics over a deadline
exactly for such bursts, if it comes that far. -/
theorem deadlines_panic_iff {J : Type} (p : ThreadPool J) (o : BurstOptions) (start now : Instant) :
    (∀ timeout, p.awaitTermination now timeout =
      if Instant.limit ≤ now.nanos + timeout.total then none else some p.isTerminated) ∧
    (o.deadline? start = none ↔ Instant.limit ≤ start.nanos + o.allowance) ∧
    (∀ deadline, o.deadline? start = some deadline → now.nanos < Instant.limit →
      p.awaitTermination now (deadline.since now) = some p.isTerminated) ∧
    ∀ parallelism env, CommandLine.runBurst parallelism env o = CommandLine.beyondClock ↔
      (∃ c, o.config parallelism env = .ok c ∧ c.maxQueueSize ≤ ThreadPool.maxCapacity) ∧
        Instant.limit ≤ o.allowance := by
  refine ⟨fun timeout => ?_, BurstOptions.deadline?_eq_none, fun deadline due running => ?_,
    fun parallelism env => CommandLine.runBurst_eq_beyondClock⟩
  · split
    · rename_i beyond
      exact ThreadPool.awaitTermination_eq_none.mpr beyond
    · rename_i within
      exact ThreadPool.awaitTermination_of_within (Nat.not_le.mp within)
  · exact ThreadPool.awaitTermination_of_within (BurstOptions.since_within due running)

/-- A burst of ten tasks, and the wait for it a little later. -/
theorem deadlines_panic_iff_of_small_burst :
    let p : ThreadPool Unit := .new 3 6 .zero 10 "pool"
    let o : BurstOptions := ⟨10, 1, none, none, none, false, 5⟩
    o.deadline? ⟨7⟩ = some ⟨60010000007⟩ ∧ 9 < Instant.limit ∧
      p.awaitTermination ⟨9⟩ (Instant.since ⟨60010000007⟩ ⟨9⟩) = some false := by
  intro p o
  have due : o.deadline? ⟨7⟩ = some ⟨60010000007⟩ := by decide
  have running : 9 < Instant.limit := by decide
  exact ⟨due, running, (deadlines_panic_iff p o ⟨7⟩ ⟨9⟩).2.2.1 ⟨60010000007⟩ due running⟩

/-- To wait for ever panics, in a pool that has long terminated as well, and so does a burst of
many long tasks. -/
theorem deadlines_beyond_clock :
    let p : ThreadPool Unit := (ThreadPool.new 3 6 .zero 10 "pool").shutdown
    let o : BurstOptions := ⟨1000, 18446744073709551615, none, none, none, false, 100⟩
    p.isTerminated = true ∧ p.awaitTermination ⟨0⟩ .longest = none ∧
      o.deadline? ⟨0⟩ = none ∧
      CommandLine.run 1 [] (["burst", "-t", "1000", "--task-ms", "18446744073709551615"].map
        Text.RawText.ofString) = CommandLine.beyondClock := by
  intro p o
  refine ⟨by decide, by decide, by decide, ?_⟩
  decide +kernel

end TwoTier
