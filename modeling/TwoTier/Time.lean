/-!
Lengths of time and moments.

A `Duration` is a whole number of nanoseconds; its seconds fill at most one machine word, and
arithmetic that would leave that range stays at the longest duration. An `Instant` is a moment of
the monotone clock, whose seconds fill a signed word; adding a duration to it can fail, and the
failure is part of the answer (`Instant.add?`). A `WallTime` is a moment of the calendar clock.
Nothing here reads a clock.
-/

namespace TwoTier

/-- The number of values of a machine word. -/
def wordLimit : Nat := 18446744073709551616

/-- The largest machine word. -/
def wordMax : Nat := wordLimit - 1

/-- Multiplication that stops at the largest machine word. -/
def saturatingMul (a b : Nat) : Nat := min (a * b) wordMax

def nanosPerSecond : Nat := 1000000000

structure Duration where
  /-- The whole length in nanoseconds. -/
  total : Nat
deriving DecidableEq, Repr, Inhabited

namespace Duration

def zero : Duration := ⟨0⟩

/-- The longest duration: all ones in the seconds, and one nanosecond short of the next. -/
def longest : Duration := ⟨wordLimit * nanosPerSecond - 1⟩

/-- Whole seconds and a rest; a rest of a second or more is carried over. -/
def ofParts (secs nanos : Nat) : Duration := ⟨secs * nanosPerSecond + nanos⟩

def ofSeconds (secs : Nat) : Duration := ofParts secs 0

def ofMillis (ms : Nat) : Duration := ⟨ms * 1000000⟩

def seconds (d : Duration) : Nat := d.total / nanosPerSecond

/-- The nanoseconds beyond the whole seconds. -/
def subNanos (d : Duration) : Nat := d.total % nanosPerSecond

def saturatingAdd (a b : Duration) : Duration := ⟨min (a.total + b.total) longest.total⟩

def saturatingScale (d : Duration) (n : Nat) : Duration := ⟨min (d.total * n) longest.total⟩

/-- Whole milliseconds, at most the largest machine word. -/
def saturatingMillis (d : Duration) : Nat := min (d.total / 1000000) wordMax

/-- A fraction's digits, `width` of them, without the zeros at its end. -/
def fractionDigits (width fraction : Nat) : List Char :=
  let digits := Nat.toDigits 10 fraction
  let padded := List.replicate (width - digits.length) '0' ++ digits
  (padded.reverse.dropWhile (· = '0')).reverse

/-- A number of units and a rest counted in `10 ^ width` parts of the unit. -/
def decimalText (whole width fraction : Nat) (unitName : String) : String :=
  if fraction = 0 then toString whole ++ unitName
  else toString whole ++ "." ++ String.ofList (fractionDigits width fraction) ++ unitName

/-- A duration is written in its largest unit that is not zero, with a decimal fraction that has
no zeros at its end. -/
def text (d : Duration) : String :=
  let nanos := d.subNanos
  if 0 < d.seconds then decimalText d.seconds 9 nanos "s"
  else if 1000000 ≤ nanos then decimalText (nanos / 1000000) 6 (nanos % 1000000) "ms"
  else if 1000 ≤ nanos then decimalText (nanos / 1000) 3 (nanos % 1000) "µs"
  else decimalText nanos 0 0 "ns"

end Duration

/-- A moment of the monotone clock, in nanoseconds since that clock began. -/
structure Instant where
  nanos : Nat
deriving DecidableEq, Repr, Inhabited

namespace Instant

/-- The first moment that a signed word of seconds cannot hold. -/
def limit : Nat := 9223372036854775808 * nanosPerSecond

/-- The moment `d` later, unless the clock cannot hold it. -/
def add? (t : Instant) (d : Duration) : Option Instant :=
  if t.nanos + d.total < limit then some ⟨t.nanos + d.total⟩ else none

/-- The time from `earlier` to `t`, zero if that lies the other way. -/
def since (t earlier : Instant) : Duration := ⟨t.nanos - earlier.nanos⟩

/-- The clock after `d` more nanoseconds; simulated clocks stay far from their limit. -/
def advance (t : Instant) (nanos : Nat) : Instant := ⟨t.nanos + nanos⟩

end Instant

/-- A moment of the calendar clock, in nanoseconds from the epoch; negative before it. -/
structure WallTime where
  nanos : Int
deriving DecidableEq, Repr

namespace WallTime

/-- The moment `d` after the epoch, or before it, if a signed word of seconds can hold it. -/
def ofEpoch? (before : Bool) (d : Duration) : Option WallTime :=
  let nanos : Int := if before then -(d.total : Int) else d.total
  if -(Instant.limit : Int) ≤ nanos ∧ nanos < (Instant.limit : Int) then some ⟨nanos⟩ else none

/-- Whole milliseconds since the epoch: zero before it, at most the largest machine word. -/
def epochMillis (t : WallTime) : Nat := Duration.saturatingMillis ⟨t.nanos.toNat⟩

end WallTime

end TwoTier
