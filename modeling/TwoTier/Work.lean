/-!
Work, as a value.

What a closure does when it runs or is thrown away is written down as data: the work it submits on
each occasion, whether it waits at a gate, and how it ends. A `Closure` is one submission of a
piece of work; its ticket tells it from every other submission, also of the same work.
-/

namespace TwoTier

/-- What a panic carries. -/
inductive Payload where
  | owned (text : String)
  | fixed (text : String)
  /-- Something that is no text. -/
  | foreign
deriving DecidableEq, Repr

/-- The text reported for a panic. -/
def Payload.message : Payload → String
  | .owned text => text
  | .fixed text => text
  | .foreign => "non-string panic payload"

/-- How a closure ends. -/
inductive Ending (ν : Type) where
  | value (v : ν)
  | panic (payload : Payload)
deriving DecidableEq, Repr

structure Work (ν : Type) where
  name : String
  /-- Whether the work, once started, waits at the gate of its name. -/
  gated : Bool
  /-- Submitted in order when the work runs, before it ends. -/
  thenSubmit : List (Work ν)
  /-- Submitted in order when the work is thrown away without having run. -/
  onDrop : List (Work ν)
  ending : Ending ν

/-- Work that does nothing but end. -/
def Work.plain {ν : Type} (name : String) (ending : Ending ν) : Work ν :=
  ⟨name, false, [], [], ending⟩

instance {ν : Type} [Inhabited ν] : Inhabited (Work ν) := ⟨.plain "" (.value default)⟩

/-- A submission: a piece of work that can be run once, or thrown away. -/
structure Closure (ν : Type) where
  ticket : Nat
  work : Work ν
  /-- The inbox that waits for the ending, if somebody holds a handle. -/
  reply : Option Nat

end TwoTier
