import TwoTier.Program

/-!
Many threads at the executor of a program.

Each call on a program is one atomic step, except asking for the executor: a thread that found no
current executor enters the building section at some later moment. `Program.Asking.pending` counts
the threads in between.
-/

namespace TwoTier.Program

variable {ν : Type}

structure Asking (ν : Type) where
  program : Program ν
  /-- Threads that found no executor and have not yet entered the section that builds one. -/
  pending : Nat

namespace Asking

def start (parallelism : Nat) (environment : Environment) : Asking ν :=
  ⟨.start parallelism environment, 0⟩

/-- What may happen at any moment. -/
inductive Next : Asking ν → Asking ν → Prop where
  | configure (y : Asking ν) (config : Config) :
      Next y { y with program := (y.program.configure config).2 }
  | readConfig (y : Asking ν) : Next y { y with program := y.program.readConfig.2 }
  /-- A thread asks for the executor and finds one. -/
  | found {y : Asking ν} {n : Nat} (h : y.program.current = some n) :
      Next y { y with program := y.program.record (.obtained n) }
  /-- A thread asks for the executor and finds none. -/
  | missed {y : Asking ν} (h : y.program.current = none) : Next y { y with pending := y.pending + 1 }
  /-- A thread that found none enters the section. -/
  | enter {y : Asking ν} (h : 0 < y.pending) :
      Next y ⟨y.program.currentOrBuild.2, y.pending - 1⟩
  | setExecutor (y : Asking ν) (e : ProgramExecutor ν) :
      Next y { y with program := y.program.setExecutor e }
  /-- A thread hands work to an executor that it has obtained. -/
  | executeOn {y : Asking ν} {p : Program ν} (n : Nat) (me : ThreadId) (work : Work ν)
      (outcome : Outcome) (h : y.program.executeOn n me work = some (outcome, p)) :
      Next y { y with program := p }

/-- What can come of a program in any number of moments. -/
inductive Reaches (y : Asking ν) : Asking ν → Prop where
  | refl : Reaches y y
  | tail {z w : Asking ν} : Reaches y z → Next z w → Reaches y w

end Asking

end TwoTier.Program
