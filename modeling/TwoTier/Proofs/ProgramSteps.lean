import TwoTier.Program.Interleaving
import TwoTier.Proofs.Configurations
import TwoTier.Proofs.ServiceSteps

/-!
What a call on a program can do.

Reading the configuration fixes it, to what it would have been all along (`Program.settled`), and
`Program.Obtains` lists what can come of asking for the executor. Building one never fails: the
configuration that it takes is valid wherever it comes from (`Program.Sound`). Nothing after this
module opens `Program.configure`, `Program.readConfig` or `Program.currentOrBuild`.
-/

namespace TwoTier.Program

variable {ν : Type} {p q : Program ν} {c : Config}

/-! ### The configuration -/

/-- The configuration that a program has, or will have if it is given none. -/
def settled (p : Program ν) : Config := p.config.getD (.ambient p.parallelism p.environment)

/-- The environment that is ignored when the configuration is read now. -/
def ignored (p : Program ν) : List ProgramEvent :=
  match p.config, p.ambientConfig with
  | none, .error why => [.environmentIgnored why]
  | _, _ => []

theorem readConfig_eq (p : Program ν) :
    p.readConfig = (p.settled, { p with
      config := some p.settled
      history := .configRead p.settled :: (p.ignored ++ p.history) }) := by
  unfold readConfig settled ignored ambientConfig Config.ambient
  cases p with
  | mk parallelism environment config executors current history =>
      cases config with
      | some config => rfl
      | none => cases Config.ofEnvironment parallelism environment <;> rfl

/-- What comes of giving a program a configuration. -/
inductive Configures (c : Config) (p : Program ν) : Except Error Unit → Program ν → Prop where
  | refused (why : Error) (h : c.validate = .error why ∨ p.config ≠ none) :
      Configures c p (.error why) p
  | accepted (valid : c.validate = .ok ()) (first : p.config = none) :
      Configures c p (.ok ()) (record (.configured c) { p with config := some c })

theorem configures (c : Config) (p : Program ν) :
    Configures c p (p.configure c).1 (p.configure c).2 := by
  unfold configure
  cases valid : c.validate with
  | error why => exact .refused why (.inl valid)
  | ok =>
      cases fixed : p.config with
      | some config => exact .refused .alreadyInitialized (.inr (by simp [fixed]))
      | none => exact .accepted valid fixed

/-- A configuration is accepted if it is valid and none is fixed yet. -/
theorem configure_ok_iff : (p.configure c).1 = .ok () ↔ c.validate = .ok () ∧ p.config = none := by
  have step := configures c p
  generalize (p.configure c).1 = r at step
  generalize (p.configure c).2 = q at step
  cases step with
  | refused why h =>
      refine iff_of_false nofun ?_
      rintro ⟨valid, first⟩
      rcases h with invalid | fixed
      · rw [valid] at invalid
        contradiction
      · exact fixed first
  | accepted valid first => exact iff_of_true rfl ⟨valid, first⟩

/-! ### The executor -/

/-- A configuration that is fixed is valid. -/
def Sound (p : Program ν) : Prop := ∀ c, p.config = some c → c.Valid

theorem Sound.settled (h : Sound p) : p.settled.Valid := by
  unfold Program.settled
  cases fixed : p.config with
  | none => exact Config.valid_ambient _ _
  | some c => exact h c fixed

/-- What comes of asking for the executor. -/
inductive Obtains (p : Program ν) : Option Nat → Program ν → Prop where
  | found (n : Nat) (h : p.current = some n) : Obtains p (some n) (p.record (.obtained n))
  | built (y : Service ν) (h : p.current = none)
      (made : Service.make? p.settled none = some (.ok y)) :
      Obtains p (some p.executors.length)
        (record (.obtained p.executors.length) (record (.built p.executors.length p.settled)
          (p.readConfig.2.adopt (.buffering y))))
  /-- Making the pool panics. -/
  | panicked (h : p.current = none) : Obtains p none p.readConfig.2

theorem obtains (sound : Sound p) : Obtains p p.currentOrBuild.1 p.currentOrBuild.2 := by
  unfold currentOrBuild
  cases current : p.current with
  | some n => exact .found n current
  | none =>
      have same : p.readConfig.2.executors.length = p.executors.length := by rw [readConfig_eq]
      have config : p.readConfig.1 = p.settled := by rw [readConfig_eq]
      dsimp only
      rw [config, same]
      cases made : (Service.make? p.settled none : Option (Except Error (Service ν))) with
      | none => exact .panicked current
      | some r =>
          obtain ⟨y, rfl⟩ := Service.make?_of_valid sound.settled.validate made
          exact .built y current made

/-- The look before the section saves taking its lock, and nothing else. -/
theorem executor_eq (p : Program ν) : p.executor = p.currentOrBuild := by
  unfold executor currentOrBuild
  cases p.current <;> rfl

end TwoTier.Program
