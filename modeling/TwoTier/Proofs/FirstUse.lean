import TwoTier.Proofs.ProgramSteps

/-!
Until when a program takes a configuration.

A program is given its configuration before it is used. What counts as its use can be read off the
calls made so far (`Program.Untouched`): the first configuration that is taken, any look at the
configuration, and any call for the executor that finds none. An executor that was installed by hand
can be used without any of that, and the program still takes a configuration afterwards.
-/

namespace TwoTier.Program

variable {ν : Type}

/-- A call on a program. -/
inductive Call (ν : Type) where
  | configure (config : Config)
  | readConfig
  | executor
  | execute (me : ThreadId) (work : Work ν)
  | setExecutor (e : ProgramExecutor ν)

/-- What a call makes of a program. -/
def perform (p : Program ν) : Call ν → Program ν
  | .configure config => (p.configure config).2
  | .readConfig => p.readConfig.2
  | .executor => p.executor.2
  | .execute me work => (p.execute me work).2
  | .setExecutor e => p.setExecutor e

/-- What calls make of it, one after the other. -/
def performAll (calls : List (Call ν)) (p : Program ν) : Program ν := calls.foldl perform p

theorem performAll_concat (calls : List (Call ν)) (call : Call ν) (p : Program ν) :
    performAll (calls ++ [call]) p = (performAll calls p).perform call :=
  List.foldl_concat ..

namespace Call

def installs : Call ν → Bool
  | .setExecutor _ => true
  | _ => false

/-- Whether the executor is used. -/
def uses : Call ν → Bool
  | .executor | .execute _ _ => true
  | _ => false

end Call

/-- A program that was not used in calls before: it took no configuration, none was read, and its
executor was used only after one had been installed. -/
structure Untouched (p : Program ν) (calls : List (Call ν)) : Prop where
  ungiven : ∀ earlier c, earlier ++ [.configure c] <+: calls →
    ((performAll earlier p).configure c).1 ≠ .ok ()
  unread : .readConfig ∉ calls
  provided : ∀ earlier call, earlier ++ [call] <+: calls → call.uses = true →
    ∃ c ∈ earlier, c.installs = true

namespace Untouched

variable {p : Program ν} {calls : List (Call ν)} {call : Call ν}

theorem nil (p : Program ν) : Untouched p [] :=
  ⟨by simp, by simp, by simp⟩

/-- One more call. -/
theorem concat_iff : Untouched p (calls ++ [call]) ↔ Untouched p calls ∧
    (∀ c, call = .configure c → ((performAll calls p).configure c).1 ≠ .ok ()) ∧
    call ≠ .readConfig ∧ (call.uses = true → ∃ c ∈ calls, c.installs = true) := by
  constructor
  · intro h
    refine ⟨⟨?_, ?_, ?_⟩, ?_, ?_, ?_⟩
    · exact fun earlier c before => h.ungiven earlier c (before.trans (List.prefix_append ..))
    · exact fun mem => h.unread (List.mem_append_left _ mem)
    · exact fun earlier c before => h.provided earlier c (before.trans (List.prefix_append ..))
    · rintro c rfl
      exact h.ungiven calls c (List.prefix_refl _)
    · rintro rfl
      exact h.unread (by simp)
    · exact h.provided calls call (List.prefix_refl _)
  · rintro ⟨h, ungiven, unread, provided⟩
    have last {earlier : List (Call ν)} {c : Call ν} (before : earlier ++ [c] <+: calls ++ [call]) :
        earlier ++ [c] <+: calls ∨ earlier = calls ∧ c = call := by
      rcases List.prefix_concat_iff.mp before with same | before
      · obtain ⟨rfl, tail⟩ := List.append_inj' same rfl
        exact .inr ⟨rfl, List.singleton_inj.mp tail⟩
      · exact .inl before
    refine ⟨?_, ?_, ?_⟩
    · intro earlier c before
      rcases last before with before | ⟨rfl, rfl⟩
      · exact h.ungiven earlier c before
      · exact ungiven c rfl
    · intro mem
      rcases List.mem_append.mp mem with mem | mem
      · exact h.unread mem
      · exact unread (List.mem_singleton.mp mem).symm
    · intro earlier c before
      rcases last before with before | ⟨rfl, rfl⟩
      · exact h.provided earlier c before
      · exact provided

end Untouched

/-! ### What a program remembers of it -/

theorem execute_keeps (me : ThreadId) (work : Work ν) (p : Program ν) :
    (p.execute me work).2.config = p.executor.2.config ∧
      (p.execute me work).2.current = p.executor.2.current := by
  unfold execute
  obtain ⟨r, q⟩ := p.executor
  cases r with
  | none => exact ⟨rfl, rfl⟩
  | some n =>
      dsimp only
      cases done : q.executeOn n me work with
      | none => exact ⟨rfl, rfl⟩
      | some result =>
          obtain ⟨outcome, q'⟩ := result
          have keeps : q'.config = q.config ∧ q'.current = q.current := by
            obtain ⟨e, -, done⟩ := Option.map_eq_some_iff.mp done
            obtain ⟨-, rfl⟩ := Prod.mk.inj done
            exact ⟨rfl, rfl⟩
          cases outcome <;> exact keeps

/-- Its configuration is open as long as it is untouched, and as long as it is open there is no
executor but one that was installed. -/
structure Remembers (start : Program ν) (calls : List (Call ν)) (p : Program ν) : Prop where
  sound : Sound p
  unfixed : p.config = none ↔ Untouched start calls
  vacant : p.config = none → (p.current = none ↔ ∀ c ∈ calls, c.installs = false)

namespace Remembers

variable {start p q : Program ν} {calls : List (Call ν)} {call : Call ν}

theorem configures {c : Config} (h : Remembers start calls (performAll calls start)) :
    Remembers start (calls ++ [.configure c]) ((performAll calls start).configure c).2 := by
  have untouched : Untouched start (calls ++ [.configure c]) ↔ Untouched start calls ∧
      ((performAll calls start).configure c).1 ≠ .ok () := by
    simp [Untouched.concat_iff, Call.uses]
  have step := Program.configures c (performAll calls start)
  generalize performAll calls start = p at *
  generalize (p.configure c).1 = r at *
  generalize (p.configure c).2 = q at *
  cases step with
  | refused why =>
      refine ⟨h.sound, ?_, ?_⟩
      · rw [untouched, h.unfixed]
        simp
      · intro unfixed
        rw [h.vacant unfixed]
        simp [Call.installs, or_imp, forall_and]
  | accepted valid first =>
      refine ⟨?_, ?_, nofun⟩
      · rintro _ ⟨⟩
        exact Config.valid_of_validate valid
      · rw [untouched]
        exact iff_of_false nofun fun kept => kept.2 rfl

theorem reads (h : Remembers start calls p) :
    Remembers start (calls ++ [.readConfig]) p.readConfig.2 := by
  rw [readConfig_eq]
  refine ⟨?_, iff_of_false nofun fun kept => kept.unread (by simp), nofun⟩
  rintro _ ⟨⟩
  exact h.sound.settled

theorem setExecutor (e : ProgramExecutor ν) (h : Remembers start calls p) :
    Remembers start (calls ++ [.setExecutor e]) (p.setExecutor e) := by
  refine ⟨h.sound, ?_, fun _ => iff_of_false nofun fun bare => ?_⟩
  · rw [Untouched.concat_iff, ← h.unfixed]
    simp [Call.uses, Program.setExecutor, adopt, record]
  · simpa [Call.installs] using bare (.setExecutor e) (by simp)

/-- Whoever finds an executor while the configuration is open has one that was installed; whoever
finds none fixes the configuration. -/
theorem obtains {r : Option Nat} (h : Remembers start calls p) (uses : call.uses = true)
    (step : Obtains p r q) : Remembers start (calls ++ [call]) q := by
  have untouched : Untouched start (calls ++ [call]) ↔
      Untouched start calls ∧ ∃ c ∈ calls, c.installs = true := by
    cases call with
    | executor | execute => simp [Untouched.concat_iff, Call.uses]
    | _ => contradiction
  have missed (vacant : p.current = none) (touched : q.config = some p.settled) :
      Remembers start (calls ++ [call]) q := by
    refine ⟨?_, ?_, ?_⟩
    · intro c fixed
      exact Option.some.inj (touched.symm.trans fixed) ▸ h.sound.settled
    · refine iff_of_false (by simp [touched]) fun kept => ?_
      obtain ⟨before, c, mem, installs⟩ := untouched.mp kept
      have none := (h.vacant (h.unfixed.mpr before)).mp vacant c mem
      simp [none] at installs
    · simp [touched]
  cases step with
  | found n current =>
      have installed (unfixed : p.config = none) : ∃ c ∈ calls, c.installs = true := by
        by_contra none
        have vacant := (h.vacant unfixed).mpr (by simpa using none)
        simp [current] at vacant
      refine ⟨h.sound, ?_, fun unfixed => ?_⟩
      · rw [untouched, ← h.unfixed]
        exact ⟨fun unfixed => ⟨unfixed, installed unfixed⟩, And.left⟩
      · obtain ⟨c, mem, installs⟩ := installed unfixed
        refine iff_of_false (by simp [record, current]) fun bare => ?_
        have none := bare c (List.mem_append_left _ mem)
        simp [none] at installs
  | built y current made => exact missed current (by rw [readConfig_eq]; rfl)
  | panicked current => exact missed current (by rw [readConfig_eq])

theorem congr {q' : Program ν} (h : Remembers start calls q) (config : q'.config = q.config)
    (current : q'.current = q.current) : Remembers start calls q' :=
  ⟨fun c fixed => h.sound c (config.symm.trans fixed), config ▸ h.unfixed,
    fun unfixed => current ▸ h.vacant (config.symm.trans unfixed)⟩

theorem perform (call : Call ν) (h : Remembers start calls (performAll calls start)) :
    Remembers start (calls ++ [call]) ((performAll calls start).perform call) := by
  have asked (uses : call.uses = true) :
      Remembers start (calls ++ [call]) (performAll calls start).executor.2 := by
    rw [executor_eq]
    exact h.obtains uses (Program.obtains h.sound)
  cases call with
  | configure c => exact h.configures
  | readConfig => exact h.reads
  | executor => exact asked rfl
  | execute me work =>
      obtain ⟨config, current⟩ := execute_keeps me work (performAll calls start)
      exact (asked rfl).congr config current
  | setExecutor e => exact h.setExecutor e

end Remembers

theorem remembers (parallelism : Nat) (env : Environment) (calls : List (Call ν)) :
    Remembers (.start parallelism env) calls (performAll calls (.start parallelism env)) := by
  induction calls using List.reverseRecOn with
  | nil =>
      refine ⟨nofun, iff_of_true rfl (Untouched.nil _), fun _ => iff_of_true rfl ?_⟩
      simp
  | append_singleton calls call ih =>
      rw [performAll_concat]
      exact ih.perform call

/-- After any calls, a program takes a configuration if that is valid and the program is untouched:
it took no other before, none was read, and its executor was used only after one had been
installed. -/
theorem configure_ok_iff_untouched (parallelism : Nat) (env : Environment) (calls : List (Call ν))
    (c : Config) :
    ((performAll calls (.start parallelism env)).configure c).1 = .ok () ↔
      c.validate = .ok () ∧ Untouched (.start parallelism env) calls := by
  rw [configure_ok_iff, (remembers parallelism env calls).unfixed]

/-- The executor is used and a configuration is taken afterwards, because one had been installed
before. -/
theorem configured_after_use :
    ∃ calls : List (Call Unit), (∃ call ∈ calls, call.uses = true) ∧
      ((performAll calls (.start 4 [])).configure Sample.config).1 = .ok () := by
  refine ⟨[.setExecutor (.scripted (.ofPlan [])), .execute .main (.plain "a" (.value ()))], ?_, rfl⟩
  exact ⟨.execute .main (.plain "a" (.value ())), by simp, rfl⟩

end TwoTier.Program
