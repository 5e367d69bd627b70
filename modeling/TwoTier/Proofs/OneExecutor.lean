import TwoTier.Proofs.ProgramSteps
import TwoTier.Proofs.Settings

/-!
A program has one executor, and one configuration for it.

The history of a program has a grammar (`Program.Orderly`): a configuration is given only before one
is fixed, what is read is the one that is fixed, an executor is built only while there is none, and
who asks gets the one that was built or installed last. A program keeps to it however the threads
that use it interleave, and its state can be read off its history (`Program.Kept`). That one executor
is built, for one configuration, follows from the grammar alone.
-/

namespace TwoTier

namespace ProgramEvent

/-- The configuration that is fixed from then on. -/
def fixes? : ProgramEvent → Option Config
  | .configured c | .configRead c => some c
  | _ => none

/-- The configuration that somebody gave. -/
def gives? : ProgramEvent → Option Config
  | .configured c => some c
  | _ => none

/-- The executor that becomes the current one. -/
def seats? : ProgramEvent → Option Nat
  | .built k _ | .buildFailed k _ | .installed k => some k
  | _ => none

/-- Whether an executor of the program's own is made. -/
def builds : ProgramEvent → Bool
  | .built _ _ | .buildFailed _ _ => true
  | _ => false

end ProgramEvent

open ProgramEvent

namespace Program

/-! ### The grammar of histories -/

/-- What may happen after a history, newest event first. -/
inductive Follows (ambient : Config) (earlier : List ProgramEvent) : ProgramEvent → Prop where
  | configured {c : Config} (valid : c.Valid) (first : earlier.findSome? fixes? = none) :
      Follows ambient earlier (.configured c)
  | configRead {c : Config} (settled : c = (earlier.findSome? fixes?).getD ambient) :
      Follows ambient earlier (.configRead c)
  | environmentIgnored (why : Error) : Follows ambient earlier (.environmentIgnored why)
  | built {c : Config} (k : Nat) (fixed : earlier.findSome? fixes? = some c)
      (first : earlier.findSome? seats? = none) : Follows ambient earlier (.built k c)
  | obtained {k : Nat} (current : earlier.findSome? seats? = some k) :
      Follows ambient earlier (.obtained k)
  | installed (k : Nat) : Follows ambient earlier (.installed k)

inductive Orderly (ambient : Config) : List ProgramEvent → Prop where
  | nil : Orderly ambient []
  | cons {e : ProgramEvent} {earlier : List ProgramEvent} (before : Orderly ambient earlier)
      (follows : Follows ambient earlier e) : Orderly ambient (e :: earlier)

/-- An executor is built only while nobody has one. -/
theorem not_builds_of_unseated {h : List ProgramEvent} (none : h.findSome? seats? = none) :
    h.countP builds = 0 := by
  refine List.countP_eq_zero.mpr fun e mem => ?_
  have unseated := List.findSome?_eq_none_iff.mp none e mem
  cases e <;> simp [seats?, builds] at unseated ⊢

namespace Orderly

variable {ambient c : Config} {k : Nat} {e : ProgramEvent} {h later earlier : List ProgramEvent}

theorem suffix (h : Orderly ambient (later ++ earlier)) : Orderly ambient earlier := by
  induction later with
  | nil => exact h
  | cons _ later ih =>
      rw [List.cons_append] at h
      cases h with
      | cons before follows => exact ih before

theorem follows (h : Orderly ambient (later ++ e :: earlier)) : Follows ambient earlier e := by
  cases h.suffix with
  | cons before follows => exact follows

/-- A configuration that is fixed stays. -/
theorem fixed_append (h : Orderly ambient (later ++ earlier))
    (fixed : earlier.findSome? fixes? = some c) :
    (later ++ earlier).findSome? fixes? = some c := by
  induction later with
  | nil => exact fixed
  | cons e later ih =>
      rw [List.cons_append] at h
      cases h with
      | cons before follows =>
          have still := ih before
          cases follows with
          | configured valid first =>
              rw [still] at first
              contradiction
          | configRead settled =>
              rw [still] at settled
              exact congrArg some settled
          | _ => exact still

/-- An executor stays the current one until another is installed. -/
theorem seated_append (h : Orderly ambient (later ++ earlier))
    (seated : earlier.findSome? seats? = some k) (kept : ∀ j, .installed j ∉ later) :
    (later ++ earlier).findSome? seats? = some k := by
  induction later with
  | nil => exact seated
  | cons e later ih =>
      rw [List.cons_append] at h
      cases h with
      | cons before follows =>
          have still := ih before fun j mem => kept j (List.mem_cons_of_mem e mem)
          cases follows with
          | built j fixed first =>
              rw [still] at first
              contradiction
          | installed j => exact absurd (List.mem_cons_self ..) (kept j)
          | _ => exact still

/-- What was read once is what is fixed. -/
theorem fixed_of_read (orderly : Orderly ambient h) (read : .configRead c ∈ h) :
    h.findSome? fixes? = some c := by
  obtain ⟨later, earlier, rfl⟩ := List.append_of_mem read
  exact orderly.fixed_append rfl

/-- The fixed configuration is the one that was given, or else the ambient one. -/
theorem fixed_eq (orderly : Orderly ambient h) (fixed : h.findSome? fixes? = some c) :
    c = (h.findSome? gives?).getD ambient := by
  induction orderly with
  | nil => contradiction
  | @cons e earlier before follows ih =>
      cases follows with
      | configured valid first => exact (Option.some.inj fixed).symm
      | configRead settled =>
          obtain rfl := Option.some.inj fixed
          cases old : earlier.findSome? fixes? with
          | some old' =>
              rw [old, Option.getD_some] at settled
              exact ih (old.trans (congrArg some settled.symm))
          | none =>
              have ungiven : earlier.findSome? gives? = none := by
                refine List.findSome?_eq_none_iff.mpr fun e mem => ?_
                have unfixed := List.findSome?_eq_none_iff.mp old e mem
                cases e <;> simp [fixes?, gives?] at unfixed ⊢
              rw [old] at settled
              exact settled.trans (congrArg (Option.getD · ambient) ungiven.symm)
      | _ => exact ih fixed

/-- What holds of the ambient configuration and of all that were given holds of the fixed one. -/
theorem fixed_of {P : Config → Prop} (orderly : Orderly ambient h) (base : P ambient)
    (given : ∀ c, .configured c ∈ h → P c) (fixed : h.findSome? fixes? = some c) : P c := by
  rw [orderly.fixed_eq fixed]
  cases gave : h.findSome? gives? with
  | none => exact base
  | some c' =>
      obtain ⟨e, mem, gives⟩ := List.exists_of_findSome?_eq_some gave
      cases e with
      | configured => exact given c' (Option.some.inj gives ▸ mem)
      | _ => simp [gives?] at gives

theorem fixed_valid (orderly : Orderly ambient h) (valid : ambient.Valid)
    (fixed : h.findSome? fixes? = some c) : c.Valid := by
  refine orderly.fixed_of valid (fun c' mem => ?_) fixed
  obtain ⟨later, earlier, rfl⟩ := List.append_of_mem mem
  cases orderly.follows with
  | configured valid first => exact valid

theorem given_of_read (orderly : Orderly ambient (later ++ .configRead c :: earlier)) :
    c = (earlier.findSome? gives?).getD ambient :=
  orderly.suffix.fixed_eq rfl

/-- An executor is built for the configuration that was given, or else for the ambient one, and
that stays. -/
theorem fixed_of_built (orderly : Orderly ambient (later ++ .built k c :: earlier)) :
    (later ++ .built k c :: earlier).findSome? fixes? = some c ∧
      c = (earlier.findSome? gives?).getD ambient := by
  cases orderly.suffix with
  | cons before follows =>
      cases follows with
      | built _ fixed first => exact ⟨orderly.fixed_append fixed, before.fixed_eq fixed⟩

theorem same_executor {between : List ProgramEvent} {m : Nat}
    (orderly : Orderly ambient (later ++ .obtained m :: (between ++ .obtained k :: earlier)))
    (kept : ∀ j, .installed j ∉ between) : m = k := by
  cases orderly.suffix with
  | cons before later =>
      cases before.follows with
      | obtained seated =>
          have still := before.seated_append seated kept
          cases later with
          | obtained current => exact Option.some.inj (current.symm.trans still)

/-- At most one executor is built. -/
theorem builds_le_one (orderly : Orderly ambient h) : h.countP builds ≤ 1 := by
  induction orderly with
  | nil => exact Nat.zero_le 1
  | cons before follows ih =>
      cases follows with
      | built k fixed first =>
          rw [List.countP_cons_of_pos rfl, not_builds_of_unseated first]
      | _ => rwa [List.countP_cons_of_neg (by simp [builds])]

end Orderly

/-! ### Programs keep to it -/

variable {ν : Type} {parallelism : Nat} {env : Environment} {p q : Program ν}

/-- A program that keeps to the grammar and has no state but its history's. An executor that was
built for a configuration has its settings, and pools without a buffering executor were installed
by hand. -/
structure Kept (parallelism : Nat) (env : Environment) (p : Program ν) : Prop where
  machine : p.parallelism = parallelism
  environment : p.environment = env
  orderly : Orderly (.ambient parallelism env) p.history
  config : p.config = p.history.findSome? fixes?
  current : p.current = p.history.findSome? seats?
  built : ∀ k c, .built k c ∈ p.history →
    ∃ y, p.executors[k]? = some (.buffering y) ∧ y.scene.Shaped c
  pools : ∀ k s, p.executors[k]? = some (.pool s) → .installed k ∈ p.history

namespace Kept

theorem start : Kept parallelism env (.start parallelism env : Program ν) :=
  ⟨rfl, rfl, .nil, rfl, rfl, by simp [Program.start], by simp [Program.start]⟩

theorem settled (h : Kept parallelism env p) :
    p.settled = (p.history.findSome? fixes?).getD (.ambient parallelism env) := by
  rw [Program.settled, h.config, h.machine, h.environment]

theorem sound (h : Kept parallelism env p) : Sound p := by
  intro c fixed
  exact h.orderly.fixed_valid (Config.valid_ambient _ _) (h.config.symm.trans fixed)

/-- An event that no executor comes with. -/
theorem record {e : ProgramEvent} {config : Option Config} (h : Kept parallelism env p)
    (follows : Follows (.ambient parallelism env) p.history e)
    (fixed : config = e.fixes?.or p.config) (unseated : e.seats? = none) :
    Kept parallelism env ({ p with config }.record e) where
  machine := h.machine
  environment := h.environment
  orderly := .cons h.orderly follows
  config := by
    change config = (e :: p.history).findSome? fixes?
    rw [fixed, List.findSome?_cons, h.config]
    cases e.fixes? <;> rfl
  current := by
    change p.current = (e :: p.history).findSome? seats?
    rw [List.findSome?_cons, unseated, h.current]
  built k c mem := by
    rcases List.mem_cons.mp mem with rfl | mem
    · contradiction
    · exact h.built k c mem
  pools k s pool := List.mem_cons_of_mem e (h.pools k s pool)

/-- An executor that is built or installed. -/
theorem adopt {made : ProgramExecutor ν} {e : ProgramEvent} (h : Kept parallelism env p)
    (follows : Follows (.ambient parallelism env) p.history e) (unfixed : e.fixes? = none)
    (seated : e.seats? = some p.executors.length)
    (shaped : ∀ k c, e = .built k c → ∃ y, made = .buffering y ∧ y.scene.Shaped c)
    (pool : ∀ s, made = .pool s → e = .installed p.executors.length) :
    Kept parallelism env ((p.adopt made).record e) where
  machine := h.machine
  environment := h.environment
  orderly := .cons h.orderly follows
  config := by
    change p.config = (e :: p.history).findSome? fixes?
    rw [List.findSome?_cons, unfixed, h.config]
  current := by
    change some p.executors.length = (e :: p.history).findSome? seats?
    rw [List.findSome?_cons, seated]
  built k c mem := by
    change ∃ y, (p.executors ++ [made])[k]? = some (.buffering y) ∧ _
    rcases List.mem_cons.mp mem with rfl | mem
    · obtain ⟨y, rfl, good⟩ := shaped k c rfl
      obtain rfl := Option.some.inj seated
      exact ⟨y, List.getElem?_concat_length, good⟩
    · obtain ⟨y, there, good⟩ := h.built k c mem
      exact ⟨y, (List.getElem?_append_left (List.getElem?_eq_some_iff.mp there).1).trans there, good⟩
  pools k s there := by
    change (p.executors ++ [made])[k]? = some (.pool s) at there
    change _ ∈ e :: p.history
    rcases Nat.lt_trichotomy k p.executors.length with old | rfl | beyond
    · rw [List.getElem?_append_left old] at there
      exact List.mem_cons_of_mem e (h.pools k s there)
    · rw [List.getElem?_concat_length] at there
      rw [pool s (Option.some.inj there)]
      exact List.mem_cons_self ..
    · rw [List.getElem?_eq_none (by simpa using Nat.succ_le_of_lt beyond)] at there
      contradiction

theorem configures {c : Config} {r : Except Error Unit} (h : Kept parallelism env p)
    (step : Configures c p r q) : Kept parallelism env q := by
  cases step with
  | refused => exact h
  | accepted valid first =>
      exact h.record (.configured (Config.valid_of_validate valid) (h.config.symm.trans first)) rfl rfl

theorem readConfig (h : Kept parallelism env p) : Kept parallelism env p.readConfig.2 := by
  have ignored : Kept parallelism env { p with history := p.ignored ++ p.history } := by
    unfold ignored
    split
    · exact h.record (.environmentIgnored _) rfl rfl
    · exact h
  rw [readConfig_eq]
  refine ignored.record (.configRead ?_) rfl rfl
  rw [h.settled, ← h.config, ignored.config]

theorem obtains {r : Option Nat} (h : Kept parallelism env p) (step : Obtains p r q) :
    Kept parallelism env q := by
  have read := h.readConfig
  cases step with
  | found n current => exact h.record (.obtained (h.current.symm.trans current)) rfl rfl
  | built y current made =>
      have same : p.readConfig.2.executors = p.executors := by rw [readConfig_eq]
      have fixed : p.readConfig.2.config = some p.settled := by rw [readConfig_eq]
      have vacant : p.readConfig.2.current = none := by rw [readConfig_eq, current]
      have built : Kept parallelism env
          ((p.readConfig.2.adopt (.buffering y)).record (.built p.executors.length p.settled)) := by
        refine read.adopt (.built _ (read.config.symm.trans fixed) (read.current.symm.trans vacant))
          rfl (by rw [same]; rfl) ?_ nofun
        rintro k c ⟨rfl, rfl⟩
        exact ⟨y, rfl, Service.make?_shaped made⟩
      refine built.record (.obtained ?_) rfl rfl
      rw [← built.current, ← same]
      rfl
  | panicked => exact read

theorem setExecutor (e : ProgramExecutor ν) (h : Kept parallelism env p) :
    Kept parallelism env (p.setExecutor e) :=
  h.adopt (.installed _) rfl rfl nofun fun _ _ => rfl

theorem executeOn {n : Nat} {me : ThreadId} {work : Work ν} {outcome : Outcome}
    (h : Kept parallelism env p) (step : p.executeOn n me work = some (outcome, q)) :
    Kept parallelism env q := by
  obtain ⟨e, there, done⟩ := Option.map_eq_some_iff.mp step
  obtain ⟨-, rfl⟩ := Prod.mk.inj done
  have within := (List.getElem?_eq_some_iff.mp there).1
  refine ⟨h.machine, h.environment, h.orderly, h.config, h.current, ?_, ?_⟩
  · intro k c mem
    obtain ⟨y, old, good⟩ := h.built k c mem
    by_cases own : n = k
    · subst own
      obtain rfl := Option.some.inj (there.symm.trans old)
      exact ⟨_, List.getElem?_set_self within, Service.execute_shaped me work none good⟩
    · exact ⟨y, (List.getElem?_set_ne own).trans old, good⟩
  · intro k s pool
    by_cases own : n = k
    · subst own
      rw [List.getElem?_set_self within] at pool
      cases e with
      | pool old => exact h.pools n old there
      | buffering | scripted => simp at pool
    · exact h.pools k s ((List.getElem?_set_ne own).symm.trans pool)

end Kept

/-! ### Many threads -/

namespace Asking

variable {y z : Asking ν}

theorem Next.kept (next : Next y z) (h : Kept parallelism env y.program) :
    Kept parallelism env z.program := by
  cases next with
  | configure config => exact h.configures (Program.configures config y.program)
  | readConfig => exact h.readConfig
  | found current => exact h.record (.obtained (h.current.symm.trans current)) rfl rfl
  | missed => exact h
  | enter => exact h.obtains (Program.obtains h.sound)
  | setExecutor e => exact h.setExecutor e
  | executeOn n me work outcome step => exact h.executeOn step

theorem Reaches.kept (run : (Asking.start parallelism env).Reaches y) :
    Kept parallelism env y.program := by
  induction run with
  | refl => exact .start
  | tail _ next ih => exact next.kept ih

end Asking

/-! ### What follows -/

/-- What a program can be relied on for. -/
structure Reliable (parallelism : Nat) (env : Environment) (p : Program ν) : Prop where
  /-- The history shows what is answered. -/
  answers : p.readConfig.2.history.head? = some (.configRead p.readConfig.1) ∧
    ∀ k, p.currentOrBuild.1 = some k → p.currentOrBuild.2.history.head? = some (.obtained k)
  built_once : p.history.countP builds ≤ 1
  /-- Who asks gets the executor of those before, unless another was installed meanwhile. -/
  same_executor : ∀ later between earlier k m,
    p.history = later ++ .obtained m :: (between ++ .obtained k :: earlier) →
    (∀ j, .installed j ∉ between) → m = k
  same_config : ∀ c, .configRead c ∈ p.history → p.readConfig.1 = c
  /-- The configuration was given before it was read, or else it is the ambient one. -/
  given : ∀ later earlier c, p.history = later ++ .configRead c :: earlier →
    c = (earlier.findSome? gives?).getD (.ambient parallelism env)
  /-- The executor that is built is a buffering one, with the settings of this configuration. -/
  built_for : ∀ later earlier k c, p.history = later ++ .built k c :: earlier →
    p.readConfig.1 = c ∧ c = (earlier.findSome? gives?).getD (.ambient parallelism env) ∧
      ∃ y, p.executors[k]? = some (.buffering y) ∧ y.scene.Shaped c
  valid : p.readConfig.1.Valid
  fits : (∀ c, .configured c ∈ p.history → c.Fits) → p.readConfig.1.Fits
  /-- There is no other pool than those that somebody installed. -/
  no_fallback : (∀ k why, .buildFailed k why ∉ p.history) ∧
    ∀ k s, p.executors[k]? = some (.pool s) → .installed k ∈ p.history

theorem Kept.answers (h : Kept parallelism env p) :
    p.readConfig.2.history.head? = some (.configRead p.readConfig.1) ∧
      ∀ k, p.currentOrBuild.1 = some k →
        p.currentOrBuild.2.history.head? = some (.obtained k) := by
  constructor
  · rw [readConfig_eq, List.head?_cons]
  · intro k
    have step := Program.obtains h.sound
    generalize p.currentOrBuild.1 = r at step ⊢
    generalize p.currentOrBuild.2 = q at step ⊢
    rintro rfl
    cases step <;> rfl

theorem Kept.fits (small : 8 * parallelism < wordLimit) (h : Kept parallelism env p)
    (given : ∀ c, .configured c ∈ p.history → c.Fits) : p.settled.Fits := by
  have ambient := Config.fits_ambient small env
  rw [h.settled]
  cases fixed : p.history.findSome? fixes? with
  | none => exact ambient
  | some c => exact h.orderly.fixed_of ambient given fixed

/-- However many threads give and read the configuration, ask for the executor, install others and
hand work in, a program builds at most one executor, hands out the same one until another is
installed, and has one configuration. That is the one given before it was first read, else the
environment's, else the machine's; it is valid and has machine words for sizes, so that building the
executor for it does not fail. -/
theorem one_executor (small : 8 * parallelism < wordLimit) {y : Asking ν}
    (run : (Asking.start parallelism env).Reaches y) : Reliable parallelism env y.program := by
  have kept := run.kept
  have orderly := kept.orderly
  have read : y.program.readConfig.1 = y.program.settled := by rw [readConfig_eq]
  have fixed {c : Config} (h : y.program.history.findSome? fixes? = some c) :
      y.program.readConfig.1 = c := by rw [read, kept.settled, h, Option.getD_some]
  constructor
  case answers => exact kept.answers
  case built_once => exact orderly.builds_le_one
  case same_executor =>
    intro later between earlier k m split
    rw [split] at orderly
    exact orderly.same_executor
  case same_config => exact fun c mem => fixed (orderly.fixed_of_read mem)
  case given =>
    intro later earlier c split
    rw [split] at orderly
    exact orderly.given_of_read
  case built_for =>
    intro later earlier k c split
    have shaped := kept.built k c (by simp [split])
    rw [split] at orderly
    obtain ⟨still, given⟩ := orderly.fixed_of_built
    exact ⟨fixed (split ▸ still), given, shaped⟩
  case valid => exact read ▸ kept.sound.settled
  case fits => exact read ▸ kept.fits small
  case no_fallback =>
    refine ⟨fun k why mem => ?_, kept.pools⟩
    obtain ⟨later, earlier, split⟩ := List.append_of_mem mem
    rw [split] at orderly
    cases orderly.follows

/-- Two threads ask for the executor and find none, and a third gives the configuration before they
look again. Both get the executor that the first of them builds for it; then another is installed. -/
theorem one_executor_two_builders :
    ∃ y : Asking Unit, (Asking.start 4 []).Reaches y ∧
      y.program.history = [.configRead Sample.config, .obtained 1, .installed 1, .obtained 0,
        .obtained 0, .built 0 Sample.config, .configRead Sample.config,
        .configured Sample.config] ∧
      Reliable 4 [] y.program := by
  have run := Asking.Reaches.refl (y := (Asking.start 4 [] : Asking Unit))
    |>.tail (.missed rfl) |>.tail (.missed rfl) |>.tail (.configure _ Sample.config)
    |>.tail (.enter (by decide)) |>.tail (.enter (by decide))
    |>.tail (.setExecutor _ (.scripted (.ofPlan []))) |>.tail (.found rfl) |>.tail (.readConfig _)
  exact ⟨_, run, rfl, one_executor (by decide) run⟩

end Program

end TwoTier
