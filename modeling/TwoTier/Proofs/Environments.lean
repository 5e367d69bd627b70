import TwoTier.Proofs.Configurations
import TwoTier.Proofs.Encodings

/-!
Which environments give a configuration, and which one.

What is asked for is said of the bytes that the variables hold, without the readers: a field has the
value that its variable means, and its old value where the variable is unset or is no text
(`Environment.Asked`). A variable offends if it is set to a text that means nothing, and the first
of them in the order of reading is the one that is told of (`Environment.FirstFault`). Every
environment either asks for one configuration or has a first fault, and the validation has the last
word on what is asked for (`Config.ofEnvironment_exact`). Each valid configuration can be written as
an environment and read back.
-/

namespace TwoTier

theorem Duration.ofSeconds_seconds {d : Duration} (whole : d.subNanos = 0) :
    ofSeconds d.seconds = d := by
  unfold ofSeconds ofParts seconds
  rw [Nat.add_zero, Nat.div_mul_cancel (Nat.dvd_of_mod_eq_zero whole)]

namespace Environment

open Text (utf8 WordText FlagText)

/-- The environment in which variables hold bytes. -/
def ofBytes (vars : List (String × List Nat)) : Environment :=
  vars.map fun v => (v.1, .ofBytes v.2)

/-- A variable is set to a text. One whose bytes encode no text is set to none. -/
def Holds (vars : List (String × List Nat)) (name raw : String) : Prop :=
  vars.lookup name = some (utf8 raw)

/-- A field has the value that its variable means, or else its old value. -/
def Sets {α : Type} (vars : List (String × List Nat)) (name : String) (means : String → α → Prop)
    (old new : α) : Prop :=
  (∃ raw, Holds vars name raw ∧ means raw new) ∨ ((∀ raw, ¬ Holds vars name raw) ∧ new = old)

/-- A number of seconds. -/
def SecondsText (raw : String) (d : Duration) : Prop :=
  ∃ secs, WordText raw secs ∧ d = .ofSeconds secs

/-- The configuration that the variables ask for over `base`. -/
structure Asked (vars : List (String × List Nat)) (base c : Config) : Prop where
  core : Sets vars coreSizeName WordText base.coreSize c.coreSize
  bigger : Sets vars biggerCoreSizeName WordText base.biggerCoreSize c.biggerCoreSize
  max : Sets vars maxCoreSizeName WordText base.maxCoreSize c.maxCoreSize
  queue : Sets vars maxQueueSizeName WordText base.maxQueueSize c.maxQueueSize
  keepAlive : Sets vars keepAliveName SecondsText base.keepAlive c.keepAlive
  /-- A name is taken as it is. -/
  name : Sets vars threadNameName (fun raw name => name = raw) base.threadName c.threadName
  debug : Sets vars debugName FlagText base.debug c.debug

def numericNames : List String :=
  [coreSizeName, biggerCoreSizeName, maxCoreSizeName, maxQueueSizeName, keepAliveName]

/-- A variable is set to a text that means nothing, and the error that tells of it. -/
inductive Offends (vars : List (String × List Nat)) : String → Error → Prop where
  | number {name raw : String} (numeric : name ∈ numericNames) (set : Holds vars name raw)
      (unreadable : ∀ n, ¬ WordText raw n) :
      Offends vars name (.invalidConfig (.unreadableNumber name raw))
  | flag {raw : String} (set : Holds vars debugName raw) (unreadable : ∀ b, ¬ FlagText raw b) :
      Offends vars debugName (.invalidConfig (.unreadableFlag debugName raw))

/-- The first of some variables that offends. -/
inductive FirstFault (vars : List (String × List Nat)) : List String → Error → Prop where
  | here {name : String} {names : List String} {e : Error} :
      Offends vars name e → FirstFault vars (name :: names) e
  | later {name : String} {names : List String} {e : Error} (fine : ∀ e', ¬ Offends vars name e') :
      FirstFault vars names e → FirstFault vars (name :: names) e

/-- What the reader of a variable answers, by what the variable holds. -/
inductive Answer {α : Type} (vars : List (String × List Nat)) (name : String)
    (means : String → α → Prop) (complaint : String → Error) : Except Error (Option α) → Prop where
  | unset : (∀ raw, ¬ Holds vars name raw) → Answer vars name means complaint (.ok none)
  | read {raw : String} {a : α} (set : Holds vars name raw) (one : ∀ b, means raw b ↔ b = a) :
      Answer vars name means complaint (.ok (some a))
  | unreadable {raw : String} (set : Holds vars name raw) (none : ∀ a, ¬ means raw a) :
      Answer vars name means complaint (.error (complaint raw))

/-! ### Reading a variable -/

section Reading

variable {vars : List (String × List Nat)} {name raw : String} {e : Error}

theorem lookup_ofBytes (vars : List (String × List Nat)) (name : String) :
    (ofBytes vars).lookup name = (vars.lookup name).map Text.RawText.ofBytes := by
  induction vars with
  | nil => rfl
  | cons v vars ih =>
      rw [ofBytes, List.map_cons, List.lookup_cons, List.lookup_cons]
      split
      · rfl
      · exact ih

theorem text?_eq_some : (ofBytes vars).text? name = some raw ↔ Holds vars name raw := by
  rw [text?, lookup_ofBytes, Holds, Option.bind_map, Option.bind_eq_some_iff]
  simp only [Function.comp_apply, Text.RawText.text?_ofBytes, exists_eq_right]

theorem text?_eq_none : (ofBytes vars).text? name = none ↔ ∀ raw, ¬ Holds vars name raw := by
  simp only [Option.eq_none_iff_forall_ne_some, ne_eq, text?_eq_some]

theorem Holds.unique {raw' : String} (set : Holds vars name raw) (set' : Holds vars name raw') :
    raw = raw' :=
  Option.some.inj ((text?_eq_some.mpr set).symm.trans (text?_eq_some.mpr set'))

theorem number?_answer (vars : List (String × List Nat)) (name : String) :
    Answer vars name WordText (fun raw => .invalidConfig (.unreadableNumber name raw))
      ((ofBytes vars).number? name) := by
  unfold number?
  cases text : (ofBytes vars).text? name with
  | none => exact .unset (text?_eq_none.mp text)
  | some raw =>
      have set := text?_eq_some.mp text
      dsimp only
      cases word : Text.readWord (Text.trim raw) with
      | ok n =>
          refine .read set fun m => ?_
          rw [← Text.readWord_trim, word, Except.ok.injEq, eq_comm]
      | error why =>
          refine .unreadable set fun n means => ?_
          rw [← Text.readWord_trim, word] at means
          contradiction

theorem flag?_answer (vars : List (String × List Nat)) (name : String) :
    Answer vars name FlagText (fun raw => .invalidConfig (.unreadableFlag name raw))
      ((ofBytes vars).flag? name) := by
  unfold flag?
  cases text : (ofBytes vars).text? name with
  | none => exact .unset (text?_eq_none.mp text)
  | some raw =>
      have set := text?_eq_some.mp text
      dsimp only
      cases word : readFlag? raw with
      | some b =>
          refine .read set fun b' => ?_
          rw [← Text.readFlag?_eq_some, word, Option.some.injEq, eq_comm]
      | none =>
          refine .unreadable set fun b means => ?_
          rw [← Text.readFlag?_eq_some, word] at means
          contradiction

namespace Answer

variable {α β : Type} {means : String → α → Prop} {complaint : String → Error}
  {answer : Except Error (Option α)}

/-- A field is set by what is read. -/
theorem sets_map (h : Answer vars name means complaint answer) (f : α → β) {old new : β} :
    (∃ read, answer = .ok read ∧ new = (read.map f).getD old) ↔
      Sets vars name (fun raw b => ∃ a, means raw a ∧ b = f a) old new := by
  cases h with
  | unset unset =>
      constructor
      · rintro ⟨_, ⟨⟩, rfl⟩
        exact .inr ⟨unset, rfl⟩
      · rintro (⟨raw, set, -⟩ | ⟨-, rfl⟩)
        · exact absurd set (unset raw)
        · exact ⟨none, rfl, rfl⟩
  | read set one =>
      constructor
      · rintro ⟨_, ⟨⟩, rfl⟩
        exact .inl ⟨_, set, _, (one _).mpr rfl, rfl⟩
      · rintro (⟨raw, set', a, meant, rfl⟩ | ⟨unset, -⟩)
        · cases set.unique set'
          cases (one a).mp meant
          exact ⟨_, rfl, rfl⟩
        · exact absurd set (unset _)
  | unreadable set unreadable =>
      constructor
      · rintro ⟨_, ⟨⟩, -⟩
      · rintro (⟨raw, set', a, meant, -⟩ | ⟨unset, -⟩)
        · cases set.unique set'
          exact absurd meant (unreadable a)
        · exact absurd set (unset _)

theorem sets (h : Answer vars name means complaint answer) {old new : α} :
    (∃ read, answer = .ok read ∧ new = read.getD old) ↔ Sets vars name means old new := by
  simpa only [Option.map_id_fun, id, exists_eq_right'] using h.sets_map id

theorem error (h : Answer vars name means complaint answer) :
    answer = .error e ↔
      ∃ raw, Holds vars name raw ∧ (∀ a, ¬ means raw a) ∧ e = complaint raw := by
  cases h with
  | unset unset => exact iff_of_false nofun fun ⟨raw, set, _⟩ => unset raw set
  | read set one =>
      refine iff_of_false nofun ?_
      rintro ⟨raw, set', unreadable, -⟩
      cases set.unique set'
      exact unreadable _ ((one _).mpr rfl)
  | unreadable set unreadable =>
      constructor
      · rintro ⟨⟩
        exact ⟨_, set, unreadable, rfl⟩
      · rintro ⟨raw, set', -, rfl⟩
        rw [set.unique set']

end Answer

theorem text?_sets {old new : String} :
    new = ((ofBytes vars).text? name).getD old ↔
      Sets vars name (fun raw new => new = raw) old new := by
  cases text : (ofBytes vars).text? name with
  | none =>
      have unset := text?_eq_none.mp text
      constructor
      · rintro rfl
        exact .inr ⟨unset, rfl⟩
      · rintro (⟨raw, set, -⟩ | ⟨-, rfl⟩)
        · exact absurd set (unset raw)
        · rfl
  | some raw =>
      have set := text?_eq_some.mp text
      constructor
      · rintro rfl
        exact .inl ⟨_, set, rfl⟩
      · rintro (⟨raw', set', rfl⟩ | ⟨unset, -⟩)
        · exact (set.unique set').symm
        · exact absurd set (unset raw)

theorem number?_error (numeric : name ∈ numericNames) :
    (ofBytes vars).number? name = .error e ↔ Offends vars name e := by
  rw [(number?_answer vars name).error]
  constructor
  · rintro ⟨raw, set, unreadable, rfl⟩
    exact .number numeric set unreadable
  · intro offends
    cases offends with
    | number _ set unreadable => exact ⟨_, set, unreadable, rfl⟩
    | flag => exact absurd numeric (by decide)

theorem flag?_error : (ofBytes vars).flag? debugName = .error e ↔ Offends vars debugName e := by
  rw [(flag?_answer vars debugName).error]
  constructor
  · rintro ⟨raw, set, unreadable, rfl⟩
    exact .flag set unreadable
  · intro offends
    cases offends with
    | number numeric => exact absurd numeric (by decide)
    | flag set unreadable => exact ⟨_, set, unreadable, rfl⟩

theorem Offends.mem (offends : Offends vars name e) : name ∈ debugName :: numericNames := by
  cases offends with
  | number numeric => exact List.mem_cons_of_mem _ numeric
  | flag => exact List.mem_cons_self

/-- A thread name is never at fault. -/
theorem not_offends_threadName : ¬ Offends vars threadNameName e := fun offends =>
  absurd offends.mem (by decide)

end Reading

/-! ### All variables -/

section Overriding

variable {vars : List (String × List Nat)} {base c : Config} {e : Error}

theorem override_ok : (ofBytes vars).override base = .ok c ↔ Asked vars base c := by
  constructor
  · intro h
    obtain ⟨core, core_read, h⟩ := bind_ok h
    obtain ⟨bigger, bigger_read, h⟩ := bind_ok h
    obtain ⟨max, max_read, h⟩ := bind_ok h
    obtain ⟨queue, queue_read, h⟩ := bind_ok h
    obtain ⟨keepAlive, keepAlive_read, h⟩ := bind_ok h
    obtain ⟨debug, debug_read, h⟩ := bind_ok h
    cases h
    exact
      { core := (number?_answer vars _).sets.mp ⟨core, core_read, rfl⟩
        bigger := (number?_answer vars _).sets.mp ⟨bigger, bigger_read, rfl⟩
        max := (number?_answer vars _).sets.mp ⟨max, max_read, rfl⟩
        queue := (number?_answer vars _).sets.mp ⟨queue, queue_read, rfl⟩
        keepAlive := ((number?_answer vars _).sets_map _).mp ⟨keepAlive, keepAlive_read, rfl⟩
        name := text?_sets.mp rfl
        debug := (flag?_answer vars _).sets.mp ⟨debug, debug_read, rfl⟩ }
  · intro asked
    obtain ⟨core, core_read, core_same⟩ := (number?_answer vars _).sets.mpr asked.core
    obtain ⟨bigger, bigger_read, bigger_same⟩ := (number?_answer vars _).sets.mpr asked.bigger
    obtain ⟨max, max_read, max_same⟩ := (number?_answer vars _).sets.mpr asked.max
    obtain ⟨queue, queue_read, queue_same⟩ := (number?_answer vars _).sets.mpr asked.queue
    obtain ⟨keepAlive, keepAlive_read, keepAlive_same⟩ :=
      ((number?_answer vars _).sets_map _).mpr asked.keepAlive
    obtain ⟨debug, debug_read, debug_same⟩ := (flag?_answer vars _).sets.mpr asked.debug
    unfold override
    rw [core_read, bigger_read, max_read, queue_read, keepAlive_read, debug_read]
    change Except.ok _ = _
    rw [← core_same, ← bigger_same, ← max_same, ← queue_same, ← keepAlive_same, ← debug_same,
      ← text?_sets.mpr asked.name]

theorem FirstFault.skip {name : String} {names : List String}
    (fine : ∀ e', ¬ Offends vars name e') :
    FirstFault vars (name :: names) e ↔ FirstFault vars names e := by
  constructor
  · intro fault
    cases fault with
    | here offends => exact absurd offends (fine e)
    | later _ fault => exact fault
  · exact .later fine

/-- Reading one variable and then others fails with the first fault of them all. -/
theorem firstFault_bind {α β : Type} {name : String} {names : List String} {x : Except Error α}
    {f : α → Except Error β} (first : ∀ e, x = .error e ↔ Offends vars name e)
    (rest : ∀ a e, f a = .error e ↔ FirstFault vars names e) :
    x >>= f = .error e ↔ FirstFault vars (name :: names) e := by
  cases x with
  | error why =>
      constructor
      · rintro ⟨⟩
        exact .here ((first _).mp rfl)
      · intro fault
        cases fault with
        | here offends =>
            cases (first e).mpr offends
            rfl
        | later fine => exact absurd ((first why).mp rfl) (fine why)
  | ok a =>
      have fine : ∀ e', ¬ Offends vars name e' := fun e' offends =>
        nomatch (first e').mpr offends
      rw [FirstFault.skip fine]
      exact rest a e

theorem override_error :
    (ofBytes vars).override base = .error e ↔ FirstFault vars variableNames e := by
  have numeric {name : String} (mem : name ∈ numericNames) (e : Error) :
      (ofBytes vars).number? name = .error e ↔ Offends vars name e := number?_error mem
  refine firstFault_bind (numeric (by decide)) fun core e => ?_
  refine firstFault_bind (numeric (by decide)) fun bigger e => ?_
  refine firstFault_bind (numeric (by decide)) fun max e => ?_
  refine firstFault_bind (numeric (by decide)) fun queue e => ?_
  refine firstFault_bind (numeric (by decide)) fun keepAlive e => ?_
  rw [FirstFault.skip fun _ => not_offends_threadName]
  exact firstFault_bind (fun _ => flag?_error) fun debug e => iff_of_false nofun nofun

end Overriding

/-! ### Writing a configuration -/

/-- How a configuration is written into variables: what stands around a variable's number, and the
word for a flag. -/
structure Hand where
  before : String → String
  after : String → String
  word : Bool → String
  blank_before : ∀ name, ∀ c ∈ (before name).toList, Text.isBlank c = true
  blank_after : ∀ name, ∀ c ∈ (after name).toList, Text.isBlank c = true
  legible : ∀ b, FlagText (word b) b

namespace Hand

def number (h : Hand) (name : String) (n : Nat) : String :=
  h.before name ++ toString n ++ h.after name

/-- The variables of a configuration. A keep-alive is written in whole seconds. -/
def written (h : Hand) (c : Config) : List (String × List Nat) :=
  [(coreSizeName, utf8 (h.number coreSizeName c.coreSize)),
   (biggerCoreSizeName, utf8 (h.number biggerCoreSizeName c.biggerCoreSize)),
   (maxCoreSizeName, utf8 (h.number maxCoreSizeName c.maxCoreSize)),
   (maxQueueSizeName, utf8 (h.number maxQueueSizeName c.maxQueueSize)),
   (keepAliveName, utf8 (h.number keepAliveName c.keepAlive.seconds)),
   (threadNameName, utf8 c.threadName),
   (debugName, utf8 (h.word c.debug))]

variable {h : Hand}

theorem wordText_number {name : String} {n : Nat} (small : n < wordLimit) :
    WordText (h.number name n) n := by
  refine ⟨(toString n).toList, ⟨_, _, ?_, h.blank_before name, h.blank_after name⟩,
    Text.isNumeral_toString n, small⟩
  rw [number, String.toList_append, String.toList_append]

theorem asked_written {c : Config} (fits : c.Fits) (whole : c.keepAlive.subNanos = 0)
    (base : Config) (others : List (String × List Nat)) :
    Asked (h.written c ++ others) base c := by
  have seconds := (Duration.ofSeconds_seconds whole).symm
  have below : Duration.longest.total < nanosPerSecond * wordLimit := by
    rw [Nat.mul_comm, Duration.longest]
    exact Nat.sub_lt (by decide) (by decide)
  have small : c.keepAlive.seconds < wordLimit :=
    Nat.div_lt_of_lt_mul (Nat.lt_of_le_of_lt fits.keepAlive below)
  exact
    { core := .inl ⟨_, rfl, wordText_number fits.core⟩
      bigger := .inl ⟨_, rfl, wordText_number fits.bigger⟩
      max := .inl ⟨_, rfl, wordText_number fits.max⟩
      queue := .inl ⟨_, rfl, wordText_number fits.queue⟩
      keepAlive := .inl ⟨_, rfl, _, wordText_number small, seconds⟩
      name := .inl ⟨_, rfl, rfl⟩
      debug := .inl ⟨_, rfl, h.legible c.debug⟩ }

end Hand

end Environment

/-! ### Reading a configuration -/

namespace Config

open Environment (Asked FirstFault Hand variableNames)

variable {parallelism : Nat} {vars : List (String × List Nat)} {c : Config} {e : Error}

theorem ofEnvironment_eq_ok : ofEnvironment parallelism (.ofBytes vars) = .ok c ↔
    Asked vars (forParallelism parallelism) c ∧ c.validate = .ok () := by
  rw [← Environment.override_ok]
  constructor
  · intro h
    obtain ⟨asked, valid⟩ := ofEnvironment_ok h
    exact ⟨asked, valid.validate⟩
  · rintro ⟨asked, valid⟩
    unfold ofEnvironment
    rw [asked]
    change c.validate >>= _ = _
    rw [valid]
    rfl

theorem ofEnvironment_eq_error : ofEnvironment parallelism (.ofBytes vars) = .error e ↔
    FirstFault vars variableNames e ∨
      ∃ c, Asked vars (forParallelism parallelism) c ∧ c.validate = .error e := by
  have faults : Environment.override (.ofBytes vars) (forParallelism parallelism) = .error e ↔
      FirstFault vars variableNames e := Environment.override_error
  simp only [← Environment.override_ok, ← faults]
  unfold ofEnvironment
  cases Environment.override (.ofBytes vars) (forParallelism parallelism) with
  | error why =>
      constructor
      · rintro ⟨⟩
        exact .inl rfl
      · rintro (same | ⟨c, same, -⟩)
        · cases same
          rfl
        · cases same
  | ok c =>
      change (c.validate >>= fun _ => Except.ok c) = Except.error e ↔ _
      cases checked : c.validate with
      | error why =>
          constructor
          · rintro ⟨⟩
            exact .inr ⟨c, rfl, checked⟩
          · rintro (same | ⟨c', same, fault⟩)
            · cases same
            · cases same
              cases checked.symm.trans fault
              rfl
      | ok _ =>
          refine iff_of_false nofun ?_
          rintro (same | ⟨c', same, fault⟩)
          · cases same
          · cases same
            cases checked.symm.trans fault

/-- What an environment gives. It gives a configuration exactly if that is the one that its
variables ask for and is valid, and fails with the first of its faults or else with the one of
what it asks for. Every valid configuration can be written into the variables, with any blanks
around the numbers, and is read back from them, whatever other variables there are. -/
theorem ofEnvironment_exact (parallelism : Nat) (vars : List (String × List Nat)) :
    (∀ c, ofEnvironment parallelism (.ofBytes vars) = .ok c ↔
      Asked vars (forParallelism parallelism) c ∧ c.validate = .ok ()) ∧
    (∀ e, ofEnvironment parallelism (.ofBytes vars) = .error e ↔
      FirstFault vars variableNames e ∨
        ∃ c, Asked vars (forParallelism parallelism) c ∧ c.validate = .error e) ∧
    ∀ (h : Hand) (c : Config), c.validate = .ok () → c.Fits → c.keepAlive.subNanos = 0 →
      ofEnvironment parallelism (.ofBytes (h.written c ++ vars)) = .ok c := by
  refine ⟨fun c => ofEnvironment_eq_ok, fun e => ofEnvironment_eq_error, ?_⟩
  intro h c valid fits whole
  exact ofEnvironment_eq_ok.mpr ⟨Hand.asked_written fits whole _ vars, valid⟩

/-- A wide blank before each number, a narrow one and a tab after it. -/
def wide : Hand where
  before := fun _ => "\u3000"
  after := fun _ => " \t"
  word := fun b => if b then " YES" else ""
  blank_before := fun _ => List.all_eq_true.mp rfl
  blank_after := fun _ => List.all_eq_true.mp rfl
  legible := fun b => Text.readFlag?_eq_some.mp (by cases b <;> decide +kernel)

/-- The last part at a configuration that has no default, beside a variable that is no text. -/
theorem ofEnvironment_exact_of_wide :
    let c : Config := ⟨2, 4, 4, 7, .ofSeconds 18446744073709551615, "n", true⟩
    c.validate = .ok () ∧ c.Fits ∧ c.keepAlive.subNanos = 0 ∧
      ofEnvironment 8 (.ofBytes (wide.written c ++ [("PATH", [0xFF])])) = .ok c := by
  intro c
  have valid : c.validate = .ok () := rfl
  have fits : c.Fits := ⟨by decide, by decide, by decide, by decide, by decide⟩
  have whole : c.keepAlive.subNanos = 0 := by decide
  exact ⟨valid, fits, whole, (ofEnvironment_exact 8 [("PATH", [0xFF])]).2.2 wide c valid fits whole⟩

end Config

end TwoTier
