import TwoTier.Proofs.Steps

/-!
What the journal says about tasks.

`World.marks` reads one kind of fact off the journal, oldest first. The tasks that were pushed to
the backlog, those offered to the pool and how the offers went, those that a stop took out of the
backlog, and those whose completion has run are all such readings.
-/

namespace TwoTier

namespace Event

@[simp] def pushed? : Event → Option TaskId
  | .pushed id _ => some id
  | _ => none

/-- A task that is offered to the pool, and whether the pool takes it. -/
@[simp] def offer? : Event → Option (TaskId × Bool)
  | .admitted id _ => some (id, true)
  | .refused id _ => some (id, false)
  | _ => none

@[simp] def withdrawn? : Event → Option (List TaskId)
  | .withdrawn ids => some ids
  | _ => none

@[simp] def completed? : Event → Option TaskId
  | .completed id => some id
  | _ => none

end Event

namespace World

variable {ν α : Type}

/-- What `p` finds in the journal, oldest first. -/
def marks (p : Event → Option α) (w : World ν) : List α := w.journal.reverse.filterMap p

theorem marks_record (p : Event → Option α) (e : Event) (w : World ν) :
    (w.record e).marks p = w.marks p ++ (p e).toList := by
  unfold marks
  rw [journal_record, List.reverse_cons, List.filterMap_append]
  cases h : p e <;> simp [h]

/-- Events that `p` passes over leave its reading as it is. -/
theorem marks_append {p : Event → Option α} {w w' : World ν} {es : List Event}
    (later : w'.journal = es ++ w.journal) (blind : ∀ e ∈ es, p e = none) :
    w'.marks p = w.marks p := by
  have none : es.reverse.filterMap p = [] := by
    apply List.filterMap_eq_nil_iff.mpr
    intro e mem
    exact blind e (List.mem_reverse.mp mem)
  unfold marks
  rw [later, List.reverse_append, List.filterMap_append, none, List.append_nil]

/-- The tasks that have joined the backlog, in that order. -/
def pushed (w : World ν) : List TaskId := w.marks Event.pushed?

/-- The offers to the pool, in order, each with its outcome. -/
def offers (w : World ν) : List (TaskId × Bool) := w.marks Event.offer?

/-- The tasks offered to the pool, in the order of the offers. -/
def offered (w : World ν) : List TaskId := w.offers.map Prod.fst

/-- The tasks that the pool has taken. -/
def accepted (w : World ν) : List TaskId := (w.offers.filter Prod.snd).map Prod.fst

/-- The tasks that stops have taken out of the backlog, to hand them back. -/
def withdrawn (w : World ν) : List TaskId := (w.marks Event.withdrawn?).flatten

/-- The tasks whose completion has run. -/
def completed (w : World ν) : List TaskId := w.marks Event.completed?

/-- The tasks that the pool has taken and that have not completed. -/
def outstanding (w : World ν) : List TaskId := w.accepted.filter (· ∉ w.completed)

/-- The tasks that have joined the backlog, without those that a stop took out of it. -/
def retained (w : World ν) : List TaskId := w.pushed.filter (· ∉ w.withdrawn)

section Fresh

@[simp] theorem pushed_fresh : (fresh : World ν).pushed = [] := rfl

@[simp] theorem offers_fresh : (fresh : World ν).offers = [] := rfl

@[simp] theorem offered_fresh : (fresh : World ν).offered = [] := rfl

@[simp] theorem accepted_fresh : (fresh : World ν).accepted = [] := rfl

@[simp] theorem withdrawn_fresh : (fresh : World ν).withdrawn = [] := rfl

@[simp] theorem completed_fresh : (fresh : World ν).completed = [] := rfl

end Fresh

section Record

variable (e : Event) (w : World ν)

@[simp] theorem pushed_record : (w.record e).pushed = w.pushed ++ e.pushed?.toList :=
  marks_record _ e w

@[simp] theorem offers_record : (w.record e).offers = w.offers ++ e.offer?.toList :=
  marks_record _ e w

@[simp] theorem offered_record :
    (w.record e).offered = w.offered ++ (e.offer?.map Prod.fst).toList := by
  unfold offered
  rw [offers_record, List.map_append]
  cases e.offer? <;> rfl

@[simp] theorem accepted_record :
    (w.record e).accepted = w.accepted ++ (e.offer?.toList.filter Prod.snd).map Prod.fst := by
  unfold accepted
  rw [offers_record, List.filter_append, List.map_append]

@[simp] theorem withdrawn_record :
    (w.record e).withdrawn = w.withdrawn ++ e.withdrawn?.getD [] := by
  unfold withdrawn
  rw [marks_record, List.flatten_append]
  cases e.withdrawn? <;> simp

@[simp] theorem completed_record :
    (w.record e).completed = w.completed ++ e.completed?.toList :=
  marks_record _ e w

end Record

end World

/-! ### Tasks whose completion is still to come -/

namespace World

variable {ν : Type} {w w' : World ν}

theorem mem_outstanding {id : TaskId} :
    id ∈ w.outstanding ↔ id ∈ w.accepted ∧ id ∉ w.completed := by
  simp [outstanding]

theorem accepted_sublist_offered (w : World ν) : w.accepted.Sublist w.offered :=
  List.filter_sublist.map Prod.fst

theorem outstanding_congr (accepted : w'.accepted = w.accepted)
    (completed : w'.completed = w.completed) : w'.outstanding = w.outstanding := by
  unfold outstanding
  rw [accepted, completed]

/-- The last offer was refused, and then no accepted task was outstanding. -/
def brokenOff (w : World ν) : Prop :=
  ∃ after id why before, w.journal = after ++ .refused id why :: before ∧
    (∀ e ∈ after, e.offer? = none) ∧ ({ w with journal := before } : World ν).outstanding = []

/-- Without another offer that stays as it is. -/
theorem brokenOff_append {es : List Event} (later : w'.journal = es ++ w.journal)
    (silent : ∀ e ∈ es, e.offer? = none) : w'.brokenOff ↔ w.brokenOff := by
  constructor
  · rintro ⟨after, id, why, before, split, quiet, idle⟩
    rw [later] at split
    have idle : ({ w with journal := before } : World ν).outstanding = [] := idle
    rcases List.append_eq_append_iff.mp split with ⟨more, rfl, own⟩ | ⟨more, rfl, own⟩
    · exact ⟨more, id, why, before, own, fun e mem => quiet e (List.mem_append_right _ mem), idle⟩
    · cases more with
      | nil => exact ⟨[], id, why, before, own.symm, by simp, idle⟩
      | cons e more =>
          obtain ⟨rfl, -⟩ := List.cons.inj own
          have := silent (.refused id why) (by simp)
          simp at this
  · rintro ⟨after, id, why, before, split, quiet, idle⟩
    refine ⟨es ++ after, id, why, before, by rw [later, split, List.append_assoc], ?_, idle⟩
    intro e mem
    rcases List.mem_append.mp mem with mem | mem
    · exact silent e mem
    · exact quiet e mem

theorem brokenOff_record {e : Event} (silent : e.offer? = none) :
    (w.record e).brokenOff ↔ w.brokenOff :=
  brokenOff_append (show (w.record e).journal = [e] ++ w.journal from rfl) (by simpa using silent)

/-- What an offer makes of it. -/
theorem brokenOff_offer {e : Event} {offer : TaskId × Bool} (h : e.offer? = some offer) :
    (w.record e).brokenOff ↔ offer.2 = false ∧ w.outstanding = [] := by
  constructor
  · rintro ⟨after, id, why, before, split, quiet, idle⟩
    cases after with
    | nil =>
        obtain ⟨rfl, rfl⟩ := List.cons.inj split
        obtain rfl := Option.some.inj h
        exact ⟨rfl, idle⟩
    | cons e' after =>
        obtain ⟨rfl, -⟩ := List.cons.inj split
        rw [quiet e (by simp)] at h
        contradiction
  · rintro ⟨refused, idle⟩
    cases e with
    | refused id why => exact ⟨[], id, why, w.journal, rfl, by simp, idle⟩
    | admitted id n =>
        obtain rfl := Option.some.inj h
        contradiction
    | _ => simp at h

end World

theorem Event.offer?_of_quiet {e : Event} (quiet : e.movesTask = false) : e.offer? = none := by
  cases e <;> simp_all [movesTask]

namespace Scene.Keeps

variable {σ ν α : Type} {s s' : Scene σ ν}

/-- Readings of events that move tasks stay as they are. -/
theorem marks (h : Keeps s s') {p : Event → Option α}
    (blind : ∀ e, e.movesTask = false → p e = none) : s'.world.marks p = s.world.marks p := by
  obtain ⟨es, later, quiet⟩ := h.journal
  exact World.marks_append later fun e mem => blind e (quiet e mem)

theorem pushed (h : Keeps s s') : s'.world.pushed = s.world.pushed :=
  h.marks fun e quiet => by cases e <;> simp_all [Event.movesTask]

theorem offers (h : Keeps s s') : s'.world.offers = s.world.offers :=
  h.marks fun e quiet => by cases e <;> simp_all [Event.movesTask]

theorem offered (h : Keeps s s') : s'.world.offered = s.world.offered := by
  simp only [World.offered, h.offers]

theorem accepted (h : Keeps s s') : s'.world.accepted = s.world.accepted := by
  simp only [World.accepted, h.offers]

theorem withdrawn (h : Keeps s s') : s'.world.withdrawn = s.world.withdrawn := by
  unfold World.withdrawn
  rw [h.marks fun e quiet => by cases e <;> simp_all [Event.movesTask]]

theorem brokenOff (h : Keeps s s') : s'.world.brokenOff ↔ s.world.brokenOff := by
  obtain ⟨es, later, quiet⟩ := h.journal
  exact World.brokenOff_append later fun e mem => Event.offer?_of_quiet (quiet e mem)

theorem retained (h : Keeps s s') : s'.world.retained = s.world.retained := by
  simp only [World.retained, h.pushed, h.withdrawn]

end Scene.Keeps

namespace Scene

variable {σ ν : Type}

/-- A scan writes reports only. -/
theorem marks_scan {α : Type} {p : Event → Option α} (blind : ∀ r, p (.stale r) = none)
    (s : Scene σ ν) : s.scan.2.world.marks p = s.world.marks p := by
  unfold scan
  cases s.exec.flight with
  | none => rfl
  | some flight =>
      refine World.marks_append (journal_reportAll _ _) ?_
      intro e mem
      obtain ⟨r, -, rfl⟩ := List.mem_map.mp (List.mem_reverse.mp mem)
      exact blind r

/-- The end of a closure writes at most its panic. -/
theorem marks_finish {α : Type} {p : Event → Option α}
    (blind : ∀ name payload on, p (.panicked name payload on) = none) (c : Closure ν)
    (on : ThreadId) (w : World ν) : (w.finish c on).marks p = w.marks p := by
  unfold World.finish
  split
  · rfl
  · rw [World.marks_record, blind, Option.toList_none, List.append_nil]
  · rfl

/-! Completions are recorded outside passes, and by completions only. -/

theorem completed_scan (s : Scene σ ν) : s.scan.2.world.completed = s.world.completed :=
  marks_scan (fun _ => rfl) s

theorem completed_finish (c : Closure ν) (on : ThreadId) (w : World ν) :
    (w.finish c on).completed = w.completed :=
  marks_finish (fun _ _ _ => rfl) c on w

end Scene

/-! ### What a pass writes -/

/-- The events of a pass: offers, and changes of the core size. -/
def Event.ofPass : Event → Bool
  | .admitted _ _ | .refused _ _ | .bandChanged _ _ _ | .coreSizeSet _ => true
  | _ => false

namespace Scene

variable {σ ν α : Type} [WorkerPool σ (Task ν)] {me : ThreadId} {s s' : Scene σ ν} {f g : Frame ν}

theorem journal_retune (active queued : Nat) (s : Scene σ ν) :
    ∃ es, (s.retune active queued).2.world.journal = es ++ s.world.journal ∧
      ∀ e ∈ es, e.ofPass = true := by
  unfold retune
  dsimp only
  split
  · exact ⟨[], rfl, by simp⟩
  · exact ⟨[_], rfl, by simp [Event.ofPass]⟩

omit [WorkerPool σ (Task ν)] in
theorem journal_marked (t : Task ν) (s : Scene σ ν) :
    (s.marked t).world.journal = s.world.journal := by
  unfold marked enterFlight
  cases s.exec.flight <;> rfl

theorem PassStep.journal (h : PassStep me s f g s') :
    ∃ es, s'.world.journal = es ++ s.world.journal ∧ ∀ e ∈ es, e.ofPass = true := by
  cases h with
  | tuned active queued _ => exact journal_retune active queued s
  | untuned active queued _ => exact journal_retune active queued s
  | mark t _ _ => exact ⟨[], journal_marked t s, by simp⟩
  | setCore | accepted | turnedDown => exact ⟨[_], rfl, by simp [Event.ofPass]⟩
  | _ => exact ⟨[], rfl, by simp⟩

/-- Readings of other events stay as they are. -/
theorem PassStep.marks (h : PassStep me s f g s') {p : Event → Option α}
    (blind : ∀ e, e.ofPass = true → p e = none) : s'.world.marks p = s.world.marks p := by
  obtain ⟨es, later, own⟩ := h.journal
  exact World.marks_append later fun e mem => blind e (own e mem)

theorem PassStep.completed (h : PassStep me s f g s') :
    s'.world.completed = s.world.completed :=
  h.marks fun e own => by cases e <;> simp_all [Event.ofPass]

/-- A pass only takes from the backlog. -/
theorem PassStep.pushed (h : PassStep me s f g s') : s'.world.pushed = s.world.pushed :=
  h.marks fun e own => by cases e <;> simp_all [Event.ofPass]

theorem PassStep.withdrawn (h : PassStep me s f g s') :
    s'.world.withdrawn = s.world.withdrawn := by
  unfold World.withdrawn
  rw [h.marks fun e own => by cases e <;> simp_all [Event.ofPass]]

theorem PassStep.retained (h : PassStep me s f g s') :
    s'.world.retained = s.world.retained := by
  simp only [World.retained, h.pushed, h.withdrawn]

end Scene

end TwoTier
