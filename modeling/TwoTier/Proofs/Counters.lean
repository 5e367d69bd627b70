import TwoTier.Proofs.Closing

/-!
What the counters count.

The counters of an executor are kept up at many places. Here they are compared with a book that is
kept beside the run (`System.Book`): a line for every task that joins the backlog, with the length
of the backlog then, for every answer of the pool to an offer, and for every stop that takes the
backlog. The book knows nothing of the counters, and every run has one (`System.Reaches.book`).

Between passes every submission is accounted for by the counters and the book
(`counters_account`), whatever the pool does and whoever calls.
-/

namespace TwoTier

variable {σ ν : Type}

/-! ### The book of a run -/

/-- A line of the book. -/
inductive Entry where
  /-- A task has joined the backlog, which now has this length. -/
  | joined (backlog : Nat)
  /-- The pool takes a job. -/
  | taken
  /-- The pool refuses a job. -/
  | turnedDown
  /-- A stop takes so many tasks out of the backlog. -/
  | withdrawn (tasks : Nat)
deriving DecidableEq, Repr

namespace Entry

def level : Entry → Nat
  | .joined backlog => backlog
  | _ => 0

def removed : Entry → Nat
  | .withdrawn tasks => tasks
  | _ => 0

/-- The longest backlog right after a task had joined it; none if no task has. -/
def peak (es : List Entry) : Nat := (es.map level).foldr max 0

/-- The tasks that stops have taken out of the backlog. -/
def takenBack (es : List Entry) : Nat := (es.map removed).sum

theorem peak_concat (es : List Entry) (e : Entry) : peak (es ++ [e]) = max (peak es) e.level := by
  induction es with
  | nil => exact Nat.max_comm _ _
  | cons e' es ih =>
      change max e'.level (peak (es ++ [e])) = max (max e'.level (peak es)) e.level
      rw [ih, Nat.max_assoc]

theorem takenBack_concat (es : List Entry) (e : Entry) :
    takenBack (es ++ [e]) = takenBack es + e.removed := by
  simp [takenBack]

end Entry

section Book

variable [WorkerPool σ (Task ν)]

/-- What a step from a frame puts into the book, given the scenes before and after it. -/
def Frame.entry? (s s' : Scene σ ν) : Frame ν → Option Entry
  | .push _ => some (.joined s'.exec.backlog.length)
  | .offer t _ _ =>
    match (WorkerPool.offer t s.exec.pool).1 with
    | none => some .taken
    | some _ => some .turnedDown
  | .shutdownNow => some (.withdrawn s.exec.backlog.length)
  | _ => none

namespace System

/-- A turn that puts a line into the book. -/
def Enters (y z : System σ ν) (e : Entry) : Prop :=
  ∃ t f rest, y.threads.get t = f :: rest ∧ y.turn? t = some z ∧ f.entry? y.scene z.scene = some e

/-- Runs, and the book kept beside them. -/
inductive Book (rules : Rules σ ν) (x : System σ ν) : List Entry → System σ ν → Prop where
  | refl : Book rules x [] x
  | line {es : List Entry} {e : Entry} {y z : System σ ν} : Book rules x es y →
      rules.fit y.scene → Next rules y z → y.Enters z e → Book rules x (es ++ [e]) z
  | blank {es : List Entry} {y z : System σ ν} : Book rules x es y →
      rules.fit y.scene → Next rules y z → (∀ e, ¬ y.Enters z e) → Book rules x es z

variable {rules : Rules σ ν} {x y z : System σ ν} {es : List Entry}

theorem Book.reaches (book : Book rules x es y) : Reaches rules x y := by
  induction book with
  | refl => exact .refl
  | line _ fit next _ ih => exact ih.tail fit next
  | blank _ fit next _ ih => exact ih.tail fit next

/-- A book can be kept beside every run. -/
theorem Reaches.book (run : Reaches rules x y) : ∃ es, Book rules x es y := by
  induction run with
  | refl => exact ⟨[], .refl⟩
  | @tail y z _ fit next ih =>
      obtain ⟨es, book⟩ := ih
      by_cases enters : ∃ e, y.Enters z e
      · obtain ⟨e, enters⟩ := enters
        exact ⟨_, book.line fit next enters⟩
      · exact ⟨es, book.blank fit next fun e enters' => enters ⟨e, enters'⟩⟩

end System

end Book

/-! ### What the executor has counted -/

/-- The counters that go with the book, and the tasks that the journal has as taken back. -/
structure Meters where
  admitted : Nat
  rejected : Nat
  peak : Nat
  takenBack : Nat

def Scene.meters (s : Scene σ ν) : Meters :=
  ⟨s.exec.admitted, s.exec.rejected, s.exec.peakBacklog, s.world.withdrawn.length⟩

namespace Meters

/-- What a line of the book adds. -/
def add (m : Meters) : Entry → Meters
  | .joined backlog => { m with peak := max m.peak backlog }
  | .taken => { m with admitted := m.admitted + 1 }
  | .turnedDown => { m with rejected := m.rejected + 1 }
  | .withdrawn tasks => { m with takenBack := m.takenBack + tasks }

/-- What the lines of the book come to. -/
def ofBook (es : List Entry) : Meters :=
  ⟨es.count .taken, es.count .turnedDown, Entry.peak es, Entry.takenBack es⟩

theorem ofBook_concat (es : List Entry) (e : Entry) : ofBook (es ++ [e]) = (ofBook es).add e := by
  unfold ofBook
  rw [Entry.peak_concat, Entry.takenBack_concat, List.count_append, List.count_append]
  cases e <;> simp [add, Entry.level, Entry.removed]

end Meters

namespace Scene

theorem meters_scan (s : Scene σ ν) : s.scan.2.meters = s.meters := by
  have withdrawn := (keeps_scan s).withdrawn
  have same : s.scan.2.exec.admitted = s.exec.admitted ∧ s.scan.2.exec.rejected = s.exec.rejected ∧
      s.scan.2.exec.peakBacklog = s.exec.peakBacklog := by
    unfold scan
    cases s.exec.flight <;> exact ⟨rfl, rfl, rfl⟩
  rw [meters, same.1, same.2.1, same.2.2, withdrawn]
  rfl

variable [WorkerPool σ (Task ν)] {me : ThreadId} {f g : Frame ν} {new : List (Frame ν)}
  {s s' : Scene σ ν}

theorem meters_retune (active queued : Nat) (s : Scene σ ν) :
    (s.retune active queued).2.meters = s.meters := by
  have withdrawn := (keeps_retune active queued s).withdrawn
  have same : (s.retune active queued).2.exec.admitted = s.exec.admitted ∧
      (s.retune active queued).2.exec.rejected = s.exec.rejected ∧
      (s.retune active queued).2.exec.peakBacklog = s.exec.peakBacklog := by
    unfold retune
    dsimp only
    split <;> exact ⟨rfl, rfl, rfl⟩
  rw [meters, same.1, same.2.1, same.2.2, withdrawn]
  rfl

omit [WorkerPool σ (Task ν)] in
theorem meters_marked (t : Task ν) (s : Scene σ ν) : (s.marked t).meters = s.meters := by
  have withdrawn := (keeps_marked t s).withdrawn
  have same : (s.marked t).exec.admitted = s.exec.admitted ∧
      (s.marked t).exec.rejected = s.exec.rejected ∧
      (s.marked t).exec.peakBacklog = s.exec.peakBacklog := by
    unfold marked enterFlight
    cases s.exec.flight <;> exact ⟨rfl, rfl, rfl⟩
  rw [meters, same.1, same.2.1, same.2.2, withdrawn]
  rfl

omit [WorkerPool σ (Task ν)] in
/-- An event other than a withdrawal is no matter of the book. -/
theorem meters_record {e : Event} (other : e.withdrawn? = none) (s : Scene σ ν) :
    (s.record e).meters = s.meters := by
  have withdrawn : (s.world.record e).withdrawn = s.world.withdrawn := by
    rw [World.withdrawn_record, other, Option.getD_none, List.append_nil]
  rw [meters, record, withdrawn]
  rfl

theorem QuietStep.meters (h : QuietStep me s f new s') : s'.meters = s.meters := by
  cases h with
  | survey c => exact meters_scan s
  | finish c =>
      have withdrawn : (s.world.finish c me).withdrawn = s.world.withdrawn :=
        congrArg List.flatten (marks_finish (fun _ _ _ => rfl) c me s.world)
      simp only [Scene.meters, withdrawn]
  | lost | start | discard => exact meters_record rfl s
  | turnAway | completed => simp [Scene.meters, Buffer.forget]
  | _ => rfl

theorem PassStep.meters (h : PassStep me s f g s') :
    s'.meters = (f.entry? s s').elim s.meters s.meters.add := by
  cases h with
  | tuned active queued | untuned active queued => exact meters_retune active queued s
  | mark t => exact meters_marked t s
  | setCore => simp [Scene.meters, Frame.entry?]
  | empty none takes | takeHead head takes => cases takes <;> rfl
  | accepted t draining refused answer =>
      simp [Scene.meters, Frame.entry?, answer, Meters.add]
  | turnedDown t draining refused answer =>
      simp [Scene.meters, Frame.entry?, answer, Meters.add, Buffer.forget]
  | _ => rfl

/-- Every step changes the counters as it changes the book. -/
theorem step_meters (h : s.step me f = some (new, s')) :
    s'.meters = (f.entry? s s').elim s.meters s.meters.add := by
  cases step_cases h with
  | pass pass => exact pass.meters
  | leave => rfl
  | enter _ enter =>
      cases enter with
      | push t => simp [Scene.meters, Frame.entry?, Meters.add, Buffer.push, Buffer.lock]
      | resume => rfl
      | shutting => exact meters_record rfl _
  | outside outside =>
      cases outside with
      | quiet quiet =>
          have silent : f.entry? s s' = none := by
            cases f with
            | offer | push | shutdownNow => cases quiet
            | _ => rfl
          rw [silent]
          exact quiet.meters
      | shutdown => rfl
      | withdraw => simp [Scene.meters, Frame.entry?, Meters.add]
      | stop => simp [Scene.meters, Frame.entry?]

end Scene

/-! ### In all runs -/

section Runs

variable [WorkerPool σ (Task ν)] {rules : Rules σ ν} {x y z : System σ ν} {es : List Entry}

/-- Only turns touch the counters. -/
theorem System.Next.meters (next : System.Next rules y z) :
    (∃ t f rest, y.threads.get t = f :: rest ∧ y.turn? t = some z ∧
      z.scene.meters = (f.entry? y.scene z.scene).elim y.scene.meters y.scene.meters.add) ∨
    z.scene.meters = y.scene.meters := by
  cases next with
  | turn t turn =>
      obtain ⟨f, new, rest, top, step, -⟩ := System.turn_stack turn
      exact .inl ⟨t, f, rest, top, turn, Scene.step_meters step⟩
  | call | finish | finishReturned | pool => exact .inr rfl

/-- A line of the book and the change of the counters go together. -/
theorem System.Enters.meters {e : Entry} (enters : y.Enters z e) :
    z.scene.meters = y.scene.meters.add e := by
  obtain ⟨t, f, rest, top, turn, entry⟩ := enters
  obtain ⟨f', new, rest', top', step, -⟩ := System.turn_stack turn
  rw [top] at top'
  obtain ⟨rfl, rfl⟩ := List.cons.inj top'
  rw [Scene.step_meters step, entry]
  rfl

theorem System.Book.meters (book : System.Book rules x es y)
    (start : x.scene.meters = .ofBook []) : y.scene.meters = .ofBook es := by
  induction book with
  | refl => exact start
  | line _ _ _ enters ih => rw [enters.meters, ih, Meters.ofBook_concat]
  | @blank es y z _ _ next silent ih =>
      rcases next.meters with ⟨t, f, rest, top, turn, meters⟩ | meters
      · cases entry : f.entry? y.scene z.scene with
        | none =>
            rw [entry] at meters
            exact meters.trans ih
        | some e => exact absurd ⟨t, f, rest, top, turn, entry⟩ (silent e)
      · exact meters.trans ih

/-- What has joined the backlog was offered, is in hand, waits, or was taken back; and the backlog
has never been longer than the peak. -/
structure Queued (o : Option (Frame ν)) (s : Scene σ ν) : Prop where
  places : s.world.pushed.length = s.world.offered.length + (o.elim [] Frame.inHand).length
    + s.exec.backlog.length + s.world.withdrawn.length
  below : s.exec.backlog.length ≤ s.exec.peakBacklog

namespace Queued

variable {o o' : Option (Frame ν)} {s s' : Scene σ ν}

omit [WorkerPool σ (Task ν)] in
theorem of_eq (h : Queued o s)
    (hand : o'.elim [] Frame.inHand = o.elim [] Frame.inHand)
    (pushed : s'.world.pushed = s.world.pushed) (offered : s'.world.offered = s.world.offered)
    (withdrawn : s'.world.withdrawn = s.world.withdrawn)
    (backlog : s'.exec.backlog = s.exec.backlog)
    (peak : s'.exec.peakBacklog = s.exec.peakBacklog) : Queued o' s' := by
  constructor
  · rw [pushed, offered, hand, backlog, withdrawn]
    exact h.places
  · rw [backlog, peak]
    exact h.below

omit [WorkerPool σ (Task ν)] in
theorem of_keeps (h : Queued o s) (hand : o'.elim [] Frame.inHand = o.elim [] Frame.inHand)
    (keeps : Scene.Keeps s s') (meters : s'.meters = s.meters) : Queued o' s' :=
  h.of_eq hand keeps.pushed keeps.offered keeps.withdrawn keeps.backlog
    (congrArg Meters.peak meters)

theorem pass {me : ThreadId} {f g : Frame ν} (step : Scene.PassStep me s f g s')
    (h : Queued (some f) s) : Queued (some g) s' := by
  have places := h.places
  have below := h.below
  cases step with
  | tuned active queued | untuned active queued =>
      exact h.of_keeps rfl (Scene.keeps_retune active queued s)
        (Scene.meters_retune active queued s)
  | mark t =>
      refine h.of_keeps ?_ (Scene.keeps_marked t s) (Scene.meters_marked t s)
      simp [Frame.inHand, Scene.enterFlight_id]
  | setCore => exact h.of_eq rfl (by simp) (by simp) (by simp) rfl rfl
  | empty none takes => cases takes <;> exact h.of_eq rfl rfl rfl rfl rfl rfl
  | takeHead head takes =>
      rw [head, List.length_cons] at places below
      constructor
      · cases takes <;> simp only [Option.elim, Frame.inHand, List.length_nil,
          List.length_cons] at places ⊢ <;> omega
      · exact Nat.le_of_succ_le below
  | accepted t draining refused =>
      simp only [Option.elim, Frame.inHand, List.length_cons, List.length_nil] at places
      refine ⟨?_, below⟩
      cases draining <;> simp [Frame.inHand, Scene.afterOffer] <;> omega
  | turnedDown t draining refused =>
      simp only [Option.elim, Frame.inHand, List.length_cons, List.length_nil] at places
      refine ⟨?_, below⟩
      cases draining <;> simp [Frame.inHand, Scene.afterOffer, Buffer.forget] <;> omega
  | _ => exact h.of_eq rfl rfl rfl rfl rfl rfl

end Queued

theorem queued_outline :
    Outline (σ := σ) (ν := ν) rules (fun _ _ => True) fun o _ s => Queued o s where
  enter {me f rest s s'} _ _ step inv := by
    cases step with
    | push t =>
        have places := inv.places
        simp only [Option.elim, List.length_nil] at places
        constructor
        · simp [Frame.inHand, Buffer.push, Buffer.lock]
          omega
        · simp [Buffer.push, Buffer.lock]
    | resume => exact inv.of_eq rfl rfl rfl rfl rfl rfl
    | shutting => exact inv.of_eq rfl (by simp) (by simp) (by simp) rfl rfl
  pass _ _ step inv := inv.pass step
  leave _ _ inv := inv.of_eq rfl rfl rfl rfl rfl rfl
  quiet _ _ step inv := inv.of_keeps rfl step.keeps step.meters
  shutdown _ _ inv := inv.of_eq rfl rfl rfl rfl rfl rfl
  withdraw _ _ _ inv := by
    have places := inv.places
    simp only [Option.elim, List.length_nil] at places
    refine ⟨?_, Nat.zero_le _⟩
    simp
    omega
  stop _ _ _ inv := inv.of_eq rfl (by simp) (by simp) (by simp) rfl rfl
  call _ _ inv := inv
  finish _ _ _ inv := inv.of_eq rfl rfl rfl rfl rfl rfl
  finishReturned _ _ _ inv := inv.of_eq rfl rfl rfl rfl rfl rfl
  pool _ _ inv := inv.of_eq rfl rfl rfl rfl rfl rfl

variable {config : Config} {main : Option ThreadId} {pool : σ} {s : Scene σ ν}

theorem queued_reaches (built : Scene.build config main pool = .ok s)
    (run : System.Reaches rules (.idle s) y) :
    Assertion.Stands (fun o _ s => Queued o s) y.bag y.scene := by
  obtain ⟨-, flight, rfl⟩ := Scene.build_ok built
  exact queued_outline.reaches (fun _ _ => trivial) rfl ⟨by simp, Nat.le_refl _⟩ run

/-- Over any pool, whoever submits, finishes jobs in any mode, shuts down and stops, with a book
kept beside the run. Between passes every submission that has got as far as the backlog or was
turned away is accounted for: it was dropped, admitted or refused, it waits, or a stop took it out
of the backlog. The executor has admitted and refused just the jobs that the pool took and refused.
Its peak is the longest backlog there was right after a task had joined, so the backlog is never
longer. -/
theorem counters_account (built : Scene.build config main pool = .ok s)
    (book : System.Book rules (.idle s) es y) (free : y.scene.exec.holder = none) :
    y.scene.world.nextTicket = y.scene.exec.dropped + y.scene.exec.admitted
        + y.scene.exec.rejected + y.scene.exec.backlog.length + Entry.takenBack es
        + tally Frame.submitting y.bag ∧
      y.scene.exec.admitted = es.count .taken ∧ y.scene.exec.rejected = es.count .turnedDown ∧
      y.scene.exec.peakBacklog = Entry.peak es ∧
      y.scene.exec.backlog.length ≤ y.scene.exec.peakBacklog := by
  have run := book.reaches
  have submitted := (settled_reaches built run).submitted
  have counted := counted_reaches built run
  obtain ⟨places, below⟩ := (queued_reaches built run).1 free
  have answered := y.scene.world.offered_perm.length_eq
  have start : (System.idle s).scene.meters = .ofBook [] := by
    obtain ⟨-, flight, rfl⟩ := Scene.build_ok built
    rfl
  have meters := book.meters start
  have admitted : y.scene.exec.admitted = es.count .taken := congrArg Meters.admitted meters
  have rejected : y.scene.exec.rejected = es.count .turnedDown := congrArg Meters.rejected meters
  have peak : y.scene.exec.peakBacklog = Entry.peak es := congrArg Meters.peak meters
  have takenBack : y.scene.world.withdrawn.length = Entry.takenBack es :=
    congrArg Meters.takenBack meters
  refine ⟨?_, admitted, rejected, peak, below⟩
  rw [List.length_append, ← counted.admitted, ← counted.rejected] at answered
  simp only [Option.elim, List.length_nil, Nat.add_zero] at places
  omega

end Runs

open Sample in
/-- One task is refused, one taken, two wait until a stop takes them, and one comes too late. -/
theorem counters_account_after_stop :
    ∃ es y, System.Book (Bounds.none (ν := Unit)).rules (.idle scene) es y ∧
      y.scene.exec.holder = none ∧ y.scene.world.nextTicket = 5 ∧ y.scene.exec.dropped = 1 ∧
      y.scene.exec.admitted = 1 ∧ y.scene.exec.rejected = 1 ∧ y.scene.exec.peakBacklog = 2 ∧
      (y.scene.world.nextTicket = y.scene.exec.dropped + y.scene.exec.admitted
          + y.scene.exec.rejected + y.scene.exec.backlog.length + Entry.takenBack es
          + tally Frame.submitting y.bag ∧
        y.scene.exec.admitted = es.count .taken ∧
        y.scene.exec.rejected = es.count .turnedDown ∧
        y.scene.exec.peakBacklog = Entry.peak es ∧
        y.scene.exec.backlog.length ≤ y.scene.exec.peakBacklog) := by
  have replayed : ∃ y₁ y₂ y,
      System.replay .none (.refuse 1 :: calls 1 15 (submit "a") ++ calls 1 12 (submit "b"))
        (.idle scene) = some y₁ ∧
      System.replay .none (calls 1 10 (submit "c") ++ calls 1 10 (submit "d")) y₁ = some y₂ ∧
      System.replay .none (calls 1 2 .shutdownNow ++ calls 1 4 (submit "e")) y₂ = some y ∧
      y.scene.exec.holder = none ∧ y.scene.world.nextTicket = 5 ∧ y.scene.exec.dropped = 1 ∧
      y.scene.exec.admitted = 1 ∧ y.scene.exec.rejected = 1 ∧ y.scene.exec.peakBacklog = 2 :=
    ⟨_, _, _, rfl, rfl, rfl, rfl, rfl, rfl, rfl, rfl, rfl⟩
  obtain ⟨y₁, y₂, y, first, second, third, free, made, dropped, admitted, rejected, peak⟩ :=
    replayed
  have run := System.replay_reaches (System.replay_reaches .refl first) second
  obtain ⟨es, book⟩ := (System.replay_reaches run third).book
  exact ⟨es, y, book, free, made, dropped, admitted, rejected, peak,
    counters_account scene_built book free⟩

end TwoTier
