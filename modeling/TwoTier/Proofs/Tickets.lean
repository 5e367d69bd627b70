import Mathlib.Data.Multiset.Range
import TwoTier.Proofs.Closures
import TwoTier.Proofs.Roster
import TwoTier.Proofs.SingleFile

/-!
What becomes of every submission.

Every submission makes one closure, with a ticket of its own. As long as nobody stops the executor,
that closure waits in some frame, in the backlog or in the pool, or it has begun to run, or it was
thrown away, and just one of these (`Traceable`). Thrown away is only what the pool refused and what
found the executor shut down (`Sentenced`).

Workers take jobs out of the pool by acts of their own, so these are followed through runs of the
service, step by step.
-/

namespace TwoTier

/-! ### The jobs of a pool -/

namespace ThreadPool

section Line

variable {J : Type} {p q : ThreadPool J} {number : Nat}

/-- The jobs that have not begun, in no order. -/
def unbegun (p : ThreadPool J) : Multiset J := p.line

/-- The jobs in the hands of workers that have not begun. -/
def inHands (workers : List (Worker J)) : List J := workers.filterMap (·.phase.pending?)

theorem unbegun_eq (p : ThreadPool J) : p.unbegun = inHands p.workers + p.ready :=
  (Multiset.coe_add _ _).symm

/-- What workers have by a reading of their phases, and what is queued. -/
def stock (has : Phase J → Option J) (p : ThreadPool J) : Multiset J :=
  p.workers.filterMap (fun w => has w.phase) + p.ready

theorem unbegun_eq_stock (p : ThreadPool J) : p.unbegun = p.stock Phase.pending? := unbegun_eq p

section Stock

variable {has : Phase J → Option J}

/-- When `new` workers take the place of `old` ones, what they give up is what leaves the stock. -/
theorem stock_swap {others : List (Worker J)} (old new : List (Worker J)) {more : Multiset J}
    (before : p.workers.Perm (old ++ others)) (after : q.workers.Perm (new ++ others))
    (jobs : (old.filterMap (fun w => has w.phase) + p.ready : Multiset J)
      = more + (new.filterMap (fun w => has w.phase) + q.ready)) :
    p.stock has = more + q.stock has := by
  calc p.stock has
      = (old.filterMap (fun w => has w.phase) + p.ready)
          + others.filterMap (fun w => has w.phase) := by
        rw [stock, filterMap_of_perm _ before]
        abel
    _ = more + (new.filterMap (fun w => has w.phase) + q.ready)
          + others.filterMap (fun w => has w.phase) := by rw [jobs]
    _ = more + q.stock has := by
        rw [stock, filterMap_of_perm _ after]
        abel

variable (has) in
/-- A job that is taken joins the stock if workers have a job as soon as they get it; a job that is
refused changes nothing. -/
theorem Executes.stock {job : J} {r : Except (RejectedJob J) Unit}
    (given : has (.assigned job) = some job ∧ has (.received job) = some job)
    (none : has .checking = none ∧ has .waiting = none) (numbered : Numbered p)
    (step : Executes job p r q) :
    q.stock has = (match r with | .ok () => {job} | .error _ => 0) + p.stock has := by
  cases step with
  | refused | unstarted => exact (zero_add _).symm
  | started =>
      refine stock_swap [⟨p.attempts + 1, .assigned job⟩] [] List.perm_append_comm (.refl _) ?_
      simp [given.1, ThreadPool.started, attempted, record]
  | queued | queuedAlone =>
      refine stock_swap [] [] (.refl _) (.refl _) ?_
      simp [attempted, record]
  | queuedFirst =>
      refine stock_swap [⟨p.attempts + 1, .checking⟩] [] List.perm_append_comm (.refl _) ?_
      simp [none.1, ThreadPool.started, attempted, record]
  | handed w _ _ _ _ waits =>
      obtain ⟨inside, phase⟩ := firstWaiting_mem waits
      obtain ⟨others, seat⟩ := numbered.seat inside
      rw [phase] at seat
      refine stock_swap [⟨w.number, .received job⟩] [⟨w.number, .waiting⟩]
        (seat.setPhase _ rfl).perm seat.perm ?_
      simp [given.2, none.2, setPhase]

end Stock

/-- A job that is taken joins the line; a job that is refused changes nothing. -/
theorem Executes.unbegun {job : J} {r : Except (RejectedJob J) Unit} (numbered : Numbered p)
    (step : Executes job p r q) :
    q.unbegun = (match r with | .ok () => {job} | .error _ => 0) + p.unbegun := by
  rw [unbegun_eq_stock, unbegun_eq_stock]
  exact step.stock _ ⟨rfl, rfl⟩ ⟨rfl, rfl⟩ numbered

/-- The job that begins with an act leaves the line. -/
theorem Acts.unbegun {act : WorkerAct} (numbered : Numbered p) (step : Acts number p act q) :
    p.unbegun = (p.begins? number act).toList + q.unbegun := by
  obtain ⟨phase, left, others, found, turn, before, after⟩ := step.turn numbered
  rw [unbegun_eq_stock, unbegun_eq_stock]
  refine stock_swap [⟨number, phase⟩] (left.map (⟨number, ·⟩)) before after ?_
  generalize p.ready = ready, q.ready = ready' at turn
  cases turn <;> simp [begins?, found, Phase.pending?]

theorem line_setCoreSize (size : Nat) (p : ThreadPool J) : (p.setCoreSize size).line = p.line := by
  refine setCoreSize_of (P := fun q => q.line = p.line) size p (fun _ => rfl) (fun _ => rfl) ?_
    (fun _ _ same _ => same)
  intro q same _ _ _
  rw [← same]
  simp [line, started, record, attempted, Phase.pending?]

theorem line_shutdown (p : ThreadPool J) : p.shutdown.line = p.line := by
  have ready : p.shutdown.ready = p.ready := by
    unfold shutdown
    rw [tryTerminate_ready]
    split <;> rfl
  rw [line, line, aloof_workers.shutdown, ready]

/-- A stop hands back what was queued; what workers have in hand they keep. -/
theorem unbegun_shutdownNow {jobs : List J} (free : p.stopping = none)
    (h : p.shutdownNow = (jobs, q)) : p.unbegun = jobs + q.unbegun := by
  have handed := (runs_shutdownNow free).1
  obtain ⟨-, empty, -⟩ := runs_drain p.beginStop.ready [] rfl rfl
  have workers := (drain_same aloof_workers.drainOne p.beginStop.ready.length p.beginStop).trans
    (aloof_workers.beginStop p)
  have after : p.shutdownNow.2
      = tryTerminate { drain p.beginStop.ready.length p.beginStop with stopping := none } := rfl
  generalize drain p.beginStop.ready.length p.beginStop = left at empty workers after
  rw [h] at handed after
  obtain rfl : jobs = p.ready := handed
  obtain rfl : q = tryTerminate { left with stopping := none } := after
  rw [unbegun_eq, unbegun_eq, tryTerminate_workers, tryTerminate_ready]
  show (inHands p.workers + p.ready : Multiset J) = p.ready + (inHands left.workers + left.ready)
  rw [workers, empty, Multiset.coe_nil, add_zero, add_comm]

end Line

/-- No two workers have one number, and no stop is under way: so it is between calls. -/
structure Tidy {J : Type} (p : ThreadPool J) : Prop where
  numbered : Numbered p
  free : p.stopping = none

namespace Tidy

variable {J : Type} {p q : ThreadPool J}

theorem executes {job : J} {r : Except (RejectedJob J) Unit} (tidy : Tidy p)
    (step : Executes job p r q) : Tidy q :=
  ⟨tidy.numbered.executes step, step.stopping.trans tidy.free⟩

theorem acts {number : Nat} {act : WorkerAct} (tidy : Tidy p) (step : Acts number p act q) :
    Tidy q :=
  ⟨tidy.numbered.acts step, step.stopping.trans tidy.free⟩

theorem setCoreSize (tidy : Tidy p) (size : Nat) : Tidy (p.setCoreSize size) :=
  ⟨tidy.numbered.setCoreSize size, (stopping_setCoreSize size p).trans tidy.free⟩

theorem shutdown (tidy : Tidy p) : Tidy p.shutdown :=
  ⟨tidy.numbered.of_workers (aloof_workers.shutdown p)
    (Nat.le_of_eq (aloof_attempts.shutdown p).symm), (stopping_shutdown p).trans tidy.free⟩

theorem shutdownNow (tidy : Tidy p) : Tidy p.shutdownNow.2 :=
  ⟨tidy.numbered.of_workers (aloof_workers.shutdownNow p)
    (Nat.le_of_eq (aloof_attempts.shutdownNow p).symm), tryTerminate_stopping _⟩

theorem lasting {ν : Type} : Lasting fun p : ThreadPool (Task ν) => Tidy p where
  offer t _ tidy := tidy.executes (executed t _)
  setCoreSize n _ tidy := tidy.setCoreSize n
  shutdown tidy := tidy.shutdown
  shutdownNow tidy := tidy.shutdownNow

end Tidy

/-- A pool of worker threads keeps its jobs. -/
theorem keepsJobs {ν : Type} {p : ThreadPool (Task ν)} (numbered : Numbered p)
    (free : p.stopping = none) : KeepsJobs ThreadPool.unbegun p where
  accepts taken := by
    obtain ⟨r, exec, answer⟩ := executes_of_offer taken
    cases r with
    | ok => exact exec.unbegun numbered
    | error why => contradiction
  refuses turned := by
    obtain ⟨r, exec, answer⟩ := executes_of_offer turned
    cases r with
    | ok => contradiction
    | error why => exact (exec.unbegun numbered).trans (zero_add _)
  setCoreSize size := congrArg Multiset.ofList (line_setCoreSize size p)
  shutdown := congrArg Multiset.ofList (line_shutdown p)
  shutdownNow stopped := unbegun_shutdownNow free stopped

end ThreadPool

/-! ### What a step does to closures -/

@[simp] def Event.discarded? : Event → Option Nat
  | .discarded ticket _ => some ticket
  | _ => none

/-- The closures that were thrown away, in order. -/
def World.discarded {ν : Type} (w : World ν) : List Nat := w.marks Event.discarded?

@[simp] theorem World.discarded_record {ν : Type} (e : Event) (w : World ν) :
    (w.record e).discarded = w.discarded ++ e.discarded?.toList :=
  marks_record _ e w

/-- A closure's ticket, to be found in one place. -/
def Closure.token {ν : Type} (c : Closure ν) : Multiset Nat := {c.ticket}

namespace Frame

variable {ν : Type}

/-- How many closures a frame is to throw away. -/
def condemned : Frame ν → Nat
  | .discard _ => 1
  | .job _ (.run :: _) => 0
  | .job t _ => if t.closure.isSome then 1 else 0
  | .drain refused | .leave refused | .handOver _ _ refused | .offer _ _ refused => refused.length
  | _ => 0

theorem condemned_of_closure {t : Task ν} (none : t.closure = none) (acts : List JobAct) :
    (job t acts).condemned = 0 := by
  cases acts with
  | nil => simp [condemned, none]
  | cons act acts => cases act <;> simp [condemned, none]

theorem condemned_discards (refused : List (Task ν)) :
    tally condemned (refused.map (fun t => job t []) : Multiset (Frame ν)) ≤ refused.length := by
  induction refused with
  | nil => exact Nat.le_refl _
  | cons t refused ih =>
      have one : (job t []).condemned ≤ 1 := by
        show ite _ 1 0 ≤ 1
        split <;> decide
      rw [List.map_cons, ← Multiset.cons_coe, tally_cons, List.length_cons]
      omega

end Frame

namespace Scene

section

variable {σ ν : Type} [WorkerPool σ (Task ν)] {me : ThreadId} {f : Frame ν} {new : List (Frame ν)}
  {s s' : Scene σ ν}

theorem QuietStep.silent (h : QuietStep me s f new s') (carries : f.carries = true) :
    s'.world.started = s.world.started ∧ s'.world.discarded = s.world.discarded := by
  cases h with
  | submit | lost | start | pastGate | finish | discard | hangUp => simp [Frame.carries] at carries
  | survey c => exact ⟨marks_scan (fun _ => rfl) s, marks_scan (fun _ => rfl) s⟩
  | turnAway | completed => simp
  | _ => exact ⟨rfl, rfl⟩

/-- Frames that only carry closures neither start one nor throw one away. -/
theorem step_silent (carries : f.carries = true) (h : s.step me f = some (new, s')) :
    s'.world.started = s.world.started ∧ s'.world.discarded = s.world.discarded := by
  cases step_cases h with
  | pass pass =>
      constructor <;> exact pass.marks fun e own => by cases e <;> simp_all [Event.ofPass]
  | leave => exact ⟨rfl, rfl⟩
  | enter _ enter => cases enter <;> simp
  | outside outside =>
      cases outside with
      | quiet quiet => exact quiet.silent carries
      | shutdown => exact ⟨rfl, rfl⟩
      | withdraw | stop => simp

/-- The tickets of the closures that wait outside of frames, have begun or were thrown away. -/
def traced (held : σ → Multiset (Task ν)) (s : Scene σ ν) : Multiset Nat :=
  s.stores Closure.token held + s.world.started + s.world.discarded

omit [WorkerPool σ (Task ν)] in
theorem traced_congr {held : σ → Multiset (Task ν)} (keeps : Keeps s s')
    (started : s'.world.started = s.world.started)
    (discarded : s'.world.discarded = s.world.discarded) : s'.traced held = s.traced held := by
  rw [traced, traced, keeps.stores, started, discarded]

/-- Tickets are given out to submissions and never get lost. -/
theorem step_traced {held : σ → Multiset (Task ν)} (keeps : KeepsJobs held s.exec.pool)
    (h : s.step me f = some (new, s')) :
    tally (Frame.bears Closure.token) (new : Multiset (Frame ν)) + s'.traced held
        + Multiset.range s.world.nextTicket
      = f.bears Closure.token + s.traced held + Multiset.range s'.world.nextTicket := by
  cases carries : f.carries with
  | true =>
      have moves := step_moves keeps carries h
      obtain ⟨started, discarded⟩ := step_silent carries h
      rw [moves.nextTicket, traced, traced, started, discarded]
      calc _ = (tally (Frame.bears Closure.token) (new : Multiset (Frame ν))
                + s'.stores Closure.token held)
              + s.world.started + s.world.discarded + Multiset.range s.world.nextTicket := by abel
        _ = _ := by
          rw [moves.bears]
          abel
  | false =>
      cases step_quiet carries h with
      | submit work reply =>
          have keeps : Keeps s { s with world := (s.world.makeClosure work reply).2 } :=
            keeps_world rfl rfl (Nat.le_refl _)
          rw [traced_congr keeps rfl rfl]
          simp [World.makeClosure, Closure.token, Multiset.range_succ]
      | lost work reply =>
          rw [traced_congr (keeps_record rfl s) (by simp [record]) (by simp [record])]
          rfl
      | start c =>
          rw [traced, (keeps_record rfl s).stores, traced]
          simp only [record, World.started_record, World.discarded_record, Event.started?,
            Event.discarded?, Option.toList_some, Option.toList_none, List.append_nil,
            ← Multiset.coe_add, Multiset.coe_singleton, tally_singleton, Frame.bears,
            Closure.token, World.nextTicket_record]
          abel
      | pastGate c =>
          rw [tally_submitAll_append fun _ _ => rfl]
          rfl
      | finish c =>
          have quiet {α : Type} {p : Event → Option α}
              (blind : ∀ name payload on, p (.panicked name payload on) = none) :
              (s.world.finish c me).marks p = s.world.marks p := marks_finish blind c me s.world
          rw [traced_congr (keeps_finish c me s) (quiet fun _ _ _ => rfl) (quiet fun _ _ _ => rfl),
            nextTicket_finish]
          rfl
      | discard c =>
          rw [traced, (keeps_record rfl s).stores, traced]
          rw [tally_submitAll_append fun _ _ => rfl]
          simp only [record, World.started_record, World.discarded_record, Event.started?,
            Event.discarded?, Option.toList_some, Option.toList_none, List.append_nil,
            ← Multiset.coe_add, Multiset.coe_singleton, Frame.bears, Closure.token,
            World.nextTicket_record]
          abel
      | hangUp reply => rfl
      | _ => simp [Frame.carries] at carries

/-- So once every ticket is accounted for, all the later ones are. -/
theorem step_account {held : σ → Multiset (Task ν)} {rest : Multiset (Frame ν)}
    (keeps : KeepsJobs held s.exec.pool) (h : s.step me f = some (new, s'))
    (account : tally (Frame.bears Closure.token) (f ::ₘ rest) + s.traced held
      = Multiset.range s.world.nextTicket) :
    tally (Frame.bears Closure.token) ((new : Multiset (Frame ν)) + rest) + s'.traced held
      = Multiset.range s'.world.nextTicket := by
  rw [tally_cons] at account
  rw [tally_add]
  apply add_right_cancel (b := Multiset.range s.world.nextTicket)
  calc _ = (tally (Frame.bears Closure.token) (new : Multiset (Frame ν)) + s'.traced held
          + Multiset.range s.world.nextTicket) + tally (Frame.bears Closure.token) rest := by abel
    _ = (f.bears Closure.token + s.traced held + Multiset.range s'.world.nextTicket)
        + tally (Frame.bears Closure.token) rest := by rw [step_traced keeps h]
    _ = Multiset.range s'.world.nextTicket
        + (f.bears Closure.token + tally (Frame.bears Closure.token) rest + s.traced held) := by
      abel
    _ = _ := by rw [account]

/-- What a pass is to throw away the pool has refused. -/
theorem PassStep.condemned {g : Frame ν} (h : PassStep me s f g s') :
    g.condemned + s.world.refused.length ≤ f.condemned + s'.world.refused.length := by
  cases h with
  | tuned active queued | untuned active queued =>
      rw [World.refused, World.refused, (keeps_retune active queued s).offers]
      exact Nat.le_refl _
  | mark t draining refused =>
      rw [World.refused, World.refused, (keeps_marked t s).offers]
      exact Nat.le_refl _
  | setCore => simp [Frame.condemned]
  | empty none hf | takeHead head hf => cases hf <;> simp [Frame.condemned]
  | accepted t draining refused => cases draining <;> simp [Frame.condemned, afterOffer]
  | turnedDown t draining refused =>
      cases draining <;> simp [Frame.condemned, afterOffer] <;> omega
  | _ => simp [Frame.condemned]

theorem QuietStep.condemned (h : QuietStep me s f new s') :
    tally Frame.condemned (new : Multiset (Frame ν)) + s'.world.discarded.length
        + s.world.turnedAway.length
      ≤ f.condemned + s.world.discarded.length + s'.world.turnedAway.length := by
  cases h with
  | survey c =>
      have same {α : Type} {p : Event → Option α} (blind : ∀ r, p (.stale r) = none) :
          (s.scan.2.makeTask c).2.world.marks p = s.world.marks p := marks_scan blind s
      rw [World.discarded, World.discarded, World.turnedAway, World.turnedAway,
        same fun _ => rfl, same fun _ => rfl]
      exact Nat.le_refl _
  | finish c =>
      have same {α : Type} {p : Event → Option α}
          (blind : ∀ name payload on, p (.panicked name payload on) = none) :
          (s.world.finish c me).marks p = s.world.marks p := marks_finish blind c me s.world
      rw [World.discarded, World.discarded, World.turnedAway, World.turnedAway,
        same fun _ _ _ => rfl, same fun _ _ _ => rfl]
      exact Nat.le_refl _
  | turnAway c => simp [Frame.condemned]; omega
  | unrun t c own => simp [Frame.condemned, own]
  | rerun t acts none | spent t none => simp [Frame.condemned_of_closure none]
  | run t acts c own =>
      have spent := Frame.condemned_of_closure (t := ({ t with closure := none } : Task ν)) rfl acts
      have whole : (Frame.job t (.run :: acts)).condemned = 0 := rfl
      have start : (Frame.start c).condemned = 0 := rfl
      simp [spent, whole, start]
  | complete t acts => simp [Frame.condemned]
  | pastGate c =>
      rw [tally_submitAll_append fun _ _ => rfl]
      exact Nat.le_refl _
  | discard c =>
      have thrown : (s.record (.discarded c.ticket c.work.name)).world.discarded.length
          = 1 + s.world.discarded.length := by
        simp [record, Nat.add_comm]
      have turned : (s.record (.discarded c.ticket c.work.name)).world.turnedAway
          = s.world.turnedAway := by
        simp [record]
      rw [tally_submitAll_append fun _ _ => rfl, thrown, turned]
      simp [Frame.condemned]
  | lost | completed | start => simp [Frame.condemned, record]
  | _ => exact Nat.le_refl _

/-- Closures are thrown away only after the pool refused them or the executor turned them away. -/
theorem step_condemned (calm : f.halts = false) (h : s.step me f = some (new, s')) :
    tally Frame.condemned (new : Multiset (Frame ν)) + s'.world.discarded.length
        + (s.world.refused.length + s.world.turnedAway.length)
      ≤ f.condemned + s.world.discarded.length
        + (s'.world.refused.length + s'.world.turnedAway.length) := by
  cases step_cases h with
  | pass pass =>
      have condemned := pass.condemned
      obtain ⟨-, discarded⟩ := step_silent (Frame.carries_of_inPass pass.inPass_before) h
      have turnedAway : s'.world.turnedAway = s.world.turnedAway :=
        pass.marks fun e own => by cases e <;> simp_all [Event.ofPass]
      rw [Multiset.coe_singleton, tally_singleton, discarded, turnedAway]
      omega
  | leave refused =>
      have fewer := Frame.condemned_discards refused
      simp only [Frame.condemned] at fewer ⊢
      omega
  | enter _ enter => cases enter <;> simp [Frame.condemned]
  | outside outside =>
      cases outside with
      | quiet quiet =>
          have condemned := quiet.condemned
          rw [World.refused, World.refused, quiet.keeps.offers]
          omega
      | shutdown => simp [Frame.condemned]
      | withdraw | stop => simp [Frame.halts] at calm

theorem step_returned (calm : f.halts = false) (h : s.step me f = some (new, s')) :
    s'.returned = s.returned := by
  cases step_cases h with
  | pass pass => exact pass.setting.2.2.2
  | leave => rfl
  | enter _ enter => cases enter <;> rfl
  | outside outside =>
      cases outside with
      | quiet quiet => exact quiet.keeps.returned
      | shutdown => rfl
      | withdraw | stop => simp [Frame.halts] at calm

end

end Scene

/-! ### In all runs -/

namespace Service

variable {ν : Type} {begun : List (Task ν)} {y z : Service ν}

/-- Every ticket that was given out belongs to one closure, which waits, has begun to run or was
thrown away; and no more closures are thrown away, or to be thrown away, than were refused. -/
structure Traceable (y : Service ν) : Prop where
  account : tally (Frame.bears Closure.token) y.bag
      + y.scene.traced ThreadPool.unbegun = Multiset.range y.world.nextTicket
  sentences : tally Frame.condemned y.bag + y.world.discarded.length
    ≤ y.world.refused.length + y.world.turnedAway.length
  returned : y.scene.returned = []

/-- What begins to run is borne by the worker's new stack, and nothing is to be thrown away. -/
theorem Acted.bears {M : Type} [AddCommMonoid M] {number : Nat} {act : WorkerAct}
    {more : List (Task ν)} (h : Acted number y act more z)
    (idle : y.threads.get (.worker number) = []) (g : Closure ν → M) :
    tally (Frame.bears g) z.bag = Task.bearsAll g more + tally (Frame.bears g) y.bag ∧
      tally Frame.condemned z.bag = tally Frame.condemned y.bag ∧
      z.scene.exec.backlog = y.scene.exec.backlog ∧ z.scene.returned = y.scene.returned := by
  cases h with
  | @begin job pool | @count job pool =>
      have bag : ((withPool pool y).assign (.worker number) [.job job [.run]]).bag
          = .job job [.run] ::ₘ y.bag := System.bag_assign idle _
      refine ⟨?_, ?_, rfl, rfl⟩
      · rw [bag, tally_cons, Task.bearsAll_cons, Task.bearsAll_nil, add_zero]
        rfl
      · rw [bag, tally_cons]
        exact Nat.zero_add _
  | @endRun job pool =>
      have bag : ((withPool pool y).assign (.worker number)
            [.job { job with closure := none } [.complete]]).bag
          = .job { job with closure := none } [.complete] ::ₘ y.bag := System.bag_assign idle _
      refine ⟨?_, ?_, rfl, rfl⟩
      · rw [bag, tally_cons]
        rfl
      · rw [bag, tally_cons]
        exact Nat.zero_add _
  | other => exact ⟨(zero_add _).symm, rfl, rfl, rfl⟩

namespace Traceable

theorem turn {t : ThreadId} {accepted : List TaskId} (h : Traceable y)
    (booked : y.pool.Booked accepted) (calm : ∀ f ∈ y.bag, f.halts = false)
    (turn : y.turn? t = some z) : Traceable z := by
  obtain ⟨f, new, rest, before, step, after⟩ := System.bag_turn turn
  have calm : f.halts = false := calm f (before ▸ Multiset.mem_cons_self _ _)
  have keeps := ThreadPool.keepsJobs booked.numbered booked.free
  have account := h.account
  have sentences := h.sentences
  rw [before] at account
  rw [before, tally_cons] at sentences
  refine ⟨?_, ?_, (Scene.step_returned calm step).trans h.returned⟩
  · rw [after]
    exact Scene.step_account keeps step account
  · have condemned := Scene.step_condemned calm step
    rw [after, tally_add]
    simp only [Service.world] at sentences ⊢
    omega

theorem call {n : Nat} {c : Call ν} (h : Traceable y) (idle : y.threads.get (.caller n) = []) :
    Traceable (y.assign (.caller n) [c.frame]) := by
  have bag : (y.assign (.caller n) [c.frame]).bag = c.frame ::ₘ y.bag := System.bag_assign idle _
  have bears : c.frame.bears (Closure.token) = 0 := by cases c <;> rfl
  have condemned : c.frame.condemned = 0 := by cases c <;> rfl
  refine ⟨?_, ?_, h.returned⟩
  · rw [bag, tally_cons, bears, zero_add]
    exact h.account
  · rw [bag, tally_cons, condemned, Nat.zero_add]
    exact h.sentences

theorem act {number : Nat} {act : WorkerAct} {accepted : List TaskId} (h : Traceable y)
    (booked : y.pool.Booked accepted) (did : act? number act y = some z) : Traceable z := by
  obtain ⟨idle, acted⟩ := acted did
  obtain ⟨world, step⟩ := acted.pool
  obtain ⟨bears, condemned, backlog, returned⟩ := acted.bears idle Closure.token
  have begins := step.unbegun booked.numbered
  refine ⟨?_, ?_, returned.trans h.returned⟩
  · have waiting : (y.pool.unbegun.map (Task.bears Closure.token)).sum
        = Task.bearsAll Closure.token (y.pool.begins? number act).toList
          + (z.pool.unbegun.map (Task.bears Closure.token)).sum := by
      rw [begins, Multiset.map_add, Multiset.sum_add, Multiset.map_coe, Multiset.sum_coe]
      rfl
    have traced : y.scene.traced ThreadPool.unbegun
        = Task.bearsAll Closure.token (y.pool.begins? number act).toList
          + z.scene.traced ThreadPool.unbegun := by
      have same : z.scene.world = y.scene.world := world
      unfold Scene.traced Scene.stores
      rw [show y.scene.exec.pool = y.pool from rfl, waiting, backlog, returned, same]
      show _ = _ + (_ + (z.pool.unbegun.map _).sum + _ + _ + _)
      abel
    rw [bears, world, ← h.account, traced]
    abel
  · rw [condemned, world]
    exact h.sentences

end Traceable

/-- As long as nobody stops the executor. -/
theorem traceable_runs {config : Config} {main : Option ThreadId} {y₀ : Service ν}
    (made : make? config main = some (.ok y₀))
    (run : Runs (fun c => c.frame.halts = false) y₀ begun y) : Traceable y := by
  induction run with
  | refl =>
      obtain ⟨-, s, built, rfl⟩ := make?_ok made
      obtain ⟨-, flight, rfl⟩ := Scene.build_ok built
      exact ⟨rfl, Nat.le_refl _, rfl⟩
  | tail before next traceable =>
      have booked := booked_runs made before
      cases next with
      | turn t turn => exact traceable.turn booked (unstopped_runs made before).frames turn
      | call n c idle allowed => exact traceable.call idle
      | act number act did => exact traceable.act booked did

end Service

end TwoTier
