import TwoTier.Proofs.AfterShutdown
import TwoTier.Proofs.Leftovers
import TwoTier.Proofs.Watch

/-!
What a stop hands back.

One thread is at work, over a pool that holds its jobs in the order in which it took them and hands
all of them back when it is stopped (`HandsBack`). Tickets are given out in the order of the
submissions, and a submission is through before the next one begins. So at any moment the tickets in
the pool, then in the hands of a pass, then in the backlog, then on their way there, are rising
(`rising_alone`): refusals and jobs that are taken out leave gaps, but nothing overtakes.

A stop therefore hands back, oldest first, exactly the submissions that have neither begun nor been
thrown away nor been handed back before, each with its closure, and no pass offers anything
afterwards (`stop_hands_back_in_order`).
-/

namespace TwoTier

variable {σ ν : Type}

/-! ### Rising tickets -/

/-- Tickets in the order in which they were given out, the next of which is `n`; there is no blank
among them. -/
def Rising (n : Nat) (l : List (Option Nat)) : Prop :=
  ∃ ks : List Nat, l = ks.map some ∧ ks.Pairwise (· < ·) ∧ ∀ k ∈ ks, k < n

namespace Rising

variable {n m : Nat} {l l' : List (Option Nat)}

theorem mono (h : Rising n l) (fewer : l'.Sublist l) (later : n ≤ m) : Rising m l' := by
  obtain ⟨ks, rfl, rising, old⟩ := h
  obtain ⟨ks', among, rfl⟩ := List.sublist_map_iff.mp fewer
  refine ⟨ks', rfl, rising.sublist among, fun k mem => ?_⟩
  exact Nat.lt_of_lt_of_le (old k (among.subset mem)) later

/-- The next ticket goes to the back. -/
theorem snoc (h : Rising n l) : Rising (n + 1) (l ++ [some n]) := by
  obtain ⟨ks, rfl, rising, old⟩ := h
  refine ⟨ks ++ [n], by simp, ?_, ?_⟩
  · refine List.pairwise_append.mpr ⟨rising, List.pairwise_singleton _ _, ?_⟩
    intro k mem j last
    obtain rfl := List.mem_singleton.mp last
    exact old k mem
  · intro k mem
    rcases List.mem_append.mp mem with mem | last
    · exact Nat.lt_succ_of_lt (old k mem)
    · obtain rfl := List.mem_singleton.mp last
      exact Nat.lt_succ_self k

end Rising

/-- Rising numbers that are all there are below a bound, but for some others. -/
theorem eq_filter_range {ks : List Nat} {others : Multiset Nat} {n : Nat}
    (rising : ks.Pairwise (· < ·)) (account : ↑ks + others = Multiset.range n) :
    ks = (List.range n).filter (· ∉ others) := by
  have distinct : (↑ks + others).Nodup := account ▸ Multiset.nodup_range n
  have apart := Multiset.disjoint_of_nodup_add distinct
  have below := List.pairwise_lt_range.filter (l := List.range n) (· ∉ others)
  refine List.Perm.eq_of_pairwise (fun a b _ _ less more => ?_) rising below ?_
  · exact absurd (Nat.lt_trans less more) (Nat.lt_irrefl a)
  refine (List.perm_ext_iff_of_nodup rising.nodup below.nodup).mpr fun k => ?_
  have there : k ∈ ks ∨ k ∈ others ↔ k < n := by
    rw [← Multiset.mem_range, ← account, Multiset.mem_add, Multiset.mem_coe]
  rw [List.mem_filter, List.mem_range, decide_eq_true_iff, ← there]
  constructor
  · intro mem
    exact ⟨.inl mem, Multiset.disjoint_left.mp apart (Multiset.mem_coe.mpr mem)⟩
  · rintro ⟨mem, other⟩
    exact mem.resolve_right other

theorem Task.bearsAll_token (l : List (Task ν)) :
    bearsAll Closure.token l = (l.filterMap ticket? : Multiset Nat) := by
  induction l with
  | nil => rfl
  | cons t l ih =>
      rw [bearsAll_cons, ih, bears, List.filterMap_cons, ticket?]
      cases t.closure <;> simp [Closure.token]

/-! ### The line of a pool and its backlog -/

namespace Frame

/-- The ticket of the task that a pass has taken from the backlog and not offered yet. -/
def handTicket : Frame ν → List (Option Nat)
  | .handOver t _ _ | .offer t _ _ => [t.ticket?]
  | _ => []

/-- The ticket of what is on its way to the backlog. -/
def rearTicket : Frame ν → List (Option Nat)
  | .arrive c | .survey c => [some c.ticket]
  | .push t => [t.ticket?]
  | _ => []

theorem tickets_of_not_inLibrary {f : Frame ν} (outside : f.inLibrary = false) :
    f.handTicket = [] ∧ f.rearTicket = [] := by
  cases f with
  | arrive | survey | push | handOver | offer => simp [inLibrary, inPass, entersPass] at outside
  | _ => exact ⟨rfl, rfl⟩

end Frame

namespace Scene

/-- The tickets from the front of the pool to the last arrival, as seen by the thread with the given
frame on top. -/
def tickets (line : σ → List (Task ν)) (top : Option (Frame ν)) (s : Scene σ ν) :
    List (Option Nat) :=
  (line s.exec.pool).map Task.ticket? ++ top.elim [] Frame.handTicket
    ++ s.exec.backlog.map Task.ticket? ++ top.elim [] Frame.rearTicket

/-- The submissions that have neither begun nor been thrown away, nor been handed back. -/
def unstarted (s : Scene σ ν) : List Nat :=
  (List.range s.world.nextTicket).filter fun k =>
    k ∉ s.world.started ∧ k ∉ s.world.discarded ∧ k ∉ s.returned.filterMap Task.ticket?

theorem tickets_congr {line : σ → List (Task ν)} {top top' : Option (Frame ν)} {s s' : Scene σ ν}
    (pool : line s'.exec.pool = line s.exec.pool) (backlog : s'.exec.backlog = s.exec.backlog)
    (hand : top'.elim [] Frame.handTicket = top.elim [] Frame.handTicket)
    (rear : top'.elim [] Frame.rearTicket = top.elim [] Frame.rearTicket) :
    s'.tickets line top' = s.tickets line top := by
  rw [tickets, tickets, pool, backlog, hand, rear]

theorem tickets_moved {line : σ → List (Task ν)} (top : Option (Frame ν)) {s : Scene σ ν} {pool : σ}
    (same : line pool = line s.exec.pool) :
    tickets line top { s with exec := { s.exec with pool } } = s.tickets line top :=
  tickets_congr same rfl rfl rfl

/-- What is under the top frame does not matter. -/
theorem tickets_head {line : σ → List (Task ν)} {new rest : List (Frame ν)} (s : Scene σ ν)
    (outside : ∀ f ∈ rest, f.inLibrary = false) :
    s.tickets line (new ++ rest).head? = s.tickets line new.head? := by
  cases new with
  | cons f new => rfl
  | nil =>
      cases rest with
      | nil => rfl
      | cons f rest =>
          obtain ⟨hand, rear⟩ := Frame.tickets_of_not_inLibrary (outside f List.mem_cons_self)
          exact tickets_congr rfl rfl hand rear

end Scene

variable [WorkerPool σ (Task ν)]

/-- A pool that holds its jobs in the order in which it took them, and hands all of them back when
it is stopped. -/
structure HandsBack (rules : Rules σ ν) (fine : σ → Prop) (line : σ → List (Task ν)) : Prop where
  lasting : Lasting fine
  accepts : ∀ {t p q}, fine p → WorkerPool.offer t p = (none, q) → line q = line p ++ [t]
  refuses : ∀ {t p q why}, fine p → WorkerPool.offer t p = (some why, q) → line q = line p
  setCoreSize : ∀ {p} (n : Nat), fine p → line (WorkerPool.setCoreSize n p) = line p
  shutdown : ∀ {p}, fine p → line (WorkerPool.shutdown p) = line p
  stop : ∀ {p q jobs}, fine p → WorkerPool.shutdownNow p = (jobs, q) → jobs = line p ∧ line q = []
  moves : ∀ {p q}, fine p → rules.moves p q → fine q ∧ line q = line p
  /-- Any job may be taken out, not only the first. -/
  yields : ∀ {p t q}, fine p → rules.yields p t q →
    fine q ∧ ∃ before after, line p = before ++ t :: after ∧ line q = before ++ after

section Steps

variable {rules : Rules σ ν} {fine : σ → Prop} {line : σ → List (Task ν)} {me : ThreadId}
  {f g : Frame ν} {new : List (Frame ν)} {s s' : Scene σ ν}

theorem HandsBack.keeper (back : HandsBack rules fine line) :
    Keeper rules.moves rules.yields fine fun p => (line p : Multiset (Task ν)) where
  keeps sound :=
    { accepts := fun taken => by
        rw [back.accepts sound taken, ← Multiset.coe_add, add_comm]
        rfl
      refuses := fun turned => congrArg _ (back.refuses sound turned)
      setCoreSize := fun n => congrArg _ (back.setCoreSize n sound)
      shutdown := congrArg _ (back.shutdown sound)
      shutdownNow := fun stopped => by
        obtain ⟨rfl, none⟩ := back.stop sound stopped
        rw [none]
        exact (add_zero _).symm }
  lasting := back.lasting
  moves sound moved := (back.moves sound moved).imp_right (congrArg _)
  yields sound given := by
    obtain ⟨sound, before, after, whole, rest⟩ := back.yields sound given
    refine ⟨sound, .inl ?_⟩
    rw [whole, rest]
    exact Multiset.coe_eq_coe.mpr List.perm_middle

namespace Scene

omit [WorkerPool σ (Task ν)] in
/-- The line of the pool gets shorter, if anything, and no task is on its way any more. -/
theorem tickets_sublist {top top' : Option (Frame ν)}
    (pool : (line s'.exec.pool).Sublist (line s.exec.pool))
    (backlog : s'.exec.backlog.Sublist s.exec.backlog)
    (hand : top'.elim [] Frame.handTicket = []) (rear : top'.elim [] Frame.rearTicket = []) :
    (s'.tickets line top').Sublist (s.tickets line top) := by
  rw [tickets, tickets, hand, rear, List.append_nil, List.append_nil]
  refine (List.Sublist.append ?_ (backlog.map _)).trans (List.sublist_append_left _ _)
  exact (pool.map _).trans (List.sublist_append_left _ _)

/-- A pass takes the front of the backlog to the back of the pool, or the pool refuses it. -/
theorem PassStep.tickets (back : HandsBack rules fine line) (sound : fine s.exec.pool)
    (h : PassStep me s f g s') :
    (s'.tickets line (some g)).Sublist (s.tickets line (some f)) := by
  cases h with
  | tuned active queued | untuned active queued =>
      have keeps := keeps_retune active queued s
      refine tickets_sublist ?_ ?_ rfl rfl
      · rw [keeps.pool]
      · rw [keeps.backlog]
  | setCore active queued target =>
      exact tickets_sublist (by rw [back.setCoreSize target sound]) (.refl _) rfl rfl
  | empty none takes => cases takes <;> exact .refl _
  | takeHead head takes =>
      cases takes <;>
        simp [Scene.tickets, Frame.handTicket, Frame.rearTicket, head]
  | mark t =>
      have keeps := keeps_marked t s
      have same : (s.enterFlight t).1.ticket? = t.ticket? :=
        congrArg (Option.map _) (enterFlight_closure t s)
      simp [Scene.tickets, Frame.handTicket, Frame.rearTicket, keeps.pool, keeps.backlog, same]
  | accepted t draining refused taken =>
      cases draining <;>
        simp [Scene.tickets, Frame.handTicket, Frame.rearTicket, afterOffer,
          back.accepts sound taken]
  | turnedDown t draining refused turned =>
      cases draining <;>
        exact tickets_sublist (by rw [back.refuses sound turned]) (.refl _) rfl rfl
  | _ => exact .refl _

omit [WorkerPool σ (Task ν)] in
/-- What was on its way is now at the back. -/
theorem EnterStep.tickets (h : EnterStep me s f s') :
    s'.tickets line (some .pass) = s.tickets line (some f) := by
  cases h with
  | push t =>
      simp [Scene.tickets, Frame.handTicket, Frame.rearTicket, Buffer.push, Buffer.lock]
  | resume | shutting => rfl

/-- Outside passes only a submission adds a ticket, which is the newest. -/
theorem QuietStep.tickets (line : σ → List (Task ν)) (h : QuietStep me s f new s') :
    (s'.tickets line new.head?).Sublist (s.tickets line (some f)) ∨
      s'.tickets line new.head? = s.tickets line (some f) ++ [some s.world.nextTicket] ∧
        s'.world.nextTicket = s.world.nextTicket + 1 := by
  have keeps := h.keeps
  have calm (hand : new.head?.elim [] Frame.handTicket = [])
      (rear : new.head?.elim [] Frame.rearTicket = []) :
      (s'.tickets line new.head?).Sublist (s.tickets line (some f)) :=
    tickets_sublist (by rw [keeps.pool]) (by rw [keeps.backlog]) hand rear
  cases h with
  | submit work reply =>
      refine .inr ⟨?_, rfl⟩
      simp [Scene.tickets, Frame.handTicket, Frame.rearTicket, World.makeClosure]
  | letIn c => exact .inl (.refl _)
  | survey c =>
      have scanned := keeps_scan s
      refine .inl ?_
      simp [Scene.tickets, Frame.handTicket, Frame.rearTicket, makeTask, scanned.pool,
        scanned.backlog, Task.ticket?]
  | pastGate c =>
      exact .inl (calm (by cases c.work.thenSubmit <;> rfl) (by cases c.work.thenSubmit <;> rfl))
  | discard c => exact .inl (calm (by cases c.work.onDrop <;> rfl) (by cases c.work.onDrop <;> rfl))
  | _ => exact .inl (calm rfl rfl)

/-- A step keeps the tickets rising. -/
theorem step_rising (back : HandsBack rules fine line) (sound : fine s.exec.pool)
    (h : s.step me f = some (new, s'))
    (rising : Rising s.world.nextTicket (s.tickets line (some f))) :
    Rising s'.world.nextTicket (s'.tickets line new.head?) := by
  have later := step_tickets (back.keeper.keeps sound) h
  cases step_cases h with
  | pass pass => exact rising.mono (pass.tickets back sound) later
  | leave refused =>
      cases refused <;> exact rising.mono (tickets_sublist (.refl _) (.refl _) rfl rfl) later
  | enter _ enter =>
      refine rising.mono ?_ later
      rw [List.head?_singleton, enter.tickets]
  | outside outside =>
      cases outside with
      | quiet quiet =>
          rcases quiet.tickets line with fewer | ⟨more, next⟩
          · exact rising.mono fewer later
          · rw [more, next]
            exact rising.snoc
      | shutdown =>
          exact rising.mono (tickets_sublist (by rw [back.shutdown sound]) (.refl _) rfl rfl) later
      | withdraw => exact rising.mono (tickets_sublist (.refl _) (List.nil_sublist _) rfl rfl) later
      | stop backlog stopped =>
          refine rising.mono (tickets_sublist ?_ (.refl _) rfl rfl) later
          rw [(back.stop sound stopped).2]
          exact List.nil_sublist _

end Scene

end Steps

/-! ### In runs of one thread -/

section Runs

variable {rules : Rules σ ν} {fine : σ → Prop} {line : σ → List (Task ν)} {config : Config}
  {main : Option ThreadId} {pool : σ} {s : Scene σ ν} {me : ThreadId} {w x y : System σ ν}

/-- The tickets in the pool, in the hands of a pass, in the backlog and on their way there are
rising. -/
theorem rising_alone (back : HandsBack rules fine line) (new : fine pool) (empty : line pool = [])
    (built : Scene.build config main pool = .ok s) (run : System.Alone rules me (.idle s) y) :
    Rising y.scene.world.nextTicket (y.scene.tickets line (y.threads.get me).head?) := by
  induction run with
  | refl =>
      obtain ⟨-, flight, rfl⟩ := Scene.build_ok built
      exact ⟨[], by simp [Scene.tickets, System.idle, empty], .nil, nofun⟩
  | @tail y z before fit next only rising =>
      have start := System.only_idle me s
      have sound := (placed_reaches back.keeper built new (by rw [empty]; rfl) before.reaches).pool
      obtain ⟨trail, watched⟩ := System.Watched.alone .refl before
      have outside := outside_watched rfl start watched
      cases top : y.threads.get me with
      | cons f rest =>
          rw [top] at rising outside
          rcases next.alone (before.only start) only top with
            ⟨new, step, stack⟩ | ⟨pool, moved, rfl⟩
          · have outside : ∀ g ∈ rest, g.inLibrary = false := outside
            rw [stack, Scene.tickets_head z.scene outside]
            exact Scene.step_rising back sound step rising
          · rw [top]
            rwa [Scene.tickets_moved _ (back.moves sound moved).2]
      | nil =>
          rw [top] at rising
          -- the thread gets at most one frame, and that is outside of the executor
          have fewer (pool : (line z.scene.exec.pool).Sublist (line y.scene.exec.pool))
              (backlog : z.scene.exec.backlog = y.scene.exec.backlog)
              (stack : ∀ f ∈ z.threads.get me, f.inLibrary = false)
              (tickets : z.scene.world.nextTicket = y.scene.world.nextTicket) :
              Rising z.scene.world.nextTicket (z.scene.tickets line (z.threads.get me).head?) := by
            refine rising.mono ?_ (Nat.le_of_eq tickets.symm)
            rw [← List.nil_append (z.threads.get me), Scene.tickets_head z.scene stack]
            exact Scene.tickets_sublist pool (by rw [backlog]) rfl rfl
          cases next with
          | turn t turn => simp [(before.only start).turn?_idle top] at turn
          | call t c idle =>
              obtain rfl : t = me := only.eq (by simp [System.assign])
              refine fewer (.refl _) rfl ?_ rfl
              rw [System.assign, Stacks.get_set_self]
              cases c <;> simp [Call.frame, Frame.inLibrary, Frame.inPass, Frame.entersPass]
          | finish t job mode pool idle _ given =>
              obtain rfl : t = me := only.eq (by simp)
              obtain ⟨-, earlier, later, whole, left⟩ := back.yields sound given
              refine fewer ?_ rfl (by simp [Frame.inLibrary, Frame.inPass, Frame.entersPass]) rfl
              rw [left, whole]
              exact (List.sublist_cons_self job later).append_left earlier
          | finishReturned t earlier later job mode idle _ split =>
              obtain rfl : t = me := only.eq (by simp)
              refine fewer (.refl _) rfl ?_ rfl
              simp [Frame.inLibrary, Frame.inPass, Frame.entersPass]
          | pool pool moved =>
              exact fewer (by rw [(back.moves sound moved).2]) rfl (by simp [top]) rfl

end Runs

/-! ### A stop, from its call to its return -/

/-- Nobody calls the executor or takes up a job. -/
def Rules.uncalled (rules : Rules σ ν) : Rules σ ν :=
  { rules with calls := fun _ => False, modes := fun _ => False }

section Stop

variable {rules : Rules σ ν} {fine : σ → Prop} {line : σ → List (Task ν)} {config : Config}
  {main : Option ThreadId} {pool : σ} {s : Scene σ ν} {me : ThreadId} {w x y z : System σ ν}

theorem System.Next.called (next : System.Next rules.uncalled y z) : System.Next rules y z := by
  cases next with
  | turn t turn => exact .turn t turn
  | call t c idle never => exact never.elim
  | finish t job mode pool idle never => exact never.elim
  | finishReturned t before after job mode idle never => exact never.elim
  | pool pool moved => exact .pool pool moved

theorem System.Alone.called (run : System.Alone rules.uncalled me x y) :
    System.Alone rules me x y := by
  induction run with
  | refl => exact .refl
  | tail _ fit next only ih => exact ih.tail fit next.called only

/-- How far a stop is that was called in `w`. -/
inductive Stopping (line : σ → List (Task ν)) (me : ThreadId) (w x : System σ ν) : Prop where
  | asked (top : x.threads.get me = [.shutdownNow])
      (held : line x.scene.exec.pool = line w.scene.exec.pool)
      (backlog : x.scene.exec.backlog = w.scene.exec.backlog)
      (returned : x.scene.returned = w.scene.returned)
      (stops : x.scene.world.marks Event.stopped? = w.scene.world.marks Event.stopped?)
  | withdrawn (top : x.threads.get me = [.stopPool w.scene.exec.backlog])
      (held : line x.scene.exec.pool = line w.scene.exec.pool)
      (returned : x.scene.returned = w.scene.returned)
      (stops : x.scene.world.marks Event.stopped? = w.scene.world.marks Event.stopped?)
  | handed (top : x.threads.get me = [])
      (returned : x.scene.returned
        = w.scene.returned ++ (line w.scene.exec.pool ++ w.scene.exec.backlog))
      (stops : x.scene.world.marks Event.stopped? = w.scene.world.marks Event.stopped?
        ++ [((line w.scene.exec.pool).map Task.id, w.scene.exec.backlog.map Task.id)])

namespace Stopping

omit [WorkerPool σ (Task ν)] in
/-- The pool changes by itself. -/
theorem moved {pool : σ} (same : line pool = line x.scene.exec.pool) (h : Stopping line me w x) :
    Stopping line me w { x with scene := { x.scene with exec := { x.scene.exec with pool } } } := by
  cases h with
  | asked top held backlog returned stops =>
      exact .asked top (same.trans held) backlog returned stops
  | withdrawn top held returned stops => exact .withdrawn top (same.trans held) returned stops
  | handed top returned stops => exact .handed top returned stops

theorem next (back : HandsBack rules fine line) (sound : fine x.scene.exec.pool)
    (before : x.Only me) (after : y.Only me) (next : System.Next rules.uncalled x y)
    (h : Stopping line me w x) : Stopping line me w y := by
  have keeps {pool : σ} (moved : rules.moves x.scene.exec.pool pool) :
      line pool = line x.scene.exec.pool := (back.moves sound moved).2
  cases h with
  | asked top held backlog returned stops =>
      rcases next.alone before after top with ⟨new, step, stack⟩ | ⟨pool, moved, rfl⟩
      · obtain ⟨scene, threads⟩ := y
        cases Scene.step_outside rfl rfl step with
        | quiet quiet => cases quiet
        | withdraw free =>
            refine .withdrawn (backlog ▸ stack) held returned ?_
            rw [World.marks_record, ← stops]
            exact List.append_nil _
      · exact .moved (keeps moved) (.asked top held backlog returned stops)
  | withdrawn top held returned stops =>
      rcases next.alone before after top with ⟨new, step, stack⟩ | ⟨pool, moved, rfl⟩
      · obtain ⟨scene, threads⟩ := y
        cases Scene.step_outside rfl rfl step with
        | quiet quiet => cases quiet
        | stop _ stopped =>
            obtain ⟨rfl, -⟩ := back.stop sound stopped
            refine .handed stack ?_ ?_
            · rw [← held, ← returned]
            · rw [← held, ← stops]
              exact World.marks_record _ _ _
      · exact .moved (keeps moved) (.withdrawn top held returned stops)
  | handed top returned stops =>
      cases next with
      | turn t turn => simp [before.turn?_idle top] at turn
      | call t c idle never => exact never.elim
      | finish t job mode pool idle never => exact never.elim
      | finishReturned t earlier later job mode idle never => exact never.elim
      | pool pool moved => exact .moved (keeps moved) (.handed top returned stops)

theorem goes_on (h : Stopping line me w x) (alone : Exclusive x.bag x.scene) (only : x.Only me) :
    (∃ z, x.turn? me = some z) ∨ x.threads.get me = [] := by
  cases h with
  | asked top =>
      have free : x.scene.exec.holder = none := by
        by_contra held
        obtain ⟨f, mem, inside⟩ := alone.exists_pass held
        rw [only.bag, top] at mem
        obtain rfl := List.mem_singleton.mp (Multiset.mem_coe.mp mem)
        cases inside
      exact .inl ⟨_, by simp [System.turn?, top, Scene.step, free]; rfl⟩
  | withdrawn top => exact .inl ⟨_, by simp [System.turn?, top, Scene.step]; rfl⟩
  | handed top => exact .inr top

end Stopping

theorem stopping_alone (back : HandsBack rules fine line) (new : fine pool)
    (empty : line pool = []) (built : Scene.build config main pool = .ok s)
    (before : System.Alone rules me (.idle s) w) (asked : w.threads.get me = [.shutdownNow])
    (call : System.Alone rules.uncalled me w x) : Stopping line me w x := by
  have only := before.only (System.only_idle me s)
  induction call with
  | refl => exact .asked asked rfl rfl rfl rfl
  | tail run fit next after stopping =>
      have sound := (placed_reaches back.keeper built new (by rw [empty]; rfl)
        (before.reaches.trans run.called.reaches)).pool
      exact stopping.next back sound (run.only only) after next

/-- When the only thread is about to stop the executor, what the pool and the backlog hold is what
has neither begun nor been thrown away nor handed back. -/
theorem unstarted_of_asked (back : HandsBack rules fine line) (new : fine pool)
    (empty : line pool = []) (built : Scene.build config main pool = .ok s)
    (run : System.Alone rules me (.idle s) w) (asked : w.threads.get me = [.shutdownNow]) :
    (line w.scene.exec.pool ++ w.scene.exec.backlog).map Task.ticket?
      = w.scene.unstarted.map some := by
  obtain ⟨ks, tickets, rising, -⟩ := rising_alone back new empty built run
  have account := (placed_reaches back.keeper built new (by rw [empty]; rfl) run.reaches).account
  have tickets : (line w.scene.exec.pool ++ w.scene.exec.backlog).map Task.ticket?
      = ks.map some := by
    rw [← tickets, asked]
    simp [Scene.tickets, Frame.handTicket, Frame.rearTicket]
  have whole : (line w.scene.exec.pool ++ w.scene.exec.backlog).filterMap Task.ticket? = ks := by
    simpa using congrArg (List.filterMap id) tickets
  have stored : Task.bearsAll Closure.token w.scene.exec.backlog
      + ((line w.scene.exec.pool : Multiset (Task ν)).map (Task.bears Closure.token)).sum = ks := by
    rw [Multiset.map_coe, Multiset.sum_coe, add_comm, ← whole, ← Task.bearsAll_token]
    exact (Task.bearsAll_append _ _ _).symm
  have stack : tally (Frame.bears Closure.token) w.bag = 0 := by
    rw [(run.only (System.only_idle me s)).bag, asked]
    rfl
  rw [stack, zero_add, Scene.traced, Scene.stores, stored, Task.bearsAll_token, add_assoc,
    add_assoc] at account
  rw [tickets, eq_filter_range rising account, Scene.unstarted]
  congr 1
  refine List.filter_congr fun k _ => decide_eq_decide.mpr ?_
  simp only [Multiset.mem_add, Multiset.mem_coe, not_or]
  tauto

/-- Over a pool that holds its jobs in the order in which it took them and hands all of them back,
with one thread at work: a stop returns. It has then handed back the jobs of the pool and after them
the whole backlog; these are the submissions that have neither begun nor been thrown away nor been
handed back before, each once and in the order of the submissions. Each has its closure, which
starts when the job is run. Whatever happens afterwards, on whatever thread, nothing is offered to
the pool any more. -/
theorem stop_hands_back_in_order (shuts : Shuts rules) (back : HandsBack rules fine line)
    (new : fine pool) (empty : line pool = []) (built : Scene.build config main pool = .ok s)
    (before : System.Alone rules me (.idle s) w) (asked : w.threads.get me = [.shutdownNow])
    (call : System.Alone rules.uncalled me w x) :
    (∃ z, x.turn? me = some z) ∨ x.threads.get me = [] ∧
      ∃ handed, handed = line w.scene.exec.pool ++ w.scene.exec.backlog ∧
        x.scene.returned = w.scene.returned ++ handed ∧
        x.scene.world.marks Event.stopped? = w.scene.world.marks Event.stopped?
          ++ [((line w.scene.exec.pool).map Task.id, w.scene.exec.backlog.map Task.id)] ∧
        handed.map Task.ticket? = w.scene.unstarted.map some ∧
        (∀ t ∈ handed, ∃ c, t.closure = some c ∧ ∀ on acts (s' : Scene σ ν),
          s'.run on 2 [.job t (.run :: acts)] = ([.atGate c, .job { t with closure := none } acts],
            s'.record (.started c.ticket c.work.name on))) ∧
        ∀ y, System.Reaches rules x y → y.scene.exec.backlog = [] ∧
          y.scene.exec.admitted = x.scene.exec.admitted ∧
          y.scene.exec.rejected = x.scene.exec.rejected := by
  have first := before.reaches.trans call.called.reaches
  have start := before.only (System.only_idle me s)
  have stopping := stopping_alone back new empty built before asked call
  refine (stopping.goes_on (exclusive_reaches built first) (call.called.only start)).imp_right ?_
  intro idle
  have unstarted := unstarted_of_asked back new empty built before asked
  cases stopping with
  | asked top | withdrawn top =>
      rw [idle] at top
      contradiction
  | handed _ returned stops =>
      refine ⟨idle, _, rfl, returned, stops, unstarted, ?_, ?_⟩
      · intro t mem
        obtain ⟨k, -, ticket⟩ := List.mem_map.mp (unstarted ▸ List.mem_map_of_mem mem)
        obtain ⟨c, own, -⟩ := Option.map_eq_some_iff.mp ticket.symm
        refine ⟨c, own, ?_⟩
        intro on acts s'
        simp [Scene.run, Scene.step, own]
      · intro y later
        have frozen : Frozen x.bag x.scene := by
          refine (shutting_alone shuts built before.reaches start (.inr asked)
            call.called).resolve_left ?_
          rintro ⟨f, top, -⟩
          rw [idle] at top
          contradiction
        have frozenThen : ∀ z, System.Reaches rules x z → Frozen z.bag z.scene := fun z then_ =>
          frozen.reaches shuts.toStaysShut built first then_
        obtain ⟨meters, -⟩ := (unmoved_upheld _ _).reaches frozenThen ⟨rfl, rfl⟩ later
        exact ⟨(frozenThen y later).empty, congrArg Meters.admitted meters,
          congrArg Meters.rejected meters⟩

end Stop

/-- A pool driven by hand that hands back what it holds. -/
theorem HandPool.handsBack (b : Bounds ν) :
    HandsBack b.rules (fun p : HandPool (Task ν) => p.drain = true) HandPool.held where
  lasting :=
    { offer := fun t p drain => by
        change (HandPool.offer t p).2.drain = true
        rcases HandPool.offer_cases t p with taken | ⟨why, n, turned⟩
        · rw [taken]
          exact drain
        · rw [turned]
          exact drain
      setCoreSize := fun n p drain => by
        change (HandPool.setCoreSize n p).drain = true
        unfold HandPool.setCoreSize
        split <;> exact drain
      shutdown := fun drain => drain
      shutdownNow := fun {p} drain => by
        change (HandPool.shutdownNow p).2.drain = true
        rw [HandPool.shutdownNow, if_pos drain]
        exact drain }
  accepts {t p q} _ h := by
    rcases HandPool.offer_cases t p with taken | ⟨why, n, turned⟩
    · obtain ⟨-, rfl⟩ := Prod.mk.inj (taken.symm.trans h)
      rfl
    · cases turned.symm.trans h
  refuses {t p q why} _ h := by
    rcases HandPool.offer_cases t p with taken | ⟨_, n, turned⟩
    · cases taken.symm.trans h
    · obtain ⟨-, rfl⟩ := Prod.mk.inj (turned.symm.trans h)
      rfl
  setCoreSize {p} n _ := by
    change (HandPool.setCoreSize n p).held = p.held
    unfold HandPool.setCoreSize
    split <;> rfl
  shutdown _ := rfl
  stop {p q jobs} drain stopped := by
    change HandPool.shutdownNow p = (jobs, q) at stopped
    rw [HandPool.shutdownNow, if_pos drain] at stopped
    obtain ⟨rfl, rfl⟩ := Prod.mk.inj stopped
    exact ⟨rfl, rfl⟩
  moves drain moved := by
    obtain ⟨n, rfl⟩ := moved
    exact ⟨drain, rfl⟩
  yields {p t q} drain given := by
    obtain ⟨index, taken⟩ := given
    obtain ⟨before, after, held, rfl⟩ := HandPool.held_of_take? taken
    exact ⟨drain, before, after, held, rfl⟩

open Sample in
/-- One task has run; the pool has the second, and the third waits. The stop hands back both. -/
theorem stop_hands_back_in_order_after_completion :
    ∃ w x, System.Alone (Bounds.none (ν := Unit)).rules (.caller 1) (.idle drainScene) w ∧
      w.threads.get (.caller 1) = [.shutdownNow] ∧
      System.Alone (Bounds.none (ν := Unit)).rules.uncalled (.caller 1) w x ∧
      x.threads.get (.caller 1) = [] ∧ w.scene.unstarted = [1, 2] ∧
      x.scene.returned.map Task.ticket? = [some 1, some 2] ∧
      (∀ t ∈ x.scene.returned, ∃ c, t.closure = some c) ∧ x.scene.exec.admitted = 2 ∧
      ∀ y, System.Reaches (Bounds.none (ν := Unit)).rules x y →
        y.scene.exec.backlog = [] ∧ y.scene.exec.admitted = 2 := by
  obtain ⟨u, w, v, x, first, asks, taken, stopped, asked, idle, none, unstarted, admitted⟩ :
      ∃ u w v x, System.replay .none (calls 1 12 (submit "a") ++ calls 1 10 (submit "b")
          ++ calls 1 10 (submit "c")) (.idle drainScene) = some u ∧
        System.replay .none (.finish (.caller 1) 0 .runComplete :: Act.turns (.caller 1) 16
          ++ calls 1 0 .shutdownNow) u = some w ∧
        w.turn? (.caller 1) = some v ∧ v.turn? (.caller 1) = some x ∧
        w.threads.get (.caller 1) = [.shutdownNow] ∧ x.threads.get (.caller 1) = [] ∧
        w.scene.returned = [] ∧ w.scene.unstarted = [1, 2] ∧ x.scene.exec.admitted = 2 :=
    ⟨_, _, _, _, rfl, rfl, rfl, rfl, rfl, rfl, rfl, rfl, rfl⟩
  have worked := System.replay_alone (by decide) .refl (System.only_idle (.caller 1) _) first
  have before := System.replay_alone (by decide) worked (worked.only (System.only_idle _ _)) asks
  have only := before.only (System.only_idle _ _)
  have only' := System.act_only (b := .none) (a := .turn (.caller 1)) rfl only taken
  have call : System.Alone (Bounds.none (ν := Unit)).rules.uncalled (.caller 1) w x :=
    (System.Alone.refl.tail rfl (.turn _ taken) only').tail rfl (.turn _ stopped)
      (System.act_only (b := .none) (a := .turn (.caller 1)) rfl only' stopped)
  obtain ⟨-, handed, -, returned, -, tickets, own, later⟩ :=
    (stop_hands_back_in_order (HandPool.shutsDown _) (HandPool.handsBack _) rfl rfl
      drainScene_built before asked call).resolve_left (by simp [System.turn?, idle])
  rw [none, List.nil_append] at returned
  refine ⟨w, x, before, asked, call, idle, unstarted, ?_, ?_, admitted, ?_⟩
  · rw [returned, tickets, unstarted]
    rfl
  · rw [returned]
    exact fun t mem => (own t mem).imp fun c runs => runs.1
  · intro y run
    obtain ⟨empty, same, -⟩ := later y run
    exact ⟨empty, same.trans admitted⟩

end TwoTier
