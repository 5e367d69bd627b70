import TwoTier.Proofs.Roster
import TwoTier.Proofs.Sheets

/-!
Where the threads of an executor stand.

A worker's phase and its stack say at which `Station` it stands, and which stacks go with which
phases is fixed (`Seemly`) as long as jobs submit nothing and nobody shuts the executor down. One
caller at most has business, and that is one submission (`Asking`).

`Posted` puts this together: all threads have business of these forms, and the workers stand at
given stations. When one worker does something, one station is exchanged (`Posted.exchange`), and a
pass that decides turns one worker that was due into one that is done, or ends the call
(`Posted.decides`).
-/

namespace TwoTier

variable {ν : Type}

/-- Whether a closure will wait, with these gates open. -/
def Closure.barred (gates : List String) (c : Closure ν) : Bool :=
  c.work.gated && !gates.contains c.work.name

/-- A gate that is opened is open only for the closures of its name. -/
theorem Closure.name_of_opened {gates : List String} {gate : String} {c : Closure ν}
    (before : c.barred gates = true) (after : c.barred (gate :: gates) = false) :
    (c.work.gated && c.work.name == gate) = true := by
  unfold barred at before after
  obtain ⟨gated, shut⟩ := Bool.and_eq_true_iff.mp before
  rw [gated] at after ⊢
  cases name : c.work.name == gate with
  | true => rfl
  | false =>
      rw [List.contains_cons, name, Bool.false_or, Bool.true_and, shut] at after
      contradiction

theorem Closure.barred_eq (c : Closure ν) (w : World ν) :
    c.barred w.openGates = !(!c.work.gated || w.isOpen c.work.name) := by
  simp [barred, World.isOpen]

/-- The task still has its closure, which submits nothing when it runs. -/
def Task.Plain (t : Task ν) : Prop := ∃ c, t.closure = some c ∧ c.work.thenSubmit = []

def Task.barred (gates : List String) (t : Task ν) : Bool := t.closure.any (Closure.barred gates)

namespace Frame

/-- Whether a closure has yet to come past a shut gate. -/
def barred (gates : List String) : Frame ν → Bool
  | .job t (.run :: _) => t.barred gates
  | .start c | .atGate c => c.barred gates
  | _ => false

/-- Whether a pass has yet to decide, at this frame or after it. -/
def undecided : Frame ν → Bool
  | .submit _ _ | .arrive _ | .survey _ | .push _ | .job _ (.complete :: _) | .completed _ | .enter
  | .pass | .readActive | .readQueued _ | .retune _ _ | .setCore _ _ _ | .decide _ _ _
  | .handOver _ _ _ | .offer _ _ _ => true
  | _ => false

/-- How far a pass has come. On an executor that takes jobs and has no main thread, a pass takes
one task at most, and has nothing to throw away unless the pool refuses it. -/
inductive Passes : Frame ν → Course → Prop where
  | pass : Passes .pass .begun
  | readActive : Passes .readActive .begun
  | readQueued (active : Nat) : Passes (.readQueued active) (.counted active)
  | retune (active queued : Nat) : Passes (.retune active queued) (.read active queued)
  | setCore (active queued target : Nat) :
      Passes (.setCore active queued target) (.tuning active queued target)
  | decide (active queued target : Nat) :
      Passes (.decide active queued target) (.tuned active queued target)
  | handOver {t : Task ν} (plain : t.Plain) : Passes (.handOver t false []) .inHand
  | offer {t : Task ν} (plain : t.Plain) : Passes (.offer t false []) .inHand
  | leave : Passes (.leave []) .ended

theorem Passes.inPass {f : Frame ν} {o : Course} (h : f.Passes o) : f.inPass = true := by
  cases h <;> rfl

end Frame

/-- The business of a caller: nothing, or one submission. -/
inductive Asking : List (Frame ν) → Prop where
  | idle : Asking []
  | submit {work : Work ν} (reply : Option Nat) (plain : work.thenSubmit = []) :
      Asking [.submit work reply]
  | arrive {c : Closure ν} (plain : c.work.thenSubmit = []) : Asking [.arrive c]
  | survey {c : Closure ν} (plain : c.work.thenSubmit = []) : Asking [.survey c]
  | push {t : Task ν} (plain : t.Plain) : Asking [.push t]
  | passes {f : Frame ν} {o : Course} (passes : f.Passes o) : Asking [f]

/-- The calls whose pass has not decided yet, by the stack of a caller. -/
def openCalls (stack : List (Frame ν)) : Nat := if stack.any Frame.undecided then 1 else 0

/-- The business of a worker: in some phases it runs a closure or completes a job, and else it has
none. -/
inductive Seemly : Phase (Task ν) → List (Frame ν) → Prop where
  | assigned {t : Task ν} (plain : t.Plain) : Seemly (.assigned t) []
  | checking : Seemly .checking []
  | waiting : Seemly .waiting []
  | timedOut : Seemly .timedOut []
  | received {t : Task ν} (plain : t.Plain) : Seemly (.received t) []
  | begins {t : Task ν} (plain : t.Plain) : Seemly (.running t) [.job t [.run]]
  | starts {t s : Task ν} {c : Closure ν} (gone : s.closure = none)
      (plain : c.work.thenSubmit = []) : Seemly (.running t) [.start c, .job s []]
  | atGate {t s : Task ν} {c : Closure ν} (gone : s.closure = none)
      (plain : c.work.thenSubmit = []) : Seemly (.running t) [.atGate c, .job s []]
  | finishes {t s : Task ν} (c : Closure ν) (gone : s.closure = none) :
      Seemly (.running t) [.finish c, .job s []]
  | ran {t s : Task ν} (gone : s.closure = none) : Seemly (.running t) [.job s []]
  | ends (t : Task ν) : Seemly (.running t) []
  | completes {t s : Task ν} (gone : s.closure = none) : Seemly (.completing t) [.job s [.complete]]
  | notes {t s : Task ν} (id : TaskId) (gone : s.closure = none) :
      Seemly (.completing t) [.completed id, .job s []]
  | enters {t s : Task ν} (gone : s.closure = none) : Seemly (.completing t) [.enter, .job s []]
  | passes {t s : Task ν} {f : Frame ν} {o : Course} (gone : s.closure = none)
      (passes : f.Passes o) : Seemly (.completing t) [f, .job s []]
  | completed {t s : Task ν} (gone : s.closure = none) : Seemly (.completing t) [.job s []]
  | done (t : Task ν) : Seemly (.completing t) []

/-- A worker passes when it completes a job. -/
theorem Seemly.of_passes {phase : Phase (Task ν)} {f : Frame ν} {rest : List (Frame ν)} {o : Course}
    (seemly : Seemly phase (f :: rest)) (passes : f.Passes o) :
    ∃ t s, phase = .completing t ∧ s.closure = none ∧ rest = [.job s []] := by
  cases seemly with
  | passes gone => exact ⟨_, _, rfl, gone, rfl⟩
  | _ => cases passes

theorem Asking.of_passes {f : Frame ν} {rest : List (Frame ν)} {o : Course}
    (asking : Asking (f :: rest)) (passes : f.Passes o) : rest = [] := by
  cases asking with
  | passes => rfl
  | _ => cases passes

/-- A job that has not begun still has its closure. -/
theorem Seemly.plain {t : Task ν} {stack : List (Frame ν)}
    (seemly : Seemly (.assigned t) stack ∨ Seemly (.received t) stack) : t.Plain := by
  rcases seemly with seemly | seemly <;> cases seemly <;> assumption

/-- Nothing comes before a pass. -/
theorem Seemly.head {phase : Phase (Task ν)} {f : Frame ν} {stack : List (Frame ν)}
    (seemly : Seemly phase stack) (mem : f ∈ stack) (inside : f.inPass = true) :
    ∃ rest, stack = f :: rest := by
  cases seemly with
  | passes =>
      rcases List.mem_cons.mp mem with rfl | mem
      · exact ⟨_, rfl⟩
      · obtain rfl := List.mem_singleton.mp mem
        contradiction
  | assigned | checking | waiting | timedOut | received | ends | done => cases mem
  | _ =>
      simp only [List.mem_cons, List.not_mem_nil, or_false] at mem
      rcases mem with rfl | rfl <;> contradiction

/-- A worker before a gate runs a job. -/
theorem Seemly.of_atGate {phase : Phase (Task ν)} {c : Closure ν} {rest : List (Frame ν)}
    (seemly : Seemly phase (.atGate c :: rest)) :
    ∃ t s, phase = .running t ∧ rest = [.job s []] := by
  cases seemly with
  | atGate => exact ⟨_, _, rfl, rfl⟩
  | passes _ passes => cases passes

/-- No business of these forms leads to a shutdown or a stop. -/
theorem Seemly.calm {phase : Phase (Task ν)} {f : Frame ν} {rest : List (Frame ν)}
    (seemly : Seemly phase (f :: rest)) : f.stops = false := by
  cases seemly with
  | passes _ passes => cases passes <;> rfl
  | _ => rfl

theorem Asking.calm {f : Frame ν} {rest : List (Frame ν)} (asking : Asking (f :: rest)) :
    f.stops = false := by
  cases asking with
  | passes passes => cases passes <;> rfl
  | _ => rfl

/-- Where a worker stands, by its phase and its stack. -/
def station (gates : List String) : Phase (Task ν) → List (Frame ν) → Station
  | .assigned t, _ => if t.barred gates then .blocked else .moving
  | .received t, _ => if t.barred gates then .taken else .moving
  | .running _, stack => if stack.any (Frame.barred gates) then .blocked else .moving
  | .completing _, stack => if stack.any Frame.undecided then .due else .done
  | .timedOut, _ => .out
  | .checking, _ | .waiting, _ | .disconnected, _ => .idle

section

variable {σ : Type} [WorkerPool σ (Task ν)] {gates : List String} {phase : Phase (Task ν)}
  {me : ThreadId} {f : Frame ν} {new rest : List (Frame ν)} {s s' : Scene σ ν}

/-- Outside passes, a worker's business leads to more of the kind, and the worker stays where it
is. -/
theorem Seemly.quiet (seemly : Seemly phase (f :: rest)) (step : Scene.QuietStep me s f new s')
    (alive : s.alive = true) (past : ∀ c, f = .atGate c → c.barred gates = false) :
    Seemly phase (new ++ rest) ∧
      station gates phase (new ++ rest) = station gates phase (f :: rest) := by
  cases seemly with
  | begins plain =>
      obtain ⟨c, closure, plain⟩ := plain
      cases step with
      | rerun _ _ gone =>
          rw [closure] at gone
          contradiction
      | run _ _ d found =>
          obtain rfl := Option.some.inj (closure.symm.trans found)
          refine ⟨.starts rfl plain, ?_⟩
          simp [station, Frame.barred, Task.barred, closure]
  | starts gone plain =>
      cases step with
      | start => exact ⟨.atGate gone plain, by simp [station, Frame.barred]⟩
  | @atGate t j c gone plain =>
      cases step with
      | pastGate =>
          rw [plain]
          refine ⟨.finishes c gone, ?_⟩
          simp [station, Frame.barred, Frame.submitAll, past c rfl]
  | finishes c gone =>
      cases step with
      | finish => exact ⟨.ran gone, by simp [station, Frame.barred]⟩
  | ran gone =>
      cases step with
      | spent => exact ⟨.ends _, by simp [station, Frame.barred]⟩
      | unrun _ c found =>
          rw [gone] at found
          contradiction
  | completes gone =>
      cases step with
      | complete => exact ⟨.notes _ gone, by simp [station, Frame.undecided]⟩
  | notes id gone =>
      cases step with
      | completed => exact ⟨.enters gone, by simp [station, Frame.undecided]⟩
      | tooLate _ dead =>
          rw [alive] at dead
          contradiction
  | enters gone => cases step
  | passes gone passes => cases passes <;> cases step
  | completed gone =>
      cases step with
      | spent => exact ⟨.done _, by simp [station, Frame.undecided]⟩
      | unrun _ c found =>
          rw [gone] at found
          contradiction

theorem Asking.quiet (asking : Asking (f :: rest)) (step : Scene.QuietStep me s f new s')
    (alive : s.alive = true) (running : WorkerPool.isShutdown s.exec.pool = false) :
    Asking (new ++ rest) ∧ openCalls (new ++ rest) = openCalls (f :: rest) := by
  cases asking with
  | submit reply plain =>
      cases step with
      | submit => exact ⟨.arrive plain, rfl⟩
      | lost _ _ dead =>
          rw [alive] at dead
          contradiction
  | arrive plain =>
      cases step with
      | turnAway _ shut =>
          rw [running] at shut
          contradiction
      | letIn => exact ⟨.survey plain, rfl⟩
  | @survey c plain =>
      cases step with
      | survey => exact ⟨.push ⟨c, rfl, plain⟩, rfl⟩
  | push plain => cases step
  | passes passes => cases passes <;> cases step

end

/-- A job that a worker begins counts as the job the worker was started with. -/
theorem station_begins (gates : List String) (t : Task ν) :
    station gates (.running t) [.job t [.run]] = station gates (.assigned t) [] := by
  simp [station, Frame.barred]

/-- Where all the workers stand. -/
def crewOf (gates : List String) (workers : List (Worker (Task ν))) (k : Stacks ν) :
    Multiset Station :=
  ↑(workers.map fun w => station gates w.phase (k.get (.worker w.number)))

/-- All threads have business of the forms above, and the workers stand at these stations. -/
structure Posted (gates : List String) (workers : List (Worker (Task ν))) (k : Stacks ν)
    (crew : Multiset Station) (call : Nat) : Prop where
  seemly : ∀ w ∈ workers, Seemly w.phase (k.get (.worker w.number))
  staff : ∀ n, k.get (.worker n) ≠ [] → ∃ w ∈ workers, w.number = n
  callers : ∃ m stack, (∀ n, k.get (.caller n) = if n = m then stack else []) ∧ Asking stack ∧
    call = openCalls stack
  crew : crew = crewOf gates workers k

section

variable {gates : List String} {workers workers' others : List (Worker (Task ν))}
  {k k' : Stacks ν} {crew : Multiset Station} {call number n : Nat} {phase phase' : Phase (Task ν)}

theorem crewOf_of_perm (perm : workers.Perm (⟨number, phase⟩ :: others)) : crewOf gates workers k
    = station gates phase (k.get (.worker number)) ::ₘ crewOf gates others k :=
  Multiset.coe_eq_coe.mpr (perm.map _)

theorem crewOf_congr (same : ∀ w ∈ workers, k'.get (.worker w.number) = k.get (.worker w.number)) :
    crewOf gates workers k' = crewOf gates workers k := by
  unfold crewOf
  rw [List.map_congr_left fun w mem => by rw [same w mem]]

namespace Posted

variable (posted : Posted gates workers k crew call)

include posted

/-- One worker does something, and the others do not. -/
theorem exchange (k' : Stacks ν) (seat : ThreadPool.Seat workers number phase others)
    (seat' : ThreadPool.Seat workers' number phase' others)
    (same : ∀ t, t ≠ .worker number → k'.get t = k.get t)
    (seemly : Seemly phase' (k'.get (.worker number))) :
    ∃ rest, crew = station gates phase (k.get (.worker number)) ::ₘ rest ∧
      Posted gates workers' k' (station gates phase' (k'.get (.worker number)) ::ₘ rest) call := by
  have apart : ∀ w ∈ others, k'.get (.worker w.number) = k.get (.worker w.number) :=
    fun w mem => same _ (by simpa using seat.apart w mem)
  refine ⟨crewOf gates others k, posted.crew.trans (crewOf_of_perm seat.perm), ?_, ?_, ?_, ?_⟩
  · intro w mem
    rcases List.mem_cons.mp (seat'.perm.mem_iff.mp mem) with rfl | mem
    · exact seemly
    · rw [apart w mem]
      exact posted.seemly w (seat.perm.mem_iff.mpr (List.mem_cons_of_mem _ mem))
  · intro n busy
    by_cases own : n = number
    · exact ⟨_, seat'.perm.mem_iff.mpr List.mem_cons_self, own.symm⟩
    · rw [same _ (by simpa using own)] at busy
      obtain ⟨w, mem, rfl⟩ := posted.staff n busy
      rcases List.mem_cons.mp (seat.perm.mem_iff.mp mem) with rfl | mem
      · exact absurd rfl own
      · exact ⟨w, seat'.perm.mem_iff.mpr (List.mem_cons_of_mem _ mem), rfl⟩
  · obtain ⟨m, stack, only, asking, called⟩ := posted.callers
    exact ⟨m, stack, fun n => (same (.caller n) nofun).trans (only n), asking, called⟩
  · rw [crewOf_of_perm seat'.perm, crewOf_congr apart]

theorem seated (seat : ThreadPool.Seat workers number phase others) :
    Seemly phase (k.get (.worker number)) :=
  posted.seemly _ (seat.perm.mem_iff.mpr List.mem_cons_self)

/-- A worker without business goes on to another phase. -/
theorem moves (seat : ThreadPool.Seat workers number phase others)
    (seat' : ThreadPool.Seat workers' number phase' others) (idle : k.get (.worker number) = [])
    (seemly : Seemly phase' []) : ∃ rest, crew = station gates phase [] ::ₘ rest ∧
      Posted gates workers' k (station gates phase' [] ::ₘ rest) call := by
  have moved := posted.exchange k seat seat' (fun _ _ => rfl) (idle ▸ seemly)
  rwa [idle] at moved

/-- A worker without business gets some. -/
theorem assign (seat : ThreadPool.Seat workers number phase others)
    (seat' : ThreadPool.Seat workers' number phase' others) (idle : k.get (.worker number) = [])
    {stack : List (Frame ν)} (seemly : Seemly phase' stack) :
    ∃ rest, crew = station gates phase [] ::ₘ rest ∧
      Posted gates workers' (k.set (.worker number) stack)
        (station gates phase' stack ::ₘ rest) call := by
  have moved := posted.exchange (k.set (.worker number) stack) seat seat'
    (fun t other => Stacks.get_set_of_ne other _ _) (by rwa [Stacks.get_set_self])
  rwa [idle, Stacks.get_set_self] at moved

/-- A worker without business leaves. -/
theorem retire (seat : ThreadPool.Seat workers number phase others)
    (perm : workers'.Perm others) (idle : k.get (.worker number) = []) :
    ∃ rest, crew = station gates phase [] ::ₘ rest ∧ Posted gates workers' k rest call := by
  refine ⟨crewOf gates others k, ?_, ?_, ?_, posted.callers, ?_⟩
  · rw [posted.crew, crewOf_of_perm seat.perm, idle]
  · intro w mem
    exact posted.seemly w (seat.perm.mem_iff.mpr (List.mem_cons_of_mem _ (perm.mem_iff.mp mem)))
  · intro n busy
    obtain ⟨w, mem, rfl⟩ := posted.staff n busy
    rcases List.mem_cons.mp (seat.perm.mem_iff.mp mem) with rfl | mem
    · exact absurd idle busy
    · exact ⟨w, perm.mem_iff.mpr mem, rfl⟩
  · exact Multiset.coe_eq_coe.mpr (perm.symm.map _)

/-- A worker starts, and has no business yet. -/
theorem start (fresh : number ∉ workers.map Worker.number) (seemly : Seemly phase []) :
    Posted gates (workers ++ [⟨number, phase⟩]) k (station gates phase [] ::ₘ crew) call := by
  have idle : k.get (.worker number) = [] := by
    by_contra busy
    obtain ⟨w, mem, rfl⟩ := posted.staff number busy
    exact fresh (List.mem_map_of_mem mem)
  refine ⟨?_, ?_, posted.callers, ?_⟩
  · intro w mem
    rcases List.mem_append.mp mem with mem | mem
    · exact posted.seemly w mem
    · obtain rfl := List.mem_singleton.mp mem
      rwa [idle]
  · intro n busy
    obtain ⟨w, mem, same⟩ := posted.staff n busy
    exact ⟨w, List.mem_append_left _ mem, same⟩
  · rw [crewOf_of_perm (List.perm_append_singleton _ _), idle, posted.crew]

/-- The caller that has business goes on, or one begins when none has. -/
theorem ask (k' : Stacks ν) (mine : k.get (.caller n) ≠ [] ∨ ∀ m, k.get (.caller m) = [])
    (same : ∀ t, t ≠ .caller n → k'.get t = k.get t) (asking : Asking (k'.get (.caller n))) :
    Posted gates workers k' crew (openCalls (k'.get (.caller n))) := by
  have staff : ∀ m, k'.get (.worker m) = k.get (.worker m) := fun m => same _ nofun
  refine ⟨?_, ?_, ⟨n, _, ?_, asking, rfl⟩, ?_⟩
  · intro w mem
    rw [staff]
    exact posted.seemly w mem
  · intro m busy
    rw [staff] at busy
    exact posted.staff m busy
  · intro m
    by_cases own : m = n
    · rw [own, if_pos rfl]
    · rw [if_neg own, same _ (by simpa using own)]
      obtain ⟨l, stack, only, -⟩ := posted.callers
      rcases mine with busy | idle
      · rw [only] at busy ⊢
        have l_eq : n = l := by
          by_contra other
          exact busy (if_neg other)
        exact if_neg (l_eq ▸ own)
      · exact idle m
  · rw [posted.crew, crewOf_congr fun w _ => staff _]

/-- What the caller with business has to do. -/
theorem asking (busy : k.get (.caller n) ≠ []) :
    Asking (k.get (.caller n)) ∧ call = openCalls (k.get (.caller n)) := by
  obtain ⟨m, stack, only, asking, called⟩ := posted.callers
  rw [only] at busy ⊢
  split at busy
  · rename_i own
    rw [if_pos own]
    exact ⟨asking, called⟩
  · exact absurd rfl busy

theorem uncalled (idle : ∀ n, k.get (.caller n) = []) : call = 0 := by
  obtain ⟨m, stack, only, -, called⟩ := posted.callers
  have none := only m
  rw [if_pos rfl, idle] at none
  rw [called, ← none]
  rfl

/-- A worker's business goes on without the worker going anywhere. -/
theorem goesOn {p : ThreadPool (Task ν)} (same : workers = p.workers)
    (numbered : ThreadPool.Numbered p) {old new : List (Frame ν)}
    (top : k.get (.worker n) = old) (busy : old ≠ [])
    (next : ∀ phase, Seemly phase old →
      Seemly phase new ∧ station gates phase new = station gates phase old) :
    Posted gates workers (k.set (.worker n) new) crew call := by
  subst same top
  obtain ⟨w, mem, rfl⟩ := posted.staff n busy
  obtain ⟨others, seat⟩ := numbered.seat mem
  obtain ⟨seemly, stays⟩ := next _ (posted.seemly w mem)
  obtain ⟨rest, split, after⟩ := posted.exchange (k.set (.worker w.number) new) seat seat
    (fun t other => Stacks.get_set_of_ne other _ _) (by rwa [Stacks.get_set_self])
  rw [Stacks.get_set_self, stays, ← split] at after
  exact after

/-- A caller's business goes on. -/
theorem asks {old new : List (Frame ν)} (top : k.get (.caller n) = old) (busy : old ≠ [])
    (asking : Asking new) : Posted gates workers (k.set (.caller n) new) crew (openCalls new) := by
  subst top
  have after := posted.ask (k.set (.caller n) new) (.inl busy)
    (fun t other => Stacks.get_set_of_ne other _ _) (by rwa [Stacks.get_set_self])
  rwa [Stacks.get_set_self] at after

variable {p : ThreadPool (Task ν)} {f : Frame ν} {rest : List (Frame ν)} {o : Course} {t : ThreadId}

/-- A pass goes on without a decision. -/
theorem passes {g : Frame ν} {o' : Course} (same : workers = p.workers)
    (numbered : ThreadPool.Numbered p) (top : k.get t = f :: rest) (before : f.Passes o)
    (after : g.Passes o') (undecided : g.undecided = f.undecided) :
    Posted gates workers (k.set t (g :: rest)) crew call := by
  cases t with
  | worker n =>
      refine posted.goesOn same numbered top (List.cons_ne_nil _ _) fun phase seemly => ?_
      obtain ⟨t, s, rfl, gone, rfl⟩ := seemly.of_passes before
      exact ⟨.passes gone after, by simp [station, undecided]⟩
  | caller n =>
      obtain ⟨asking, called⟩ := posted.asking (n := n) (by simp [top])
      rw [top] at asking called
      obtain rfl := asking.of_passes before
      have posted := posted.asks top (List.cons_ne_nil _ _) (.passes after)
      rw [called]
      simpa [openCalls, undecided] using posted

/-- A pass ends. -/
theorem leaves (same : workers = p.workers) (numbered : ThreadPool.Numbered p)
    (top : k.get t = .leave [] :: rest) : Posted gates workers (k.set t rest) crew call := by
  cases t with
  | worker n =>
      refine posted.goesOn same numbered top (List.cons_ne_nil _ _) fun phase seemly => ?_
      obtain ⟨t, s, rfl, gone, rfl⟩ := seemly.of_passes .leave
      exact ⟨.completed gone, by simp [station, Frame.undecided]⟩
  | caller n =>
      obtain ⟨asking, called⟩ := posted.asking (n := n) (by simp [top])
      rw [top] at asking called
      obtain rfl := asking.of_passes .leave
      rw [called]
      exact posted.asks top (List.cons_ne_nil _ _) .idle

omit posted in
/-- A pass decides, and with it a call is over or a worker done. -/
theorem decides {x : Sheet} (posted : Posted gates workers k x.crew x.call)
    (same : workers = p.workers) (numbered : ThreadPool.Numbered p) (top : k.get t = f :: rest)
    (before : f.Passes o) (undecided : f.undecided = true) : ∃ x', Sheet.Decides x x' ∧
      Posted gates workers (k.set t (.leave [] :: rest)) x'.crew x'.call := by
  cases t with
  | worker n =>
      subst same
      obtain ⟨w, mem, rfl⟩ := posted.staff n (by simp [top])
      obtain ⟨others, seat⟩ := numbered.seat mem
      have seemly := posted.seemly w mem
      rw [top] at seemly
      obtain ⟨t, s, phase, gone, rfl⟩ := seemly.of_passes before
      obtain ⟨crew, split, after⟩ := posted.exchange
        (k.set (.worker w.number) [.leave [], .job s []]) seat seat
        (fun t other => Stacks.get_set_of_ne other _ _)
        (by rw [Stacks.get_set_self, phase]; exact .passes gone .leave)
      rw [top, phase] at split
      rw [Stacks.get_set_self, phase] at after
      have split : x.crew = .due ::ₘ crew := by simpa [station, undecided] using split
      exact ⟨_, .worker split, after⟩
  | caller n =>
      obtain ⟨asking, called⟩ := posted.asking (n := n) (by simp [top])
      rw [top] at asking called
      obtain rfl := asking.of_passes before
      exact ⟨_, .call (by simpa [openCalls, undecided] using called),
        posted.asks top (List.cons_ne_nil _ _) (.passes .leave)⟩

/-- A worker that has completed a job begins a pass. -/
theorem enters (same : workers = p.workers) (numbered : ThreadPool.Numbered p)
    (top : k.get t = .enter :: rest) :
    0 < crew.count .due ∧ Posted gates workers (k.set t (.pass :: rest)) crew call := by
  cases t with
  | worker n =>
      subst same
      constructor
      · obtain ⟨w, mem, rfl⟩ := posted.staff n (by simp [top])
        have seemly := posted.seemly w mem
        rw [top] at seemly
        have stands : station gates w.phase (k.get (.worker w.number)) = .due := by
          rw [top]
          generalize w.phase = phase at seemly
          cases seemly with
          | enters => simp [station, Frame.undecided]
          | passes _ passes => cases passes
        rw [Multiset.count_pos, posted.crew, ← stands]
        exact Multiset.mem_coe.mpr (List.mem_map.mpr ⟨w, mem, rfl⟩)
      · refine posted.goesOn rfl numbered top (List.cons_ne_nil _ _) fun phase seemly => ?_
        cases seemly with
        | enters gone => exact ⟨.passes gone .pass, by simp [station, Frame.undecided]⟩
        | passes _ passes => cases passes
  | caller n =>
      obtain ⟨asking, -⟩ := posted.asking (n := n) (by simp [top])
      rw [top] at asking
      cases asking with
      | passes passes => cases passes

/-- A call begins a pass. -/
theorem pushes {j : Task ν} (top : k.get t = .push j :: rest) :
    j.Plain ∧ call = 1 ∧ Posted gates workers (k.set t (.pass :: rest)) crew call := by
  cases t with
  | worker n =>
      obtain ⟨w, mem, rfl⟩ := posted.staff n (by simp [top])
      have seemly := posted.seemly w mem
      rw [top] at seemly
      generalize w.phase = phase at seemly
      cases seemly with
      | passes _ passes => cases passes
  | caller n =>
      obtain ⟨asking, called⟩ := posted.asking (n := n) (by simp [top])
      rw [top] at asking called
      cases asking with
      | push plain =>
          refine ⟨plain, called, ?_⟩
          rw [called]
          exact posted.asks top (List.cons_ne_nil _ _) (.passes .pass)
      | passes passes => cases passes

theorem calm (top : k.get t = f :: rest) : f.stops = false := by
  cases t with
  | worker n =>
      obtain ⟨w, mem, rfl⟩ := posted.staff n (by simp [top])
      have seemly := posted.seemly w mem
      rw [top] at seemly
      exact seemly.calm
  | caller n =>
      obtain ⟨asking, -⟩ := posted.asking (n := n) (by simp [top])
      rw [top] at asking
      exact asking.calm

/-- Outside passes, threads work off their business, and no worker goes anywhere. -/
theorem quiet {me : ThreadId} {new : List (Frame ν)} {s s' : Scene (ThreadPool (Task ν)) ν}
    (same : workers = p.workers) (numbered : ThreadPool.Numbered p) (top : k.get me = f :: rest)
    (step : Scene.QuietStep me s f new s') (alive : s.alive = true)
    (running : WorkerPool.isShutdown s.exec.pool = false)
    (past : ∀ c, f = .atGate c → c.barred gates = false) :
    Posted gates workers (k.set me (new ++ rest)) crew call := by
  cases me with
  | worker n =>
      exact posted.goesOn same numbered top (List.cons_ne_nil _ _)
        fun phase seemly => seemly.quiet step alive past
  | caller n =>
      obtain ⟨asking, called⟩ := posted.asking (n := n) (by simp [top])
      rw [top] at asking called
      obtain ⟨next, same⟩ := asking.quiet step alive running
      rw [called, ← same]
      exact posted.asks top (List.cons_ne_nil _ _) next

end Posted

end

/-! ### Active workers -/

section

variable {gates : List String} {workers : List (Worker (Task ν))} {k : Stacks ν}
  {crew : Multiset Station} {call : Nat}

theorem card_crewOf : (crewOf gates workers k).card = workers.length := by
  simp [crewOf]

/-- A worker whose job will wait at its gate counts as active once the job has begun. -/
theorem active_of_blocked {phase : Phase (Task ν)} {stack : List (Frame ν)}
    (blocked : station gates phase stack = .blocked) : phase.active = true := by
  cases phase with
  | assigned | running => rfl
  | received | completing =>
      simp only [station] at blocked
      split at blocked <;> contradiction
  | _ => simp [station] at blocked

theorem station_of_active (gates : List String) {phase : Phase (Task ν)} (stack : List (Frame ν))
    (active : phase.active = true) :
    station gates phase stack = .blocked ∨ station gates phase stack = .moving := by
  unfold station
  cases phase with
  | assigned | running =>
      dsimp only
      split
      · exact .inl rfl
      · exact .inr rfl
  | _ => contradiction

theorem station_received (gates : List String) (t : Task ν) (stack : List (Frame ν)) :
    station gates (.received t) stack = .taken ∨ station gates (.received t) stack = .moving := by
  simp only [station]
  split
  · exact .inl rfl
  · exact .inr rfl

/-- The active workers are those whose job will wait, and some of those whose job will not. -/
theorem active_between : (crewOf gates workers k).count .blocked ≤ ThreadPool.busy workers ∧
    ThreadPool.busy workers
      ≤ (crewOf gates workers k).count .blocked + (crewOf gates workers k).count .moving := by
  induction workers with
  | nil => exact ⟨Nat.le_refl _, Nat.le_refl _⟩
  | cons w workers ih =>
      obtain ⟨least, most⟩ := ih
      rw [crewOf_of_perm (.refl _)]
      unfold ThreadPool.busy at *
      cases active : w.phase.active with
      | true =>
          rw [List.countP_cons_of_pos (p := fun w : Worker (Task ν) => w.phase.active) active]
          rcases station_of_active gates (k.get (.worker w.number)) active with
            place | place <;> simp [place] <;> omega
      | false =>
          have other : station gates w.phase (k.get (.worker w.number)) ≠ .blocked := by
            intro blocked
            rw [active_of_blocked blocked] at active
            contradiction
          rw [List.countP_cons_of_neg (p := fun w : Worker (Task ν) => w.phase.active)
            (by simp [active]), Multiset.count_cons_of_ne other.symm]
          exact ⟨least, Nat.le_trans most
            (Nat.add_le_add_left (Multiset.count_le_count_cons _ _ _) _)⟩

theorem Posted.active (posted : Posted gates workers k crew call) :
    crew.count .blocked ≤ ThreadPool.busy workers ∧
      ThreadPool.busy workers ≤ crew.count .blocked + crew.count .moving :=
  posted.crew ▸ active_between

theorem Posted.card (posted : Posted gates workers k crew call) : crew.card = workers.length :=
  posted.crew ▸ card_crewOf

end

/-! ### Starting workers -/

/-- Setting the core size starts workers without business, none of them beyond the size. -/
theorem Posted.setCoreSize {gates : List String} {k : Stacks ν} {crew : Multiset Station}
    {call : Nat} {p : ThreadPool (Task ν)} (numbered : ThreadPool.Numbered p)
    (sound : ∀ n, p.startFault n = none) (posted : Posted gates p.workers k crew call)
    (size : Nat) : (p.setCoreSize size).coreSize = size ∧
      (p.setCoreSize size).ready = p.ready ∧ (p.setCoreSize size).capacity = p.capacity ∧
      ∃ new, (new = 0 ∨ crew.card + new ≤ size) ∧
        Posted gates (p.setCoreSize size).workers k (.replicate new .idle + crew) call := by
  have none : Posted gates p.workers k (.replicate 0 .idle + crew) call := by simpa using posted
  refine (ThreadPool.setCoreSize_of (P := fun q => ThreadPool.Numbered q ∧
    (∀ n, q.startFault n = Option.none) ∧ q.coreSize = size ∧ q.ready = p.ready ∧
    q.capacity = p.capacity ∧ ∃ new, (new = 0 ∨ crew.card + new ≤ size) ∧
      Posted gates q.workers k (.replicate new .idle + crew) call) size p ?_ ?_ ?_ ?_).2.2
  · exact fun same => ⟨numbered, sound, same, rfl, rfl, 0, .inl rfl, none⟩
  · intro _
    exact ⟨numbered.of_workers rfl (Nat.le_refl _), sound, rfl, rfl, rfl, 0, .inl rfl, none⟩
  · rintro q ⟨numbered, sound, core, ready, capacity, new, -, posted⟩ - - below
    refine ⟨numbered.started .checking, sound, core, ready, capacity, new + 1, .inr ?_, ?_⟩
    · have card := posted.card
      simp only [Multiset.card_add, Multiset.card_replicate] at card
      unfold ThreadPool.workerCount at below
      omega
    · have posted := posted.start numbered.fresh .checking
      rw [Multiset.replicate_succ, Multiset.cons_add]
      exact posted
  · rintro q why ⟨-, sound, -⟩ fault
    rw [sound] at fault
    contradiction

/-! ### Gates -/

/-- Some of the workers go on, and the others stay. -/
theorem exists_replicate {α : Type} (l : List α) (p : α → Bool) {before after : α → Station}
    (each : ∀ a ∈ l, after a = before a ∨ before a = .blocked ∧ after a = .moving ∧ p a = true) :
    ∃ n rest, n ≤ l.countP p ∧ (↑(l.map before) : Multiset Station) = .replicate n .blocked + rest ∧
      (↑(l.map after) : Multiset Station) = .replicate n .moving + rest := by
  induction l with
  | nil => exact ⟨0, 0, Nat.le_refl _, rfl, rfl⟩
  | cons a l ih =>
      obtain ⟨n, rest, few, old, new⟩ := ih fun b mem => each b (List.mem_cons_of_mem _ mem)
      have more : (↑((a :: l).map before) : Multiset Station) = before a ::ₘ ↑(l.map before) := rfl
      have more' : (↑((a :: l).map after) : Multiset Station) = after a ::ₘ ↑(l.map after) := rfl
      rcases each a List.mem_cons_self with same | ⟨was, is, counts⟩
      · refine ⟨n, before a ::ₘ rest, Nat.le_trans few (List.countP_cons ▸ Nat.le_add_right _ _),
          ?_, ?_⟩
        · rw [more, old, Multiset.add_cons]
        · rw [more', new, same, Multiset.add_cons]
      · refine ⟨n + 1, rest, ?_, ?_, ?_⟩
        · rw [List.countP_cons_of_pos counts]
          exact Nat.succ_le_succ few
        · rw [more, old, was, Multiset.replicate_succ, Multiset.cons_add]
        · rw [more', new, is, Multiset.replicate_succ, Multiset.cons_add]

/-- A gate is opened, and the workers that wait at it go on. -/
theorem Posted.release {gates : List String} {workers : List (Worker (Task ν))} {k : Stacks ν}
    {crew : Multiset Station} {call : Nat} (posted : Posted gates workers k crew call)
    (gate : String) (p : Worker (Task ν) → Bool)
    (each : ∀ w ∈ workers, station (gate :: gates) w.phase (k.get (.worker w.number))
        = station gates w.phase (k.get (.worker w.number)) ∨
      station gates w.phase (k.get (.worker w.number)) = .blocked ∧
        station (gate :: gates) w.phase (k.get (.worker w.number)) = .moving ∧ p w = true) :
    ∃ n rest, n ≤ workers.countP p ∧ crew = .replicate n .blocked + rest ∧
      Posted (gate :: gates) workers k (.replicate n .moving + rest) call := by
  obtain ⟨n, rest, few, before, after⟩ := exists_replicate workers p each
  exact ⟨n, rest, few, posted.crew.trans before, posted.seemly, posted.staff, posted.callers,
    after.symm⟩

end TwoTier
