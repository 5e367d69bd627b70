import TwoTier.Proofs.Custody

/-!
What the main thread gets for a submission.

A pass on the main thread does not look at the pool's readings, but it takes the head of the
backlog all the same. So a submission on the main thread always gets one task into a pool that runs
and takes jobs: the oldest that waits, its own only if nothing else does
(`main_thread_admits_head`). `main_submission_left_waiting` is a run in which it is another's.

A call is followed from the moment at which its frame is on top of the thread's stack, above
whatever the thread was doing, to the first moment at which that frame and all that came of it are
gone (`System.During`). Other threads do what they like meanwhile.
-/

namespace TwoTier

variable {σ ν : Type} [WorkerPool σ (Task ν)]

/-! ### Following one call -/

namespace System

/-- Runs during a call of a thread: its stack stays higher than what lay under the call, but for
the last moment. -/
inductive During (rules : Rules σ ν) (me : ThreadId) (under : List (Frame ν)) (y : System σ ν) :
    System σ ν → Prop where
  | refl : During rules me under y y
  | tail {z w : System σ ν} : During rules me under y z →
      under.length < (z.threads.get me).length → rules.fit z.scene → Next rules z w →
      During rules me under y w

variable {rules : Rules σ ν} {me : ThreadId} {under : List (Frame ν)} {y z w : System σ ν}

theorem During.reaches (call : During rules me under y z) : Reaches rules y z := by
  induction call with
  | refl => exact .refl
  | tail _ _ fit next ih => exact ih.tail fit next

/-- While a thread is in a pass, the turns of others are outside of passes, and wait for the lock if
they need it. -/
theorem turn_outside {t : ThreadId} {f : Frame ν} (h : z.turn? t = some w) (other : me ≠ t)
    (mem : f ∈ z.threads.get me) (inside : f.inPass = true) (alone : Exclusive z.bag z.scene) :
    z.scene.exec.holder ≠ none ∧ ∃ g new, Scene.OutsideStep t z.scene g new w.scene := by
  obtain ⟨g, new, rest, -, step, -, bag, -⟩ := turn_stack h
  have among : f ∈ (rest ++ z.threads.others t : List (Frame ν)) :=
    List.mem_append_right _ (Stacks.mem_others other mem)
  rw [bag] at alone
  have held : z.scene.exec.holder ≠ none := by
    intro free
    have outside := alone.no_pass free (Multiset.mem_cons_of_mem among)
    rw [inside] at outside
    contradiction
  have outside : g.inPass = false := by
    by_contra inside'
    have outside := (alone.alone (Bool.eq_true_of_not_eq_false inside')).2 f among
    rw [inside] at outside
    contradiction
  have waits : g.entersPass = false := by
    by_contra enters
    exact held (Scene.step_enter (Bool.eq_true_of_not_eq_false enters) step).1
  exact ⟨held, g, new, Scene.step_outside outside waits step⟩

/-- While a thread is in a pass, the turns of others leave the backlog and the offers alone. -/
theorem turn_beside {t : ThreadId} {f : Frame ν} (h : z.turn? t = some w) (other : me ≠ t)
    (mem : f ∈ z.threads.get me) (inside : f.inPass = true) (alone : Exclusive z.bag z.scene) :
    w.scene.exec.backlog = z.scene.exec.backlog ∧
      w.scene.world.accepted = z.scene.world.accepted := by
  obtain ⟨held, g, new, step⟩ := turn_outside h other mem inside alone
  generalize w.scene = s at step ⊢
  cases step with
  | quiet quiet => exact ⟨quiet.keeps.backlog, quiet.keeps.accepted⟩
  | shutdown => exact ⟨rfl, rfl⟩
  | withdraw free => exact absurd free held
  | stop backlog h => exact ⟨rfl, by simp⟩

omit [WorkerPool σ (Task ν)] in
/-- A thread with business keeps it while an idle one gets some. -/
theorem get_set_of_idle {t : ThreadId} {f : Frame ν} {rest : List (Frame ν)}
    (top : z.threads.get me = f :: rest) (idle : z.threads.get t = []) (stack : List (Frame ν)) :
    (z.threads.set t stack).get me = f :: rest := by
  rw [Stacks.get_set_of_ne, top]
  rintro rfl
  rw [top] at idle
  contradiction

/-- A thread that has business goes on with it, or others do something. -/
theorem Next.beside {f : Frame ν} {rest : List (Frame ν)} (next : Next rules z w)
    (top : z.threads.get me = f :: rest) (alone : Exclusive z.bag z.scene) :
    (∃ new, z.scene.step me f = some (new, w.scene) ∧ w.threads.get me = new ++ rest) ∨
      w.threads.get me = f :: rest ∧ (f.inPass = true →
        w.scene.exec.backlog = z.scene.exec.backlog ∧
          w.scene.world.accepted = z.scene.world.accepted) := by
  cases next with
  | turn t h =>
      obtain ⟨g, new, rest', gets, step, threads, -, -⟩ := turn_stack h
      by_cases own : me = t
      · subst own
        rw [top] at gets
        obtain ⟨rfl, rfl⟩ := List.cons.inj gets
        refine .inl ⟨new, step, ?_⟩
        rw [threads, Stacks.get_set_self]
      · refine .inr ⟨?_, ?_⟩
        · rw [threads, Stacks.get_set_of_ne own, top]
        · intro inside
          exact turn_beside h own (top ▸ List.mem_cons_self) inside alone
  | call t c idle allowed =>
      exact .inr ⟨get_set_of_idle top idle _, fun _ => ⟨rfl, rfl⟩⟩
  | finish t job mode pool idle allowed h =>
      exact .inr ⟨get_set_of_idle top idle _, fun _ => ⟨rfl, rfl⟩⟩
  | finishReturned t before after job mode idle allowed h =>
      exact .inr ⟨get_set_of_idle top idle _, fun _ => ⟨rfl, rfl⟩⟩
  | pool pool h => exact .inr ⟨top, fun _ => ⟨rfl, rfl⟩⟩

end System

/-! ### The executor as it was built -/

/-- Somebody has the executor, and its main thread is the one given. -/
structure Situated (main : Option ThreadId) (s : Scene σ ν) : Prop where
  alive : s.alive = true
  mainThread : s.exec.mainThread = main

theorem situated_outline {rules : Rules σ ν} {main : Option ThreadId} :
    Outline (σ := σ) (ν := ν) rules (fun _ _ => True) fun _ _ => Situated main where
  enter _ _ step inv := by
    cases step with
    | push t => exact ⟨inv.alive, inv.mainThread⟩
    | resume => exact ⟨inv.alive, inv.mainThread⟩
    | shutting => exact ⟨inv.alive, inv.mainThread⟩
  pass _ _ step inv := by
    obtain ⟨alive, -, mainThread, -⟩ := step.setting
    exact ⟨alive.trans inv.alive, mainThread.trans inv.mainThread⟩
  leave _ _ inv := ⟨inv.alive, inv.mainThread⟩
  quiet _ _ step inv :=
    ⟨step.keeps.alive.trans inv.alive, step.keeps.mainThread.trans inv.mainThread⟩
  shutdown _ _ inv := ⟨inv.alive, inv.mainThread⟩
  withdraw _ _ _ inv := ⟨inv.alive, inv.mainThread⟩
  stop _ _ _ inv := ⟨inv.alive, inv.mainThread⟩
  call _ _ inv := inv
  finish _ _ _ inv := ⟨inv.alive, inv.mainThread⟩
  finishReturned _ _ _ inv := ⟨inv.alive, inv.mainThread⟩
  pool _ _ inv := ⟨inv.alive, inv.mainThread⟩

theorem situated_reaches {rules : Rules σ ν} {config : Config} {main : Option ThreadId} {pool : σ}
    {s : Scene σ ν} {y : System σ ν} (built : Scene.build config main pool = .ok s)
    (run : System.Reaches rules (.idle s) y) : Situated main y.scene := by
  obtain ⟨-, flight, rfl⟩ := Scene.build_ok built
  exact situated_outline.always (fun _ _ => trivial) rfl ⟨rfl, rfl⟩ run

/-! ### A submission on the main thread -/

/-- A pool that runs and takes every job that it is offered. -/
structure Accepting (rules : Rules σ ν) : Prop where
  running : ∀ {s}, rules.fit s → WorkerPool.isShutdown s.exec.pool = false
  takes : ∀ {s} (t : Task ν), rules.fit s → (WorkerPool.offer t s.exec.pool).1 = none

/-- Whether a closure, or a task, came of the given submission. -/
def Closure.IsOf (work : Work ν) (reply : Option Nat) (c : Closure ν) : Prop :=
  c.work = work ∧ c.reply = reply

def Task.IsOf (work : Work ν) (reply : Option Nat) (t : Task ν) : Prop :=
  ∃ c, t.closure = some c ∧ c.IsOf work reply

variable {rules : Rules σ ν} {me : ThreadId} {under : List (Frame ν)} {work : Work ν}
  {reply : Option Nat} {y z z' w : System σ ν} {t head : Task ν}

/-- The moment of a submission at which its task joins the backlog. -/
structure Joins (rules : Rules σ ν) (me : ThreadId) (under : List (Frame ν)) (work : Work ν)
    (reply : Option Nat) (y w : System σ ν) (t : Task ν) : Prop where
  during : System.During rules me under y w
  own : t.IsOf work reply
  top : w.threads.get me = .push t :: under
  free : w.scene.exec.holder = none

/-- How far a submission on the main thread has come. From the moment at which its task joined, the
backlog and the tasks accepted by the pool are known. -/
inductive Stage (rules : Rules σ ν) (me : ThreadId) (under : List (Frame ν)) (work : Work ν)
    (reply : Option Nat) (y z : System σ ν) : Prop where
  | asked (top : z.threads.get me = .submit work reply :: under)
  | arrived (c : Closure ν) (own : c.IsOf work reply)
      (top : z.threads.get me = .arrive c :: under ∨ z.threads.get me = .survey c :: under)
  | made (t : Task ν) (own : t.IsOf work reply) (top : z.threads.get me = .push t :: under)
  | joined (w : System σ ν) (t : Task ν) (joins : Joins rules me under work reply y w t)
      (top : z.threads.get me = .pass :: under ∨ z.threads.get me = .bypass :: under)
      (backlog : z.scene.exec.backlog = w.scene.exec.backlog ++ [t])
      (accepted : z.scene.world.accepted = w.scene.world.accepted)
  /-- The head is being handed over; the register may have its trace already. -/
  | offering (w : System σ ν) (t head offered : Task ν)
      (joins : Joins rules me under work reply y w t)
      (top : z.threads.get me = .handOver offered false [] :: under ∨
        z.threads.get me = .offer offered false [] :: under)
      (same : offered.id = head.id)
      (backlog : w.scene.exec.backlog ++ [t] = head :: z.scene.exec.backlog)
      (accepted : z.scene.world.accepted = w.scene.world.accepted)
  | ended (w : System σ ν) (t head : Task ν) (joins : Joins rules me under work reply y w t)
      (top : z.threads.get me = .leave [] :: under ∨ z.threads.get me = under)
      (backlog : w.scene.exec.backlog ++ [t] = head :: z.scene.exec.backlog)
      (accepted : z.scene.world.accepted = w.scene.world.accepted ++ [head.id])

namespace Stage

variable {f : Frame ν} {new : List (Frame ν)} {c : Closure ν} {offered : Task ν}

theorem of_submit (situated : Situated (some me) z.scene)
    (h : z.scene.step me (.submit work reply) = some (new, z'.scene))
    (after : z'.threads.get me = new ++ under) : Stage rules me under work reply y z' := by
  have outside := Scene.step_outside rfl rfl h
  generalize z'.scene = s at outside
  cases outside with
  | quiet quiet =>
      cases quiet with
      | submit work reply alive => exact .arrived _ ⟨rfl, rfl⟩ (.inl after)
      | lost work reply gone =>
          rw [situated.alive] at gone
          contradiction

theorem of_arrive (accepting : Accepting rules) (fit : rules.fit z.scene)
    (own : c.IsOf work reply) (h : z.scene.step me (.arrive c) = some (new, z'.scene))
    (after : z'.threads.get me = new ++ under) : Stage rules me under work reply y z' := by
  have outside := Scene.step_outside rfl rfl h
  generalize z'.scene = s at outside
  cases outside with
  | quiet quiet =>
      cases quiet with
      | turnAway c shut =>
          rw [accepting.running fit] at shut
          contradiction
      | letIn c running => exact .arrived c own (.inr after)

theorem of_survey (own : c.IsOf work reply)
    (h : z.scene.step me (.survey c) = some (new, z'.scene))
    (after : z'.threads.get me = new ++ under) : Stage rules me under work reply y z' := by
  have outside := Scene.step_outside rfl rfl h
  generalize z'.scene = s at outside
  cases outside with
  | quiet quiet =>
      cases quiet with
      | survey c => exact .made _ ⟨c, rfl, own⟩ after

theorem of_push (during : System.During rules me under y z) (own : t.IsOf work reply)
    (top : z.threads.get me = .push t :: under)
    (h : z.scene.step me (.push t) = some (new, z'.scene))
    (after : z'.threads.get me = new ++ under) : Stage rules me under work reply y z' := by
  obtain ⟨free, rfl, enter⟩ := Scene.step_enter rfl h
  generalize scene : z'.scene = s at enter
  cases enter with
  | push t =>
      refine .joined z t ⟨during, own, top, free⟩ (.inl after) ?_ ?_
      · rw [scene]
        rfl
      · rw [scene]
        simp

theorem of_pass (accepting : Accepting rules) (situated : Situated (some me) z.scene)
    (fit : rules.fit z.scene) (joins : Joins rules me under work reply y w t)
    (backlog : z.scene.exec.backlog = w.scene.exec.backlog ++ [t])
    (accepted : z.scene.world.accepted = w.scene.world.accepted)
    (h : z.scene.step me .pass = some (new, z'.scene))
    (after : z'.threads.get me = new ++ under) : Stage rules me under work reply y z' := by
  rcases Scene.step_pass rfl h with ⟨g, rfl, pass⟩ | ⟨_, leaving, -⟩
  · generalize scene : z'.scene = s at pass
    cases pass with
    | shut shut =>
        rw [accepting.running fit] at shut
        contradiction
    | main running main =>
        refine .joined w t joins (.inr after) ?_ ?_
        · rwa [scene]
        · rwa [scene]
    | gated running other => exact absurd situated.mainThread other
    | empty none hf => cases hf
    | takeHead taken hf => cases hf
  · contradiction

/-- Whatever waits longest is taken: there is something, the task that has just joined at least. -/
theorem of_bypass (joins : Joins rules me under work reply y w t)
    (backlog : z.scene.exec.backlog = w.scene.exec.backlog ++ [t])
    (accepted : z.scene.world.accepted = w.scene.world.accepted)
    (h : z.scene.step me .bypass = some (new, z'.scene))
    (after : z'.threads.get me = new ++ under) : Stage rules me under work reply y z' := by
  rcases Scene.step_pass rfl h with ⟨g, rfl, pass⟩ | ⟨_, leaving, -⟩
  · generalize scene : z'.scene = s at pass
    cases pass with
    | empty none hf => simp [none] at backlog
    | @takeHead _ draining refused rest head taken hf =>
        cases hf with
        | bypass =>
            refine .offering w t head head joins (.inl after) rfl ?_ ?_
            · rw [scene, ← backlog, taken]
            · rw [scene, ← accepted]
  · contradiction

theorem of_handOver (joins : Joins rules me under work reply y w t) (same : offered.id = head.id)
    (backlog : w.scene.exec.backlog ++ [t] = head :: z.scene.exec.backlog)
    (accepted : z.scene.world.accepted = w.scene.world.accepted)
    (h : z.scene.step me (.handOver offered false []) = some (new, z'.scene))
    (after : z'.threads.get me = new ++ under) : Stage rules me under work reply y z' := by
  rcases Scene.step_pass rfl h with ⟨g, rfl, pass⟩ | ⟨_, leaving, -⟩
  · generalize scene : z'.scene = s at pass
    cases pass with
    | mark t' _ _ =>
        have keeps := Scene.keeps_marked offered z.scene
        refine .offering w t head _ joins (.inr after) ?_ ?_ ?_
        · rw [Scene.enterFlight_id, same]
        · rw [scene, keeps.backlog, backlog]
        · rw [scene, keeps.accepted, accepted]
    | empty none hf => cases hf
    | takeHead taken hf => cases hf
  · contradiction

theorem of_offer (accepting : Accepting rules) (fit : rules.fit z.scene)
    (joins : Joins rules me under work reply y w t) (same : offered.id = head.id)
    (backlog : w.scene.exec.backlog ++ [t] = head :: z.scene.exec.backlog)
    (accepted : z.scene.world.accepted = w.scene.world.accepted)
    (h : z.scene.step me (.offer offered false []) = some (new, z'.scene))
    (after : z'.threads.get me = new ++ under) : Stage rules me under work reply y z' := by
  rcases Scene.step_pass rfl h with ⟨g, rfl, pass⟩ | ⟨_, leaving, -⟩
  · generalize scene : z'.scene = s at pass
    cases pass with
    | accepted _ _ _ taken =>
        refine .ended w t head joins (.inl after) ?_ ?_
        · rw [scene, backlog]
        · rw [scene, World.accepted_record, accepted, ← same]
          rfl
    | turnedDown _ _ _ refused =>
        have taken := accepting.takes offered fit
        rw [refused] at taken
        contradiction
    | empty none hf => cases hf
    | takeHead taken hf => cases hf
  · contradiction

theorem of_leave (joins : Joins rules me under work reply y w t)
    (backlog : w.scene.exec.backlog ++ [t] = head :: z.scene.exec.backlog)
    (accepted : z.scene.world.accepted = w.scene.world.accepted ++ [head.id])
    (h : z.scene.step me (.leave []) = some (new, z'.scene))
    (after : z'.threads.get me = new ++ under) : Stage rules me under work reply y z' := by
  rcases Scene.step_pass rfl h with ⟨g, rfl, pass⟩ | ⟨refused, leaving, rfl, scene⟩
  · generalize z'.scene = s at pass
    cases pass with
    | empty none hf => cases hf
    | takeHead taken hf => cases hf
  · obtain rfl := Frame.leave.inj leaving
    refine .ended w t head joins (.inr after) ?_ ?_
    · rw [scene, backlog]
      rfl
    · rw [scene, ← accepted]

/-- The main thread takes a step of its own. -/
theorem step (accepting : Accepting rules) (situated : Situated (some me) z.scene)
    (during : System.During rules me under y z) (fit : rules.fit z.scene)
    (top : z.threads.get me = f :: under) (h : z.scene.step me f = some (new, z'.scene))
    (after : z'.threads.get me = new ++ under)
    (stage : Stage rules me under work reply y z) : Stage rules me under work reply y z' := by
  have onTop {g : Frame ν} (other : z.threads.get me = g :: under) : f = g := by
    rw [top] at other
    exact (List.cons.inj other).1
  cases stage with
  | asked here =>
      obtain rfl := onTop here
      exact of_submit situated h after
  | arrived c own here =>
      rcases here with here | here <;> obtain rfl := onTop here
      · exact of_arrive accepting fit own h after
      · exact of_survey own h after
  | made t own here =>
      obtain rfl := onTop here
      exact of_push during own here h after
  | joined w t joins here backlog accepted =>
      rcases here with here | here <;> obtain rfl := onTop here
      · exact of_pass accepting situated fit joins backlog accepted h after
      · exact of_bypass joins backlog accepted h after
  | offering w t head offered joins here same backlog accepted =>
      rcases here with here | here <;> obtain rfl := onTop here
      · exact of_handOver joins same backlog accepted h after
      · exact of_offer accepting fit joins same backlog accepted h after
  | ended w t head joins here backlog accepted =>
      rcases here with here | here
      · obtain rfl := onTop here
        exact of_leave joins backlog accepted h after
      · rw [top] at here
        exact absurd here (List.cons_ne_self _ _)

/-- Until the call is over, the frame of its stage is on top. -/
theorem top (stage : Stage rules me under work reply y z)
    (higher : under.length < (z.threads.get me).length) : ∃ f, z.threads.get me = f :: under := by
  cases stage with
  | asked here => exact ⟨_, here⟩
  | made t own here => exact ⟨_, here⟩
  | arrived c own here => exact here.elim (fun here => ⟨_, here⟩) fun here => ⟨_, here⟩
  | joined w t joins here _ _ => exact here.elim (fun here => ⟨_, here⟩) fun here => ⟨_, here⟩
  | offering w t head offered joins here _ _ _ =>
      exact here.elim (fun here => ⟨_, here⟩) fun here => ⟨_, here⟩
  | ended w t head joins here _ _ =>
      rcases here with here | here
      · exact ⟨_, here⟩
      · rw [here] at higher
        exact absurd higher (Nat.lt_irrefl _)

/-- Others do something. -/
theorem beside (top : z.threads.get me = f :: under) (still : z'.threads.get me = f :: under)
    (kept : f.inPass = true → z'.scene.exec.backlog = z.scene.exec.backlog ∧
      z'.scene.world.accepted = z.scene.world.accepted)
    (stage : Stage rules me under work reply y z) : Stage rules me under work reply y z' := by
  have same : z'.threads.get me = z.threads.get me := still.trans top.symm
  have inside {g : Frame ν} (here : z.threads.get me = g :: under) (pass : g.inPass = true) :
      f.inPass = true := by
    rw [top] at here
    rwa [(List.cons.inj here).1]
  cases stage with
  | asked here => exact .asked (same.trans here)
  | arrived c own here => exact .arrived c own (by rwa [same])
  | made t own here => exact .made t own (same.trans here)
  | joined w t joins here backlog accepted =>
      obtain ⟨waiting, taken⟩ := kept (here.elim (inside · rfl) (inside · rfl))
      exact .joined w t joins (by rwa [same]) (waiting.trans backlog) (taken.trans accepted)
  | offering w t head offered joins here id backlog accepted =>
      obtain ⟨waiting, taken⟩ := kept (here.elim (inside · rfl) (inside · rfl))
      exact .offering w t head offered joins (by rwa [same]) id (by rwa [waiting])
        (taken.trans accepted)
  | ended w t head joins here backlog accepted =>
      rcases here with here | here
      · obtain ⟨waiting, taken⟩ := kept (inside here rfl)
        exact .ended w t head joins (.inl (same.trans here)) (by rwa [waiting])
          (taken.trans accepted)
      · rw [top] at here
        exact absurd here (List.cons_ne_self _ _)

end Stage

section Runs

variable {config : Config} {pool : σ} {s : Scene σ ν}

theorem stage_during (accepting : Accepting rules)
    (built : Scene.build config (some me) pool = .ok s) (run : System.Reaches rules (.idle s) y)
    (asked : y.threads.get me = .submit work reply :: under)
    (call : System.During rules me under y z) : Stage rules me under work reply y z := by
  induction call with
  | refl => exact .asked asked
  | @tail z z' before higher fit next stage =>
      have reached := run.trans before.reaches
      obtain ⟨f, top⟩ := stage.top higher
      rcases next.beside top (exclusive_reaches built reached) with ⟨new, h, after⟩ | ⟨still, kept⟩
      · exact stage.step accepting (situated_reaches built reached) before fit top h after
      · exact stage.beside top still kept

/-- The task of a submission is new when it joins the backlog. -/
theorem Joins.new (joins : Joins rules me under work reply y w t)
    (built : Scene.build config (some me) pool = .ok s) (run : System.Reaches rules (.idle s) y) :
    t.id ∉ w.scene.world.accepted ∧ t.id ∉ w.scene.exec.backlog.map Task.id := by
  have reached := run.trans joins.during.reaches
  have bag : w.bag = .push t ::ₘ ↑(under ++ w.threads.others me) := by
    have perm := w.threads.frames_perm me
    rw [joins.top] at perm
    exact Multiset.coe_eq_coe.mpr perm
  have fresh : t.id ∉ w.scene.world.pushed := by
    have fresh := fresh_reaches built reached
    rw [bag] at fresh
    exact fresh.not_pushed
  obtain ⟨line, -⟩ := line_reaches built reached joins.free
  have known {id : TaskId}
      (mem : id ∈ w.scene.world.offered ++ w.scene.exec.backlog.map Task.id) :
      id ∈ w.scene.world.pushed :=
    w.scene.world.retained_sublist.subset (line ▸ mem)
  refine ⟨fun mem => fresh (known ?_), fun mem => fresh (known (List.mem_append_right _ mem))⟩
  exact List.mem_append_left _ (w.scene.world.accepted_sublist_offered.subset mem)

/-- Over a running pool that takes every job, whatever its readings and whatever other threads have
left in the backlog: when a submission on the main thread returns, the head of the backlog has been
handed to the pool, and nothing else has. The head is the task of this submission exactly if nothing
waited when it joined; if something did, that task itself waits. -/
theorem main_thread_admits_head (accepting : Accepting rules)
    (built : Scene.build config (some me) pool = .ok s) (run : System.Reaches rules (.idle s) y)
    (asked : y.threads.get me = .submit work reply :: under)
    (call : System.During rules me under y z) (returned : z.threads.get me = under) :
    ∃ w t, Joins rules me under work reply y w t ∧
      (∃ head, w.scene.exec.backlog ++ [t] = head :: z.scene.exec.backlog ∧
        z.scene.world.accepted = w.scene.world.accepted ++ [head.id]) ∧
      (t.id ∈ z.scene.world.accepted ↔ w.scene.exec.backlog = []) ∧
      (t.id ∈ z.scene.exec.backlog.map Task.id ↔ w.scene.exec.backlog ≠ []) := by
  have differs {f : Frame ν} (top : z.threads.get me = f :: under) : False := by
    rw [returned] at top
    exact List.cons_ne_self _ _ top.symm
  cases stage_during accepting built run asked call with
  | asked here => exact (differs here).elim
  | arrived c own here => exact (here.elim differs differs).elim
  | made t own here => exact (differs here).elim
  | joined w t joins here _ _ => exact (here.elim differs differs).elim
  | offering w t head offered joins here _ _ _ => exact (here.elim differs differs).elim
  | ended w t head joins here backlog accepted =>
      obtain ⟨notTaken, notWaiting⟩ := joins.new built run
      refine ⟨w, t, joins, ⟨head, backlog, accepted⟩, ?_⟩
      rw [accepted]
      cases waiting : w.scene.exec.backlog with
      | nil =>
          rw [waiting] at backlog
          obtain ⟨rfl, left⟩ := List.cons.inj backlog
          rw [← left]
          simp
      | cons first others =>
          rw [waiting] at backlog notWaiting
          obtain ⟨rfl, left⟩ := List.cons.inj backlog
          rw [← left]
          have differs : t.id ≠ first.id := fun same => notWaiting (by simp [same])
          simp [notTaken, differs]

end Runs

/-! ### A pool driven by hand -/

namespace Sample

/-- Runs that go on while the pool runs and takes jobs. -/
def accepting : Bounds Unit :=
  ⟨fun _ => true, fun _ => true,
    fun s => decide (s.exec.pool.shut = false ∧ s.exec.pool.reject = 0)⟩

theorem accepting_rules : Accepting accepting.rules where
  running fit := (of_decide_eq_true fit).1
  takes {s} t fit := by
    obtain ⟨running, takes⟩ := of_decide_eq_true fit
    change (HandPool.offer t s.exec.pool).1 = none
    simp [HandPool.offer, running, takes]

/-- The executor of the samples, with a main thread. -/
def mainScene : Scene (HandPool (Task Unit)) Unit :=
  { scene with exec := { scene.exec with mainThread := some (.caller 0) } }

theorem mainScene_built : Scene.build config (some (.caller 0)) (.new 1) = .ok mainScene := rfl

end Sample

/-- A thread with nothing under its call is in that call as long as it takes turns. -/
theorem System.during_turns {ν : Type} {b : Bounds ν} {me : ThreadId}
    {x y z : System (HandPool (Task ν)) ν} (before : During b.rules me [] x y) {n : Nat}
    (h : System.replay b (Act.turns me n) y = some z) : During b.rules me [] x z := by
  induction n generalizing y with
  | zero =>
      obtain rfl := Option.some.inj h
      exact before
  | succ n ih =>
      obtain ⟨fit, h⟩ := Option.ite_none_right_eq_some.mp h
      obtain ⟨w, turn, rest⟩ := Option.bind_eq_some_iff.mp h
      obtain ⟨f, new, under, top, -⟩ := turn_stack turn
      exact ih (before.tail (by simp [top]) fit (.turn me turn)) rest

open Sample in
/-- Another thread has filled the pool and left a task in the backlog. The main thread's submission
hands over that one, and its own task waits. -/
theorem main_submission_left_waiting :
    ∃ y z w, System.Reaches accepting.rules (.idle mainScene) y ∧
      y.threads.get (.caller 0) = [.submit (.plain "c" (.value ())) none] ∧
      System.During accepting.rules (.caller 0) [] y z ∧ z.threads.get (.caller 0) = [] ∧
      (∃ t, Joins accepting.rules (.caller 0) [] (.plain "c" (.value ())) none y w t ∧
        t.id ∉ z.scene.world.accepted ∧ t.id ∈ z.scene.exec.backlog.map Task.id) := by
  have replayed : ∃ y w z, System.replay accepting (calls 1 12 (submit "a")
      ++ calls 1 10 (submit "b") ++ [.call (.caller 0) (submit "c")]) (.idle mainScene) = some y ∧
        System.replay accepting (Act.turns (.caller 0) 3) y = some w ∧
        System.replay accepting (Act.turns (.caller 0) 6) w = some z ∧
        y.threads.get (.caller 0) = [.submit (.plain "c" (.value ())) none] ∧
        w.threads.get (.caller 0)
          = [.push ⟨⟨3⟩, some ⟨2, .plain "c" (.value ()), none⟩, none⟩] ∧
        w.scene.exec.holder = none ∧ z.threads.get (.caller 0) = [] ∧
        z.scene.world.accepted = [⟨1⟩, ⟨2⟩] ∧ z.scene.exec.backlog.map Task.id = [⟨3⟩] :=
    ⟨_, _, _, rfl, rfl, rfl, rfl, rfl, rfl, rfl, rfl, rfl⟩
  obtain ⟨y, w, z, first, second, third, asked, top, free, returned, accepted, waiting⟩ := replayed
  have joining := System.during_turns .refl second
  refine ⟨y, z, w, System.replay_reaches .refl first, asked, System.during_turns joining third,
    returned, _, ⟨joining, ⟨_, rfl, rfl, rfl⟩, top, free⟩, ?_, ?_⟩
  · rw [accepted]
    decide
  · rw [waiting]
    decide

open Sample in
/-- With nothing in the backlog the main thread's own task is handed over, although the pool is
full. -/
theorem main_thread_admits_head_of_full_pool :
    ∃ y z, System.Reaches accepting.rules (.idle mainScene) y ∧
      y.scene.exec.pool.held.length = 1 ∧
      y.threads.get (.caller 0) = [.submit (.plain "c" (.value ())) none] ∧
      System.During accepting.rules (.caller 0) [] y z ∧ z.threads.get (.caller 0) = [] ∧
      ∃ w t, Joins accepting.rules (.caller 0) [] (.plain "c" (.value ())) none y w t ∧
        (∃ head, w.scene.exec.backlog ++ [t] = head :: z.scene.exec.backlog ∧
          z.scene.world.accepted = w.scene.world.accepted ++ [head.id]) ∧
        (t.id ∈ z.scene.world.accepted ↔ w.scene.exec.backlog = []) ∧
        (t.id ∈ z.scene.exec.backlog.map Task.id ↔ w.scene.exec.backlog ≠ []) := by
  have replayed : ∃ y z, System.replay accepting
      (calls 1 12 (submit "a") ++ [.call (.caller 0) (submit "c")]) (.idle mainScene) = some y ∧
        System.replay accepting (Act.turns (.caller 0) 9) y = some z ∧
        y.scene.exec.pool.held.length = 1 ∧
        y.threads.get (.caller 0) = [.submit (.plain "c" (.value ())) none] ∧
        z.threads.get (.caller 0) = [] :=
    ⟨_, _, rfl, rfl, rfl, rfl, rfl⟩
  obtain ⟨y, z, first, second, full, asked, returned⟩ := replayed
  have run := System.replay_reaches .refl first
  have call := System.during_turns .refl second
  exact ⟨y, z, run, full, asked, call, returned,
    main_thread_admits_head accepting_rules mainScene_built run asked call returned⟩

end TwoTier
