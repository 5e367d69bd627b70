import TwoTier.Proofs.Standing

/-!
A handle tells what became of its task.

Whatever a pool does with its jobs, as long as it keeps them (`Owner`), every handle stands as it
should at all times (`told_chronicle`). So a reader finds the ending if there was one, learns of the
loss if the closure was thrown away, and waits otherwise (`handle_tells_fate`).
-/

namespace TwoTier

variable {σ ν : Type}

/-- A pool that keeps its jobs also when it changes by itself, gives jobs up or is let go. What it
gives up it does not hold any more, unless it has started it already. -/
structure Owner [WorkerPool σ (Task ν)] (moves : σ → σ → Prop) (yields : σ → Task ν → σ → Prop)
    (held : σ → Multiset (Task ν)) : Prop where
  keeps : ∀ p : σ, KeepsJobs held p
  release : ∀ p : σ, held (WorkerPool.release p) = held p
  moves : ∀ {p q}, moves p q → held q = held p
  yields : ∀ {p t q}, yields p t q → held p = t ::ₘ held q ∨ t.closure = none ∧ held q = held p

/-! ### The standing of a handle in a run -/

section Weights

variable (i : Nat)

/-- The work of a closure, if it has the given handle. -/
def Closure.under (c : Closure ν) : Multiset (Work ν) := if c.reply = some i then {c.work} else 0

namespace Frame

/-- The work of a call that still has to make the closure of the given handle. -/
@[simp] def asks : Frame ν → Multiset (Work ν)
  | .submit work reply => if reply = some i then {work} else 0
  | _ => 0

/-- Whether the closure of the given handle is being thrown away. -/
@[simp] def hangs : Frame ν → Nat
  | .hangUp reply => if reply = some i then 1 else 0
  | _ => 0

variable {i} {f : Frame ν}

theorem Calm.asks (calm : f.Calm) : f.asks i = 0 := by
  rcases calm with carries | ⟨c, rfl | rfl⟩
  · cases f with
    | submit => simp [Frame.carries] at carries
    | _ => rfl
  · rfl
  · rfl

theorem Calm.hangs (calm : f.Calm) : f.hangs i = 0 := by
  rcases calm with carries | ⟨c, rfl | rfl⟩
  · cases f with
    | hangUp => simp [Frame.carries] at carries
    | _ => rfl
  · rfl
  · rfl

theorem Calm.asking (calm : f.Calm) : f.asking = false := by
  rcases calm with carries | ⟨c, rfl | rfl⟩
  · cases f with
    | submit => simp [Frame.carries] at carries
    | _ => rfl
  · rfl
  · rfl

theorem notes_of_carries (carries : f.carries = true) : f.notes = [] := by
  cases f with
  | start | finish | discard | hangUp => simp [Frame.carries] at carries
  | _ => rfl

end Frame

/-- The closures of a handle that exist and have not been started, from the call that will make one
on. -/
def unstarted (held : σ → Multiset (Task ν)) (bag : Multiset (Frame ν)) (s : Scene σ ν) :
    Multiset (Work ν) :=
  tally (Frame.asks i) bag + (tally (Frame.bears (Closure.under i)) bag
    + s.stores (Closure.under i) held)

theorem unstarted_cons (held : σ → Multiset (Task ν)) (f : Frame ν) (rest : Multiset (Frame ν))
    (s : Scene σ ν) : unstarted i held (f ::ₘ rest) s
      = f.asks i + f.bears (Closure.under i) + unstarted i held rest s := by
  simp only [unstarted, tally_cons]
  abel

/-- Closures are not kept in the world. -/
@[simp] theorem unstarted_world (held : σ → Multiset (Task ν)) (bag : Multiset (Frame ν))
    (s : Scene σ ν) (world : World ν) :
    unstarted i held bag { s with world } = unstarted i held bag s := rfl

/-- How a handle stands, given what was noted. -/
def standing (held : σ → Multiset (Task ν)) (h : List (Note ν)) (bag : Multiset (Frame ν))
    (s : Scene σ ν) : Standing ν where
  works := Note.works i h
  marks := Note.marks i h
  results := Note.results i h
  unstarted := unstarted i held bag s
  running := tally (Frame.runs (Closure.under i)) bag
  dying := tally (Frame.hangs i) bag
  box := s.world.replies.get? i

/-- What became of a closure counts for its handle only. -/
theorem standing_notes (held : σ → Multiset (Task ν)) (h : List (Note ν)) (reply : Option Nat)
    (m : Mark ν) (bag : Multiset (Frame ν)) (s : Scene σ ν) :
    standing i held (h ++ reply.toList.map (.fate · m)) bag s = { standing i held h bag s with
      marks := (standing i held h bag s).marks ++ if reply = some i then [m] else [] } := by
  cases reply with
  | none => simp [standing]
  | some j => by_cases own : j = i <;> simp [standing, own]

/-- A frame at which no closure is started, run or thrown away makes no difference. -/
theorem standing_cons {held : σ → Multiset (Task ν)} {h : List (Note ν)} {f : Frame ν}
    (asks : f.asks i = 0) (bears : f.bears (Closure.under i) = 0)
    (runs : f.runs (Closure.under i) = 0) (hangs : f.hangs i = 0) (rest : Multiset (Frame ν))
    (s : Scene σ ν) : standing i held h (f ::ₘ rest) s = standing i held h rest s := by
  simp only [standing, unstarted_cons, tally_cons, asks, bears, runs, hangs, zero_add]

/-- Submissions without handles make no difference. -/
theorem standing_submitAll (held : σ → Multiset (Task ν)) (h : List (Note ν))
    (works : List (Work ν)) (rest : Multiset (Frame ν)) (s : Scene σ ν) :
    standing i held h (↑(Frame.submitAll works) + rest) s = standing i held h rest s := by
  induction works with
  | nil => simp [Frame.submitAll]
  | cons w works ih =>
      change standing i held h (↑(.submit w none :: Frame.submitAll works) + rest) s = _
      rw [← Multiset.cons_coe, Multiset.cons_add, standing_cons] <;> simp [ih]

end Weights

section Steps

variable {i : Nat} {held : σ → Multiset (Task ν)} {rest : Multiset (Frame ν)} {s : Scene σ ν}
  {h : List (Note ν)}

/-- Closures that only change places. -/
theorem standing_shift {s' : Scene σ ν} {before after : Multiset (Frame ν)}
    (calm : ∀ f ∈ before, f.Calm) (calm' : ∀ f ∈ after, f.Calm)
    (bears : tally (Frame.bears (Closure.under i)) after + s'.stores (Closure.under i) held
      = tally (Frame.bears (Closure.under i)) before + s.stores (Closure.under i) held)
    (replies : s'.world.replies = s.world.replies) :
    standing i held h (after + rest) s' = standing i held h (before + rest) s := by
  unfold standing unstarted
  simp only [tally_add, replies, tally_eq_zero fun f mem => (calm f mem).asks,
    tally_eq_zero fun f mem => (calm' f mem).asks, tally_eq_zero fun f mem => (calm f mem).runs _,
    tally_eq_zero fun f mem => (calm' f mem).runs _, tally_eq_zero fun f mem => (calm f mem).hangs,
    tally_eq_zero fun f mem => (calm' f mem).hangs]
  congr 2
  rw [add_right_comm, bears]
  abel

/-- The closure of another handle, or of none. -/
theorem Closure.under_of_ne {c : Closure ν} (other : c.reply ≠ some i) : c.under i = 0 :=
  if_neg other

theorem Closure.under_of_eq {c : Closure ν} (own : c.reply = some i) : c.under i = {c.work} :=
  if_pos own

theorem sound_start {c : Closure ν} {me : ThreadId}
    (sound : (standing i held h (.start c ::ₘ rest) s).Sound) :
    (standing i held (h ++ c.reply.toList.map (.fate · .started)) (.atGate c ::ₘ rest)
      (s.record (.started c.ticket c.work.name me))).Sound := by
  rw [standing_notes]
  by_cases own : c.reply = some i
  · have among : (standing i held h (.start c ::ₘ rest) s).unstarted
        = {c.work} + unstarted i held rest s := by
      simp [standing, unstarted_cons, Closure.under_of_eq own]
    have started := sound.start among
    simpa [standing, unstarted_cons, Closure.under_of_eq own, own, Scene.record] using started
  · simpa [standing, unstarted_cons, Closure.under_of_ne own, own, Scene.record] using sound

theorem sound_finish {c : Closure ν} {me : ThreadId}
    (sound : (standing i held h (.finish c ::ₘ rest) s).Sound) :
    (standing i held (h ++ c.reply.toList.map (.fate · (.ended c.work.ending))) rest
      { s with world := s.world.finish c me }).Sound := by
  rw [standing_notes]
  by_cases own : c.reply = some i
  · have among : (standing i held h (.finish c ::ₘ rest) s).running
        = {c.work} + tally (Frame.runs (Closure.under i)) rest := by
      simp [standing, Closure.under_of_eq own]
    have ended := sound.finish among
    simpa [standing, unstarted_cons, own] using ended
  · simpa [standing, unstarted_cons, Closure.under_of_ne own, own] using sound

theorem sound_discard {c : Closure ν} (sound : (standing i held h (.discard c ::ₘ rest) s).Sound) :
    (standing i held (h ++ c.reply.toList.map (.fate · .condemned)) (.hangUp c.reply ::ₘ rest)
      (s.record (.discarded c.ticket c.work.name))).Sound := by
  rw [standing_notes]
  by_cases own : c.reply = some i
  · have among : (standing i held h (.discard c ::ₘ rest) s).unstarted
        = {c.work} + unstarted i held rest s := by
      simp [standing, unstarted_cons, Closure.under_of_eq own]
    have condemned := sound.discard among
    simpa [standing, unstarted_cons, own, Scene.record] using condemned
  · simpa [standing, unstarted_cons, Closure.under_of_ne own, own, Scene.record] using sound

theorem sound_hangUp {reply : Option Nat}
    (sound : (standing i held h (.hangUp reply ::ₘ rest) s).Sound) :
    (standing i held (h ++ reply.toList.map (.fate · .gone)) rest
      { s with world := { s.world with replies := s.world.replies.hangUp reply } }).Sound := by
  rw [standing_notes]
  by_cases own : reply = some i
  · have among : (standing i held h (.hangUp reply ::ₘ rest) s).dying
        = 1 + tally (Frame.hangs i) rest := by
      simp [standing, own]
    have gone := sound.hangUp among
    simpa [standing, unstarted_cons, own] using gone
  · simpa [standing, unstarted_cons, own] using sound

/-- What a submission calls for is the work of its closure. -/
theorem sound_submit {work : Work ν} {reply : Option Nat}
    (sound : (standing i held h (.submit work reply ::ₘ rest) s).Sound) :
    (standing i held h (.arrive (s.world.makeClosure work reply).1 ::ₘ rest)
      { s with world := (s.world.makeClosure work reply).2 }).Sound := by
  simpa [standing, unstarted_cons, World.makeClosure, Closure.under] using sound

variable [WorkerPool σ (Task ν)] {me : ThreadId} {f : Frame ν} {new : List (Frame ν)}
  {s' : Scene σ ν}

theorem sound_quiet (step : Scene.QuietStep me s f new s') (acts : f.carries = false)
    (asked : s.alive = true ∨ f.asking = false)
    (sound : (standing i held h (f ::ₘ rest) s).Sound) :
    (standing i held (h ++ f.notes) (↑new + rest) s').Sound := by
  cases step with
  | submit work reply alive =>
      simp only [Frame.notes, List.append_nil, Multiset.coe_singleton, Multiset.singleton_add]
      exact sound_submit sound
  | lost work reply gone =>
      cases reply with
      | none => simpa [standing, unstarted_cons, Scene.record] using sound
      | some j => simp [gone, Frame.asking] at asked
  | start c =>
      rw [Multiset.coe_singleton, Multiset.singleton_add]
      exact sound_start sound
  | pastGate c =>
      simp only [Frame.notes, List.append_nil]
      rw [← Multiset.coe_add, add_assoc, standing_submitAll]
      simpa [standing, unstarted_cons] using sound
  | finish c =>
      rw [Multiset.coe_nil, zero_add]
      exact sound_finish sound
  | discard c =>
      rw [← Multiset.coe_add, add_assoc, standing_submitAll, Multiset.coe_singleton,
        Multiset.singleton_add]
      exact sound_discard sound
  | hangUp reply =>
      rw [Multiset.coe_nil, zero_add]
      exact sound_hangUp sound
  | _ => simp [Frame.carries] at acts

theorem Frame.asking_of_free (free : f.engages = false) : f.asking = false := by
  cases f with
  | submit work reply =>
      cases reply with
      | none => rfl
      | some j => contradiction
  | _ => rfl

theorem Frame.asking_submitAll (works : List (Work ν)) :
    ∀ f ∈ Frame.submitAll works, f.asking = false := by
  intro f mem
  obtain ⟨w, -, rfl⟩ := List.mem_map.mp mem
  rfl

/-- Steps do not ask for new handles, and nobody lets the executor go with them. -/
theorem step_asking (keeps : KeepsJobs held s.exec.pool) (step : s.step me f = some (new, s')) :
    (∀ g ∈ new, g.asking = false) ∧ s'.alive = s.alive := by
  cases carries : f.carries with
  | true =>
      have moves := Scene.step_moves keeps carries step
      exact ⟨fun g mem => (moves.after g mem).asking, moves.alive⟩
  | false =>
      have quiet := Scene.step_quiet carries step
      refine ⟨fun g mem => ?_, quiet.keeps.alive⟩
      cases quiet with
      | pastGate c | discard c =>
          rcases List.mem_append.mp mem with mem | mem
          · exact Frame.asking_submitAll _ g mem
          · rw [List.mem_singleton.mp mem]
            rfl
      | submit | start =>
          rw [List.mem_singleton.mp mem]
          rfl
      | lost | finish | hangUp => cases mem
      | _ => simp [Frame.carries] at carries

/-- A step of a thread. -/
theorem sound_step (keeps : KeepsJobs held s.exec.pool) (step : s.step me f = some (new, s'))
    (asked : s.alive = true ∨ f.asking = false)
    (sound : (standing i held h (f ::ₘ rest) s).Sound) :
    (standing i held (h ++ f.notes) (↑new + rest) s').Sound := by
  cases carries : f.carries with
  | true =>
      have moves := Scene.step_moves keeps carries step
      have same : standing i held h (↑new + rest) s' = standing i held h ({f} + rest) s :=
        standing_shift (by simpa using .inl carries)
          (fun g mem => moves.after g (Multiset.mem_coe.mp mem))
          (by simpa using moves.bears (Closure.under i)) moves.replies
      rw [Frame.notes_of_carries carries, List.append_nil, same]
      exact sound
  | false => exact sound_quiet (Scene.step_quiet carries step) carries asked sound

end Steps

/-! ### Whole runs -/

section Runs

variable [WorkerPool σ (Task ν)] {moves : σ → σ → Prop} {yields : σ → Task ν → σ → Prop}
  {held : σ → Multiset (Task ν)} {h more : List (Note ν)} {y z : System σ ν}

/-- Every handle stands as it should, and without the executor nobody asks for one. -/
structure Told (held : σ → Multiset (Task ν)) (h : List (Note ν)) (y : System σ ν) : Prop where
  sound : ∀ i, (standing i held h y.bag y.scene).Sound
  asked : y.scene.alive = true ∨ ∀ f ∈ y.bag, f.asking = false

omit [WorkerPool σ (Task ν)] in
theorem System.bag_interrupt (t : ThreadId) (stack : List (Frame ν)) (y : System σ ν) :
    (y.interrupt t stack).bag = ↑stack + y.bag := by
  have perm := y.threads.frames_perm t
  change ((y.threads.set t (stack ++ y.threads.get t)).frames : Multiset (Frame ν)) = _
  rw [Stacks.frames_set, List.append_assoc, ← Multiset.coe_add, System.bag,
    Multiset.coe_eq_coe.mpr perm]

omit [WorkerPool σ (Task ν)] in
theorem System.bag_withReplies (r : Replies ν) (y : System σ ν) : (y.withReplies r).bag = y.bag :=
  rfl

omit [WorkerPool σ (Task ν)] in
/-- Nothing happens to handles. -/
theorem Told.shift {after : Multiset (Frame ν)} (told : Told held h y)
    (bag : z.bag = after + y.bag) (calm : ∀ f ∈ after, f.Calm)
    (bears : ∀ i, tally (Frame.bears (Closure.under i)) after
      + z.scene.stores (Closure.under i) held = y.scene.stores (Closure.under i) held)
    (replies : z.scene.world.replies = y.scene.world.replies)
    (alive : z.scene.alive = y.scene.alive) : Told held h z := by
  refine ⟨fun i => ?_, ?_⟩
  · have same : standing i held h (after + y.bag) z.scene = standing i held h (0 + y.bag) y.scene :=
      standing_shift (by simp) calm (by simpa using bears i) replies
    rw [bag, same, zero_add]
    exact told.sound i
  · rw [alive, bag]
    refine told.asked.imp_right fun none => ?_
    intro f mem
    rcases Multiset.mem_add.mp mem with mem | mem
    · exact (calm f mem).asking
    · exact none f mem

theorem Told.turn (owner : Owner moves yields held) {t : ThreadId} (turn : y.turn? t = some z)
    (told : Told held h y) : Told held (h ++ y.notes t) z := by
  obtain ⟨f, new, rest, top, step, -, before, after⟩ := System.turn_stack turn
  have asked : y.scene.alive = true ∨ f.asking = false :=
    told.asked.imp_right fun none => none f (before ▸ Multiset.mem_cons_self _ _)
  have notes : y.notes t = f.notes := by
    unfold System.notes
    rw [top]
  obtain ⟨asking, alive⟩ := step_asking (owner.keeps _) step
  refine ⟨fun i => ?_, ?_⟩
  · have sound := told.sound i
    rw [before] at sound
    rw [after, notes]
    exact sound_step (owner.keeps _) step asked sound
  · rw [after, alive]
    refine told.asked.imp_right fun none => ?_
    intro g mem
    rcases Multiset.mem_add.mp mem with mem | mem
    · exact asking g (Multiset.mem_coe.mp mem)
    · exact none g (before ▸ Multiset.mem_cons_of_mem mem)

omit [WorkerPool σ (Task ν)] in
theorem Told.submit (told : Told held h y) (t : ThreadId) (work : Work ν)
    (alive : y.scene.alive = true) :
    Told held (h ++ [.submitted (y.scene.world.replies.openBox 1).1 work]) (y.ask t work) := by
  refine ⟨fun i => ?_, .inl alive⟩
  have sound := told.sound i
  rw [System.ask, System.bag_interrupt, Multiset.coe_singleton, Multiset.singleton_add,
    System.bag_withReplies]
  change (standing i held _ _ { y.scene with
    world := { y.scene.world with replies := (y.scene.world.replies.openBox 1).2 } }).Sound
  by_cases own : (y.scene.world.replies.openBox 1).1 = i
  · have new : (standing i held h y.bag y.scene).box = none := by
      rw [← own]
      exact Replies.get?_new 1
    have opened := sound.submit new work
    simpa [standing, unstarted_cons, own, Replies.get?_openBox] using opened
  · simpa [standing, unstarted_cons, own, Replies.get?_openBox] using sound

omit [WorkerPool σ (Task ν)] in
theorem Told.gather (told : Told held h y) (n : Nat) :
    Told held h (y.withReplies (y.scene.world.replies.openBox n).2) := by
  refine ⟨fun i => ?_, told.asked⟩
  change (standing i held h y.bag _).Sound
  have sound := told.sound i
  by_cases own : (y.scene.world.replies.openBox n).1 = i
  · have new : (standing i held h y.bag y.scene).box = none := by
      rw [← own]
      exact Replies.get?_new n
    refine .shared (sound.unopened_works new) ?_
    simp [standing, System.withReplies, Replies.get?_openBox, own]
  · simpa [standing, System.withReplies, Replies.get?_openBox, own] using sound

omit [WorkerPool σ (Task ν)] in
theorem Told.tend (told : Told held h y) {j : Nat} (change : Inbox ν → Inbox ν)
    (shared : Note.works j h = []) :
    Told held h (y.withReplies (y.scene.world.replies.modify j change)) := by
  refine ⟨fun i => ?_, told.asked⟩
  change (standing i held h y.bag _).Sound
  have sound := told.sound i
  by_cases own : j = i
  · subst own
    cases box : y.scene.world.replies.get? j with
    | none => simpa [standing, System.withReplies, Replies.get?_modify, box] using sound
    | some b =>
        exact .shared shared (by simp [standing, System.withReplies, Replies.get?_modify, box])
  · simpa [standing, System.withReplies, Replies.get?_modify, own] using sound

omit [WorkerPool σ (Task ν)] in
theorem Told.enlist (told : Told held h y) (t : ThreadId) (work : Work ν) {j : Nat}
    (alive : y.scene.alive = true) (opened : y.scene.world.replies.get? j ≠ none)
    (shared : Note.works j h = []) : Told held h (y.enlist t work j) := by
  have told := told.tend Inbox.share shared
  refine ⟨fun i => ?_, .inl alive⟩
  have sound := told.sound i
  rw [System.enlist, System.bag_interrupt, Multiset.coe_singleton, Multiset.singleton_add]
  by_cases own : j = i
  · subst own
    refine .shared shared ?_
    simpa [standing, System.withReplies, System.interrupt, System.assign, Replies.get?_modify]
      using opened
  · simpa [standing, unstarted_cons, System.interrupt, System.assign, own] using sound

omit [WorkerPool σ (Task ν)] in
theorem Told.read (told : Told held h y) {i : Nat} {result : Except Error ν} {replies : Replies ν}
    (found : y.scene.world.replies.joinNow? i = some (result, replies)) :
    Told held (h ++ [.read i result]) (y.withReplies replies) := by
  obtain ⟨b, own, found⟩ := Option.map_eq_some_iff.mp found
  obtain ⟨rfl, rfl⟩ := Prod.mk.inj found
  refine ⟨fun j => ?_, told.asked⟩
  change (standing j held _ y.bag _).Sound
  have sound := told.sound j
  by_cases same : i = j
  · subst same
    have read := sound.read own
    simpa [standing, System.withReplies, Replies.get?_modify, own] using read
  · simpa [standing, System.withReplies, Replies.get?_modify, same] using sound

theorem Told.letGo (owner : Owner moves yields held) (told : Told held h y) (t : ThreadId)
    (free : ∀ u, ∀ f ∈ y.threads.get u, f.engages = false) :
    Told held h (y.letGo.interrupt t
      (y.scene.exec.backlog.map fun job => .job job FinishMode.dropOnly.acts)) := by
  have bag : y.letGo.bag = y.bag := rfl
  refine ⟨fun i => ?_, .inr ?_⟩
  · rw [System.bag_interrupt, bag]
    have same : standing i held h
        (↑(y.scene.exec.backlog.map fun job => Frame.job job FinishMode.dropOnly.acts) + y.bag)
        y.letGo.scene = standing i held h (0 + y.bag) y.scene := by
      refine standing_shift (by simp) ?_ ?_ rfl
      · intro f mem
        obtain ⟨job, -, rfl⟩ := List.mem_map.mp (Multiset.mem_coe.mp mem)
        exact .inl rfl
      · simp only [FinishMode.acts, tally_bears_discards, Scene.stores, System.letGo,
          owner.release, Task.bearsAll_nil, tally_zero]
        abel
    have sound := told.sound i
    rw [← zero_add y.bag, ← same] at sound
    exact sound
  · rw [System.bag_interrupt]
    intro f mem
    rcases Multiset.mem_add.mp mem with mem | mem
    · obtain ⟨job, -, rfl⟩ := List.mem_map.mp (Multiset.mem_coe.mp mem)
      rfl
    · obtain ⟨u, own⟩ := Stacks.get_of_mem_frames (Multiset.mem_coe.mp mem)
      exact Frame.asking_of_free (free u f own)

omit [WorkerPool σ (Task ν)] in
theorem Told.call (told : Told held h y) {t : ThreadId} {c : Call ν}
    (idle : y.threads.get t = []) (bare : c.bare = true) : Told held h (y.assign t [c.frame]) := by
  have bag : (y.assign t [c.frame]).bag = c.frame ::ₘ y.bag := System.bag_assign idle _
  refine ⟨fun i => ?_, ?_⟩
  · have same :
        standing i held h (c.frame ::ₘ y.bag) y.scene = standing i held h y.bag y.scene := by
      cases c with
      | submit work reply =>
          cases reply with
          | none => exact standing_cons i rfl rfl rfl rfl _ _
          | some j => contradiction
      | shutdown | shutdownNow => exact standing_cons i rfl rfl rfl rfl _ _
    rw [bag]
    exact same ▸ told.sound i
  · rw [bag]
    refine told.asked.imp_right fun none => Multiset.forall_mem_cons.mpr ⟨?_, none⟩
    cases c with
    | submit work reply =>
        cases reply with
        | none => rfl
        | some j => contradiction
    | shutdown | shutdownNow => rfl

theorem Told.happens (owner : Owner moves yields held) (told : Told held h y)
    (step : System.Happens moves yields h y more z) : Told held (h ++ more) z := by
  cases step with
  | turn t turn => exact told.turn owner turn
  | submit t work alive => exact told.submit t work alive
  | call t c idle bare =>
      rw [List.append_nil]
      exact told.call idle bare
  | gather n =>
      rw [List.append_nil]
      exact told.gather n
  | enlist t work j alive opened shared =>
      rw [List.append_nil]
      exact told.enlist t work alive opened shared
  | tend j change shared =>
      rw [List.append_nil]
      exact told.tend change shared
  | finish t job mode pool idle given =>
      rw [List.append_nil]
      refine told.shift (System.bag_assign idle _) (by simp [Frame.Calm, Frame.carries]) ?_ rfl rfl
      intro i
      rcases owner.yields given with given | ⟨spent, given⟩
      · simp only [Scene.stores, given, Multiset.map_cons, Multiset.sum_cons]
        simp
        abel
      · simp [Scene.stores, given, Task.bears_of_none _ spent]
  | finishReturned t before after job mode idle split =>
      rw [List.append_nil]
      refine told.shift (System.bag_assign idle _) (by simp [Frame.Calm, Frame.carries]) ?_ rfl rfl
      intro i
      simp only [Scene.stores, split, Task.bearsAll_append, Task.bearsAll_cons]
      simp
      abel
  | pool pool given =>
      rw [List.append_nil]
      refine told.shift (zero_add _).symm (by simp) ?_ rfl rfl
      intro i
      simp [Scene.stores, owner.moves given]
  | read i result replies found => exact told.read found
  | letGo t free =>
      rw [List.append_nil]
      exact told.letGo owner t free

variable {config : Config} {main : Option ThreadId} {pool : σ} {s : Scene σ ν}

theorem told_chronicle (owner : Owner moves yields held)
    (built : Scene.build config main pool = .ok s) (empty : held pool = 0)
    (run : System.Chronicle moves yields (.idle s) h y) : Told held h y := by
  induction run with
  | refl =>
      obtain ⟨-, flight, rfl⟩ := Scene.build_ok built
      refine ⟨fun i => ?_, .inl rfl⟩
      have blank : standing i held [] 0 (⟨⟨config, pool, [], none, .steady, flight, main, 0, 0, 0, 0,
          none⟩, true, World.fresh.record (.created config), []⟩ : Scene σ ν)
            = ⟨[], [], [], 0, 0, 0, none⟩ := by
        simp [standing, unstarted, Scene.stores, empty, World.fresh, Replies.empty, Replies.get?]
        exact ⟨rfl, rfl, rfl⟩
      rw [System.bag_idle]
      exact blank ▸ .unopened
  | tail _ step told => exact told.happens owner step

omit [WorkerPool σ (Task ν)] in
theorem Note.mem_works {i : Nat} {work : Work ν} (mem : .submitted i work ∈ h) :
    work ∈ Note.works i h :=
  List.mem_filterMap.mpr ⟨_, mem, by simp⟩

/-- The closures of a handle that exist: those that nobody has started, from the call that will
make one on, those that run, and those that are being thrown away. -/
def System.existing (i : Nat) (held : σ → Multiset (Task ν)) (y : System σ ν) : Nat :=
  (unstarted i held y.bag y.scene).card + (tally (Frame.runs (Closure.under i)) y.bag).card
    + tally (Frame.hangs i) y.bag

/-- Over any pool that keeps its jobs, whatever it does with them, and whoever submits, finishes
jobs, shuts down, stops or lets the executor go: a handle that was read only in vain so far can be
read. The reader is told to wait as long as the closure exists; otherwise the result is the value
with which the closure ended, the message of the panic with which it ended, or the loss of the task
if the closure was thrown away without having run, and each of these only then. A caller that waits
for the result gets the same. -/
theorem handle_tells_fate (owner : Owner moves yields held) (empty : held pool = 0)
    (built : Scene.build config main pool = .ok s)
    (run : System.Chronicle moves yields (.idle s) h y) {i : Nat} {work : Work ν}
    (submitted : .submitted i work ∈ h) (vain : waited (Note.results i h)) :
    ∃ r replies, y.scene.world.replies.joinNow? i = some (r, replies) ∧
      Tells work (Note.marks i h) (y.existing i held) r ∧
      ∀ r', Executor.joinSubmitted? y.scene.world.replies (.ok i) = some r' ↔
        r' ≠ .error .timeout ∧ r = r' := by
  have told := told_chronicle owner built empty run
  obtain ⟨b, own, tells, join⟩ := (told.sound i).tells (Note.mem_works submitted) vain
  have own : y.scene.world.replies.get? i = some b := own
  refine ⟨b.joinNow.1, y.scene.world.replies.modify i fun _ => b.joinNow.2, ?_, tells, ?_⟩
  · rw [Replies.joinNow?, own]
    rfl
  · intro r'
    change (y.scene.world.replies.get? i).bind Inbox.join? = some r' ↔ _
    rw [own]
    exact join r'

end Runs

/-! ### A pool driven by hand -/

namespace HandPool

/-- How a pool driven by hand changes by itself, and which jobs it gives up. -/
def reorders (p q : HandPool (Task ν)) : Prop := ∃ n, q = { p with reject := n }

def gives (p : HandPool (Task ν)) (t : Task ν) (q : HandPool (Task ν)) : Prop :=
  ∃ index, p.take? index = some (t, q)

theorem owner :
    Owner reorders gives fun p : HandPool (Task ν) => (p.held : Multiset (Task ν)) where
  keeps p :=
    { accepts := (custody .none).accepts
      refuses := (custody .none).refuses
      setCoreSize := fun n => (custody .none).setCoreSize n p
      shutdown := rfl
      shutdownNow := by
        intro q jobs h
        change HandPool.shutdownNow p = (jobs, q) at h
        unfold HandPool.shutdownNow at h
        split at h
        · obtain ⟨rfl, rfl⟩ := Prod.mk.inj h
          simp
        · obtain ⟨rfl, rfl⟩ := Prod.mk.inj h
          exact (zero_add _).symm }
  release _ := rfl
  moves h := by
    obtain ⟨n, rfl⟩ := h
    rfl
  yields h := .inl ((custody .none).yields h)

end HandPool

namespace System

/-- A thread takes several turns, and what is noted. -/
def turns? [WorkerPool σ (Task ν)] (t : ThreadId) :
    Nat → System σ ν → Option (List (Note ν) × System σ ν)
  | 0, y => some ([], y)
  | n + 1, y => (y.turn? t).bind fun z => (turns? t n z).map fun (more, w) => (y.notes t ++ more, w)

theorem Chronicle.turns [WorkerPool σ (Task ν)] {moves : σ → σ → Prop}
    {yields : σ → Task ν → σ → Prop} {t : ThreadId} {n : Nat} {x y z : System σ ν}
    {h more : List (Note ν)} (before : Chronicle moves yields x h y)
    (taken : turns? t n y = some (more, z)) : Chronicle moves yields x (h ++ more) z := by
  induction n generalizing y h more with
  | zero =>
      obtain ⟨rfl, rfl⟩ := Prod.mk.inj (Option.some.inj taken)
      rwa [List.append_nil]
  | succ n ih =>
      obtain ⟨w, turn, taken⟩ := Option.bind_eq_some_iff.mp taken
      obtain ⟨⟨later, w'⟩, rest, same⟩ := Option.map_eq_some_iff.mp taken
      obtain ⟨rfl, rfl⟩ := Prod.mk.inj same
      rw [← List.append_assoc]
      exact ih (before.tail (.turn t turn)) rest

end System

open Sample in
/-- The first task is in the pool and the second waits when the executor is let go. The handle of
the second then tells that it is lost. -/
theorem handle_tells_fate_of_lost :
    ∃ h y, System.Chronicle HandPool.reorders HandPool.gives (.idle scene) h y ∧
      .submitted 1 (.plain "b" (.value ())) ∈ h ∧ waited (Note.results 1 h) ∧
      Note.marks 1 h = [.condemned, .gone] ∧
      ∃ r replies, y.scene.world.replies.joinNow? 1 = some (r, replies) ∧
        Tells (.plain "b" (.value ())) (Note.marks 1 h)
          (y.existing 1 fun p : HandPool (Task Unit) => (p.held : Multiset (Task Unit))) r ∧
        ∀ r', Executor.joinSubmitted? y.scene.world.replies (.ok 1) = some r' ↔
          r' ≠ .error .timeout ∧ r = r' := by
  have played : ∃ y₁ y₂ y₃,
      System.turns? (.caller 1) 12
        ((System.idle scene).ask (.caller 1) (.plain "a" (.value ()))) = some ([], y₁) ∧
      y₁.scene.alive = true ∧ (y₁.scene.world.replies.openBox 1).1 = 1 ∧
      System.turns? (.caller 1) 10 (y₁.ask (.caller 1) (.plain "b" (.value ())))
        = some ([], y₂) ∧
      y₂.threads.entries = [] ∧
      System.turns? (.caller 1) 3 (y₂.letGo.interrupt (.caller 1)
          (y₂.scene.exec.backlog.map fun job => .job job FinishMode.dropOnly.acts))
        = some ([.fate 1 .condemned, .fate 1 .gone], y₃) :=
    ⟨_, _, _, rfl, rfl, rfl, rfl, rfl, rfl⟩
  obtain ⟨y₁, y₂, y₃, first, alive, number, second, quiet, third⟩ := played
  have free : ∀ u, ∀ f ∈ y₂.threads.get u, f.engages = false := by
    intro u f mem
    rw [System.idle_of_entries quiet u] at mem
    cases mem
  have asked : System.Chronicle HandPool.reorders HandPool.gives (.idle scene) _ y₁ :=
    System.Chronicle.turns (.tail .refl (.submit (.caller 1) _ rfl)) first
  have waits := System.Chronicle.turns (asked.tail (.submit (.caller 1) _ alive)) second
  have run := System.Chronicle.turns (waits.tail (.letGo (.caller 1) free)) third
  rw [number] at run
  exact ⟨_, y₃, run, by simp, by simp [waited, Note.results], rfl,
    handle_tells_fate HandPool.owner rfl scene_built run (by simp) (by simp [waited, Note.results])⟩

end TwoTier
