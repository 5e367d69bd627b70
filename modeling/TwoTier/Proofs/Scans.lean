import TwoTier.Flight
import Mathlib.Data.List.Nodup

/-!
What the scans of a register report.

A register is called in some order: tasks are entered, erased and entered again, and scans come in
between. Its calls are kept as a history, each with its moment, its outcome and what it handed to
the sink (`Serves`). The register holds its entries in a hash map, which keeps no order, so between
two calls the entries may stand in any other order.

What a task's entry is can be read off the history alone: the last call about the task, if that was
an admission (`InFlight`). `scans_report_stale` says that a scan reports these entries, those that
are too old and each once, whatever came before, and that the counters and the list of ids agree
with the history. Nothing here needs the clock to be monotone.
-/

namespace TwoTier.FlightRecorder

variable {τ : Type}

/-! ### Histories -/

/-- A call on the register. -/
inductive Call (τ : Type) where
  | admitted (id : TaskId) (trace : τ)
  | completed (id : TaskId)
  | scan

/-- The task that a call is about. -/
def Call.task? : Call τ → Option TaskId
  | .admitted id _ => some id
  | .completed id => some id
  | .scan => none

def Call.isScan : Call τ → Bool
  | .scan => true
  | _ => false

/-- What comes of a call. -/
inductive Outcome (τ : Type) where
  | entered
  /-- Whether there was an entry. -/
  | erased (found : Bool)
  /-- What the sink was handed, and the number that the caller gets. -/
  | scanned (reports : List (StaleTask τ)) (count : Nat)

def Outcome.reports : Outcome τ → List (StaleTask τ)
  | .scanned reports _ => reports
  | _ => []

def perform (now : Instant) (call : Call τ) (r : FlightRecorder τ) :
    Outcome τ × FlightRecorder τ :=
  match call with
  | .admitted id trace => (.entered, r.admitted id trace now)
  | .completed id => (.erased (r.contains id), r.completed id)
  | .scan =>
    let (reports, r) := r.scan now
    (.scanned reports reports.length, r)

/-- A call of a history. -/
structure Visit (τ : Type) where
  now : Instant
  call : Call τ
  outcome : Outcome τ

/-- A register that was new, and its history, oldest call first. -/
inductive Serves (threshold : Duration) : List (Visit τ) → FlightRecorder τ → Prop where
  | made : Serves threshold [] (.new threshold)
  | call {h : List (Visit τ)} {r : FlightRecorder τ} (now : Instant) (call : Call τ) :
      Serves threshold h r →
      Serves threshold (h ++ [⟨now, call, (r.perform now call).1⟩]) (r.perform now call).2
  /-- The map is laid out anew. -/
  | reordered {h : List (Visit τ)} {r : FlightRecorder τ} {entries : List (FlightEntry τ)} :
      entries.Perm r.entries → Serves threshold h r → Serves threshold h { r with entries }

/-- The last call about a task was its admission. -/
def InFlight (h : List (Visit τ)) (e : FlightEntry τ) : Prop :=
  ∃ before v after, h = before ++ v :: after ∧ v.now = e.admittedAt ∧
    v.call = .admitted e.id e.trace ∧ ∀ w ∈ after, w.call.task? ≠ some e.id

section InFlight

variable {h : List (Visit τ)} {e : FlightEntry τ} {v : Visit τ}

theorem not_inFlight_nil : ¬ InFlight [] e := by
  rintro ⟨before, v, after, split, -⟩
  simp at split

/-- The last call of a history decides about its own task, and about no other. -/
theorem inFlight_concat : InFlight (h ++ [v]) e ↔
    (v.now = e.admittedAt ∧ v.call = .admitted e.id e.trace) ∨
      (InFlight h e ∧ v.call.task? ≠ some e.id) := by
  constructor
  · rintro ⟨before, w, after, split, now, call, quiet⟩
    rcases List.eq_nil_or_concat after with rfl | ⟨after, last, rfl⟩
    · obtain ⟨-, last⟩ := List.append_inj' split rfl
      obtain rfl := List.singleton_inj.mp last
      exact .inl ⟨now, call⟩
    · rw [List.concat_eq_append, ← List.cons_append, ← List.append_assoc] at split
      obtain ⟨rfl, same⟩ := List.append_inj' split rfl
      obtain rfl := List.singleton_inj.mp same
      refine .inr ⟨⟨before, w, after, rfl, now, call, fun u mem => ?_⟩, ?_⟩
      · exact quiet u (by simp [mem])
      · exact quiet v (by simp)
  · rintro (⟨now, call⟩ | ⟨⟨before, w, after, rfl, now, call, quiet⟩, other⟩)
    · exact ⟨h, v, [], rfl, now, call, by simp⟩
    · refine ⟨before, w, after ++ [v], by simp, now, call, fun u mem => ?_⟩
      rcases List.mem_append.mp mem with mem | mem
      · exact quiet u mem
      · obtain rfl := List.mem_singleton.mp mem
        exact other

end InFlight

/-! ### What the register holds -/

/-- The register agrees with its history. -/
structure Agrees (threshold : Duration) (h : List (Visit τ)) (r : FlightRecorder τ) : Prop where
  threshold : r.threshold = threshold
  distinct : (r.entries.map FlightEntry.id).Nodup
  entries : ∀ e, e ∈ r.entries ↔ InFlight h e
  scans : r.scans = h.countP fun v => v.call.isScan
  reported : r.reported = (h.flatMap fun v => v.outcome.reports).length

section Calls

variable {threshold : Duration} {h : List (Visit τ)} {r : FlightRecorder τ} {id : TaskId}

theorem mem_without (e : FlightEntry τ) :
    e ∈ r.entries.filter (fun e => e.id ≠ id) ↔ e ∈ r.entries ∧ id ≠ e.id := by
  rw [List.mem_filter, decide_eq_true_eq, ne_comm]

theorem nodup_without (distinct : (r.entries.map FlightEntry.id).Nodup) :
    ((r.entries.filter fun e => e.id ≠ id).map FlightEntry.id).Nodup :=
  distinct.sublist (List.filter_sublist.map _)

namespace Agrees

theorem made (threshold : Duration) : Agrees (τ := τ) threshold [] (.new threshold) where
  threshold := rfl
  distinct := List.nodup_nil
  entries _ := iff_of_false List.not_mem_nil not_inFlight_nil
  scans := rfl
  reported := rfl

theorem admitted (agrees : Agrees threshold h r) (now : Instant) (id : TaskId) (trace : τ) :
    Agrees threshold (h ++ [⟨now, .admitted id trace, .entered⟩]) (r.admitted id trace now) where
  threshold := agrees.threshold
  distinct := by
    rw [FlightRecorder.admitted, List.map_append, List.nodup_append]
    refine ⟨nodup_without agrees.distinct, List.nodup_singleton _, ?_⟩
    rintro i kept j new rfl
    obtain ⟨e, mem, rfl⟩ := List.mem_map.mp kept
    obtain rfl := List.mem_singleton.mp new
    exact ((mem_without e).mp mem).2 rfl
  entries e := by
    rw [inFlight_concat, FlightRecorder.admitted, List.mem_append, mem_without,
      List.mem_singleton, agrees.entries, or_comm]
    refine or_congr ?_ (and_congr_right' ?_)
    · constructor
      · rintro rfl
        exact ⟨rfl, rfl⟩
      · rintro ⟨rfl, call⟩
        cases call
        rfl
    · simp [Call.task?]
  scans := by simp [FlightRecorder.admitted, Call.isScan, agrees.scans]
  reported := by simp [FlightRecorder.admitted, Outcome.reports, agrees.reported]

theorem completed (agrees : Agrees threshold h r) (now : Instant) (id : TaskId) (found : Bool) :
    Agrees threshold (h ++ [⟨now, .completed id, .erased found⟩]) (r.completed id) where
  threshold := agrees.threshold
  distinct := nodup_without agrees.distinct
  entries e := by
    rw [inFlight_concat, FlightRecorder.completed, mem_without, agrees.entries]
    simp [Call.task?]
  scans := by simp [FlightRecorder.completed, Call.isScan, agrees.scans]
  reported := by simp [FlightRecorder.completed, Outcome.reports, agrees.reported]

theorem scan (agrees : Agrees threshold h r) (now : Instant) (count : Nat) :
    Agrees threshold (h ++ [⟨now, .scan, .scanned (r.scan now).1 count⟩]) (r.scan now).2 where
  threshold := agrees.threshold
  distinct := agrees.distinct
  entries e := by
    rw [inFlight_concat, ← agrees.entries]
    simp [FlightRecorder.scan, Call.task?]
  scans := by simp [FlightRecorder.scan, Call.isScan, agrees.scans]
  reported := by
    simp [FlightRecorder.scan, Outcome.reports, agrees.reported]

theorem reordered (agrees : Agrees threshold h r) {entries : List (FlightEntry τ)}
    (same : entries.Perm r.entries) : Agrees threshold h { r with entries } where
  threshold := agrees.threshold
  distinct := (same.map _).nodup_iff.mpr agrees.distinct
  entries e := same.mem_iff.trans (agrees.entries e)
  scans := agrees.scans
  reported := agrees.reported

end Agrees

/-- After any calls, in whatever order the entries stand. -/
theorem Serves.agrees (run : Serves threshold h r) : Agrees threshold h r := by
  induction run with
  | made => exact .made threshold
  | call now call _ ih =>
      cases call with
      | admitted id trace => exact ih.admitted now id trace
      | completed id => exact ih.completed now id _
      | scan => exact ih.scan now _
  | reordered same _ ih => exact ih.reordered same

end Calls

/-! ### What a scan reports -/

/-- The report on an entry. -/
def report (now : Instant) (e : FlightEntry τ) : StaleTask τ :=
  ⟨e.id, e.trace, e.admittedAt, now, ⟨now.nanos - e.admittedAt.nanos⟩⟩

/-- An entry is older than the threshold. -/
def Overdue (threshold : Duration) (now : Instant) (e : FlightEntry τ) : Prop :=
  e.admittedAt.nanos + threshold.total < now.nanos

/-- The order of the list of ids: by admission, and then by id. -/
def Earlier (a b : FlightEntry τ) : Prop :=
  a.admittedAt.nanos < b.admittedAt.nanos ∨
    a.admittedAt.nanos = b.admittedAt.nanos ∧ a.id.number < b.id.number

section Scan

variable {threshold : Duration} {now : Instant} (r : FlightRecorder τ)

instance (e : FlightEntry τ) : Decidable (Overdue threshold now e) :=
  inferInstanceAs (Decidable (_ < _))

theorem overdue_iff (e : FlightEntry τ) :
    threshold.total < (now.since e.admittedAt).total ↔ Overdue threshold now e := by
  change threshold.total < now.nanos - e.admittedAt.nanos ↔ _
  unfold Overdue
  omega

theorem scan_reports :
    (r.scan now).1 = (r.entries.filter fun e => Overdue r.threshold now e).map (report now) := by
  rw [← List.filterMap_eq_map, List.filterMap_filter]
  refine List.filterMap_congr fun e _ => ?_
  simp only [stale?, overdue_iff, decide_eq_true_eq]
  rfl

theorem mem_scan {s : StaleTask τ} : s ∈ (r.scan now).1 ↔
    ∃ e ∈ r.entries, Overdue r.threshold now e ∧ s = report now e := by
  simp [scan_reports, eq_comm, and_assoc]

theorem scan_ids_sublist :
    ((r.scan now).1.map StaleTask.id).Sublist (r.entries.map FlightEntry.id) := by
  rw [scan_reports, List.map_map]
  exact List.filter_sublist.map FlightEntry.id

theorem taskIds_perm : r.taskIds.Perm (r.entries.map FlightEntry.id) :=
  (List.mergeSort_perm _ _).map _

theorem admittedBefore_trans (a b c : FlightEntry τ) (ab : admittedBefore a b = true)
    (bc : admittedBefore b c = true) : admittedBefore a c = true := by
  simp only [admittedBefore, Bool.or_eq_true, Bool.and_eq_true, decide_eq_true_eq,
    beq_iff_eq] at ab bc ⊢
  omega

theorem admittedBefore_total (a b : FlightEntry τ) :
    (admittedBefore a b || admittedBefore b a) = true := by
  simp only [admittedBefore, Bool.or_eq_true, Bool.and_eq_true, decide_eq_true_eq, beq_iff_eq]
  omega

theorem earlier_of_admittedBefore {a b : FlightEntry τ} (before : admittedBefore a b = true)
    (other : a.id ≠ b.id) : Earlier a b := by
  simp only [admittedBefore, Bool.or_eq_true, Bool.and_eq_true, decide_eq_true_eq,
    beq_iff_eq] at before
  have number : a.id.number ≠ b.id.number := fun same => other (congrArg TaskId.mk same)
  unfold Earlier
  omega

/-- The entries in the order in which their ids are listed. -/
theorem exists_line (distinct : (r.entries.map FlightEntry.id).Nodup) :
    ∃ line : List (FlightEntry τ), r.taskIds = line.map FlightEntry.id ∧
      line.Perm r.entries ∧ line.Pairwise Earlier := by
  have perm := List.mergeSort_perm r.entries admittedBefore
  refine ⟨r.entries.mergeSort admittedBefore, rfl, perm, ?_⟩
  have sorted := List.pairwise_mergeSort admittedBefore_trans admittedBefore_total r.entries
  have apart := List.pairwise_map.mp ((perm.map FlightEntry.id).nodup_iff.mpr distinct)
  exact sorted.imp₂ (fun a b before other => earlier_of_admittedBefore before other) apart

end Scan

/-- After any calls at any moments, in whatever order the map goes through its entries. A scan hands
to the sink one report for each task whose last admission is more than the threshold ago and which
has not completed since, with its trace and its age, and none for any other task; the caller gets
their number. It leaves the entries as they are. The counters stand at the scans before it and at
all that the sink was handed by them. The list of ids has each task in flight once, by its last
admission and then by its id. -/
theorem scans_report_stale {threshold : Duration} {h : List (Visit τ)} {r : FlightRecorder τ}
    (run : Serves threshold h r) (now : Instant) :
    (∃ reports, r.perform now .scan = (.scanned reports reports.length,
        { r with scans := r.scans + 1, reported := r.reported + reports.length }) ∧
      (reports.map StaleTask.id).Nodup ∧
      ∀ s, s ∈ reports ↔ ∃ e, InFlight h e ∧ Overdue threshold now e ∧ s = report now e) ∧
    r.scans = (h.countP fun v => v.call.isScan) ∧
    r.reported = (h.flatMap fun v => v.outcome.reports).length ∧
    r.taskIds.Nodup ∧
    ∃ line : List (FlightEntry τ), r.taskIds = line.map FlightEntry.id ∧
      (∀ e, e ∈ line ↔ InFlight h e) ∧ line.Pairwise Earlier := by
  have agrees := run.agrees
  refine ⟨⟨(r.scan now).1, rfl, ?_, fun s => ?_⟩, agrees.scans, agrees.reported, ?_, ?_⟩
  · exact agrees.distinct.sublist r.scan_ids_sublist
  · rw [mem_scan, agrees.threshold]
    simp only [agrees.entries]
  · exact r.taskIds_perm.nodup_iff.mpr agrees.distinct
  · obtain ⟨line, ids, perm, ordered⟩ := r.exists_line agrees.distinct
    exact ⟨line, ids, fun e => perm.mem_iff.trans (agrees.entries e), ordered⟩

/-- Three tasks under a threshold of ten. Task 1 was reported and then entered anew, task 2 has
completed and task 3 is just ten old. The next scan reports task 1 by its second admission, and
nothing else. -/
theorem scans_report_stale_after_readmission :
    ∃ (h : List (Visit Unit)) (r : FlightRecorder Unit), Serves ⟨10⟩ h r ∧ r.scans = 1 ∧
      r.reported = 1 ∧ r.taskIds.Nodup ∧ ∃ after,
        r.perform ⟨24⟩ .scan = (.scanned [⟨⟨1⟩, (), ⟨13⟩, ⟨24⟩, ⟨11⟩⟩] 1, after) ∧
        after.entries = r.entries := by
  have young : Serves (τ := Unit) ⟨10⟩ _ ⟨[⟨⟨1⟩, (), ⟨0⟩⟩, ⟨⟨2⟩, (), ⟨5⟩⟩], ⟨10⟩, 1, 1⟩ :=
    ((Serves.made.call ⟨0⟩ (.admitted ⟨1⟩ ())).call ⟨5⟩ (.admitted ⟨2⟩ ())).call ⟨12⟩ .scan
  have run : Serves (τ := Unit) ⟨10⟩ _ ⟨[⟨⟨3⟩, (), ⟨14⟩⟩, ⟨⟨1⟩, (), ⟨13⟩⟩], ⟨10⟩, 1, 1⟩ :=
    (((young.call ⟨13⟩ (.admitted ⟨1⟩ ())).call ⟨13⟩ (.completed ⟨2⟩)).call
      ⟨14⟩ (.admitted ⟨3⟩ ())).reordered (.swap _ _ _)
  obtain ⟨⟨reports, did, -⟩, scans, reported, ids, -⟩ := scans_report_stale run ⟨24⟩
  obtain ⟨rfl, -⟩ := Outcome.scanned.inj (congrArg Prod.fst did)
  exact ⟨_, _, run, scans, reported, ids, _, did, rfl⟩

end TwoTier.FlightRecorder
