import CiTimeline.Format
import CiTimeline.NormalizeJobName
import CiTimeline.PyDict
import Mathlib.Data.List.Lex
import Mathlib.Data.List.Sort
import Mathlib.Data.Char

/-!
# The unified diff of two runs

`render_unified_diff` keys the completed jobs of each run by `normalize_job_name`, walks the
sorted union of the keys, and prints per key a row with both runs' bars, or one bar and
`(missing)`, adding the run and queue differences of the keys both runs have to two running
totals. Three aggregate rows and the `KEY INSIGHT` block follow. The loop is `diffStep` over
`DiffState`: `diffStep_eq` is its step and `foldlM_diffStep` its run.
-/

namespace CiTimeline

/-- `{normalize_job_name(j.name): j for j in run.jobs if j.completed_at}`. -/
def jobsByName (run : WorkflowRun) : PyDict Job :=
  PyDict.ofList (fun j => normalizeJobName j.name) (run.jobs.filter Job.isCompleted)

/-- `sorted(names)` on `str`: by code points. -/
def sortNames (names : List String) : List String :=
  names.insertionSort fun a b => a.data ≤ b.data

def sortedJobNames (jobs1 jobs2 : PyDict Job) : List String :=
  sortNames (jobs1.keys ++ jobs2.keys).dedup

def allDurations (jobs1 jobs2 : PyDict Job) (names : List String) : List ℚ :=
  names.flatMap fun name =>
    ((jobs1.get? name).map Job.totalDurationSeconds).toList ++
      ((jobs2.get? name).map Job.totalDurationSeconds).toList

/-- `max(all_durations) if all_durations else 1`, the scale of every bar. -/
def diffScale (allDurations : List ℚ) : Py ℚ :=
  if allDurations.isEmpty then pure 1 else pyMax allDurations

def deltaTag (runDelta : ℚ) : String :=
  if |runDelta| < 60 then "~same"
  else if runDelta > 0 then "+" ++ formatDuration runDelta
  else "-" ++ formatDuration (-runDelta)

def bothRow (shortName bar1 time1 bar2 time2 deltaStr : String) : String :=
  ljust shortName 28 ++ " " ++ bar1 ++ " " ++ rjust time1 6 ++ "  " ++ bar2 ++ " " ++
    rjust time2 6 ++ "  " ++ rjust deltaStr 10

def leftRow (shortName bar1 time1 : String) : String :=
  ljust shortName 28 ++ " " ++ bar1 ++ " " ++ rjust time1 6 ++ "  " ++ ljust "(missing)" 23

def rightRow (shortName bar2 time2 : String) : String :=
  ljust shortName 28 ++ " " ++ ljust "(missing)" 23 ++ "  " ++ bar2 ++ " " ++ rjust time2 6

structure DiffState where
  lines : List String
  totalRunDelta : ℚ
  totalQueueDelta : ℚ
  deriving DecidableEq, Repr

/-- The body of the job loop of `render_unified_diff`. -/
def diffStep (jobs1 jobs2 : PyDict Job) (maxDuration : ℚ) (st : DiffState) (name : String) :
    Py DiffState := do
  let shortName := pyTake name 26
  match jobs1.get? name, jobs2.get? name with
  | some j1, some j2 =>
    let bar1 ← renderJobBar j1.queueDurationSeconds j1.runDurationSeconds maxDuration 16
    let bar2 ← renderJobBar j2.queueDurationSeconds j2.runDurationSeconds maxDuration 16
    let time1 := formatDuration j1.totalDurationSeconds
    let time2 := formatDuration j2.totalDurationSeconds
    let runDelta := j2.runDurationSeconds - j1.runDurationSeconds
    pure ⟨st.lines ++ [bothRow shortName bar1 time1 bar2 time2 (deltaTag runDelta)],
      st.totalRunDelta + runDelta,
      st.totalQueueDelta + (j2.queueDurationSeconds - j1.queueDurationSeconds)⟩
  | some j1, none =>
    let bar1 ← renderJobBar j1.queueDurationSeconds j1.runDurationSeconds maxDuration 16
    let time1 := formatDuration j1.totalDurationSeconds
    pure { st with lines := st.lines ++ [leftRow shortName bar1 time1] }
  | none, some j2 =>
    let bar2 ← renderJobBar j2.queueDurationSeconds j2.runDurationSeconds maxDuration 16
    let time2 := formatDuration j2.totalDurationSeconds
    pure { st with lines := st.lines ++ [rightRow shortName bar2 time2] }
  | none, none => pure st

def getWallTime (run : WorkflowRun) : Py ℚ := do
  let jobs := run.jobs.filter Job.isCompleted
  if jobs.isEmpty then return 0
  let maxCompleted ← pyMax (← jobs.mapM Job.completedTime)
  let minCreated ← pyMin (jobs.map Job.createdAt)
  pure (maxCompleted - minCreated)

/-- An aggregate row: both runs' values and the delta cell, `+` before a positive delta and
nothing before any other. -/
def aggregateLine (label : String) (value1 value2 delta : ℚ) : String :=
  ljust label 28 ++ " " ++ rjust (formatDuration value1) 23 ++ "  " ++
    rjust (formatDuration value2) 23 ++ "  " ++ (if delta > 0 then "+" else "") ++
    rjust (formatDuration |delta|) 10

def buildVerdict (totalRunDelta : ℚ) : List String :=
  if totalRunDelta < -60 then
    ["  Run 2 saved " ++ formatDuration (-totalRunDelta) ++ " in actual build time across all jobs."]
  else if totalRunDelta > 60 then
    ["  Run 2 spent " ++ formatDuration totalRunDelta ++
      " MORE in actual build time across all jobs."]
  else ["  Actual build times are roughly the same."]

def queueVerdict (totalQueueDelta : ℚ) : List String :=
  if totalQueueDelta > 60 then
    ["  BUT Run 2 had " ++ formatDuration totalQueueDelta ++ " MORE queue wait time."]
  else if totalQueueDelta < -60 then
    ["  AND Run 2 had " ++ formatDuration (-totalQueueDelta) ++ " LESS queue wait time."]
  else []

def wallVerdict (wallDelta totalRunDelta : ℚ) : List String :=
  if wallDelta > 0 ∧ totalRunDelta < 0 then
    ["", "  Despite faster builds, wall clock time increased due to runner queue delays!"]
  else if wallDelta < 0 ∧ totalRunDelta < 0 then
    ["", "  Build time savings translated to faster wall clock time."]
  else []

def keyInsight (wallDelta totalRunDelta totalQueueDelta : ℚ) : List String :=
  buildVerdict totalRunDelta ++ queueVerdict totalQueueDelta ++ wallVerdict wallDelta totalRunDelta

def diffHeader (run1 run2 : WorkflowRun) (width : ℤ) : List String :=
  [rep '=' width.toNat, "COMPARING: Run #" ++ toString run1.id ++ " vs #" ++ toString run2.id,
    rep '=' width.toNat, "",
    ljust "Job" 28 ++ " " ++ ljust "Run 1" 24 ++ " " ++ ljust "Run 2" 24 ++ " " ++
      rjust "Delta" 10,
    rep '-' width.toNat]

def diffFooter (wall1 wall2 sumRun1 sumRun2 sumQueue1 sumQueue2 totalRunDelta
    totalQueueDelta : ℚ) (width : ℤ) : List String :=
  [rep '-' width.toNat, "",
    aggregateLine "Wall clock:" wall1 wall2 (wall2 - wall1),
    aggregateLine "Sum of run times:" sumRun1 sumRun2 totalRunDelta,
    aggregateLine "Sum of queue times:" sumQueue1 sumQueue2 totalQueueDelta,
    "", rep '=' width.toNat, "KEY INSIGHT:"] ++
  keyInsight (wall2 - wall1) totalRunDelta totalQueueDelta ++
  [rep '=' width.toNat, "", "Legend: █ running  ░ queued"]

def renderUnifiedDiff (run1 run2 : WorkflowRun) (width : ℤ := 140) : Py String := do
  let jobs1 := jobsByName run1
  let jobs2 := jobsByName run2
  let allJobNames := sortedJobNames jobs1 jobs2
  let allDurations := allDurations jobs1 jobs2 allJobNames
  let maxDuration ← diffScale allDurations
  let st ← allJobNames.foldlM (diffStep jobs1 jobs2 maxDuration) ⟨[], 0, 0⟩
  let wall1 ← getWallTime run1
  let wall2 ← getWallTime run2
  let sumRun1 := sumOf Job.runDurationSeconds jobs1.values
  let sumRun2 := sumOf Job.runDurationSeconds jobs2.values
  let sumQueue1 := sumOf Job.queueDurationSeconds jobs1.values
  let sumQueue2 := sumOf Job.queueDurationSeconds jobs2.values
  return "\n".intercalate (diffHeader run1 run2 width ++ st.lines ++
    diffFooter wall1 wall2 sumRun1 sumRun2 sumQueue1 sumQueue2 st.totalRunDelta
      st.totalQueueDelta width)

/-! ## The job loop -/

/-- The row the loop prints for a name, from the two runs' jobs under it: both bars, or
one bar and `(missing)`; no name of the loop has neither. -/
def diffLine (maxDuration : ℚ) (name : String) : Option Job → Option Job → String
  | some j1, some j2 => bothRow (pyTake name 26)
      (jobBar j1.queueDurationSeconds j1.runDurationSeconds maxDuration 16)
      (formatDuration j1.totalDurationSeconds)
      (jobBar j2.queueDurationSeconds j2.runDurationSeconds maxDuration 16)
      (formatDuration j2.totalDurationSeconds)
      (deltaTag (j2.runDurationSeconds - j1.runDurationSeconds))
  | some j1, none => leftRow (pyTake name 26)
      (jobBar j1.queueDurationSeconds j1.runDurationSeconds maxDuration 16)
      (formatDuration j1.totalDurationSeconds)
  | none, some j2 => rightRow (pyTake name 26)
      (jobBar j2.queueDurationSeconds j2.runDurationSeconds maxDuration 16)
      (formatDuration j2.totalDurationSeconds)
  | none, none => ""

/-- What a name adds to `total_run_delta` (for `f` the run time) or `total_queue_delta`
(for `f` the queue time): only a job both runs have counts. -/
def deltaOf (f : Job → ℚ) : Option Job → Option Job → ℚ
  | some j1, some j2 => f j2 - f j1
  | _, _ => 0

section Loop

variable {jobs1 jobs2 : PyDict Job} {m : ℚ}

theorem diffStep_eq (st : DiffState) {name : String}
    (h : (jobs1.get? name).isSome ∨ (jobs2.get? name).isSome) :
    diffStep jobs1 jobs2 m st name =
      .ok ⟨st.lines ++ [diffLine m name (jobs1.get? name) (jobs2.get? name)],
        st.totalRunDelta + deltaOf Job.runDurationSeconds (jobs1.get? name) (jobs2.get? name),
        st.totalQueueDelta + deltaOf Job.queueDurationSeconds (jobs1.get? name) (jobs2.get? name)⟩ := by
  unfold diffStep
  cases h1 : jobs1.get? name <;> cases h2 : jobs2.get? name <;>
    simp_all [renderJobBar_eq, diffLine, deltaOf]

theorem foldlM_diffStep {names : List String}
    (h : ∀ n ∈ names, (jobs1.get? n).isSome ∨ (jobs2.get? n).isSome) (st : DiffState) :
    names.foldlM (diffStep jobs1 jobs2 m) st =
      .ok ⟨st.lines ++ names.map (fun n => diffLine m n (jobs1.get? n) (jobs2.get? n)),
        st.totalRunDelta + (names.map fun n => deltaOf Job.runDurationSeconds (jobs1.get? n) (jobs2.get? n)).sum,
        st.totalQueueDelta + (names.map fun n => deltaOf Job.queueDurationSeconds (jobs1.get? n) (jobs2.get? n)).sum⟩ := by
  induction names generalizing st with
  | nil => simp
  | cons n names ih =>
    rw [List.foldlM_cons, diffStep_eq st (h n (List.mem_cons_self n names)), Py.ok_bind,
      ih fun k hk => h k (List.mem_cons_of_mem n hk)]
    simp [add_assoc]

end Loop

/-! ## The keys -/

/-- The last completed job of a run with key `name`, in the run's job order. -/
def lastCompleted (run : WorkflowRun) (name : String) : Option Job :=
  ((run.jobs.filter Job.isCompleted).filter fun j => normalizeJobName j.name = name).getLast?

section Keys

variable {run : WorkflowRun} {jobs1 jobs2 : PyDict Job} {n : String}

theorem get?_jobsByName : (jobsByName run).get? n = lastCompleted run n :=
  PyDict.get?_ofList _ _ _

theorem isSome_lastCompleted_iff :
    (lastCompleted run n).isSome ↔ ∃ j ∈ run.jobs, j.isCompleted ∧ normalizeJobName j.name = n := by
  simp only [lastCompleted, List.getLast?_isSome, ne_eq, List.filter_eq_nil_iff, List.mem_filter,
    decide_eq_true_eq, not_forall, not_not, exists_prop, and_assoc]

theorem mem_keys_jobsByName :
    n ∈ (jobsByName run).keys ↔ ∃ j ∈ run.jobs, j.isCompleted ∧ normalizeJobName j.name = n := by
  rw [← PyDict.isSome_get?_iff, get?_jobsByName, isSome_lastCompleted_iff]

theorem mem_sortedJobNames : n ∈ sortedJobNames jobs1 jobs2 ↔ n ∈ jobs1.keys ∨ n ∈ jobs2.keys := by
  simp [sortedJobNames, sortNames, (List.perm_insertionSort _ _).mem_iff, List.mem_dedup]

theorem sorted_sortNames (names : List String) :
    (sortNames names).Sorted fun a b => a.data ≤ b.data :=
  haveI : IsTotal String fun a b => a.data ≤ b.data := ⟨fun _ _ => le_total _ _⟩
  haveI : IsTrans String fun a b => a.data ≤ b.data := ⟨fun _ _ _ => le_trans⟩
  List.sorted_insertionSort _ names

theorem sortNames_eq_of_perm {names names' : List String} (h : names.Perm names') :
    sortNames names = sortNames names' :=
  haveI : IsAntisymm String fun a b => a.data ≤ b.data :=
    ⟨fun _ _ h₁ h₂ => String.ext (le_antisymm h₁ h₂)⟩
  List.eq_of_perm_of_sorted ((List.perm_insertionSort _ _).trans
    (h.trans (List.perm_insertionSort _ _).symm)) (sorted_sortNames _) (sorted_sortNames _)

theorem sortedJobNames_comm (jobs1 jobs2 : PyDict Job) :
    sortedJobNames jobs2 jobs1 = sortedJobNames jobs1 jobs2 :=
  sortNames_eq_of_perm List.perm_append_comm.dedup

theorem sortedJobNames_lt (jobs1 jobs2 : PyDict Job) :
    (sortedJobNames jobs1 jobs2).Pairwise fun a b => a.data < b.data := by
  have hsorted := sorted_sortNames (jobs1.keys ++ jobs2.keys).dedup
  have hnodup := (List.perm_insertionSort (fun a b : String => a.data ≤ b.data)
    (jobs1.keys ++ jobs2.keys).dedup).nodup_iff.mpr (List.nodup_dedup _)
  exact (hsorted.and hnodup).imp fun h => lt_of_le_of_ne h.1 fun e => h.2 (String.ext e)

theorem nodup_sortedJobNames (jobs1 jobs2 : PyDict Job) : (sortedJobNames jobs1 jobs2).Nodup :=
  (sortedJobNames_lt jobs1 jobs2).imp fun h e => (ne_of_lt h) (congrArg String.data e)

theorem sortedJobNames_covered (h : n ∈ sortedJobNames jobs1 jobs2) :
    (jobs1.get? n).isSome ∨ (jobs2.get? n).isSome := by
  simpa only [PyDict.isSome_get?_iff] using mem_sortedJobNames.mp h

end Keys

/-! ## The figures below the rows -/

section Figures

variable {run : WorkflowRun} {mn mx : ℚ}

theorem getWallTime_of_no_completed (h : run.jobs.filter Job.isCompleted = []) :
    getWallTime run = .ok 0 := by
  simp [getWallTime, h]

theorem getWallTime_eq (hne : run.jobs.filter Job.isCompleted ≠ [])
    (hwin : timeWindow (run.jobs.filter Job.isCompleted) = .ok (mn, mx)) :
    getWallTime run = .ok (mx - mn) := by
  have hc : ∀ j ∈ run.jobs.filter Job.isCompleted, j.isCompleted = true :=
    fun j hj => (List.mem_filter.mp hj).2
  obtain ⟨mn', mx', hwin', hmn, hmx⟩ := timeWindow_ok hne hc
  obtain ⟨rfl, rfl⟩ : mn' = mn ∧ mx' = mx := by
    rw [hwin'] at hwin; cases hwin; exact ⟨rfl, rfl⟩
  simp only [getWallTime, List.isEmpty_iff, hne, if_false, mapM_completedTime hc, Py.ok_bind, hmx,
    hmn, Py.pure_eq_ok]

theorem getWallTime_isOk (run : WorkflowRun) : ∃ wall, getWallTime run = .ok wall := by
  by_cases hne : run.jobs.filter Job.isCompleted = []
  · exact ⟨0, getWallTime_of_no_completed hne⟩
  obtain ⟨mn, mx, hwin, -, -⟩ := timeWindow_ok hne fun j hj => (List.mem_filter.mp hj).2
  exact ⟨_, getWallTime_eq hne hwin⟩

theorem diffScale_ok (ds : List ℚ) : ∃ m, diffScale ds = .ok m ∧ ∀ d ∈ ds, d ≤ m := by
  by_cases h : ds = []
  · exact ⟨1, by simp [diffScale, h], by simp [h]⟩
  obtain ⟨m, hm⟩ := pyMax_ok_of_ne_nil h
  exact ⟨m, by simp [diffScale, h, hm], (pyMax_ok_iff.mp hm).2⟩

theorem allDurations_swap (jobs1 jobs2 : PyDict Job) (names : List String) :
    (allDurations jobs2 jobs1 names).Perm (allDurations jobs1 jobs2 names) := by
  induction names with
  | nil => exact .nil
  | cons n names ih =>
    simp only [allDurations, List.flatMap_cons] at ih ⊢
    exact List.perm_append_comm.append ih

theorem diffScale_perm {ds ds' : List ℚ} (h : ds.Perm ds') : diffScale ds = diffScale ds' := by
  by_cases hd : ds = []
  · subst hd; rw [List.Perm.nil_eq h]
  have hd' : ds' ≠ [] := fun e => hd (List.Perm.eq_nil (e ▸ h))
  simp [diffScale, hd, hd', pyMax_perm h]

end Figures

/-- The report of two runs: the header, one row per name of a completed job of either run
in increasing order, the aggregate rows and the `KEY INSIGHT` block, with the sums of the
per-name differences as the two totals. -/
theorem renderUnifiedDiff_report (run1 run2 : WorkflowRun) (width : ℤ) :
    ∃ maxDuration wall1 wall2,
      diffScale (allDurations (jobsByName run1) (jobsByName run2)
        (sortedJobNames (jobsByName run1) (jobsByName run2))) = .ok maxDuration ∧
      getWallTime run1 = .ok wall1 ∧ getWallTime run2 = .ok wall2 ∧
      renderUnifiedDiff run1 run2 width = .ok ("\n".intercalate (diffHeader run1 run2 width ++
        (sortedJobNames (jobsByName run1) (jobsByName run2)).map
          (fun n => diffLine maxDuration n ((jobsByName run1).get? n) ((jobsByName run2).get? n)) ++
        diffFooter wall1 wall2 (sumOf Job.runDurationSeconds (jobsByName run1).values)
          (sumOf Job.runDurationSeconds (jobsByName run2).values)
          (sumOf Job.queueDurationSeconds (jobsByName run1).values)
          (sumOf Job.queueDurationSeconds (jobsByName run2).values)
          ((sortedJobNames (jobsByName run1) (jobsByName run2)).map
            fun n => deltaOf Job.runDurationSeconds ((jobsByName run1).get? n) ((jobsByName run2).get? n)).sum
          ((sortedJobNames (jobsByName run1) (jobsByName run2)).map
            fun n => deltaOf Job.queueDurationSeconds ((jobsByName run1).get? n)
              ((jobsByName run2).get? n)).sum
          width)) := by
  obtain ⟨m, hm, -⟩ := diffScale_ok (allDurations (jobsByName run1) (jobsByName run2)
    (sortedJobNames (jobsByName run1) (jobsByName run2)))
  obtain ⟨wall1, hw1⟩ := getWallTime_isOk run1
  obtain ⟨wall2, hw2⟩ := getWallTime_isOk run2
  have hcov : ∀ n ∈ sortedJobNames (jobsByName run1) (jobsByName run2),
      ((jobsByName run1).get? n).isSome ∨ ((jobsByName run2).get? n).isSome :=
    fun _ hn => sortedJobNames_covered hn
  have hloop := foldlM_diffStep (m := m) hcov ⟨[], 0, 0⟩
  refine ⟨m, wall1, wall2, hm, hw1, hw2, ?_⟩
  simp only [renderUnifiedDiff, hm, Py.ok_bind, hloop, hw1, hw2, List.nil_append, zero_add]
  rfl

theorem renderUnifiedDiff_isOk (run1 run2 : WorkflowRun) (width : ℤ) :
    ∃ out, renderUnifiedDiff run1 run2 width = .ok out :=
  let ⟨_, _, _, _, _, _, h⟩ := renderUnifiedDiff_report run1 run2 width
  ⟨_, h⟩

end CiTimeline
