import CiTimeline.Format
import CiTimeline.Sparkline
import CiTimeline.NormalizeJobName
import Mathlib.Data.List.Sort

/-!
# The single-run view

`render_single_run` keeps the jobs that started and completed, gives up with a one-line message
when there are none or when their window has zero span, and otherwise prints a header, one row
per job (longest first, each bar at the scale of the longest job), and a summary of the window,
the sums, the sparkline and the critical path.
-/

namespace CiTimeline

def conclusionOrInProgress : Option String → String
  | some c => if c = "" then "in progress" else c
  | none => "in progress"

/-- `sorted(jobs, key=lambda j: j.total_duration_seconds, reverse=True)`: longest first,
jobs of equal duration in their order. -/
def sortByTotalDesc (jobs : List Job) : List Job :=
  jobs.insertionSort fun a b => b.totalDurationSeconds ≤ a.totalDurationSeconds

/-- `f"{short_name:<{name_width}} {bar}  {queue:>7} {run_time:>7} {total:>7}"`. -/
def singleRunLine (shortName bar queue runTime total : String) : String :=
  ljust shortName 40 ++ " " ++ bar ++ "  " ++ rjust queue 7 ++ " " ++ rjust runTime 7 ++ " " ++
    rjust total 7

def singleRunRow (maxDuration : ℚ) (j : Job) : Py String := do
  let shortName := pyTake (normalizeJobName j.name) 38
  let bar ← renderJobBar j.queueDurationSeconds j.runDurationSeconds maxDuration 20
  let queue := formatDuration j.queueDurationSeconds
  let runTime := formatDuration j.runDurationSeconds
  let total := formatDuration j.totalDurationSeconds
  pure (singleRunLine shortName bar queue runTime total)

def singleRunHeader (run : WorkflowRun) (width : ℤ) : List String :=
  [rep '=' width.toNat, "Workflow: " ++ run.name ++ " (Run #" ++ toString run.id ++ ")",
    "Status: " ++ run.status ++ " / " ++ conclusionOrInProgress run.conclusion,
    rep '=' width.toNat, "",
    ljust "Job" 40 ++ " " ++ ljust "Timeline" 22 ++ " " ++ rjust "Queue" 7 ++ " " ++
      rjust "Run" 7 ++ " " ++ rjust "Total" 7,
    rep '-' width.toNat]

def wallClockLine (totalSeconds totalRun : ℚ) : String :=
  "Wall clock: " ++ rjust (formatDuration totalSeconds) 10 ++ "    Sum of run times: " ++
    rjust (formatDuration totalRun) 10

def maxQueueLine (maxQueue totalQueue : ℚ) : String :=
  "Max queue:  " ++ rjust (formatDuration maxQueue) 10 ++ "    Sum of queue times: " ++
    rjust (formatDuration totalQueue) 10

def singleRunSummary (totalSeconds totalRun maxQueue totalQueue : ℚ) (sparkline : String)
    (lastJob : Job) (width : ℤ) : List String :=
  [rep '-' width.toNat, "", wallClockLine totalSeconds totalRun, maxQueueLine maxQueue totalQueue,
    "", "Activity:   " ++ sparkline,
    "            " ++ center "0" 10 ++ center (formatDuration (totalSeconds / 2)) 30 ++
      rjust (formatDuration totalSeconds) 10,
    "", "Critical path: " ++ normalizeJobName lastJob.name ++ " (queue " ++
      formatDuration lastJob.queueDurationSeconds ++ ", run " ++
      formatDuration lastJob.runDurationSeconds ++ ")",
    "", "Legend: █ running  ░ queued"]

def renderSingleRun (run : WorkflowRun) (width : ℤ := 120) : Py String := do
  if run.jobs.isEmpty then return "No jobs found"
  let jobs := run.jobs.filter Job.hasTiming
  if jobs.isEmpty then return "No completed jobs with timing info"
  let (minTime, maxTime) ← timeWindow jobs
  let totalSeconds := maxTime - minTime
  if totalSeconds = 0 then return "All jobs completed instantly"
  let jobs := sortByTotalDesc jobs
  let maxDuration ← pyMax (jobs.map Job.totalDurationSeconds)
  let rows ← jobs.mapM (singleRunRow maxDuration)
  let totalQueue := sumOf Job.queueDurationSeconds jobs
  let totalRun := sumOf Job.runDurationSeconds jobs
  let maxQueue ← pyMax (jobs.map Job.queueDurationSeconds)
  let sparkline ← renderSparkline jobs 50
  let lastJob ← pyMaxBy Job.completedTime jobs
  return "\n".intercalate (singleRunHeader run width ++ rows ++
    singleRunSummary totalSeconds totalRun maxQueue totalQueue sparkline lastJob width)

section Sorting

variable {jobs : List Job}

theorem perm_sortByTotalDesc (jobs : List Job) : (sortByTotalDesc jobs).Perm jobs :=
  List.perm_insertionSort _ jobs

theorem mem_sortByTotalDesc {j : Job} : j ∈ sortByTotalDesc jobs ↔ j ∈ jobs :=
  (perm_sortByTotalDesc jobs).mem_iff

theorem sortByTotalDesc_ne_nil (h : jobs ≠ []) : sortByTotalDesc jobs ≠ [] := fun e =>
  h (List.Perm.eq_nil (e ▸ (perm_sortByTotalDesc jobs).symm))

theorem sorted_sortByTotalDesc (jobs : List Job) :
    (sortByTotalDesc jobs).Sorted fun a b => b.totalDurationSeconds ≤ a.totalDurationSeconds :=
  haveI : IsTotal Job fun a b => b.totalDurationSeconds ≤ a.totalDurationSeconds :=
    ⟨fun _ _ => le_total _ _⟩
  haveI : IsTrans Job fun a b => b.totalDurationSeconds ≤ a.totalDurationSeconds :=
    ⟨fun _ _ _ h₁ h₂ => h₂.trans h₁⟩
  List.sorted_insertionSort _ jobs

end Sorting

theorem singleRunRow_eq (m : ℚ) (j : Job) : singleRunRow m j =
    .ok (singleRunLine (pyTake (normalizeJobName j.name) 38)
      (jobBar j.queueDurationSeconds j.runDurationSeconds m 20)
      (formatDuration j.queueDurationSeconds) (formatDuration j.runDurationSeconds)
      (formatDuration j.totalDurationSeconds)) := by
  rw [singleRunRow, renderJobBar_eq]; rfl

theorem singleRunRow_isOk (m : ℚ) (j : Job) : ∃ row, singleRunRow m j = .ok row :=
  ⟨_, singleRunRow_eq m j⟩

section Report

variable {run : WorkflowRun} {width : ℤ} {mn mx : ℚ}

/-- The report of a run whose jobs with timing span a non-empty window: header, one row
per job at the scale of the longest, and the summary of that window. -/
theorem renderSingleRun_report (width : ℤ) (hne : run.jobs.filter Job.hasTiming ≠ [])
    (hwin : timeWindow (run.jobs.filter Job.hasTiming) = .ok (mn, mx)) (hspan : mx - mn ≠ 0) :
    ∃ maxDuration rows maxQueue sparkline lastJob,
      pyMax ((sortByTotalDesc (run.jobs.filter Job.hasTiming)).map Job.totalDurationSeconds) =
        .ok maxDuration ∧
      (sortByTotalDesc (run.jobs.filter Job.hasTiming)).mapM (singleRunRow maxDuration) =
        .ok rows ∧
      pyMax ((sortByTotalDesc (run.jobs.filter Job.hasTiming)).map Job.queueDurationSeconds) =
        .ok maxQueue ∧
      renderSparkline (sortByTotalDesc (run.jobs.filter Job.hasTiming)) 50 = .ok sparkline ∧
      pyMaxBy Job.completedTime (sortByTotalDesc (run.jobs.filter Job.hasTiming)) = .ok lastJob ∧
      renderSingleRun run width = .ok ("\n".intercalate (singleRunHeader run width ++ rows ++
        singleRunSummary (mx - mn)
          (sumOf Job.runDurationSeconds (sortByTotalDesc (run.jobs.filter Job.hasTiming)))
          maxQueue
          (sumOf Job.queueDurationSeconds (sortByTotalDesc (run.jobs.filter Job.hasTiming)))
          sparkline lastJob width)) := by
  set jobs := sortByTotalDesc (run.jobs.filter Job.hasTiming) with hjobs
  have hsne : jobs ≠ [] := sortByTotalDesc_ne_nil hne
  have hmap_ne : ∀ f : Job → ℚ, jobs.map f ≠ [] := fun f => by simpa using hsne
  obtain ⟨maxDuration, hmax⟩ := pyMax_ok_of_ne_nil (hmap_ne Job.totalDurationSeconds)
  obtain ⟨rows, hrows⟩ := Py.mapM_isOk (l := jobs) fun j _ => singleRunRow_isOk maxDuration j
  obtain ⟨maxQueue, hmq⟩ := pyMax_ok_of_ne_nil (hmap_ne Job.queueDurationSeconds)
  obtain ⟨sparkline, hsp, -⟩ := renderSparkline_isOk jobs (by norm_num : 0 < 50)
  obtain ⟨lastJob, hlast, -⟩ := pyMaxBy_spec hsne fun j hj => Job.completedTime_of_isCompleted
    (Job.isCompleted_of_hasTiming (List.mem_filter.mp (mem_sortByTotalDesc.mp hj)).2)
  refine ⟨maxDuration, rows, maxQueue, sparkline, lastJob, hmax, hrows, hmq, hsp, hlast, ?_⟩
  simp only [renderSingleRun, isEmpty_of_filter_ne_nil hne, List.isEmpty_iff, hne, hwin, hspan,
    ← hjobs, hmax, hrows, hmq, hsp, hlast, Py.ok_bind, if_false, Bool.false_eq_true]
  rfl

theorem renderSingleRun_isOk (run : WorkflowRun) (width : ℤ) :
    ∃ out, renderSingleRun run width = .ok out := by
  by_cases h₀ : run.jobs = []
  · exact ⟨_, by simp [renderSingleRun, h₀]; rfl⟩
  have h₀' : run.jobs.isEmpty = false := by simpa using h₀
  by_cases hE : run.jobs.filter Job.hasTiming = []
  · exact ⟨_, by simp [renderSingleRun, h₀', hE]; rfl⟩
  obtain ⟨mn, mx, hwin, -, -⟩ := timeWindow_ok hE fun j hj =>
    Job.isCompleted_of_hasTiming (List.mem_filter.mp hj).2
  by_cases hspan : mx - mn = 0
  · exact ⟨_, by simp [renderSingleRun, h₀', hE, hwin, hspan]; rfl⟩
  obtain ⟨_, _, _, _, _, -, -, -, -, -, h⟩ := renderSingleRun_report width hE hwin hspan
  exact ⟨_, h⟩

/-- The single-run view prints, below its header, one row per job with timing, longest total
first, each bar at the scale of the longest job. -/
theorem renderSingleRun_rows (width : ℤ) (hne : run.jobs.filter Job.hasTiming ≠ [])
    (hwin : timeWindow (run.jobs.filter Job.hasTiming) = .ok (mn, mx)) (hspan : mx - mn ≠ 0) :
    ∃ maxDuration rows summary,
      pyMax ((run.jobs.filter Job.hasTiming).map Job.totalDurationSeconds) = .ok maxDuration ∧
      List.Forall₂ (fun j row => singleRunRow maxDuration j = .ok row)
        (sortByTotalDesc (run.jobs.filter Job.hasTiming)) rows ∧
      (sortByTotalDesc (run.jobs.filter Job.hasTiming)).Sorted
        (fun a b => b.totalDurationSeconds ≤ a.totalDurationSeconds) ∧
      (sortByTotalDesc (run.jobs.filter Job.hasTiming)).Perm (run.jobs.filter Job.hasTiming) ∧
      renderSingleRun run width =
        .ok ("\n".intercalate (singleRunHeader run width ++ rows ++ summary)) := by
  obtain ⟨maxDuration, rows, _, _, _, hmax, hrows, -, -, -, hout⟩ :=
    renderSingleRun_report width hne hwin hspan
  exact ⟨maxDuration, rows, _, by rw [← pyMax_perm ((perm_sortByTotalDesc _).map _), hmax],
    Py.forall₂_of_mapM_ok hrows, sorted_sortByTotalDesc _, perm_sortByTotalDesc _, hout⟩

/-- The critical path is the first job, in the order of the rows, of latest completion: a job
whose completion closes the window. -/
theorem renderSingleRun_critical_path (width : ℤ) (hne : run.jobs.filter Job.hasTiming ≠ [])
    (hwin : timeWindow (run.jobs.filter Job.hasTiming) = .ok (mn, mx)) (hspan : mx - mn ≠ 0) :
    ∃ lastJob, IsFirstMax (fun j => j.completedAt.getD 0)
        (sortByTotalDesc (run.jobs.filter Job.hasTiming)) lastJob ∧
      lastJob.completedAt = some mx ∧
      Prints (renderSingleRun run width) ("Critical path: " ++ normalizeJobName lastJob.name ++
        " (queue " ++ formatDuration lastJob.queueDurationSeconds ++ ", run " ++
        formatDuration lastJob.runDurationSeconds ++ ")") := by
  obtain ⟨_, _, _, _, lastJob, -, -, -, -, hlast, hout⟩ := renderSingleRun_report width hne hwin hspan
  have hcompleted : ∀ j ∈ run.jobs.filter Job.hasTiming, j.isCompleted = true :=
    fun j hj => Job.isCompleted_of_hasTiming (List.mem_filter.mp hj).2
  obtain ⟨a, ha, hfirst⟩ := pyMaxBy_spec (sortByTotalDesc_ne_nil hne) fun j hj =>
    Job.completedTime_of_isCompleted (hcompleted j (mem_sortByTotalDesc.mp hj))
  obtain rfl : a = lastJob := Except.ok.inj (ha.symm.trans hlast)
  refine ⟨a, hfirst, ?_, _, hout, by simp [singleRunSummary]⟩
  obtain ⟨_, mx', hwin', -, hmx⟩ := timeWindow_ok hne hcompleted
  obtain rfl : mx' = mx := (Prod.mk.inj (Except.ok.inj (hwin'.symm.trans hwin))).2
  obtain ⟨⟨j, hj, hjc⟩, hle⟩ := (pyMax_ok_iff.mp hmx).imp_left List.mem_filterMap.mp
  have ha_mem := mem_sortByTotalDesc.mp hfirst.mem
  obtain ⟨c, hc⟩ := Option.isSome_iff_exists.mp (hcompleted a ha_mem)
  have hlate : mx' ≤ c := by simpa [hc, hjc] using hfirst.le j (mem_sortByTotalDesc.mpr hj)
  rw [hc, le_antisymm (hle c (List.mem_filterMap.mpr ⟨a, ha_mem, hc⟩)) hlate]

end Report

/-- A run of two jobs, the later-finishing one listed first. -/
def twoJobRun : WorkflowRun :=
  ⟨1, "ci", "completed", some "success", 0,
    [⟨"build", 0, some 0, some 100⟩, ⟨"lint", 0, some 10, some 30⟩]⟩

theorem twoJobRun_timed : twoJobRun.jobs.filter Job.hasTiming ≠ [] := by decide

theorem twoJobRun_window : timeWindow (twoJobRun.jobs.filter Job.hasTiming) = .ok (0, 100) := by
  with_unfolding_all decide

theorem renderSingleRun_rows_of_two_jobs :
    twoJobRun.jobs.filter Job.hasTiming ≠ [] ∧
    timeWindow (twoJobRun.jobs.filter Job.hasTiming) = .ok (0, 100) ∧ (100 : ℚ) - 0 ≠ 0 ∧
    ∃ maxDuration rows summary,
      pyMax ((twoJobRun.jobs.filter Job.hasTiming).map Job.totalDurationSeconds) = .ok maxDuration ∧
      List.Forall₂ (fun j row => singleRunRow maxDuration j = .ok row)
        (sortByTotalDesc (twoJobRun.jobs.filter Job.hasTiming)) rows ∧
      (sortByTotalDesc (twoJobRun.jobs.filter Job.hasTiming)).Sorted
        (fun a b => b.totalDurationSeconds ≤ a.totalDurationSeconds) ∧
      (sortByTotalDesc (twoJobRun.jobs.filter Job.hasTiming)).Perm
        (twoJobRun.jobs.filter Job.hasTiming) ∧
      renderSingleRun twoJobRun 120 =
        .ok ("\n".intercalate (singleRunHeader twoJobRun 120 ++ rows ++ summary)) :=
  ⟨twoJobRun_timed, twoJobRun_window, by norm_num,
    renderSingleRun_rows 120 twoJobRun_timed twoJobRun_window (by norm_num)⟩

theorem renderSingleRun_critical_path_of_two_jobs :
    twoJobRun.jobs.filter Job.hasTiming ≠ [] ∧
    timeWindow (twoJobRun.jobs.filter Job.hasTiming) = .ok (0, 100) ∧ (100 : ℚ) - 0 ≠ 0 ∧
    ∃ lastJob, IsFirstMax (fun j => j.completedAt.getD 0)
        (sortByTotalDesc (twoJobRun.jobs.filter Job.hasTiming)) lastJob ∧
      lastJob.completedAt = some 100 ∧
      Prints (renderSingleRun twoJobRun 120) ("Critical path: " ++ normalizeJobName lastJob.name ++
        " (queue " ++ formatDuration lastJob.queueDurationSeconds ++ ", run " ++
        formatDuration lastJob.runDurationSeconds ++ ")") :=
  ⟨twoJobRun_timed, twoJobRun_window, by norm_num,
    renderSingleRun_critical_path 120 twoJobRun_timed twoJobRun_window (by norm_num)⟩

end CiTimeline
