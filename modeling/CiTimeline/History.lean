import CiTimeline.Format
import CiTimeline.Sparkline
import CiTimeline.PyDict
import Mathlib.Data.List.Sort
import Mathlib.Data.List.ReduceOption

/-!
# The history and the comparison views

`render_history` prints one row per run, oldest first, and `render_comparison` one line per run
under its workflow's name; both skip a run without a completed job and read the window of its
completed jobs. The grouping loop of `render_comparison` is a dict of the workflows in the order
of their first run, each holding its runs in input order.
-/

namespace CiTimeline

/-- `sorted(runs, key=lambda r: r.created_at)`: oldest first, runs of equal creation in
their order. -/
def sortByCreated (runs : List WorkflowRun) : List WorkflowRun :=
  runs.insertionSort fun a b => a.createdAt ≤ b.createdAt

theorem sorted_sortByCreated (runs : List WorkflowRun) :
    (sortByCreated runs).Sorted fun a b => a.createdAt ≤ b.createdAt :=
  haveI : IsTotal WorkflowRun fun a b => a.createdAt ≤ b.createdAt := ⟨fun _ _ => le_total _ _⟩
  haveI : IsTrans WorkflowRun fun a b => a.createdAt ≤ b.createdAt := ⟨fun _ _ _ => le_trans⟩
  List.sorted_insertionSort _ runs

def historyLine (id : ℤ) (wallTime buildTime queueTime : ℚ) (sparkline : String) : String :=
  ljust (toString id) 12 ++ " | " ++ rjust (formatDuration wallTime) 7 ++ " | " ++
    rjust (formatDuration buildTime) 7 ++ " | " ++ rjust (formatDuration queueTime) 7 ++ " | " ++
    sparkline

/-- The loop body of `render_history`: the row of a run, `none` for a run it skips. -/
def historyRow (run : WorkflowRun) : Py (Option String) := do
  if run.jobs.isEmpty then return none
  let jobs := run.jobs.filter Job.isCompleted
  if jobs.isEmpty then return none
  let (minT, maxT) ← timeWindow jobs
  let wallTime := maxT - minT
  let buildTime := sumOf Job.runDurationSeconds jobs
  let queueTime := sumOf Job.queueDurationSeconds jobs
  let sparkline ← renderSparkline jobs 40
  return some (historyLine run.id wallTime buildTime queueTime sparkline)

def historyHeader (width : ℤ) : List String :=
  [rep '=' width.toNat, "RUN HISTORY (oldest to newest)", rep '=' width.toNat, "",
    ljust "Run ID" 12 ++ " | " ++ rjust "Wall" 7 ++ " | " ++ rjust "Build" 7 ++ " | " ++
      rjust "Queue" 7 ++ " | Activity",
    rep '-' width.toNat]

def historyFooter (width : ℤ) : List String :=
  [rep '-' width.toNat, "", "Activity: Height shows parallel job count over time (▁▂▃▄▅▆▇█)",
    "          Low blocks at start = queue delay; sustained height = good parallelism"]

def renderHistory (runs : List WorkflowRun) (width : ℤ := 120) : Py String := do
  let rows ← (sortByCreated runs).mapM historyRow
  return "\n".intercalate (historyHeader width ++ rows.reduceOption ++ historyFooter width)

def fileRun (d : PyDict (List WorkflowRun)) (run : WorkflowRun) : PyDict (List WorkflowRun) :=
  d.set run.name ((d.get? run.name).getD [] ++ [run])

/-- The grouping loop of `render_comparison`: the workflows in the order they first
appear, each with its runs in order. -/
def groupByWorkflow (runs : List WorkflowRun) : PyDict (List WorkflowRun) :=
  runs.foldl fileRun []

def comparisonLine (id : ℤ) (total maxQueue : ℚ) : String :=
  "  Run #" ++ toString id ++ ": " ++ formatDuration total ++ " total, " ++
    formatDuration maxQueue ++ " max queue"

/-- The inner loop body of `render_comparison`: the line of a run, `none` for a run it
skips. -/
def comparisonRow (run : WorkflowRun) : Py (Option String) := do
  if run.jobs.isEmpty then return none
  let jobs := run.jobs.filter Job.isCompleted
  if jobs.isEmpty then return none
  let (minTime, maxTime) ← timeWindow jobs
  let total := maxTime - minTime
  let maxQueue := pyMaxDefault (jobs.map Job.queueDurationSeconds) 0
  return some (comparisonLine run.id total maxQueue)

def comparisonGroup (workflowName : String) (workflowRuns : List WorkflowRun) :
    Py (List String) := do
  let rows ← workflowRuns.mapM comparisonRow
  return ["", "Workflow: " ++ workflowName, rep '-' 60] ++ rows.reduceOption

def renderComparison (runs : List WorkflowRun) (width : ℤ := 120) : Py String := do
  let groups ← (groupByWorkflow runs).mapM fun g => comparisonGroup g.1 g.2
  return "\n".intercalate ([rep '=' width.toNat, "WORKFLOW RUN COMPARISON", rep '=' width.toNat] ++
    groups.flatten)

section Rows

variable {run : WorkflowRun} {mn mx : ℚ}

theorem historyRow_of_no_completed (h : run.jobs.filter Job.isCompleted = []) :
    historyRow run = .ok none := by
  unfold historyRow
  split
  · rfl
  · simp [h]

theorem historyRow_eq (hne : run.jobs.filter Job.isCompleted ≠ [])
    (hwin : timeWindow (run.jobs.filter Job.isCompleted) = .ok (mn, mx)) :
    ∃ sparkline, historyRow run = .ok (some (historyLine run.id (mx - mn)
      (sumOf Job.runDurationSeconds (run.jobs.filter Job.isCompleted))
      (sumOf Job.queueDurationSeconds (run.jobs.filter Job.isCompleted)) sparkline)) := by
  obtain ⟨sparkline, hsp, -⟩ := renderSparkline_isOk (run.jobs.filter Job.isCompleted)
    (by norm_num : 0 < 40)
  exact ⟨sparkline, by simp only [historyRow, isEmpty_of_filter_ne_nil hne, List.isEmpty_iff, hne,
    hwin, hsp, Py.ok_bind, if_false, Bool.false_eq_true]; rfl⟩

theorem historyRow_cases (run : WorkflowRun) :
    (run.jobs.any Job.isCompleted = false ∧ historyRow run = .ok none) ∨
      (run.jobs.any Job.isCompleted = true ∧ ∃ row, historyRow run = .ok (some row)) := by
  by_cases hne : run.jobs.filter Job.isCompleted = []
  · exact .inl ⟨by simpa [List.filter_eq_nil_iff] using hne, historyRow_of_no_completed hne⟩
  obtain ⟨mn, mx, hwin, -, -⟩ := timeWindow_ok hne fun j hj => (List.mem_filter.mp hj).2
  obtain ⟨_, hrow⟩ := historyRow_eq hne hwin
  exact .inr ⟨by simpa [List.filter_eq_nil_iff] using hne, _, hrow⟩

theorem comparisonRow_of_no_completed (h : run.jobs.filter Job.isCompleted = []) :
    comparisonRow run = .ok none := by
  unfold comparisonRow
  split
  · rfl
  · simp [h]

theorem comparisonRow_eq (hne : run.jobs.filter Job.isCompleted ≠ [])
    (hwin : timeWindow (run.jobs.filter Job.isCompleted) = .ok (mn, mx)) :
    comparisonRow run = .ok (some (comparisonLine run.id (mx - mn)
      (pyMaxDefault ((run.jobs.filter Job.isCompleted).map Job.queueDurationSeconds) 0))) := by
  simp only [comparisonRow, isEmpty_of_filter_ne_nil hne, List.isEmpty_iff, hne, hwin, Py.ok_bind,
    if_false, Bool.false_eq_true]
  rfl

theorem comparisonRow_cases (run : WorkflowRun) :
    (run.jobs.any Job.isCompleted = false ∧ comparisonRow run = .ok none) ∨
      (run.jobs.any Job.isCompleted = true ∧ ∃ row, comparisonRow run = .ok (some row)) := by
  by_cases hne : run.jobs.filter Job.isCompleted = []
  · exact .inl ⟨by simpa [List.filter_eq_nil_iff] using hne, comparisonRow_of_no_completed hne⟩
  obtain ⟨mn, mx, hwin, -, -⟩ := timeWindow_ok hne fun j hj => (List.mem_filter.mp hj).2
  exact .inr ⟨by simpa [List.filter_eq_nil_iff] using hne, _, comparisonRow_eq hne hwin⟩

theorem comparisonRow_isOk (run : WorkflowRun) : ∃ row, comparisonRow run = .ok row :=
  (comparisonRow_cases run).elim (fun h => ⟨_, h.2⟩) fun ⟨_, _, h⟩ => ⟨_, h⟩

end Rows

section Grouping

theorem get?_foldl_fileRun (runs : List WorkflowRun) (d : PyDict (List WorkflowRun)) (n : String) :
    (runs.foldl fileRun d).get? n =
      if runs.filter (·.name = n) = [] then d.get? n
      else some ((d.get? n).getD [] ++ runs.filter (·.name = n)) := by
  induction runs generalizing d with
  | nil => simp
  | cons run runs ih =>
    rw [List.foldl_cons, ih, fileRun, PyDict.get?_set]
    by_cases h : run.name = n
    · subst h; split <;> simp [List.filter_cons, *]
    · simp [List.filter_cons, h]

theorem get?_groupByWorkflow (runs : List WorkflowRun) (n : String) :
    (groupByWorkflow runs).get? n =
      if runs.filter (·.name = n) = [] then none else some (runs.filter (·.name = n)) := by
  simpa [groupByWorkflow, PyDict.get?] using get?_foldl_fileRun runs [] n

theorem keys_groupByWorkflow (runs : List WorkflowRun) :
    (groupByWorkflow runs).keys = (runs.map (·.name)).reverse.dedup.reverse := by
  induction runs using List.reverseRecOn with
  | nil => rfl
  | append_singleton runs run ih =>
    rw [groupByWorkflow, List.foldl_append, List.foldl_cons, List.foldl_nil, fileRun,
      PyDict.keys_set, ← groupByWorkflow, ih]
    by_cases h : run.name ∈ runs.map (·.name)
    · simp [h, List.dedup_cons_of_mem (List.mem_reverse.mpr h)]
    · simp [h, List.dedup_cons_of_not_mem (mt List.mem_reverse.mp h)]

/-- The grouping of `render_comparison`: each workflow once, in the order of its first run,
holding its runs in input order. -/
theorem groupByWorkflow_spec (runs : List WorkflowRun) :
    (groupByWorkflow runs).keys = (runs.map (·.name)).reverse.dedup.reverse ∧
    ∀ n, (groupByWorkflow runs).get? n =
      if runs.filter (·.name = n) = [] then none else some (runs.filter (·.name = n)) :=
  ⟨keys_groupByWorkflow runs, get?_groupByWorkflow runs⟩

end Grouping

section Reports

variable {runs : List WorkflowRun} {run : WorkflowRun} {width : ℤ} {mn mx : ℚ}

theorem renderHistory_eq (runs : List WorkflowRun) (width : ℤ) :
    ∃ rows, (sortByCreated runs).mapM historyRow = .ok rows ∧
      renderHistory runs width =
        .ok ("\n".intercalate (historyHeader width ++ rows.reduceOption ++ historyFooter width)) := by
  obtain ⟨rows, hrows, -⟩ := Py.mapM_reduceOption historyRow_cases (sortByCreated runs)
  exact ⟨rows, hrows, by rw [renderHistory, hrows]; rfl⟩

/-- Between its header and its footer, the history prints one row per run with a completed
job, oldest first: the runs it shows are those runs, sorted by creation. -/
theorem renderHistory_rows (runs : List WorkflowRun) (width : {w : ℤ // FitsSsize w}) :
    ∃ rows, renderHistory runs width =
        .ok ("\n".intercalate (historyHeader width ++ rows ++ historyFooter width)) ∧
      List.Forall₂ (fun run row => historyRow run = .ok (some row))
        ((sortByCreated runs).filter (·.jobs.any Job.isCompleted)) rows ∧
      ((sortByCreated runs).filter (·.jobs.any Job.isCompleted)).Sorted
        (fun a b => a.createdAt ≤ b.createdAt) ∧
      ((sortByCreated runs).filter (·.jobs.any Job.isCompleted)).Perm
        (runs.filter (·.jobs.any Job.isCompleted)) := by
  obtain ⟨rows, hrows, hF⟩ := Py.mapM_reduceOption historyRow_cases (sortByCreated runs)
  exact ⟨_, by rw [renderHistory, hrows]; rfl, hF, (sorted_sortByCreated runs).filter _,
    (List.perm_insertionSort _ runs).filter _⟩

theorem renderHistory_isOk (runs : List WorkflowRun) (width : ℤ) :
    ∃ out, renderHistory runs width = .ok out :=
  let ⟨_, _, h⟩ := renderHistory_eq runs width
  ⟨_, h⟩

theorem comparisonGroup_isOk (workflowName : String) (workflowRuns : List WorkflowRun) :
    ∃ rows, workflowRuns.mapM comparisonRow = .ok rows ∧
      comparisonGroup workflowName workflowRuns =
        .ok (["", "Workflow: " ++ workflowName, rep '-' 60] ++ rows.reduceOption) := by
  obtain ⟨rows, hrows⟩ := Py.mapM_isOk (l := workflowRuns) fun r _ => comparisonRow_isOk r
  exact ⟨rows, hrows, by rw [comparisonGroup, hrows]; rfl⟩

theorem comparisonGroup_eq (workflowName : String) (workflowRuns : List WorkflowRun) :
    ∃ rows, comparisonGroup workflowName workflowRuns =
        .ok (["", "Workflow: " ++ workflowName, rep '-' 60] ++ rows) ∧
      List.Forall₂ (fun run row => comparisonRow run = .ok (some row))
        (workflowRuns.filter (·.jobs.any Job.isCompleted)) rows := by
  obtain ⟨rows, hrows, hF⟩ := Py.mapM_reduceOption comparisonRow_cases workflowRuns
  exact ⟨_, by rw [comparisonGroup, hrows]; rfl, hF⟩

theorem renderComparison_eq (runs : List WorkflowRun) (width : ℤ) :
    ∃ groups, (groupByWorkflow runs).mapM (fun g => comparisonGroup g.1 g.2) = .ok groups ∧
      renderComparison runs width = .ok ("\n".intercalate ([rep '=' width.toNat,
        "WORKFLOW RUN COMPARISON", rep '=' width.toNat] ++ groups.flatten)) := by
  obtain ⟨groups, hgroups⟩ := Py.mapM_isOk (l := groupByWorkflow runs) fun g _ =>
    let ⟨_, _, h⟩ := comparisonGroup_isOk g.1 g.2
    ⟨_, h⟩
  exact ⟨groups, hgroups, by rw [renderComparison, hgroups]; rfl⟩

theorem renderComparison_isOk (runs : List WorkflowRun) (width : ℤ) :
    ∃ out, renderComparison runs width = .ok out :=
  let ⟨_, _, h⟩ := renderComparison_eq runs width
  ⟨_, h⟩

/-- The comparison prints, below its banner, one block per workflow in the order of its first
run; a block is the workflow's heading and then one line per run of that workflow with a
completed job, in input order. -/
theorem renderComparison_blocks (runs : List WorkflowRun) (width : {w : ℤ // FitsSsize w}) :
    ∃ blocks, renderComparison runs width = .ok ("\n".intercalate ([rep '=' width.1.toNat,
        "WORKFLOW RUN COMPARISON", rep '=' width.1.toNat] ++ blocks.flatten)) ∧
      List.Forall₂ (fun name block => ∃ rows,
          block = ["", "Workflow: " ++ name, rep '-' 60] ++ rows ∧
          List.Forall₂ (fun run row => comparisonRow run = .ok (some row))
            ((runs.filter (·.name = name)).filter (·.jobs.any Job.isCompleted)) rows)
        (runs.map (·.name)).reverse.dedup.reverse blocks := by
  obtain ⟨groups, hgroups, hout⟩ := renderComparison_eq runs width
  have hnodup : (groupByWorkflow runs).keys.Nodup := by
    rw [keys_groupByWorkflow]; exact List.nodup_reverse.mpr (List.nodup_dedup _)
  have hval : ∀ g ∈ groupByWorkflow runs, g.2 = runs.filter (·.name = g.1) := fun g hg => by
    have hget := PyDict.get?_of_mem hnodup hg
    rw [get?_groupByWorkflow] at hget
    split at hget
    · cases hget
    · exact (Option.some.inj hget).symm
  refine ⟨groups, hout, ?_⟩
  rw [← keys_groupByWorkflow, PyDict.keys, List.forall₂_map_left_iff]
  refine ((List.forall₂_and_left _ _).mpr ⟨hval, Py.forall₂_of_mapM_ok hgroups⟩).imp
    fun g block ⟨hv, hblock⟩ => ?_
  obtain ⟨rows, hrows, hR⟩ := comparisonGroup_eq g.1 g.2
  exact ⟨rows, Except.ok.inj (hblock.symm.trans hrows), hv ▸ hR⟩

end Reports

end CiTimeline
