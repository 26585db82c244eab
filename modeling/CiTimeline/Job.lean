import CiTimeline.PyRuntime
import Mathlib.Algebra.BigOperators.Group.List

/-!
# Jobs and workflow runs

The records the renderers read, with the three derived durations of `Job` and the two filters
every view applies. A `datetime` is a rational number of seconds and `total_seconds()` of a
`timedelta` a difference of two. GitHub's timestamps are whole seconds: on them, at the widths
the script passes, its float arithmetic (the durations, the ratios of the bars and the sparkline,
and `int`, `//` and `%` of them) gives what the rationals give; on sub-second datetimes it need
not. Nothing orders a job's timestamps: `Job.Ordered` is the order the provider promises, and
only the results that need it assume it.
-/

namespace CiTimeline

/-- A job; its `status` and `conclusion` are not read by any renderer. -/
structure Job where
  name : String
  createdAt : ℚ
  startedAt : Option ℚ
  completedAt : Option ℚ
  deriving DecidableEq, Repr

namespace Job

def queueDurationSeconds (j : Job) : ℚ :=
  match j.startedAt with
  | some s => s - j.createdAt
  | none => 0

def runDurationSeconds (j : Job) : ℚ :=
  match j.startedAt, j.completedAt with
  | some s, some c => c - s
  | _, _ => 0

def totalDurationSeconds (j : Job) : ℚ :=
  match j.completedAt with
  | some c => c - j.createdAt
  | none => 0

/-- The filter `j.started_at and j.completed_at`. -/
def hasTiming (j : Job) : Bool := j.startedAt.isSome && j.completedAt.isSome

/-- The filter `j.completed_at`. -/
def isCompleted (j : Job) : Bool := j.completedAt.isSome

def startedTime (j : Job) : Py ℚ :=
  match j.startedAt with
  | some s => pure s
  | none => throw .noneAccess

def completedTime (j : Job) : Py ℚ :=
  match j.completedAt with
  | some c => pure c
  | none => throw .noneAccess

variable {j : Job} {s c : ℚ}

@[simp] theorem hasTiming_iff : j.hasTiming = true ↔ j.startedAt.isSome ∧ j.completedAt.isSome := by
  simp [hasTiming]

theorem isCompleted_of_hasTiming (h : j.hasTiming = true) : j.isCompleted = true :=
  (hasTiming_iff.mp h).2

theorem completedTime_ok (h : j.completedAt = some c) : j.completedTime = .ok c := by
  simp [completedTime, h]

theorem completedTime_of_isCompleted (h : j.isCompleted = true) :
    j.completedTime = .ok (j.completedAt.getD 0) := by
  obtain ⟨c, hc⟩ := Option.isSome_iff_exists.mp h
  simp [completedTime, hc]

theorem startedTime_ok (h : j.startedAt = some s) : j.startedTime = .ok s := by
  simp [startedTime, h]

end Job

/-- A workflow run; `started_at` and `updated_at` are not read by any renderer. -/
structure WorkflowRun where
  id : ℤ
  name : String
  status : String
  conclusion : Option String
  createdAt : ℚ
  jobs : List Job
  deriving DecidableEq, Repr

/-- `min(j.created_at for j in jobs)` and `max(j.completed_at for j in jobs)`, the window
that the single-run view, the sparkline, the history and the comparison all take. -/
def timeWindow (jobs : List Job) : Py (ℚ × ℚ) := do
  let minTime ← pyMin (jobs.map Job.createdAt)
  let maxTime ← pyMax (← jobs.mapM Job.completedTime)
  pure (minTime, maxTime)

def sumOf (f : Job → ℚ) (jobs : List Job) : ℚ := (jobs.map f).sum

section Window

variable {jobs : List Job}

theorem timeWindow_nil : timeWindow [] = .error .valueError := rfl

theorem mapM_completedTime (h : ∀ j ∈ jobs, j.isCompleted = true) :
    jobs.mapM Job.completedTime = .ok (jobs.filterMap Job.completedAt) := by
  induction jobs with
  | nil => rfl
  | cons j jobs ih =>
    obtain ⟨c, hc⟩ := Option.isSome_iff_exists.mp (h j (by simp))
    simp only [List.mapM_cons, Job.completedTime_ok hc, ih fun j hj => h j (by simp [hj]),
      Py.ok_bind, Py.pure_eq_ok, List.filterMap_cons, hc]

theorem timeWindow_ok (hne : jobs ≠ []) (h : ∀ j ∈ jobs, j.isCompleted = true) :
    ∃ mn mx, timeWindow jobs = .ok (mn, mx) ∧
      pyMin (jobs.map Job.createdAt) = .ok mn ∧ pyMax (jobs.filterMap Job.completedAt) = .ok mx := by
  have hne₀ : jobs.map Job.createdAt ≠ [] := by simpa using hne
  obtain ⟨mn, hmn⟩ := pyMin_ok_of_ne_nil hne₀
  have hne' : jobs.filterMap Job.completedAt ≠ [] := by
    obtain ⟨j, hj⟩ := List.exists_mem_of_ne_nil jobs hne
    obtain ⟨c, hc⟩ := Option.isSome_iff_exists.mp (h j hj)
    exact List.ne_nil_of_mem (List.mem_filterMap.mpr ⟨j, hj, hc⟩)
  obtain ⟨mx, hmx⟩ := pyMax_ok_of_ne_nil hne'
  refine ⟨mn, mx, ?_, hmn, hmx⟩
  simp only [timeWindow, hmn, mapM_completedTime h, hmx, Py.ok_bind, Py.pure_eq_ok]

theorem timeWindow_perm {jobs' : List Job} (h : jobs.Perm jobs') (hc : ∀ j ∈ jobs, j.isCompleted = true) :
    timeWindow jobs = timeWindow jobs' := by
  simp only [timeWindow, mapM_completedTime hc,
    mapM_completedTime fun j hj => hc j (h.mem_iff.mpr hj), pyMin_perm (h.map _),
    Py.ok_bind, pyMax_perm (h.filterMap _)]

end Window

end CiTimeline
