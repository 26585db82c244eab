import CiTimeline.Job
import CiTimeline.Timestamp

/-!
# Fetching runs: the script's effects and `get_run_details`

The script talks to GitHub through `gh`: `run_gh_api` returns the parsed response, or prints
`gh`'s error and calls `sys.exit(1)`. `World` is GitHub as the script sees it, one function per
query. `Script` prints on stdout and stderr and stops by `sys.exit`, by an uncaught exception,
or where the model stops covering the input; `Script.Calm m post` says that from any terminal
`m` returns a value satisfying `post` or stops by `sys.exit`.
-/

namespace CiTimeline

/-! ## The script's effects -/

/-- How a run of the script stops before the end of `main`. -/
inductive Stop
  /-- `sys.exit(code)`. -/
  | exit (code : ℕ)
  /-- An exception that nothing catches. -/
  | raised (e : PyError)
  /-- Input the model leaves out: a timestamp outside GitHub's form, or a creation time that
  is `None`. -/
  | unmodelled
  deriving DecidableEq, Repr

structure Terminal where
  stdout : List String
  stderr : List String
  deriving DecidableEq, Repr

abbrev Script := ExceptT Stop (StateM Terminal)

def print (s : String) : Script Unit := modify fun t => { t with stdout := t.stdout ++ [s] }

def printErr (s : String) : Script Unit := modify fun t => { t with stderr := t.stderr ++ [s] }

def sysExit {α : Type} (code : ℕ) : Script α := throw (.exit code)

def liftPy {α : Type} : Py α → Script α
  | .ok a => pure a
  | .error e => throw (.raised e)

@[simp] theorem liftPy_ok {α : Type} (a : α) : liftPy (.ok a) = pure a := rfl

/-- A computation the model covers in part: `none` leaves the model. -/
def liftModelled {α : Type} : Option (Py α) → Script α
  | some r => liftPy r
  | none => throw .unmodelled

namespace Script

variable {α β : Type}

def exec (m : Script α) (t : Terminal) : Except Stop α × Terminal := m.run.run t

@[simp] theorem exec_pure (a : α) (t : Terminal) : (pure a : Script α).exec t = (.ok a, t) := rfl

@[simp] theorem exec_throw (s : Stop) (t : Terminal) :
    (throw s : Script α).exec t = (.error s, t) := rfl

@[simp] theorem exec_sysExit (code : ℕ) (t : Terminal) :
    (sysExit code : Script α).exec t = (.error (.exit code), t) := rfl

@[simp] theorem exec_print (s : String) (t : Terminal) :
    (print s).exec t = (.ok (), { t with stdout := t.stdout ++ [s] }) := rfl

@[simp] theorem exec_printErr (s : String) (t : Terminal) :
    (printErr s).exec t = (.ok (), { t with stderr := t.stderr ++ [s] }) := rfl

theorem exec_bind (x : Script α) (f : α → Script β) (t : Terminal) :
    (x >>= f).exec t = match x.exec t with
      | (.ok a, t') => (f a).exec t'
      | (.error e, t') => (.error e, t') := by
  simp only [exec, ExceptT.run_bind, StateT.run_bind]
  rcases x.run.run t with ⟨_ | _, t'⟩ <;> rfl

theorem exec_bind_of_ok {x : Script α} {t t' : Terminal} {a : α} (h : x.exec t = (.ok a, t'))
    (f : α → Script β) : (x >>= f).exec t = (f a).exec t' := by
  rw [exec_bind, h]

theorem exec_bind_of_error {x : Script α} {t t' : Terminal} {s : Stop}
    (h : x.exec t = (.error s, t')) (f : α → Script β) : (x >>= f).exec t = (.error s, t') := by
  rw [exec_bind, h]

def Settles (post : α → Prop) : Except Stop α → Prop
  | .ok a => post a
  | .error (.exit _) => True
  | .error _ => False

/-- From any terminal, `m` returns a value satisfying `post` or stops by `sys.exit`: it never
raises and never leaves the model. -/
def Calm (m : Script α) (post : α → Prop) : Prop := ∀ t, Settles post (m.exec t).1

theorem calm_pure {Q : α → Prop} {a : α} (h : Q a) : (pure a : Script α).Calm Q :=
  fun _ => h

theorem calm_sysExit {Q : α → Prop} (code : ℕ) : (sysExit code : Script α).Calm Q :=
  fun _ => trivial

theorem calm_sysExit_bind {Q : β → Prop} (code : ℕ) (f : α → Script β) :
    (sysExit code >>= f).Calm Q := fun t => by
  rw [exec_bind_of_error (exec_sysExit code t)]; trivial

theorem calm_pure_bind {Q : β → Prop} {a : α} {f : α → Script β} (h : (f a).Calm Q) :
    (pure a >>= f).Calm Q := fun t => by rw [exec_bind_of_ok (exec_pure a t)]; exact h t

theorem calm_print (s : String) : (print s).Calm fun _ => True := fun _ => trivial

theorem calm_printErr (s : String) : (printErr s).Calm fun _ => True := fun _ => trivial

theorem calm_liftPy {Q : α → Prop} {r : Py α} {a : α} (h : r = .ok a) (ha : Q a) :
    (liftPy r).Calm Q := fun _ => by rw [h]; exact ha

theorem calm_liftPy_ok {r : Py α} {a : α} (h : r = .ok a) : (liftPy r).Calm fun _ => True :=
  calm_liftPy h trivial

theorem Calm.mono {m : Script α} {P Q : α → Prop} (h : m.Calm P) (hPQ : ∀ a, P a → Q a) :
    m.Calm Q := fun t => by
  have := h t
  revert this
  rcases (m.exec t).1 with (_ | _ | _) | a <;> first | exact id | exact hPQ a

theorem Calm.bind {x : Script α} {f : α → Script β} {P : α → Prop} {Q : β → Prop}
    (hx : x.Calm P) (hf : ∀ a, P a → (f a).Calm Q) : (x >>= f).Calm Q := fun t => by
  have := hx t
  rw [exec_bind]
  revert this
  rcases x.exec t with ⟨(_ | _ | _) | a, t'⟩ <;> first | exact id | exact fun ha => hf a ha t'

theorem Calm.mapM {f : α → Script β} {R : α → β → Prop} :
    ∀ {l : List α}, (∀ a ∈ l, (f a).Calm (R a)) → (l.mapM f).Calm (List.Forall₂ R l)
  | [], _ => calm_pure .nil
  | a :: l, h => by
    rw [List.mapM_cons]
    exact (h a (List.mem_cons_self a l)).bind fun b hb =>
      (Calm.mapM fun a' ha' => h a' (List.mem_cons_of_mem a ha')).bind fun _ hbs =>
        calm_pure (.cons hb hbs)

def Returns (m : Script α) (a : α) : Prop := ∀ t, m.exec t = (.ok a, t)

theorem returns_pure (a : α) : (pure a : Script α).Returns a := fun _ => rfl

theorem Returns.bind {x : Script α} {f : α → Script β} {a : α} {b : β} (hx : x.Returns a)
    (hf : (f a).Returns b) : (x >>= f).Returns b := fun t => by
  rw [exec_bind_of_ok (hx t), hf t]

theorem Returns.calm {m : Script α} {a : α} {Q : α → Prop} (h : m.Returns a) (ha : Q a) :
    m.Calm Q := fun t => by rw [h t]; exact ha

theorem returns_mapM {f : α → Script β} {R : α → β → Prop} :
    ∀ {l : List α}, (∀ a ∈ l, ∃ b, (f a).Returns b ∧ R a b) →
      ∃ bs, (l.mapM f).Returns bs ∧ List.Forall₂ R l bs
  | [], _ => ⟨[], returns_pure [], .nil⟩
  | a :: l, h => by
    obtain ⟨b, hb, hR⟩ := h a (List.mem_cons_self a l)
    obtain ⟨bs, hbs, hRs⟩ := returns_mapM fun a' ha' => h a' (List.mem_cons_of_mem a ha')
    rw [List.mapM_cons]
    exact ⟨b :: bs, hb.bind (hbs.bind (returns_pure _)), .cons hR hRs⟩

theorem Calm.forM {f : α → Script Unit} :
    ∀ {l : List α}, (∀ a ∈ l, (f a).Calm fun _ => True) → (l.forM f).Calm fun _ => True
  | [], _ => calm_pure trivial
  | a :: l, h => by
    rw [List.forM_cons']
    exact (h a (List.mem_cons_self a l)).bind fun _ _ =>
      Calm.forM fun a' ha' => h a' (List.mem_cons_of_mem a ha')

end Script

/-! ## GitHub -/

structure ApiJob where
  name : String
  status : String
  conclusion : Option String
  createdAt : Option String
  startedAt : Option String
  completedAt : Option String
  deriving DecidableEq, Repr

structure ApiRun where
  id : ℤ
  name : String
  status : String
  conclusion : Option String
  createdAt : String
  runStartedAt : Option String
  updatedAt : String
  deriving DecidableEq, Repr

structure RunSummary where
  id : ℤ
  name : String
  status : String
  conclusion : Option String
  createdAt : String
  deriving DecidableEq, Repr

/-- GitHub as `gh` reaches it. `repoView` is what `gh repo view` prints when it succeeds; each
query of `gh api` answers with the response or with the text `gh` printed on stderr. The
repository comes first, as in the endpoint `repos/{repo}/...`. -/
structure World where
  /-- `gh repo view --json nameWithOwner -q .nameWithOwner`. -/
  repoView : Option String
  /-- `actions/runs/{run_id}`. -/
  run : String → ℤ → Except String ApiRun
  /-- `actions/runs/{run_id}/jobs`, its `"jobs"` (`[]` when absent). -/
  runJobs : String → ℤ → Except String (List ApiJob)
  /-- `pulls/{pr}`, its `["head"]["sha"]`. -/
  pullHeadSha : String → ℤ → Except String String
  /-- `actions/runs?head_sha={sha}`, its `"workflow_runs"` (`[]` when absent). -/
  runsForSha : String → String → Except String (List RunSummary)
  /-- `actions/runs?branch={branch}&per_page={limit}`, its `"workflow_runs"`. -/
  runsForBranch : String → String → ℤ → Except String (List RunSummary)

def runGhApi {α : Type} : Except String α → Script α
  | .ok a => pure a
  | .error stderr => do
    printErr ("Error running gh api: " ++ stderr)
    sysExit 1

def pyOr (a b : Option String) : Option String :=
  match a with
  | some s => if s = "" then b else a
  | none => b

def readTimestamp (s : Option String) : Script (Option DateTime) := liftModelled (parseDatetime s)

def requireInstant : Option DateTime → Script ℚ
  | some t => pure t.instant
  | none => throw .unmodelled

def readJob (runData : ApiRun) (j : ApiJob) : Script Job := do
  let createdAt ← readTimestamp (pyOr j.createdAt (some runData.createdAt))
  let startedAt ← readTimestamp j.startedAt
  let completedAt ← readTimestamp j.completedAt
  pure ⟨j.name, ← requireInstant createdAt, startedAt.map DateTime.instant,
    completedAt.map DateTime.instant⟩

def getRunDetails (w : World) (repo : String) (runId : ℤ) : Script WorkflowRun := do
  let runData ← runGhApi (w.run repo runId)
  let jobsData ← runGhApi (w.runJobs repo runId)
  let jobs ← jobsData.mapM (readJob runData)
  let createdAt ← readTimestamp (some runData.createdAt)
  let _ ← readTimestamp runData.runStartedAt
  let _ ← readTimestamp (some runData.updatedAt)
  pure ⟨runData.id, runData.name, runData.status, runData.conclusion,
    ← requireInstant createdAt, jobs⟩

def getRunsForCommit (w : World) (sha repo : String) : Script (List ℤ) := do
  let runsData ← runGhApi (w.runsForSha repo sha)
  pure (runsData.map RunSummary.id)

def getRunsForPr (w : World) (prNumber : ℤ) (repo : String) : Script (List ℤ) := do
  let headSha ← runGhApi (w.pullHeadSha repo prNumber)
  getRunsForCommit w headSha repo

def getRunsForBranch (w : World) (branch repo : String) (limit : ℤ) :
    Script (List RunSummary) :=
  runGhApi (w.runsForBranch repo branch limit)

/-! ## Reading well-formed answers -/

def IsGithubTime (s : String) : Prop := ∃ t : DateTime, s = githubTimestamp t.fields

def Readable (s : String) : Prop := s = "" ∨ IsGithubTime s

/-- Every timestamp in GitHub's answers is its text of a datetime; the keys that may be missing
or empty (a job's times, the run's start and update) may also be so. -/
structure World.WellFormed (w : World) : Prop where
  run : ∀ repo runId r, w.run repo runId = .ok r →
    IsGithubTime r.createdAt ∧ (∀ s ∈ r.runStartedAt, Readable s) ∧ Readable r.updatedAt
  jobs : ∀ repo runId js, w.runJobs repo runId = .ok js → ∀ j ∈ js,
    (∀ s ∈ j.createdAt, Readable s) ∧ (∀ s ∈ j.startedAt, Readable s) ∧
      ∀ s ∈ j.completedAt, Readable s

/-- `x` is what an optional timestamp text says: `None` when it is missing or empty, the
instant of the datetime otherwise. -/
def Reads : Option String → Option ℚ → Prop
  | none, x => x = none
  | some s, x => (s = "" ∧ x = none) ∨ ∃ t : DateTime, s = githubTimestamp t.fields ∧ x = t.instant

def ReadsJob (runData : ApiRun) (j : ApiJob) (job : Job) : Prop :=
  job.name = j.name ∧ Reads (pyOr j.createdAt (some runData.createdAt)) (some job.createdAt) ∧
    Reads j.startedAt job.startedAt ∧ Reads j.completedAt job.completedAt

def ReadsRun (r : ApiRun) (js : List ApiJob) (run : WorkflowRun) : Prop :=
  run.id = r.id ∧ run.name = r.name ∧ run.status = r.status ∧ run.conclusion = r.conclusion ∧
    Reads (some r.createdAt) (some run.createdAt) ∧ List.Forall₂ (ReadsJob r) js run.jobs

section Reading

variable {w : World} {repo : String} {runId : ℤ} {runData : ApiRun} {r : ApiRun}
  {js : List ApiJob} {o : Option String}

theorem runGhApi_ok {α : Type} (a : α) : runGhApi (.ok a) = pure a := rfl

theorem calm_runGhApi {α : Type} {Q : α → Prop} {x : Except String α}
    (h : ∀ a, x = .ok a → Q a) : (runGhApi x).Calm Q := by
  cases x with
  | ok a => exact Script.calm_pure (h a rfl)
  | error e => exact (Script.calm_printErr _).bind fun _ _ => Script.calm_sysExit 1

theorem readTimestamp_returns (h : ∀ s ∈ o, Readable s) :
    ∃ d, (readTimestamp o).Returns d ∧ Reads o (d.map DateTime.instant) := by
  match o, h with
  | none, _ => exact ⟨none, Script.returns_pure none, rfl⟩
  | some s, h =>
    rcases h s rfl with rfl | ⟨t, rfl⟩
    · exact ⟨none, Script.returns_pure none, .inl ⟨rfl, rfl⟩⟩
    · refine ⟨some t, ?_, .inr ⟨t, rfl, rfl⟩⟩
      rw [readTimestamp, parseDatetime_dateTime]
      exact Script.returns_pure _

theorem readTimestamp_of_isGithubTime {s : String} (h : IsGithubTime s) :
    ∃ t, (readTimestamp (some s)).Returns (some t) ∧ s = githubTimestamp t.fields := by
  obtain ⟨t, rfl⟩ := h
  exact ⟨t, by rw [readTimestamp, parseDatetime_dateTime]; exact Script.returns_pure _, rfl⟩

theorem isGithubTime_pyOr (hj : ∀ s ∈ o, Readable s) (hr : IsGithubTime runData.createdAt) :
    ∃ s, pyOr o (some runData.createdAt) = some s ∧ IsGithubTime s := by
  match o, hj with
  | none, _ => exact ⟨_, rfl, hr⟩
  | some s, hj =>
    by_cases hs : s = ""
    · exact ⟨_, if_pos hs, hr⟩
    · exact ⟨s, if_neg hs, (hj s rfl).resolve_left hs⟩

theorem readJob_returns {j : ApiJob} (hr : IsGithubTime runData.createdAt)
    (hj : (∀ s ∈ j.createdAt, Readable s) ∧ (∀ s ∈ j.startedAt, Readable s) ∧
      ∀ s ∈ j.completedAt, Readable s) :
    ∃ job, (readJob runData j).Returns job ∧ ReadsJob runData j job := by
  obtain ⟨s, hs, hgh⟩ := isGithubTime_pyOr hj.1 hr
  obtain ⟨c, hc, rfl⟩ := readTimestamp_of_isGithubTime hgh
  obtain ⟨d₁, hd₁, hR₁⟩ := readTimestamp_returns hj.2.1
  obtain ⟨d₂, hd₂, hR₂⟩ := readTimestamp_returns hj.2.2
  refine ⟨⟨j.name, c.instant, d₁.map DateTime.instant, d₂.map DateTime.instant⟩, ?_,
    rfl, by rw [hs]; exact .inr ⟨c, rfl, rfl⟩, hR₁, hR₂⟩
  rw [readJob, hs]
  exact hc.bind (hd₁.bind (hd₂.bind (Script.returns_pure _)))

/-- `get_run_details` reads a well-formed answer exactly and prints nothing: the run's keys as
given, its creation instant, and one job per job of the answer, in the answer's order, each
read as `ReadsJob` says (a job without a creation time takes the run's). -/
theorem getRunDetails_reads (hw : w.WellFormed) (hr : w.run repo runId = .ok r)
    (hj : w.runJobs repo runId = .ok js) :
    ∃ run, (getRunDetails w repo runId).Returns run ∧ ReadsRun r js run := by
  obtain ⟨hc, hs, hu⟩ := hw.run repo runId r hr
  obtain ⟨jobs, hjobs, hR⟩ := Script.returns_mapM (f := readJob r) (R := ReadsJob r) fun j hj' =>
    readJob_returns hc (hw.jobs repo runId js hj j hj')
  obtain ⟨c, hcr, hct⟩ := readTimestamp_of_isGithubTime hc
  obtain ⟨d, hd, -⟩ := readTimestamp_returns hs
  obtain ⟨u, hu', -⟩ := readTimestamp_returns (o := some r.updatedAt) fun s hs' => by
    cases hs'; exact hu
  refine ⟨⟨r.id, r.name, r.status, r.conclusion, c.instant, jobs⟩, ?_, rfl, rfl, rfl, rfl,
    .inr ⟨c, hct, rfl⟩, hR⟩
  rw [getRunDetails, hr, hj, runGhApi_ok, runGhApi_ok]
  exact (Script.returns_pure r).bind <| (Script.returns_pure js).bind <| hjobs.bind <|
    hcr.bind <| hd.bind <| hu'.bind <| Script.returns_pure _

def oneRunData (runId : ℤ) : ApiRun :=
  ⟨runId, "CI", "completed", some "success", "2024-05-01T10:00:00Z", some "2024-05-01T10:00:05Z",
    "2024-05-01T10:10:00Z"⟩

def oneRunJobs : List ApiJob :=
  [⟨"build", "completed", some "success", some "2024-05-01T10:00:00Z", some "2024-05-01T10:01:00Z",
    some "2024-05-01T10:09:00Z"⟩]

/-- A GitHub with one run of one job; every pull request is unknown. -/
def oneRunWorld : World where
  repoView := some "owner/repo\n"
  run _ runId := .ok (oneRunData runId)
  runJobs _ _ := .ok oneRunJobs
  pullHeadSha _ _ := .error "HTTP 404: Not Found"
  runsForSha _ _ := .ok []
  runsForBranch _ _ _ := .ok []

theorem oneRunWorld_wellFormed : oneRunWorld.WellFormed where
  run _ _ r hr := by
    cases hr
    dsimp only [oneRunData]
    exact ⟨⟨⟨⟨2024, 5, 1, 10, 0, 0⟩, by decide⟩, by decide⟩,
      fun s hs => by cases hs; exact .inr ⟨⟨⟨2024, 5, 1, 10, 0, 5⟩, by decide⟩, by decide⟩,
      .inr ⟨⟨⟨2024, 5, 1, 10, 10, 0⟩, by decide⟩, by decide⟩⟩
  jobs _ _ js hjs j hj := by
    cases hjs
    obtain rfl := List.mem_singleton.mp hj
    dsimp only
    exact ⟨fun s hs => by cases hs; exact .inr ⟨⟨⟨2024, 5, 1, 10, 0, 0⟩, by decide⟩, by decide⟩,
      fun s hs => by cases hs; exact .inr ⟨⟨⟨2024, 5, 1, 10, 1, 0⟩, by decide⟩, by decide⟩,
      fun s hs => by cases hs; exact .inr ⟨⟨⟨2024, 5, 1, 10, 9, 0⟩, by decide⟩, by decide⟩⟩

theorem getRunDetails_reads_oneRunWorld : oneRunWorld.WellFormed ∧
    oneRunWorld.run "owner/repo" 7 = .ok (oneRunData 7) ∧
    oneRunWorld.runJobs "owner/repo" 7 = .ok oneRunJobs ∧
    ∃ run, (getRunDetails oneRunWorld "owner/repo" 7).Returns run ∧
      ReadsRun (oneRunData 7) oneRunJobs run :=
  ⟨oneRunWorld_wellFormed, rfl, rfl, getRunDetails_reads oneRunWorld_wellFormed rfl rfl⟩

theorem calm_runGhApi_error {α β : Type} {Q : β → Prop} (e : String) (f : α → Script β) :
    (runGhApi (.error e) >>= f).Calm Q :=
  (calm_runGhApi (Q := fun _ => False) fun _ h => by cases h).bind fun _ h => h.elim

theorem getRunDetails_calm (hw : w.WellFormed) :
    (getRunDetails w repo runId).Calm fun _ => True := by
  cases hr : w.run repo runId with
  | error e => rw [getRunDetails, hr]; exact calm_runGhApi_error e _
  | ok r =>
    cases hj : w.runJobs repo runId with
    | error e =>
      rw [getRunDetails, hr, hj, runGhApi_ok]
      exact (Script.calm_pure (Q := fun _ => True) trivial).bind fun _ _ =>
        calm_runGhApi_error e _
    | ok js =>
      obtain ⟨run, hrun, -⟩ := getRunDetails_reads hw hr hj
      exact hrun.calm trivial

end Reading

end CiTimeline
