import CiTimeline.Fetch
import CiTimeline.SingleRun
import CiTimeline.History
import CiTimeline.UnifiedDiff

/-!
# The command line: `list_runs` and `main`

`main` in the order of its own comments: determine the repository, handle `--list`, handle
`--history`, get the run IDs, fetch their details, and show them. Each part is a definition of
its own. `Args` is the command line as `argparse` leaves it; reading `sys.argv` into it and the
text of `parser.print_help()` are outside the model. Python's truth tests on the options are
kept: a run ID, PR number or `--diff` of `0` counts as absent, and so does an empty string.
-/

namespace CiTimeline

def pyListIndex {α : Type} (xs : List α) (i : ℕ) : Py α :=
  match xs[i]? with
  | some a => .ok a
  | none => .error .indexError

def createdColumn (createdAt : String) : String := pyReplace (pyTake createdAt 19) "T" " "

def listRuns (runsData : List RunSummary) (repo : String) : String :=
  if runsData.isEmpty then "No runs found"
  else
    let header := ljust "Run ID" 12 ++ " " ++ ljust "Workflow" 40 ++ " " ++ ljust "Status" 12 ++
      " " ++ ljust "Created" 20
    let rows := runsData.map fun run =>
      let workflow := pyTake run.name 38
      let status := (pyOr run.conclusion (some run.status)).getD run.status
      let created := createdColumn run.createdAt
      ljust (toString run.id) 12 ++ " " ++ ljust workflow 40 ++ " " ++ ljust status 12 ++ " " ++
        ljust created 20
    "\n".intercalate ([header, rep '-' 90] ++ rows ++
      [rep '-' 90, "", "Use these run IDs with:", "  ./timeline.py <run_id> --repo " ++ repo,
        "  ./timeline.py <run1> --diff <run2> --repo " ++ repo,
        "  ./timeline.py --history <run1> <run2> ... --repo " ++ repo])

/-- The command line as `argparse` leaves it, with its defaults. -/
structure Args where
  runId : Option ℤ := none
  pr : Option ℤ := none
  branch : Option String := none
  commit : Option String := none
  repo : Option String := none
  width : ℤ := 120
  compare : Bool := false
  diff : Option ℤ := none
  history : Option (List ℤ) := none
  list : Bool := false
  limit : ℤ := 10
  deriving DecidableEq, Repr

/-- An optional integer as a condition (`if args.pr:`): absent and `0` are false. -/
def truthyInt (o : Option ℤ) : Option ℤ := o.filter (· != 0)

/-- An optional string as a condition: absent and empty are false. -/
def truthyStr (o : Option String) : Option String := o.filter (· != "")

def determineRepo (args : Args) (w : World) : Script String :=
  match truthyStr args.repo, w.repoView with
  | some repo, _ => pure repo
  | none, some out =>
    if pyStrip out = "" then do
      printErr "Could not determine repository. Use --repo owner/repo"
      sysExit 1
    else pure (pyStrip out)
  | none, none => do
    printErr "Could not determine repository. Use --repo owner/repo"
    sysExit 1

/-- The repository `main` settles on: `--repo` when it is not empty, otherwise what
`gh repo view` printed, stripped, when that is not blank. -/
def RepoFound (args : Args) (w : World) (repo : String) : Prop :=
  truthyStr args.repo = some repo ∨
    truthyStr args.repo = none ∧ ∃ out, w.repoView = some out ∧ pyStrip out = repo ∧ repo ≠ ""

def listMode (args : Args) (w : World) (repo : String) : Script Unit :=
  match truthyStr args.branch, truthyInt args.pr with
  | some branch, _ => do
    let runsData ← getRunsForBranch w branch repo args.limit
    print ("Recent runs for branch '" ++ branch ++ "':\n")
    print (listRuns runsData repo)
  | none, some pr => do
    let headSha ← runGhApi (w.pullHeadSha repo pr)
    let runsData ← runGhApi (w.runsForSha repo headSha)
    print ("Runs for PR #" ++ toString pr ++ " (head: " ++ pyTake headSha 8 ++ "):\n")
    print (listRuns runsData repo)
  | none, none => do
    let runsData ← getRunsForBranch w "main" repo args.limit
    let runsData ← if runsData.isEmpty then getRunsForBranch w "master" repo args.limit
      else pure runsData
    print "Recent runs:\n"
    print (listRuns runsData repo)

def historyIds (args : Args) (w : World) (repo : String) (ids : List ℤ) : Script (List ℤ) :=
  if !ids.isEmpty then pure ids
  else
    match truthyStr args.branch, truthyInt args.pr with
    | some branch, _ => do
      let runsData ← getRunsForBranch w branch repo args.limit
      if runsData.isEmpty then
        printErr ("No workflow runs found for branch " ++ branch)
        sysExit 1
      pure (runsData.map RunSummary.id)
    | none, some pr => do
      let headSha ← runGhApi (w.pullHeadSha repo pr)
      let workflowRuns ← runGhApi (w.runsForSha repo headSha)
      if workflowRuns.isEmpty then
        printErr ("No workflow runs found for PR #" ++ toString pr)
        sysExit 1
      pure (workflowRuns.map RunSummary.id)
    | none, none => do
      printErr "No run IDs provided for --history. Use with --branch or --pr, or provide run IDs."
      sysExit 1

/-- `main`, "Get run IDs"; `helpText` is what `parser.print_help()` prints. -/
def selectRunIds (helpText : String) (args : Args) (w : World) (repo : String) :
    Script (List ℤ) :=
  match truthyInt args.runId, truthyInt args.pr, truthyStr args.branch, truthyStr args.commit with
  | some runId, _, _, _ => pure [runId]
  | none, some pr, _, _ => do
    let runIds ← getRunsForPr w pr repo
    if runIds.isEmpty then
      printErr ("No workflow runs found for PR #" ++ toString pr)
      sysExit 1
    pure runIds
  | none, none, some branch, _ => do
    let runsData ← getRunsForBranch w branch repo 1
    if runsData.isEmpty then
      printErr ("No workflow runs found for branch " ++ branch)
      sysExit 1
    pure [(← liftPy (pyListIndex runsData 0)).id]
  | none, none, none, some commit => do
    let runIds ← getRunsForCommit w commit repo
    if runIds.isEmpty then
      printErr ("No workflow runs found for commit " ++ commit)
      sysExit 1
    pure runIds
  | none, none, none, none => do
    print helpText
    sysExit 1

def fetchRuns (w : World) (repo : String) (runIds : List ℤ) : Script (List WorkflowRun) :=
  runIds.mapM fun runId => do
    printErr ("Fetching run #" ++ toString runId ++ "...")
    getRunDetails w repo runId

def showRuns (args : Args) (w : World) (repo : String) (runs : List WorkflowRun) :
    Script Unit :=
  match truthyInt args.diff with
  | some diff => do
    printErr ("Fetching comparison run #" ++ toString diff ++ "...")
    let diffRun ← getRunDetails w repo diff
    print (← liftPy (renderUnifiedDiff (← liftPy (pyListIndex runs 0)) diffRun args.width))
  | none =>
    if args.compare || runs.length > 1 then do
      print (← liftPy (renderComparison runs args.width))
      print ""
      runs.forM fun run => do
        print (← liftPy (renderSingleRun run args.width))
        print ""
    else do
      print (← liftPy (renderSingleRun (← liftPy (pyListIndex runs 0)) args.width))

def main (helpText : String) (args : Args) (w : World) : Script Unit := do
  let repo ← determineRepo args w
  if args.list then
    listMode args w repo
    sysExit 0
  if let some ids := args.history then
    let ids ← historyIds args w repo ids
    let historyRuns ← fetchRuns w repo ids
    print (← liftPy (renderHistory historyRuns args.width))
    sysExit 0
  let runIds ← selectRunIds helpText args w repo
  let runs ← fetchRuns w repo runIds
  showRuns args w repo runs

section RunList

def displayTimestamp (f : Fields) : String :=
  ⟨padDigits 4 f.year ++ '-' :: padDigits 2 f.month ++ '-' :: padDigits 2 f.day ++ ' ' ::
    padDigits 2 f.hour ++ ':' :: padDigits 2 f.minute ++ ':' :: padDigits 2 f.second⟩

theorem ne_T_of_mem_fields {a b c : ℕ} {w₁ w₂ w₃ : ℕ} {sep : Char} (hsep : sep ≠ 'T') {x : Char}
    (hx : x ∈ padDigits w₁ a ++ sep :: padDigits w₂ b ++ sep :: padDigits w₃ c) : x ≠ 'T' := by
  have hdig : ∀ {w n}, x ∈ padDigits w n → x ≠ 'T' := fun h e =>
    absurd (isDigit_of_mem_padDigits h) (by rw [e]; decide)
  rw [List.mem_append, List.mem_cons, List.mem_append, List.mem_cons] at hx
  rcases hx with (h | rfl | h) | rfl | h <;> first | exact hdig h | exact hsep

/-- The Created column of `list_runs` shows GitHub's timestamp as `YYYY-MM-DD HH:MM:SS`: the
`Z` is cut and the one `T` becomes a space, whatever the fields. -/
theorem createdColumn_githubTimestamp (f : Fields) :
    createdColumn (githubTimestamp f) = displayTimestamp f := by
  have hd : ∀ x ∈ padDigits 4 f.year ++ '-' :: padDigits 2 f.month ++ '-' :: padDigits 2 f.day,
      x ≠ 'T' := fun _ hx => ne_T_of_mem_fields (by decide) hx
  have ht : ∀ x ∈ padDigits 2 f.hour ++ ':' :: padDigits 2 f.minute ++ ':' :: padDigits 2 f.second,
      x ≠ 'T' := fun _ hx => ne_T_of_mem_fields (by decide) hx
  have hlen : (padDigits 4 f.year ++ '-' :: padDigits 2 f.month ++ '-' :: padDigits 2 f.day ++
      'T' :: padDigits 2 f.hour ++ ':' :: padDigits 2 f.minute ++ ':' :: padDigits 2 f.second).length
      = 19 := by
    simp only [List.length_append, List.length_cons, length_padDigits]
  have htext : (githubTimestamp f).data = (padDigits 4 f.year ++ '-' :: padDigits 2 f.month ++
      '-' :: padDigits 2 f.day ++ 'T' :: padDigits 2 f.hour ++ ':' :: padDigits 2 f.minute ++ ':' ::
      padDigits 2 f.second) ++ ['Z'] := rfl
  apply String.ext
  rw [createdColumn, pyReplace, pyTake]
  dsimp only
  rw [htext, List.take_left' hlen]
  have e : padDigits 4 f.year ++ '-' :: padDigits 2 f.month ++ '-' :: padDigits 2 f.day ++
      'T' :: padDigits 2 f.hour ++ ':' :: padDigits 2 f.minute ++ ':' :: padDigits 2 f.second =
      (padDigits 4 f.year ++ '-' :: padDigits 2 f.month ++ '-' :: padDigits 2 f.day) ++
      'T' :: (padDigits 2 f.hour ++ ':' :: padDigits 2 f.minute ++ ':' :: padDigits 2 f.second) := by
    simp only [List.append_assoc, List.cons_append]
  rw [e, replaceScan_single hd ht]
  simp only [displayTimestamp, List.append_assoc, List.cons_append]

end RunList

section Safety

open Script

variable {helpText repo : String} {args : Args} {w : World}

theorem calm_printErr_exit {α β : Type} {post : β → Prop} (s : String) (code : ℕ)
    (f : α → Script β) : (printErr s >>= fun _ => sysExit code >>= f).Calm post :=
  (calm_printErr s).bind fun _ _ => calm_sysExit_bind code f

theorem pyListIndex_zero {α : Type} {xs : List α} (h : xs ≠ []) : ∃ a, pyListIndex xs 0 = .ok a := by
  cases xs with
  | nil => exact absurd rfl h
  | cons a _ => exact ⟨a, by rw [pyListIndex, List.getElem?_cons_zero]⟩

theorem determineRepo_calm : (determineRepo args w).Calm fun _ => True := by
  unfold determineRepo
  split
  · exact calm_pure trivial
  · split
    · exact (calm_printErr _).bind fun _ _ => calm_sysExit 1
    · exact calm_pure trivial
  · exact (calm_printErr _).bind fun _ _ => calm_sysExit 1

theorem listMode_calm : (listMode args w repo).Calm fun _ => True := by
  unfold listMode getRunsForBranch
  split
  · exact (calm_runGhApi fun _ _ => trivial).bind fun _ _ =>
      (calm_print _).bind fun _ _ => calm_print _
  · exact (calm_runGhApi fun _ _ => trivial).bind fun _ _ =>
      (calm_runGhApi fun _ _ => trivial).bind fun _ _ => (calm_print _).bind fun _ _ => calm_print _
  · refine (calm_runGhApi fun _ _ => trivial).bind fun runsData _ => ?_
    dsimp only
    split
    · exact (calm_runGhApi fun _ _ => trivial).bind fun _ _ =>
        (calm_print _).bind fun _ _ => calm_print _
    · exact calm_pure_bind ((calm_print _).bind fun _ _ => calm_print _)

theorem historyIds_calm {ids : List ℤ} : (historyIds args w repo ids).Calm fun _ => True := by
  unfold historyIds getRunsForBranch
  split
  · exact calm_pure trivial
  · split
    · refine (calm_runGhApi fun _ _ => trivial).bind fun runsData _ => ?_
      split
      · exact calm_printErr_exit _ 1 _
      · exact calm_pure_bind (calm_pure trivial)
    · refine (calm_runGhApi fun _ _ => trivial).bind fun _ _ =>
        (calm_runGhApi fun _ _ => trivial).bind fun runs _ => ?_
      split
      · exact calm_printErr_exit _ 1 _
      · exact calm_pure_bind (calm_pure trivial)
    · exact (calm_printErr _).bind fun _ _ => calm_sysExit 1

theorem getRunsForCommit_calm {sha : String} :
    (getRunsForCommit w sha repo).Calm fun _ => True :=
  (calm_runGhApi fun _ _ => trivial).bind fun _ _ => calm_pure trivial

theorem getRunsForPr_calm {pr : ℤ} : (getRunsForPr w pr repo).Calm fun _ => True :=
  (calm_runGhApi fun _ _ => trivial).bind fun _ _ => getRunsForCommit_calm

theorem ne_nil_of_not_isEmpty {α : Type} {l : List α} (h : ¬ l.isEmpty = true) : l ≠ [] :=
  fun e => h (List.isEmpty_iff.mpr e)

/-- Every way of selecting runs finds at least one, or exits. -/
theorem selectRunIds_calm : (selectRunIds helpText args w repo).Calm (· ≠ []) := by
  unfold selectRunIds getRunsForBranch
  split
  · exact calm_pure (List.cons_ne_nil _ _)
  · refine getRunsForPr_calm.bind fun runIds _ => ?_
    dsimp only
    split
    · exact calm_printErr_exit _ 1 _
    · exact calm_pure_bind (calm_pure (ne_nil_of_not_isEmpty ‹_›))
  · refine (calm_runGhApi fun _ _ => trivial).bind fun runsData _ => ?_
    dsimp only
    split
    · exact calm_printErr_exit _ 1 _
    · obtain ⟨r, hr⟩ := pyListIndex_zero (ne_nil_of_not_isEmpty ‹_›)
      exact calm_pure_bind ((calm_liftPy_ok hr).bind fun _ _ =>
        calm_pure (List.cons_ne_nil _ _))
  · refine getRunsForCommit_calm.bind fun runIds _ => ?_
    dsimp only
    split
    · exact calm_printErr_exit _ 1 _
    · exact calm_pure_bind (calm_pure (ne_nil_of_not_isEmpty ‹_›))
  · exact (calm_print _).bind fun _ _ => calm_sysExit 1

theorem fetchRuns_calm (hw : w.WellFormed) {runIds : List ℤ} :
    (fetchRuns w repo runIds).Calm fun runs => runs.length = runIds.length :=
  (Calm.mapM (R := fun _ _ => True) fun _ _ =>
    (calm_printErr _).bind fun _ _ => getRunDetails_calm hw).mono fun _ h => h.length_eq.symm

theorem showRuns_calm (hw : w.WellFormed) {runs : List WorkflowRun} (hne : runs ≠ []) :
    (showRuns args w repo runs).Calm fun _ => True := by
  obtain ⟨first, hfirst⟩ := pyListIndex_zero hne
  have single : ∀ run, (liftPy (renderSingleRun run args.width) >>= print).Calm fun _ => True :=
    fun run => let ⟨_, h⟩ := renderSingleRun_isOk run args.width
      (calm_liftPy_ok h).bind fun _ _ => calm_print _
  unfold showRuns
  split
  · refine (calm_printErr _).bind fun _ _ => (getRunDetails_calm hw).bind fun diffRun _ => ?_
    refine (calm_liftPy (Q := (· = first)) hfirst rfl).bind fun a ha => ?_
    obtain ⟨out, hout⟩ := renderUnifiedDiff_isOk a diffRun args.width
    exact (calm_liftPy_ok hout).bind fun _ _ => calm_print _
  · split
    · obtain ⟨out, hout⟩ := renderComparison_isOk runs args.width
      exact (calm_liftPy_ok hout).bind fun _ _ => (calm_print _).bind fun _ _ =>
        (calm_print _).bind fun _ _ => Calm.forM fun run _ =>
          let ⟨_, h⟩ := renderSingleRun_isOk run args.width
          (calm_liftPy_ok h).bind fun _ _ => (calm_print _).bind fun _ _ => calm_print _
    · exact (calm_liftPy_ok hfirst).bind fun a _ => single a

/-- The command line never raises and never leaves the model: on every command line whose
`--width` fits `Py_ssize_t`, against every GitHub whose timestamps are its text of datetimes,
`main` ends, or stops by `sys.exit`. -/
theorem main_calm (hw : w.WellFormed) (hwidth : FitsSsize args.width) :
    (main helpText args w).Calm fun _ => True := by
  unfold main
  refine determineRepo_calm.bind fun repo _ => ?_
  dsimp only
  split
  · exact listMode_calm.bind fun _ _ => calm_sysExit_bind 0 _
  · refine calm_pure_bind ?_
    split
    · refine historyIds_calm.bind fun ids _ => (fetchRuns_calm hw).bind fun runs _ => ?_
      obtain ⟨out, hout⟩ := renderHistory_isOk runs args.width
      exact (calm_liftPy_ok hout).bind fun _ _ =>
        (calm_print _).bind fun _ _ => calm_sysExit_bind 0 _
    · exact calm_pure_bind <| selectRunIds_calm.bind fun _ hne =>
        (fetchRuns_calm hw).bind fun runs hlen =>
          showRuns_calm hw fun h => hne (List.length_eq_zero.mp (h ▸ hlen).symm)

theorem main_calm_oneRunWorld : oneRunWorld.WellFormed ∧
    FitsSsize ({ runId := some 7, diff := some 8 } : Args).width ∧
    (main "usage: timeline.py" { runId := some 7, diff := some 8 } oneRunWorld).Calm
      fun _ => True :=
  ⟨oneRunWorld_wellFormed, by decide, main_calm oneRunWorld_wellFormed (by decide)⟩

end Safety

end CiTimeline
