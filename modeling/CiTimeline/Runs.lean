import CiTimeline.Main

/-!
# Runs of the command line

`main` run to its end in each of its modes, against a GitHub that answers: what it prints on
stdout and on stderr, in order, and how it stops, for any way the repository was determined.
Each mode's result is assembled from one execution lemma per part of `main`, chained by
`Script.exec_bind_of_ok`. `oneRunWorld` is a GitHub with one run of one job; `pullWorld` one
whose pull requests and branches all have the same two runs.
-/

namespace CiTimeline

open Script

/-! ## The parts of `main` -/

section Parts

variable {helpText repo : String} {args : Args} {w : World}

def FetchedAs (w : World) (repo : String) (runId : ℤ) (run : WorkflowRun) : Prop :=
  ∃ r js, w.run repo runId = .ok r ∧ w.runJobs repo runId = .ok js ∧ ReadsRun r js run

theorem fetchRuns_cons (runId : ℤ) (ids : List ℤ) : fetchRuns w repo (runId :: ids) =
    (printErr ("Fetching run #" ++ toString runId ++ "...") >>= fun _ => getRunDetails w repo runId)
      >>= fun run => fetchRuns w repo ids >>= fun runs => pure (run :: runs) := by
  rw [fetchRuns, List.mapM_cons]; rfl

theorem fetchRuns_exec (hw : w.WellFormed) : ∀ {ids : List ℤ},
    (∀ runId ∈ ids, ∃ r js, w.run repo runId = .ok r ∧ w.runJobs repo runId = .ok js) →
    ∀ t, ∃ runs, (fetchRuns w repo ids).exec t =
      (.ok runs, { t with stderr := t.stderr ++ ids.map fun runId =>
        "Fetching run #" ++ toString runId ++ "..." }) ∧ List.Forall₂ (FetchedAs w repo) ids runs
  | [], _, t => ⟨[], by rw [List.map_nil, List.append_nil]; rfl, .nil⟩
  | runId :: ids, h, t => by
    obtain ⟨r, js, hr, hj⟩ := h runId (List.mem_cons_self _ _)
    obtain ⟨run, hrun, hread⟩ := getRunDetails_reads hw hr hj
    obtain ⟨runs, hruns, hF⟩ := fetchRuns_exec hw (fun i hi => h i (List.mem_cons_of_mem _ hi))
      { t with stderr := t.stderr ++ ["Fetching run #" ++ toString runId ++ "..."] }
    refine ⟨run :: runs, ?_, .cons ⟨r, js, hr, hj, hread⟩ hF⟩
    rw [fetchRuns_cons, exec_bind_of_ok (exec_bind_of_ok (exec_printErr _ t) _ |>.trans (hrun _)),
      exec_bind_of_ok hruns, exec_pure]
    simp

theorem fetchRuns_singleton {runId : ℤ} {r : ApiRun} {js : List ApiJob} (hw : w.WellFormed)
    (hr : w.run repo runId = .ok r) (hj : w.runJobs repo runId = .ok js) (t : Terminal) :
    ∃ run, ReadsRun r js run ∧ (fetchRuns w repo [runId]).exec t =
      (.ok [run], { t with stderr := t.stderr ++ ["Fetching run #" ++ toString runId ++ "..."] }) := by
  obtain ⟨run, hrun, hread⟩ := getRunDetails_reads hw hr hj
  refine ⟨run, hread, ?_⟩
  rw [fetchRuns_cons, exec_bind_of_ok (exec_bind_of_ok (exec_printErr _ t) _ |>.trans (hrun _))]
  rfl

theorem determineRepo_of_found (h : RepoFound args w repo) : determineRepo args w = pure repo := by
  rcases h with h | ⟨h, out, hv, rfl, hne⟩
  · rw [determineRepo, h]
  · simp only [determineRepo, h, hv, if_neg hne]

theorem historyIds_of_given {ids : List ℤ} (h : ids ≠ []) :
    historyIds args w repo ids = pure ids := by
  rw [historyIds, if_pos (by simpa [List.isEmpty_iff] using h)]

theorem historyIds_of_branch {branch : String} {summaries : List RunSummary}
    (hb : truthyStr args.branch = some branch)
    (hruns : w.runsForBranch repo branch args.limit = .ok summaries) (hne : summaries ≠ []) :
    (historyIds args w repo []).Returns (summaries.map RunSummary.id) := by
  rw [historyIds, if_neg (by decide), hb]
  simp only [getRunsForBranch, hruns, runGhApi_ok, pure_bind]
  rw [if_neg (mt List.isEmpty_iff.mp hne)]
  exact returns_pure _

theorem main_of_default (hl : args.list = false) (hh : args.history = none)
    (hrepo : RepoFound args w repo) :
    main helpText args w = selectRunIds helpText args w repo >>= fun runIds =>
      fetchRuns w repo runIds >>= showRuns args w repo := by
  simp only [main, determineRepo_of_found hrepo, hl, hh, pure_bind, Bool.false_eq_true, if_false]

theorem selectRunIds_of_runId {runId : ℤ} (h : truthyInt args.runId = some runId) :
    selectRunIds helpText args w repo = pure [runId] := by
  rw [selectRunIds, h]

theorem getRunsForPr_returns {pr : ℤ} {sha : String} {summaries : List RunSummary}
    (hsha : w.pullHeadSha repo pr = .ok sha) (hruns : w.runsForSha repo sha = .ok summaries) :
    (getRunsForPr w pr repo).Returns (summaries.map RunSummary.id) := by
  rw [getRunsForPr, hsha, runGhApi_ok, pure_bind, getRunsForCommit, hruns, runGhApi_ok, pure_bind]
  exact returns_pure _

theorem selectRunIds_of_pr {pr : ℤ} {sha : String} {summaries : List RunSummary}
    (hid : truthyInt args.runId = none) (hpr : truthyInt args.pr = some pr)
    (hsha : w.pullHeadSha repo pr = .ok sha) (hruns : w.runsForSha repo sha = .ok summaries)
    (hne : summaries ≠ []) :
    (selectRunIds helpText args w repo).Returns (summaries.map RunSummary.id) := by
  rw [selectRunIds, hid, hpr]
  refine (getRunsForPr_returns hsha hruns).bind ?_
  dsimp only
  rw [if_neg (by simpa [List.isEmpty_iff] using hne)]
  exact (returns_pure ()).bind (returns_pure _)

theorem selectRunIds_of_branch {branch : String} {s : RunSummary} {rest : List RunSummary}
    (hid : truthyInt args.runId = none) (hpr : truthyInt args.pr = none)
    (hb : truthyStr args.branch = some branch)
    (hruns : w.runsForBranch repo branch 1 = .ok (s :: rest)) :
    (selectRunIds helpText args w repo).Returns [s.id] := by
  rw [selectRunIds, hid, hpr, hb]
  simp only [getRunsForBranch, hruns, runGhApi_ok, pure_bind, List.isEmpty_cons,
    Bool.false_eq_true, if_false, pyListIndex, List.getElem?_cons_zero, liftPy_ok]
  exact returns_pure _

theorem singleRuns_ok (width : ℤ) (runs : List WorkflowRun) :
    ∃ outs, List.Forall₂ (fun run out => renderSingleRun run width = .ok out) runs outs :=
  let ⟨_, h⟩ := Py.mapM_isOk fun run _ => renderSingleRun_isOk run width
  ⟨_, Py.forall₂_of_mapM_ok (l := runs) h⟩

theorem forM_singleRun_exec (width : ℤ) {runs : List WorkflowRun} {outs : List String}
    (h : List.Forall₂ (fun run out => renderSingleRun run width = .ok out) runs outs)
    (t : Terminal) :
    (runs.forM fun run => do
        print (← liftPy (renderSingleRun run width))
        print "").exec t =
      (.ok (), { t with stdout := t.stdout ++ outs.flatMap fun out => [out, ""] }) := by
  induction h generalizing t with
  | nil => simp
  | @cons run out runs outs h _ ih =>
    have step : (do print (← liftPy (renderSingleRun run width)); print "" : Script Unit).exec t =
        (.ok (), { t with stdout := t.stdout ++ [out] ++ [""] }) := by
      rw [h]; rfl
    rw [List.forM_cons', exec_bind_of_ok step, ih]
    simp

theorem showRuns_exec (repo : String) (hd : truthyInt args.diff = none) {runs : List WorkflowRun}
    (hne : runs ≠ []) (t : Terminal) :
    ∃ cmp outs, renderComparison runs args.width = .ok cmp ∧
      List.Forall₂ (fun run out => renderSingleRun run args.width = .ok out) runs outs ∧
      (showRuns args w repo runs).exec t = (.ok (), { t with stdout := t.stdout ++
        if args.compare || runs.length > 1 then cmp :: "" :: outs.flatMap fun out => [out, ""]
        else outs }) := by
  obtain ⟨cmp, hcmp⟩ := renderComparison_isOk runs args.width
  obtain ⟨outs, houts⟩ := singleRuns_ok args.width runs
  refine ⟨cmp, outs, hcmp, houts, ?_⟩
  simp only [showRuns, hd]
  by_cases hc : (args.compare || runs.length > 1) = true
  · rw [if_pos hc, if_pos hc, hcmp]
    simp only [liftPy_ok, pure_bind, exec_bind, exec_print]
    rw [forM_singleRun_exec args.width houts]
    simp
  · rw [if_neg hc, if_neg hc]
    have h₁ : ¬ runs.length > 1 := fun h => hc (by rw [decide_eq_true h, Bool.or_true])
    obtain ⟨run, rfl⟩ := (List.length_eq_one (l := runs)).mp
      (by have := List.length_pos.mpr hne; omega)
    rcases houts with _ | ⟨h, ⟨⟩⟩
    simp only [pyListIndex, List.getElem?_cons_zero, liftPy_ok, pure_bind, h, exec_print]

theorem showRuns_diff (repo : String) (first : WorkflowRun) (runs : List WorkflowRun) {diff : ℤ}
    {r : ApiRun} {js : List ApiJob} (hw : w.WellFormed) (hd : truthyInt args.diff = some diff)
    (hr : w.run repo diff = .ok r) (hj : w.runJobs repo diff = .ok js) (t : Terminal) :
    ∃ diffRun out, ReadsRun r js diffRun ∧ renderUnifiedDiff first diffRun args.width = .ok out ∧
      (showRuns args w repo (first :: runs)).exec t = (.ok (), ⟨t.stdout ++ [out],
        t.stderr ++ ["Fetching comparison run #" ++ toString diff ++ "..."]⟩) := by
  obtain ⟨diffRun, hrun, hread⟩ := getRunDetails_reads hw hr hj
  obtain ⟨out, hout⟩ := renderUnifiedDiff_isOk first diffRun args.width
  refine ⟨diffRun, out, hread, hout, ?_⟩
  simp only [showRuns, hd]
  rw [exec_bind_of_ok (exec_printErr _ t), exec_bind_of_ok (hrun _)]
  simp only [pyListIndex, List.getElem?_cons_zero, liftPy_ok, pure_bind, hout, exec_print]

theorem main_of_one_run {runId : ℤ} {r : ApiRun} {js : List ApiJob} (hw : w.WellFormed)
    (hl : args.list = false) (hh : args.history = none) (hrepo : RepoFound args w repo)
    (hsel : (selectRunIds helpText args w repo).Returns [runId]) (hd : truthyInt args.diff = none)
    (hr : w.run repo runId = .ok r) (hj : w.runJobs repo runId = .ok js) (t : Terminal) :
    ∃ run cmp out, ReadsRun r js run ∧ renderComparison [run] args.width = .ok cmp ∧
      renderSingleRun run args.width = .ok out ∧
      (main helpText args w).exec t = (.ok (), ⟨t.stdout ++
        if args.compare then [cmp, "", out, ""] else [out],
        t.stderr ++ ["Fetching run #" ++ toString runId ++ "..."]⟩) := by
  obtain ⟨run, hread, hfetch⟩ := fetchRuns_singleton hw hr hj t
  obtain ⟨cmp, outs, hcmp, houts, hshow⟩ := showRuns_exec repo hd (List.cons_ne_nil run []) _
  rcases houts with _ | ⟨hout, ⟨⟩⟩
  refine ⟨run, cmp, _, hread, hcmp, hout, ?_⟩
  rw [main_of_default hl hh hrepo, exec_bind_of_ok (hsel t), exec_bind_of_ok hfetch, hshow]
  simp

theorem main_of_history {given ids : List ℤ} (hw : w.WellFormed) (hl : args.list = false)
    (hh : args.history = some given) (hrepo : RepoFound args w repo)
    (hids : (historyIds args w repo given).Returns ids)
    (hfetch : ∀ runId ∈ ids, ∃ r js, w.run repo runId = .ok r ∧ w.runJobs repo runId = .ok js)
    (t : Terminal) :
    ∃ runs out, List.Forall₂ (FetchedAs w repo) ids runs ∧ renderHistory runs args.width = .ok out ∧
      (main helpText args w).exec t = (.error (.exit 0), ⟨t.stdout ++ [out],
        t.stderr ++ ids.map fun runId => "Fetching run #" ++ toString runId ++ "..."⟩) := by
  obtain ⟨runs, hruns, hF⟩ := fetchRuns_exec hw hfetch t
  obtain ⟨out, hout⟩ := renderHistory_isOk runs args.width
  refine ⟨runs, out, hF, hout, ?_⟩
  simp only [main, determineRepo_of_found hrepo, hl, hh, pure_bind, Bool.false_eq_true, if_false]
  rw [exec_bind_of_ok (hids t), exec_bind_of_ok hruns, hout]
  simp only [liftPy_ok, pure_bind, exec_bind, exec_print, exec_sysExit]

end Parts

/-! ## The modes -/

def twoRunSummaries : List RunSummary :=
  [⟨7, "CI", "completed", some "success", "2024-05-01T10:00:00Z"⟩,
    ⟨8, "Lint", "completed", some "failure", "2024-05-01T10:02:00Z"⟩]

/-- A GitHub whose pull requests all head one commit, whose runs, `twoRunSummaries`, are also the
runs of every branch; runs `7` and `8` are `oneRunWorld`'s, and every other run is unknown. -/
def pullWorld : World where
  repoView := none
  run _ runId := if runId = 7 ∨ runId = 8 then .ok (oneRunData runId) else .error "HTTP 404: Not Found"
  runJobs _ _ := .ok oneRunJobs
  pullHeadSha _ _ := .ok "0123abcd4567"
  runsForSha _ _ := .ok twoRunSummaries
  runsForBranch _ _ _ := .ok twoRunSummaries

theorem pullWorld_wellFormed : pullWorld.WellFormed where
  run repo runId r hr := by
    by_cases h : runId = 7 ∨ runId = 8
    · exact oneRunWorld_wellFormed.run repo runId r ((if_pos h).symm.trans hr)
    · exact absurd ((if_neg h).symm.trans hr) (by simp)
  jobs := oneRunWorld_wellFormed.jobs

section Modes

variable {helpText repo : String} {args : Args} {w : World}

/-- `--history` with run IDs, when GitHub answers every query: `main` fetches each ID once, in
the order given, saying so on stderr, prints exactly one report, the history of the runs read
from the answers, and exits with status 0. -/
theorem main_history {ids : List ℤ} (hw : w.WellFormed)
    (hwidth : FitsSsize args.width) (hl : args.list = false)
    (hh : args.history = some ids) (hids : ids ≠ []) (hrepo : RepoFound args w repo)
    (hfetch : ∀ runId ∈ ids, ∃ r js, w.run repo runId = .ok r ∧ w.runJobs repo runId = .ok js)
    (t : Terminal) :
    ∃ runs out, List.Forall₂ (FetchedAs w repo) ids runs ∧ renderHistory runs args.width = .ok out ∧
      (main helpText args w).exec t = (.error (.exit 0), ⟨t.stdout ++ [out],
        t.stderr ++ ids.map fun runId => "Fetching run #" ++ toString runId ++ "..."⟩) :=
  main_of_history hw hl hh hrepo (by rw [historyIds_of_given hids]; exact returns_pure _) hfetch t

theorem main_history_oneRunWorld : oneRunWorld.WellFormed ∧
    FitsSsize ({ history := some [7], repo := some "owner/repo" } : Args).width ∧
    ({ history := some [7], repo := some "owner/repo" } : Args).list = false ∧
    ({ history := some [7], repo := some "owner/repo" } : Args).history = some [7] ∧ [(7 : ℤ)] ≠ [] ∧
    RepoFound { history := some [7], repo := some "owner/repo" } oneRunWorld "owner/repo" ∧
    (∀ runId ∈ [(7 : ℤ)], ∃ r js, oneRunWorld.run "owner/repo" runId = .ok r ∧
      oneRunWorld.runJobs "owner/repo" runId = .ok js) ∧
    ∃ runs out, List.Forall₂ (FetchedAs oneRunWorld "owner/repo") [7] runs ∧
      renderHistory runs 120 = .ok out ∧
      (main "usage: timeline.py" { history := some [7], repo := some "owner/repo" } oneRunWorld).exec
        ⟨[], []⟩ = (.error (.exit 0), ⟨[out], ["Fetching run #7..."]⟩) :=
  ⟨oneRunWorld_wellFormed, by decide, rfl, rfl, by decide, .inl rfl, fun _ _ => ⟨_, _, rfl, rfl⟩,
    @main_history "usage: timeline.py" "owner/repo" { history := some [7], repo := some "owner/repo" }
      oneRunWorld [7] oneRunWorld_wellFormed (by decide) rfl rfl (by decide) (.inl rfl)
      (fun _ _ => ⟨_, _, rfl, rfl⟩) ⟨[], []⟩⟩

/-- `--history` with no run IDs but `--branch`: `main` takes the IDs of the branch's runs, as many
as `--limit` asks GitHub for and in GitHub's order, and shows their history as `main_history`
says. -/
theorem main_history_branch {branch : String} {summaries : List RunSummary} (hw : w.WellFormed)
    (hwidth : FitsSsize args.width)
    (hl : args.list = false) (hh : args.history = some []) (hrepo : RepoFound args w repo)
    (hb : truthyStr args.branch = some branch)
    (hruns : w.runsForBranch repo branch args.limit = .ok summaries) (hne : summaries ≠ [])
    (hfetch : ∀ runId ∈ summaries.map RunSummary.id,
      ∃ r js, w.run repo runId = .ok r ∧ w.runJobs repo runId = .ok js) (t : Terminal) :
    ∃ runs out, List.Forall₂ (FetchedAs w repo) (summaries.map RunSummary.id) runs ∧
      renderHistory runs args.width = .ok out ∧
      (main helpText args w).exec t = (.error (.exit 0), ⟨t.stdout ++ [out],
        t.stderr ++ (summaries.map RunSummary.id).map fun runId =>
          "Fetching run #" ++ toString runId ++ "..."⟩) :=
  main_of_history hw hl hh hrepo (historyIds_of_branch hb hruns hne) hfetch t

theorem main_history_branch_pullWorld : pullWorld.WellFormed ∧
    FitsSsize ({ history := some [], branch := some "main", repo := some "owner/repo" } : Args).width ∧
    ({ history := some [], branch := some "main", repo := some "owner/repo" } : Args).list
      = false ∧
    ({ history := some [], branch := some "main", repo := some "owner/repo" } : Args).history
      = some [] ∧
    RepoFound { history := some [], branch := some "main", repo := some "owner/repo" } pullWorld
      "owner/repo" ∧
    truthyStr ({ history := some [], branch := some "main", repo := some "owner/repo" } : Args).branch
      = some "main" ∧
    pullWorld.runsForBranch "owner/repo" "main" 10 = .ok twoRunSummaries ∧ twoRunSummaries ≠ [] ∧
    (∀ runId ∈ twoRunSummaries.map RunSummary.id, ∃ r js,
      pullWorld.run "owner/repo" runId = .ok r ∧ pullWorld.runJobs "owner/repo" runId = .ok js) ∧
    ∃ runs out, List.Forall₂ (FetchedAs pullWorld "owner/repo") [7, 8] runs ∧
      renderHistory runs 120 = .ok out ∧
      (main "usage: timeline.py"
          { history := some [], branch := some "main", repo := some "owner/repo" } pullWorld).exec
        ⟨[], []⟩ = (.error (.exit 0), ⟨[out], ["Fetching run #7...", "Fetching run #8..."]⟩) :=
  have hfetch : ∀ runId ∈ twoRunSummaries.map RunSummary.id, ∃ r js,
      pullWorld.run "owner/repo" runId = .ok r ∧ pullWorld.runJobs "owner/repo" runId = .ok js :=
    fun _ hi => ⟨_, _, if_pos (by simpa [twoRunSummaries] using hi), rfl⟩
  ⟨pullWorld_wellFormed, by decide, rfl, rfl, .inl rfl, rfl, rfl, List.cons_ne_nil _ _, hfetch,
    @main_history_branch "usage: timeline.py" "owner/repo"
      { history := some [], branch := some "main", repo := some "owner/repo" } pullWorld "main"
      twoRunSummaries pullWorld_wellFormed (by decide) rfl rfl (.inl rfl) rfl rfl
      (List.cons_ne_nil _ _) hfetch ⟨[], []⟩⟩

/-- A run ID, without `--diff`: `main` fetches the run, saying so on stderr, and prints its
report, preceded by the comparison of that one run when `--compare` is given. -/
theorem main_run_id {runId : ℤ} {r : ApiRun} {js : List ApiJob} (hw : w.WellFormed)
    (hwidth : FitsSsize args.width)
    (hl : args.list = false) (hh : args.history = none) (hrepo : RepoFound args w repo)
    (hid : truthyInt args.runId = some runId) (hd : truthyInt args.diff = none)
    (hr : w.run repo runId = .ok r) (hj : w.runJobs repo runId = .ok js) (t : Terminal) :
    ∃ run cmp out, ReadsRun r js run ∧ renderComparison [run] args.width = .ok cmp ∧
      renderSingleRun run args.width = .ok out ∧
      (main helpText args w).exec t = (.ok (), ⟨t.stdout ++
        if args.compare then [cmp, "", out, ""] else [out],
        t.stderr ++ ["Fetching run #" ++ toString runId ++ "..."]⟩) :=
  main_of_one_run hw hl hh hrepo (by rw [selectRunIds_of_runId hid]; exact returns_pure _) hd hr hj
    t

theorem main_run_id_oneRunWorld : oneRunWorld.WellFormed ∧
    FitsSsize ({ runId := some 7, repo := some "owner/repo" } : Args).width ∧
    ({ runId := some 7, repo := some "owner/repo" } : Args).list = false ∧
    ({ runId := some 7, repo := some "owner/repo" } : Args).history = none ∧
    RepoFound { runId := some 7, repo := some "owner/repo" } oneRunWorld "owner/repo" ∧
    truthyInt ({ runId := some 7, repo := some "owner/repo" } : Args).runId = some 7 ∧
    truthyInt ({ runId := some 7, repo := some "owner/repo" } : Args).diff = none ∧
    oneRunWorld.run "owner/repo" 7 = .ok (oneRunData 7) ∧
    oneRunWorld.runJobs "owner/repo" 7 = .ok oneRunJobs ∧
    ∃ run cmp out, ReadsRun (oneRunData 7) oneRunJobs run ∧ renderComparison [run] 120 = .ok cmp ∧
      renderSingleRun run 120 = .ok out ∧
      (main "usage: timeline.py" { runId := some 7, repo := some "owner/repo" } oneRunWorld).exec
        ⟨[], []⟩ = (.ok (), ⟨[out], ["Fetching run #7..."]⟩) :=
  ⟨oneRunWorld_wellFormed, by decide, rfl, rfl, .inl rfl, rfl, rfl, rfl, rfl,
    @main_run_id "usage: timeline.py" "owner/repo" { runId := some 7, repo := some "owner/repo" }
      oneRunWorld 7 _ _ oneRunWorld_wellFormed (by decide) rfl rfl (.inl rfl) rfl rfl rfl rfl
      ⟨[], []⟩⟩

/-- `--branch` without a run ID or `--pr`: `main` asks GitHub for one run of the branch, whatever
`--limit` says, and shows the first of the answer, GitHub's newest, as `main_of_one_run` says. -/
theorem main_branch {branch : String} {s : RunSummary} {rest : List RunSummary} {r : ApiRun}
    {js : List ApiJob} (hw : w.WellFormed) (hwidth : FitsSsize args.width)
    (hl : args.list = false) (hh : args.history = none)
    (hrepo : RepoFound args w repo) (hid : truthyInt args.runId = none)
    (hpr : truthyInt args.pr = none) (hb : truthyStr args.branch = some branch)
    (hd : truthyInt args.diff = none) (hruns : w.runsForBranch repo branch 1 = .ok (s :: rest))
    (hr : w.run repo s.id = .ok r) (hj : w.runJobs repo s.id = .ok js) (t : Terminal) :
    ∃ run cmp out, ReadsRun r js run ∧ renderComparison [run] args.width = .ok cmp ∧
      renderSingleRun run args.width = .ok out ∧
      (main helpText args w).exec t = (.ok (), ⟨t.stdout ++
        if args.compare then [cmp, "", out, ""] else [out],
        t.stderr ++ ["Fetching run #" ++ toString s.id ++ "..."]⟩) :=
  main_of_one_run hw hl hh hrepo (selectRunIds_of_branch hid hpr hb hruns) hd hr hj t

theorem main_branch_pullWorld : pullWorld.WellFormed ∧
    FitsSsize ({ branch := some "main", repo := some "owner/repo" } : Args).width ∧
    ({ branch := some "main", repo := some "owner/repo" } : Args).list = false ∧
    ({ branch := some "main", repo := some "owner/repo" } : Args).history = none ∧
    RepoFound { branch := some "main", repo := some "owner/repo" } pullWorld "owner/repo" ∧
    truthyInt ({ branch := some "main", repo := some "owner/repo" } : Args).runId = none ∧
    truthyInt ({ branch := some "main", repo := some "owner/repo" } : Args).pr = none ∧
    truthyStr ({ branch := some "main", repo := some "owner/repo" } : Args).branch = some "main" ∧
    truthyInt ({ branch := some "main", repo := some "owner/repo" } : Args).diff = none ∧
    pullWorld.runsForBranch "owner/repo" "main" 1 = .ok twoRunSummaries ∧
    pullWorld.run "owner/repo" 7 = .ok (oneRunData 7) ∧
    pullWorld.runJobs "owner/repo" 7 = .ok oneRunJobs ∧
    ∃ run cmp out, ReadsRun (oneRunData 7) oneRunJobs run ∧ renderComparison [run] 120 = .ok cmp ∧
      renderSingleRun run 120 = .ok out ∧
      (main "usage: timeline.py" { branch := some "main", repo := some "owner/repo" } pullWorld).exec
        ⟨[], []⟩ = (.ok (), ⟨[out], ["Fetching run #7..."]⟩) :=
  ⟨pullWorld_wellFormed, by decide, rfl, rfl, .inl rfl, rfl, rfl, rfl, rfl, rfl, rfl, rfl,
    @main_branch "usage: timeline.py" "owner/repo" { branch := some "main", repo := some "owner/repo" }
      pullWorld "main" _ _ _ _ pullWorld_wellFormed (by decide) rfl rfl (.inl rfl) rfl rfl rfl rfl
      rfl rfl rfl ⟨[], []⟩⟩

/-- A run ID with `--diff`: `main` fetches both runs, saying so on stderr, and prints the diff of
the first against the second; `--compare` is ignored. -/
theorem main_diff {runId diff : ℤ} {r r' : ApiRun} {js js' : List ApiJob} (hw : w.WellFormed)
    (hwidth : FitsSsize args.width)
    (hl : args.list = false) (hh : args.history = none) (hrepo : RepoFound args w repo)
    (hid : truthyInt args.runId = some runId) (hd : truthyInt args.diff = some diff)
    (hr : w.run repo runId = .ok r) (hj : w.runJobs repo runId = .ok js)
    (hr' : w.run repo diff = .ok r') (hj' : w.runJobs repo diff = .ok js') (t : Terminal) :
    ∃ run diffRun out, ReadsRun r js run ∧ ReadsRun r' js' diffRun ∧
      renderUnifiedDiff run diffRun args.width = .ok out ∧
      (main helpText args w).exec t = (.ok (), ⟨t.stdout ++ [out], t.stderr ++
        ["Fetching run #" ++ toString runId ++ "...",
          "Fetching comparison run #" ++ toString diff ++ "..."]⟩) := by
  obtain ⟨run, hread, hfetch⟩ := fetchRuns_singleton hw hr hj t
  obtain ⟨diffRun, out, hread', hout, hshow⟩ := showRuns_diff repo run [] hw hd hr' hj' _
  refine ⟨run, diffRun, out, hread, hread', hout, ?_⟩
  rw [main_of_default hl hh hrepo, selectRunIds_of_runId hid, pure_bind, exec_bind_of_ok hfetch,
    hshow]
  simp

theorem main_diff_oneRunWorld : oneRunWorld.WellFormed ∧
    FitsSsize ({ runId := some 7, diff := some 8, repo := some "owner/repo" } : Args).width ∧
    ({ runId := some 7, diff := some 8, repo := some "owner/repo" } : Args).list = false ∧
    ({ runId := some 7, diff := some 8, repo := some "owner/repo" } : Args).history = none ∧
    RepoFound { runId := some 7, diff := some 8, repo := some "owner/repo" } oneRunWorld
      "owner/repo" ∧
    truthyInt ({ runId := some 7, diff := some 8, repo := some "owner/repo" } : Args).runId = some 7 ∧
    truthyInt ({ runId := some 7, diff := some 8, repo := some "owner/repo" } : Args).diff = some 8 ∧
    oneRunWorld.run "owner/repo" 7 = .ok (oneRunData 7) ∧
    oneRunWorld.runJobs "owner/repo" 7 = .ok oneRunJobs ∧
    oneRunWorld.run "owner/repo" 8 = .ok (oneRunData 8) ∧
    oneRunWorld.runJobs "owner/repo" 8 = .ok oneRunJobs ∧
    ∃ run diffRun out, ReadsRun (oneRunData 7) oneRunJobs run ∧
      ReadsRun (oneRunData 8) oneRunJobs diffRun ∧ renderUnifiedDiff run diffRun 120 = .ok out ∧
      (main "usage: timeline.py" { runId := some 7, diff := some 8, repo := some "owner/repo" }
        oneRunWorld).exec ⟨[], []⟩ =
        (.ok (), ⟨[out], ["Fetching run #7...", "Fetching comparison run #8..."]⟩) :=
  ⟨oneRunWorld_wellFormed, by decide, rfl, rfl, .inl rfl, rfl, rfl, rfl, rfl, rfl, rfl,
    @main_diff "usage: timeline.py" "owner/repo"
      { runId := some 7, diff := some 8, repo := some "owner/repo" } oneRunWorld 7 8 _ _ _ _
      oneRunWorld_wellFormed (by decide) rfl rfl (.inl rfl) rfl rfl rfl rfl rfl rfl ⟨[], []⟩⟩

/-- `--pr` without a run ID or `--diff`, when GitHub answers every query: `main` fetches every run
of the pull request's head commit, in GitHub's order, and shows them as `showRuns_exec` says. -/
theorem main_pr {pr : ℤ} {sha : String} {summaries : List RunSummary} (hw : w.WellFormed)
    (hwidth : FitsSsize args.width)
    (hl : args.list = false) (hh : args.history = none) (hrepo : RepoFound args w repo)
    (hid : truthyInt args.runId = none) (hpr : truthyInt args.pr = some pr)
    (hd : truthyInt args.diff = none) (hsha : w.pullHeadSha repo pr = .ok sha)
    (hruns : w.runsForSha repo sha = .ok summaries) (hne : summaries ≠ [])
    (hfetch : ∀ runId ∈ summaries.map RunSummary.id,
      ∃ r js, w.run repo runId = .ok r ∧ w.runJobs repo runId = .ok js) (t : Terminal) :
    ∃ runs cmp outs, List.Forall₂ (FetchedAs w repo) (summaries.map RunSummary.id) runs ∧
      renderComparison runs args.width = .ok cmp ∧
      List.Forall₂ (fun run out => renderSingleRun run args.width = .ok out) runs outs ∧
      (main helpText args w).exec t = (.ok (), ⟨t.stdout ++
        if args.compare || summaries.length > 1 then cmp :: "" :: outs.flatMap fun out => [out, ""]
        else outs,
        t.stderr ++ (summaries.map RunSummary.id).map fun runId =>
          "Fetching run #" ++ toString runId ++ "..."⟩) := by
  obtain ⟨runs, hruns', hF⟩ := fetchRuns_exec hw hfetch t
  have hlen : runs.length = summaries.length := by rw [← hF.length_eq, List.length_map]
  have hne' : runs ≠ [] := by rintro rfl; exact hne (List.length_eq_zero.mp hlen.symm)
  obtain ⟨cmp, outs, hcmp, houts, hshow⟩ := showRuns_exec repo hd hne' _
  refine ⟨runs, cmp, outs, hF, hcmp, houts, ?_⟩
  rw [main_of_default hl hh hrepo,
    exec_bind_of_ok (selectRunIds_of_pr hid hpr hsha hruns hne t), exec_bind_of_ok hruns', hshow,
    hlen]

theorem main_pr_pullWorld : pullWorld.WellFormed ∧
    FitsSsize ({ pr := some 12, repo := some "owner/repo" } : Args).width ∧
    ({ pr := some 12, repo := some "owner/repo" } : Args).list = false ∧
    ({ pr := some 12, repo := some "owner/repo" } : Args).history = none ∧
    RepoFound { pr := some 12, repo := some "owner/repo" } pullWorld "owner/repo" ∧
    truthyInt ({ pr := some 12, repo := some "owner/repo" } : Args).runId = none ∧
    truthyInt ({ pr := some 12, repo := some "owner/repo" } : Args).pr = some 12 ∧
    truthyInt ({ pr := some 12, repo := some "owner/repo" } : Args).diff = none ∧
    pullWorld.pullHeadSha "owner/repo" 12 = .ok "0123abcd4567" ∧
    pullWorld.runsForSha "owner/repo" "0123abcd4567" = .ok twoRunSummaries ∧
    twoRunSummaries ≠ [] ∧
    (∀ runId ∈ twoRunSummaries.map RunSummary.id, ∃ r js, pullWorld.run "owner/repo" runId = .ok r ∧
      pullWorld.runJobs "owner/repo" runId = .ok js) ∧
    ∃ runs cmp outs, List.Forall₂ (FetchedAs pullWorld "owner/repo") [7, 8] runs ∧
      renderComparison runs 120 = .ok cmp ∧
      List.Forall₂ (fun run out => renderSingleRun run 120 = .ok out) runs outs ∧
      (main "usage: timeline.py" { pr := some 12, repo := some "owner/repo" } pullWorld).exec
        ⟨[], []⟩ = (.ok (), ⟨cmp :: "" :: outs.flatMap fun out => [out, ""],
          ["Fetching run #7...", "Fetching run #8..."]⟩) :=
  have hfetch : ∀ runId ∈ twoRunSummaries.map RunSummary.id, ∃ r js,
      pullWorld.run "owner/repo" runId = .ok r ∧ pullWorld.runJobs "owner/repo" runId = .ok js :=
    fun _ hi => ⟨_, _, if_pos (by simpa [twoRunSummaries] using hi), rfl⟩
  ⟨pullWorld_wellFormed, by decide, rfl, rfl, .inl rfl, rfl, rfl, rfl, rfl, rfl,
    List.cons_ne_nil _ _, hfetch,
    @main_pr "usage: timeline.py" "owner/repo" { pr := some 12, repo := some "owner/repo" }
      pullWorld 12 "0123abcd4567" twoRunSummaries pullWorld_wellFormed (by decide) rfl rfl
      (.inl rfl) rfl rfl rfl rfl rfl (List.cons_ne_nil _ _) hfetch ⟨[], []⟩⟩

/-- `--list --branch`: `main` prints the heading and the table of the branch's runs, and exits
with status 0; it reads no timestamp. -/
theorem main_list_branch {branch : String} {summaries : List RunSummary} (hl : args.list = true)
    (hrepo : RepoFound args w repo) (hb : truthyStr args.branch = some branch)
    (hruns : w.runsForBranch repo branch args.limit = .ok summaries) (t : Terminal) :
    (main helpText args w).exec t = (.error (.exit 0), { t with stdout := t.stdout ++
      ["Recent runs for branch '" ++ branch ++ "':\n", listRuns summaries repo] }) := by
  simp only [main, determineRepo_of_found hrepo, hl, if_true, pure_bind, listMode, hb,
    getRunsForBranch, hruns, runGhApi_ok, exec_bind, exec_print, exec_sysExit]
  simp

theorem main_list_branch_pullWorld :
    ({ list := true, branch := some "main", repo := some "owner/repo" } : Args).list = true ∧
    RepoFound { list := true, branch := some "main", repo := some "owner/repo" } pullWorld
      "owner/repo" ∧
    truthyStr ({ list := true, branch := some "main", repo := some "owner/repo" } : Args).branch =
      some "main" ∧
    pullWorld.runsForBranch "owner/repo" "main" 10 = .ok twoRunSummaries ∧
    (main "usage: timeline.py" { list := true, branch := some "main", repo := some "owner/repo" }
      pullWorld).exec ⟨[], []⟩ = (.error (.exit 0),
        ⟨["Recent runs for branch 'main':\n", listRuns twoRunSummaries "owner/repo"], []⟩) :=
  ⟨rfl, .inl rfl, rfl, rfl, @main_list_branch "usage: timeline.py" "owner/repo"
    { list := true, branch := some "main", repo := some "owner/repo" } pullWorld "main"
    twoRunSummaries rfl (.inl rfl) rfl rfl ⟨[], []⟩⟩

/-- `--list` without `--branch` or `--pr`: `main` lists the recent runs of `main`, or those of
`master` when `main` has none, and exits with status 0. -/
theorem main_list_default {rs rs' : List RunSummary} (hl : args.list = true)
    (hrepo : RepoFound args w repo) (hb : truthyStr args.branch = none)
    (hpr : truthyInt args.pr = none) (hmain : w.runsForBranch repo "main" args.limit = .ok rs)
    (hmaster : rs = [] → w.runsForBranch repo "master" args.limit = .ok rs') (t : Terminal) :
    (main helpText args w).exec t = (.error (.exit 0), { t with stdout := t.stdout ++
      ["Recent runs:\n", listRuns (if rs = [] then rs' else rs) repo] }) := by
  simp only [main, determineRepo_of_found hrepo, hl, if_true, pure_bind, listMode, hb, hpr,
    getRunsForBranch, hmain, runGhApi_ok]
  by_cases h : rs = []
  · subst h
    simp only [hmaster rfl, List.isEmpty_nil, if_true, runGhApi_ok, pure_bind, exec_bind,
      exec_print, exec_sysExit]
    simp
  · rw [if_neg h, if_neg (mt List.isEmpty_iff.mp h)]
    simp only [exec_bind, exec_print, exec_sysExit]
    simp

theorem main_list_default_oneRunWorld :
    ({ list := true } : Args).list = true ∧
    RepoFound { list := true } oneRunWorld "owner/repo" ∧
    truthyStr ({ list := true } : Args).branch = none ∧
    truthyInt ({ list := true } : Args).pr = none ∧
    oneRunWorld.runsForBranch "owner/repo" "main" 10 = .ok [] ∧
    oneRunWorld.runsForBranch "owner/repo" "master" 10 = .ok [] ∧
    (main "usage: timeline.py" { list := true } oneRunWorld).exec
      ⟨[], []⟩ = (.error (.exit 0), ⟨["Recent runs:\n", listRuns [] "owner/repo"], []⟩) :=
  have hrepo : RepoFound { list := true } oneRunWorld "owner/repo" :=
    .inr ⟨rfl, _, rfl, by decide, by decide⟩
  ⟨rfl, hrepo, rfl, rfl, rfl, rfl, @main_list_default "usage: timeline.py" "owner/repo"
    { list := true } oneRunWorld [] [] rfl hrepo rfl rfl rfl (fun _ => rfl) ⟨[], []⟩⟩

/-- Without `--list`, `--history`, a run ID, `--pr`, `--branch` or `--commit`, `main` prints the
help text on stdout and exits with status 1. -/
theorem main_help (hl : args.list = false) (hh : args.history = none)
    (hrepo : RepoFound args w repo) (hid : truthyInt args.runId = none)
    (hpr : truthyInt args.pr = none) (hb : truthyStr args.branch = none)
    (hc : truthyStr args.commit = none) (t : Terminal) :
    (main helpText args w).exec t =
      (.error (.exit 1), { t with stdout := t.stdout ++ [helpText] }) := by
  rw [main_of_default hl hh hrepo]
  simp only [selectRunIds, hid, hpr, hb, hc, exec_bind, exec_print, exec_sysExit]

theorem main_help_oneRunWorld :
    ({ repo := some "owner/repo" } : Args).list = false ∧
    ({ repo := some "owner/repo" } : Args).history = none ∧
    RepoFound { repo := some "owner/repo" } oneRunWorld "owner/repo" ∧
    truthyInt ({ repo := some "owner/repo" } : Args).runId = none ∧
    truthyInt ({ repo := some "owner/repo" } : Args).pr = none ∧
    truthyStr ({ repo := some "owner/repo" } : Args).branch = none ∧
    truthyStr ({ repo := some "owner/repo" } : Args).commit = none ∧
    (main "usage: timeline.py" { repo := some "owner/repo" } oneRunWorld).exec ⟨[], []⟩ =
      (.error (.exit 1), ⟨["usage: timeline.py"], []⟩) :=
  ⟨rfl, rfl, .inl rfl, rfl, rfl, rfl, rfl, @main_help "usage: timeline.py" "owner/repo"
    { repo := some "owner/repo" } oneRunWorld rfl rfl (.inl rfl) rfl rfl rfl rfl ⟨[], []⟩⟩

end Modes

/-! ## Failures -/

section Failures

variable {helpText repo : String} {args : Args} {w : World}

/-- Without `--repo`, when `gh repo view` fails or prints only blanks, `main` says it cannot find
the repository and exits with status 1, having printed nothing on stdout and queried nothing
else. -/
theorem main_no_repo (hrepo : truthyStr args.repo = none)
    (hview : ∀ out, w.repoView = some out → pyStrip out = "") (t : Terminal) :
    (main helpText args w).exec t = (.error (.exit 1), { t with stderr := t.stderr ++
      ["Could not determine repository. Use --repo owner/repo"] }) := by
  have hd : (determineRepo args w).exec t = (.error (.exit 1), { t with stderr := t.stderr ++
      ["Could not determine repository. Use --repo owner/repo"] }) := by
    rw [determineRepo, hrepo]
    cases hv : w.repoView with
    | none => rfl
    | some out =>
      dsimp only
      rw [if_pos (hview out hv)]
      rfl
  rw [main, exec_bind_of_error hd]

theorem main_no_repo_pullWorld :
    truthyStr ({ runId := some 7 } : Args).repo = none ∧
    (∀ out, pullWorld.repoView = some out → pyStrip out = "") ∧
    (main "usage: timeline.py" { runId := some 7 } pullWorld).exec ⟨[], []⟩ =
      (.error (.exit 1), ⟨[], ["Could not determine repository. Use --repo owner/repo"]⟩) :=
  have hview : ∀ out, pullWorld.repoView = some out → pyStrip out = "" :=
    fun _ h => Option.noConfusion h
  ⟨rfl, hview, @main_no_repo "usage: timeline.py" { runId := some 7 } pullWorld rfl hview
    ⟨[], []⟩⟩

/-- A run ID whose query fails: `main` reports `gh`'s error on stderr after announcing the fetch,
exits with status 1, and prints nothing on stdout. -/
theorem main_fetch_error {runId : ℤ} {e : String} (hl : args.list = false)
    (hh : args.history = none) (hrepo : RepoFound args w repo)
    (hid : truthyInt args.runId = some runId) (hr : w.run repo runId = .error e) (t : Terminal) :
    (main helpText args w).exec t = (.error (.exit 1), { t with stderr := t.stderr ++
      ["Fetching run #" ++ toString runId ++ "...", "Error running gh api: " ++ e] }) := by
  rw [main_of_default hl hh hrepo, selectRunIds_of_runId hid, pure_bind, fetchRuns_cons]
  simp only [getRunDetails, hr, runGhApi, exec_bind, exec_printErr, exec_sysExit]
  simp

theorem main_fetch_error_pullWorld :
    ({ runId := some 9, repo := some "owner/repo" } : Args).list = false ∧
    ({ runId := some 9, repo := some "owner/repo" } : Args).history = none ∧
    RepoFound { runId := some 9, repo := some "owner/repo" } pullWorld "owner/repo" ∧
    truthyInt ({ runId := some 9, repo := some "owner/repo" } : Args).runId = some 9 ∧
    pullWorld.run "owner/repo" 9 = .error "HTTP 404: Not Found" ∧
    (main "usage: timeline.py" { runId := some 9, repo := some "owner/repo" } pullWorld).exec
      ⟨[], []⟩ = (.error (.exit 1),
        ⟨[], ["Fetching run #9...", "Error running gh api: HTTP 404: Not Found"]⟩) :=
  ⟨rfl, rfl, .inl rfl, rfl, rfl, @main_fetch_error "usage: timeline.py" "owner/repo"
    { runId := some 9, repo := some "owner/repo" } pullWorld 9 "HTTP 404: Not Found" rfl rfl
    (.inl rfl) rfl rfl ⟨[], []⟩⟩

end Failures

end CiTimeline
