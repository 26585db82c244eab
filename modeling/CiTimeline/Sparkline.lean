import CiTimeline.Job

/-!
# The sparkline

`render_sparkline` cuts the window of the jobs that started and completed into `width` equal
buckets and prints, per bucket, a block whose height grows with the number of those jobs
running in it. `runningCount_ok` reads its inner loop as a count and `sparkChar_ok` its outer
loop body as the block of `sparkLevel`.
-/

namespace CiTimeline

/-- `SPARK_BLOCKS`, lowest to highest. -/
def sparkBlocks : String := " ▁▂▃▄▅▆▇█"

def bucketStartOf (minTime bucketSeconds : ℚ) (i : ℕ) : ℚ := minTime + i * bucketSeconds

def countRunning (bucketStart bucketEnd : ℚ) (runningCount : ℕ) (j : Job) : Py ℕ := do
  let startedTs ← j.startedTime
  let completedTs ← j.completedTime
  pure (if startedTs < bucketEnd ∧ completedTs > bucketStart then runningCount + 1
    else runningCount)

def runningCount (jobs : List Job) (bucketStart bucketEnd : ℚ) : Py ℕ :=
  jobs.foldlM (countRunning bucketStart bucketEnd) 0

def sparkChar (completedJobs : List Job) (maxParallelism : ℕ) (minTime bucketSeconds : ℚ)
    (i : ℕ) : Py Char := do
  let bucketStart := bucketStartOf minTime bucketSeconds i
  let bucketEnd := bucketStart + bucketSeconds
  let runningCount ← runningCount completedJobs bucketStart bucketEnd
  if runningCount = 0 then pyIndex sparkBlocks 0
  else
    let level := min 8 (max 1 (pyInt ((← pyDiv runningCount maxParallelism) * 8)))
    pyIndex sparkBlocks level

def renderSparkline (jobs : List Job) (width : ℕ := 40) : Py String := do
  if jobs.isEmpty then return rep ' ' width
  let completedJobs := jobs.filter Job.hasTiming
  if completedJobs.isEmpty then return rep ' ' width
  let (minTime, maxTime) ← timeWindow completedJobs
  let totalSeconds := maxTime - minTime
  if totalSeconds = 0 then return rep '█' width
  let bucketSeconds ← pyDiv totalSeconds width
  let maxParallelism := completedJobs.length
  let result ← (List.range width).mapM (sparkChar completedJobs maxParallelism minTime bucketSeconds)
  return ⟨result⟩

/-- The test of the inner loop: started before `bucketEnd` and completed after `bucketStart`. -/
def Job.runsDuring (j : Job) (bucketStart bucketEnd : ℚ) : Bool :=
  match j.startedAt, j.completedAt with
  | some s, some c => decide (s < bucketEnd ∧ c > bucketStart)
  | _, _ => false

def bucketCount (jobs : List Job) (mn bs : ℚ) (i : ℕ) : ℕ :=
  jobs.countP (Job.runsDuring · (bucketStartOf mn bs i) (bucketStartOf mn bs i + bs))

/-- The level of a bucket in which `count` of the `total` jobs run. -/
def sparkLevel (count total : ℕ) : ℕ :=
  if count = 0 then 0 else min 8 (max 1 (8 * count / total))

section Level

variable {c c' n : ℕ}

theorem sparkLevel_eq_zero_iff : sparkLevel c n = 0 ↔ c = 0 := by
  unfold sparkLevel; split <;> omega

theorem sparkLevel_le_eight : sparkLevel c n ≤ 8 := by
  unfold sparkLevel; split <;> omega

theorem sparkLevel_eq_eight_iff (hn : 0 < n) (hc : c ≤ n) : sparkLevel c n = 8 ↔ c = n := by
  unfold sparkLevel
  rcases Nat.eq_zero_or_pos c with rfl | hpos
  · simp; omega
  rw [if_neg (by omega)]
  rcases hc.lt_or_eq with hlt | rfl
  · have : 8 * c / n < 8 := (Nat.div_lt_iff_lt_mul hn).mpr (by omega)
    omega
  · rw [Nat.mul_div_cancel 8 hn]; simp

theorem sparkLevel_mono (h : c ≤ c') : sparkLevel c n ≤ sparkLevel c' n := by
  unfold sparkLevel
  have := Nat.div_le_div_right (c := n) (Nat.mul_le_mul_left 8 h)
  split <;> split <;> omega

end Level

section Loop

variable {jobs : List Job} {a b : ℚ}

theorem countRunning_ok {j : Job} (h : j.hasTiming = true) (n : ℕ) :
    countRunning a b n j = .ok (n + if j.runsDuring a b then 1 else 0) := by
  obtain ⟨⟨s, hs⟩, ⟨c, hc⟩⟩ := Option.isSome_iff_exists.mp (Job.hasTiming_iff.mp h).1,
    Option.isSome_iff_exists.mp (Job.hasTiming_iff.mp h).2
  simp only [countRunning, Job.startedTime_ok hs, Job.completedTime_ok hc, Py.ok_bind,
    Py.pure_eq_ok, Job.runsDuring, hs, hc]
  by_cases hr : s < b ∧ c > a <;> simp [hr]

theorem runningCount_ok (h : ∀ j ∈ jobs, j.hasTiming = true) :
    runningCount jobs a b = .ok (jobs.countP (Job.runsDuring · a b)) := by
  suffices ∀ n, jobs.foldlM (countRunning a b) n = .ok (n + jobs.countP (Job.runsDuring · a b)) from
    (this 0).trans (by rw [Nat.zero_add])
  induction jobs with
  | nil => intro n; rfl
  | cons j jobs ih =>
    intro n
    rw [List.foldlM_cons, countRunning_ok (h j (List.mem_cons_self j jobs)), Py.ok_bind,
      ih fun k hk => h k (List.mem_cons_of_mem j hk), List.countP_cons]
    congr 1; omega

theorem sparkBlocks_getElem? : ∀ k < 9, sparkBlocks.data[k]? = some (sparkBlocks.data.getD k ' ') := by
  decide

theorem sparkChar_ok (mn bs : ℚ) (i : ℕ) (h : ∀ j ∈ jobs, j.hasTiming = true) (hne : jobs ≠ []) :
    sparkChar jobs jobs.length mn bs i =
      .ok (sparkBlocks.data.getD (sparkLevel (bucketCount jobs mn bs i) jobs.length) ' ') := by
  unfold sparkChar
  have hrc : runningCount jobs (bucketStartOf mn bs i) (bucketStartOf mn bs i + bs) =
      .ok (bucketCount jobs mn bs i) := runningCount_ok h
  simp only [hrc, Py.ok_bind]
  set cnt := bucketCount jobs mn bs i
  have hN : 0 < jobs.length := List.length_pos.mpr hne
  by_cases h0 : cnt = 0
  · simp only [h0, if_true, sparkLevel]
    exact pyIndex_of_getElem? (sparkBlocks_getElem? 0 (by norm_num))
  have hdiv : pyDiv (cnt : ℚ) jobs.length = .ok (cnt / jobs.length) :=
    pyDiv_ok (by exact_mod_cast hN.ne')
  have hq : (cnt : ℚ) / jobs.length * 8 = ((8 * cnt : ℕ) : ℚ) / (jobs.length : ℕ) := by
    push_cast; ring
  have hint : pyInt ((cnt : ℚ) / jobs.length * 8) = ((8 * cnt / jobs.length : ℕ) : ℤ) := by
    rw [pyInt_of_nonneg (by positivity), hq, Rat.floor_natCast_div_natCast]; norm_cast
  have hlevel : min 8 (max 1 (pyInt ((cnt : ℚ) / jobs.length * 8))) =
      ((sparkLevel cnt jobs.length : ℕ) : ℤ) := by
    rw [hint, sparkLevel, if_neg h0]; push_cast; rfl
  simp only [h0, if_false, hdiv, Py.ok_bind, hlevel]
  exact pyIndex_of_getElem? (sparkBlocks_getElem? _ (Nat.lt_succ_of_le sparkLevel_le_eight))

end Loop

section Render

variable {jobs : List Job} {width : ℕ}

theorem renderSparkline_of_span {mn mx : ℚ} (hw : 0 < width) (hne : jobs.filter Job.hasTiming ≠ [])
    (hwin : timeWindow (jobs.filter Job.hasTiming) = .ok (mn, mx)) (hspan : mx - mn ≠ 0) :
    renderSparkline jobs width = .ok ⟨(List.range width).map fun i => sparkBlocks.data.getD
      (sparkLevel (bucketCount (jobs.filter Job.hasTiming) mn ((mx - mn) / width) i)
        (jobs.filter Job.hasTiming).length) ' '⟩ := by
  have hmap := Py.mapM_ok (l := List.range width) fun i _ =>
    sparkChar_ok mn ((mx - mn) / width) i (fun j hj => (List.mem_filter.mp hj).2) hne
  simp only [renderSparkline, isEmpty_of_filter_ne_nil hne, List.isEmpty_iff, hne, if_false, hwin,
    Py.ok_bind, hspan,
    pyDiv_ok (Nat.cast_ne_zero.mpr hw.ne'), hmap, Py.pure_eq_ok, Bool.false_eq_true]

theorem renderSparkline_of_no_timed (h : jobs.filter Job.hasTiming = []) :
    renderSparkline jobs width = .ok (rep ' ' width) := by
  unfold renderSparkline
  split
  · rfl
  · simp [h]

theorem renderSparkline_of_zero_span {mn mx : ℚ} (hne : jobs.filter Job.hasTiming ≠ [])
    (hwin : timeWindow (jobs.filter Job.hasTiming) = .ok (mn, mx)) (hspan : mx - mn = 0) :
    renderSparkline jobs width = .ok (rep '█' width) := by
  simp [renderSparkline, isEmpty_of_filter_ne_nil hne, hne, hwin, hspan]

/-- The three outcomes of `render_sparkline`: blanks when no job started and completed,
full blocks over a window of zero span, and the blocks of the buckets' levels otherwise. -/
theorem renderSparkline_cases (jobs : List Job) (hw : 0 < width) :
    (jobs.filter Job.hasTiming = [] ∧ renderSparkline jobs width = .ok (rep ' ' width)) ∨
    ∃ mn mx, timeWindow (jobs.filter Job.hasTiming) = .ok (mn, mx) ∧
      (mx - mn = 0 ∧ renderSparkline jobs width = .ok (rep '█' width) ∨
        mx - mn ≠ 0 ∧ renderSparkline jobs width = .ok ⟨(List.range width).map fun i =>
          sparkBlocks.data.getD (sparkLevel (bucketCount (jobs.filter Job.hasTiming) mn
            ((mx - mn) / width) i) (jobs.filter Job.hasTiming).length) ' '⟩) := by
  by_cases hE : jobs.filter Job.hasTiming = []
  · exact .inl ⟨hE, renderSparkline_of_no_timed hE⟩
  obtain ⟨mn, mx, hwin, -, -⟩ := timeWindow_ok hE fun j hj =>
    Job.isCompleted_of_hasTiming (List.mem_filter.mp hj).2
  refine .inr ⟨mn, mx, hwin, ?_⟩
  by_cases hspan : mx - mn = 0
  · exact .inl ⟨hspan, renderSparkline_of_zero_span hE hwin hspan⟩
  · exact .inr ⟨hspan, renderSparkline_of_span hw hE hwin hspan⟩

theorem sparkBlocks_mem : ∀ k < 9, sparkBlocks.data.getD k ' ' ∈ sparkBlocks.data := by decide

theorem sparkBlocks_ne_blank : ∀ k < 9, k ≠ 0 → sparkBlocks.data.getD k ' ' ≠ ' ' := by decide

theorem renderSparkline_isOk (jobs : List Job) (hw : 0 < width) :
    ∃ out, renderSparkline jobs width = .ok out ∧ out.length = width ∧
      ∀ ch ∈ out.data, ch ∈ sparkBlocks.data := by
  rcases renderSparkline_cases jobs hw with ⟨-, h⟩ | ⟨mn, mx, -, ⟨-, h⟩ | ⟨-, h⟩⟩
  · exact ⟨_, h, length_rep _ _, fun ch hch => by rw [eq_of_mem_rep hch]; decide⟩
  · exact ⟨_, h, length_rep _ _, fun ch hch => by rw [eq_of_mem_rep hch]; decide⟩
  · refine ⟨_, h, (List.length_map _ _).trans (List.length_range width), ?_⟩
    simp only [List.mem_map, List.mem_range]
    rintro _ ⟨i, -, rfl⟩
    exact sparkBlocks_mem _ (Nat.lt_succ_of_le sparkLevel_le_eight)

theorem bucket_level_spec {mn bs : ℚ} (hne : jobs ≠ []) (i : ℕ) :
    let level := sparkLevel (bucketCount jobs mn bs i) jobs.length
    (level = 0 ↔ ∀ j ∈ jobs, j.runsDuring (bucketStartOf mn bs i) (bucketStartOf mn bs i + bs) = false) ∧
    (level = 8 ↔ ∀ j ∈ jobs, j.runsDuring (bucketStartOf mn bs i) (bucketStartOf mn bs i + bs) = true) := by
  refine ⟨sparkLevel_eq_zero_iff.trans (by simp [bucketCount, List.countP_eq_zero]),
    (sparkLevel_eq_eight_iff (List.length_pos.mpr hne) (List.countP_le_length _)).trans
      List.countP_eq_length⟩

theorem bucketStartOf_div (mn span : ℚ) (width i : ℕ) :
    bucketStartOf mn (span / width) i = mn + i * span / width ∧
      bucketStartOf mn (span / width) i + span / width = mn + (i + 1) * span / width := by
  constructor <;> simp only [bucketStartOf] <;> ring

/-- For every job list and every width, `render_sparkline` prints `width` blocks of
`SPARK_BLOCKS`. Over a window `[mn, mx)` of non-zero span, bucket `i` is
`[mn + i·(mx - mn)/width, mn + (i + 1)·(mx - mn)/width)`, and its block has level `0` exactly
when none of the jobs that started and completed runs in it, `8` exactly when all of them do,
and a level that grows with how many of them do. -/
theorem renderSparkline_blocks (jobs : List Job) (width : ℕ) (hw : 1 ≤ width) :
    ∃ out, renderSparkline jobs width = .ok out ∧ out.length = width ∧
      (∀ ch ∈ out.data, ch ∈ sparkBlocks.data) ∧
      ∀ mn mx, timeWindow (jobs.filter Job.hasTiming) = .ok (mn, mx) → mx - mn ≠ 0 →
        ∃ level : ℕ → ℕ, ∀ i < width,
          out.data[i]? = sparkBlocks.data[level i]? ∧ level i ≤ 8 ∧
          (level i = 0 ↔ ∀ j ∈ jobs.filter Job.hasTiming, j.runsDuring
            (mn + i * (mx - mn) / width) (mn + (i + 1) * (mx - mn) / width) = false) ∧
          (level i = 8 ↔ ∀ j ∈ jobs.filter Job.hasTiming, j.runsDuring
            (mn + i * (mx - mn) / width) (mn + (i + 1) * (mx - mn) / width) = true) ∧
          ∀ i' < width, (jobs.filter Job.hasTiming).countP (·.runsDuring
              (mn + i * (mx - mn) / width) (mn + (i + 1) * (mx - mn) / width)) ≤
            (jobs.filter Job.hasTiming).countP (·.runsDuring
              (mn + i' * (mx - mn) / width) (mn + (i' + 1) * (mx - mn) / width)) →
            level i ≤ level i' := by
  obtain ⟨out, hout, hlen, hmem⟩ := renderSparkline_isOk jobs hw
  refine ⟨out, hout, hlen, hmem, fun mn mx hwin hspan => ?_⟩
  have hE : jobs.filter Job.hasTiming ≠ [] := fun h => by rw [h, timeWindow_nil] at hwin; cases hwin
  rw [renderSparkline_of_span hw hE hwin hspan] at hout
  cases hout
  have hcount : ∀ i, bucketCount (jobs.filter Job.hasTiming) mn ((mx - mn) / width) i =
      (jobs.filter Job.hasTiming).countP (·.runsDuring
        (mn + i * (mx - mn) / width) (mn + (i + 1) * (mx - mn) / width)) := fun i => by
    rw [bucketCount, (bucketStartOf_div mn (mx - mn) width i).2,
      (bucketStartOf_div mn (mx - mn) width i).1]
  refine ⟨fun i => sparkLevel (bucketCount (jobs.filter Job.hasTiming) mn ((mx - mn) / width) i)
    (jobs.filter Job.hasTiming).length, fun i hi => ?_⟩
  obtain ⟨e₁, e₂⟩ := bucketStartOf_div mn (mx - mn) width i
  refine ⟨?_, sparkLevel_le_eight, ?_, ?_, fun i' _ h => sparkLevel_mono (by rwa [hcount, hcount])⟩
  · simp only [List.getElem?_map, List.getElem?_range hi, Option.map_some']
    exact (sparkBlocks_getElem? _ (Nat.lt_succ_of_le sparkLevel_le_eight)).symm
  · rw [(bucket_level_spec hE i).1, e₂, e₁]
  · rw [(bucket_level_spec hE i).2, e₂, e₁]

theorem renderSparkline_blocks_of_one_job : 1 ≤ 2 ∧
    ∃ out, renderSparkline [⟨"build", 0, some 5, some 10⟩] 2 = .ok out ∧ out.length = 2 ∧
      (∀ ch ∈ out.data, ch ∈ sparkBlocks.data) ∧
      ∀ mn mx, timeWindow (([⟨"build", 0, some 5, some 10⟩] : List Job).filter Job.hasTiming) =
          .ok (mn, mx) → mx - mn ≠ 0 →
        ∃ level : ℕ → ℕ, ∀ i < 2,
          out.data[i]? = sparkBlocks.data[level i]? ∧ level i ≤ 8 ∧
          (level i = 0 ↔ ∀ j ∈ ([⟨"build", 0, some 5, some 10⟩] : List Job).filter Job.hasTiming,
            j.runsDuring (mn + i * (mx - mn) / (2 : ℕ)) (mn + (i + 1) * (mx - mn) / (2 : ℕ)) = false) ∧
          (level i = 8 ↔ ∀ j ∈ ([⟨"build", 0, some 5, some 10⟩] : List Job).filter Job.hasTiming,
            j.runsDuring (mn + i * (mx - mn) / (2 : ℕ)) (mn + (i + 1) * (mx - mn) / (2 : ℕ)) = true) ∧
          ∀ i' < (2 : ℕ), (([⟨"build", 0, some 5, some 10⟩] : List Job).filter Job.hasTiming).countP
              (·.runsDuring (mn + i * (mx - mn) / (2 : ℕ)) (mn + (i + 1) * (mx - mn) / (2 : ℕ))) ≤
            (([⟨"build", 0, some 5, some 10⟩] : List Job).filter Job.hasTiming).countP
              (·.runsDuring (mn + i' * (mx - mn) / (2 : ℕ)) (mn + (i' + 1) * (mx - mn) / (2 : ℕ))) →
            level i ≤ level i' :=
  ⟨by decide, renderSparkline_blocks _ 2 (by decide)⟩

/-- The buckets tile the window: a time in `[mn, mn + width * bs)` lies in the bucket
`⌊(s - mn) / bs⌋`. -/
theorem exists_bucket_of_mem_window {mn bs s : ℚ} (hbs : 0 < bs) (h₀ : mn ≤ s)
    (h₁ : s < mn + width * bs) :
    ∃ i < width, bucketStartOf mn bs i ≤ s ∧ s < bucketStartOf mn bs i + bs := by
  have h0 : 0 ≤ (s - mn) / bs := div_nonneg (sub_nonneg.mpr h₀) hbs.le
  have hlt : (s - mn) / bs < width := by rw [div_lt_iff₀ hbs]; linarith only [h₁]
  set k := ⌊(s - mn) / bs⌋
  have hk0 : 0 ≤ k := Int.floor_nonneg.mpr h0
  have hkq : ((k.toNat : ℕ) : ℚ) = k := by exact_mod_cast Int.toNat_of_nonneg hk0
  have hlo : (k : ℚ) * bs ≤ s - mn := (le_div_iff₀ hbs).mp (Int.floor_le _)
  have hhi : s - mn < ((k : ℚ) + 1) * bs := (div_lt_iff₀ hbs).mp (Int.lt_floor_add_one _)
  refine ⟨k.toNat, ?_, by rw [bucketStartOf, hkq]; linarith only [hlo],
    by rw [bucketStartOf, hkq]; linarith only [hhi]⟩
  have := Int.floor_lt.mpr (by exact_mod_cast hlt : (s - mn) / bs < ((width : ℤ) : ℚ))
  omega

/-- A job that started no earlier than it was created and completed after it started
shows in the sparkline: the bucket holding its start exists and is never blank. -/
theorem renderSparkline_running_job_visible (jobs : List Job) (width : ℕ) (hw : 1 ≤ width)
    {j : Job} (hj : j ∈ jobs) {s c : ℚ} (hs : j.startedAt = some s) (hc : j.completedAt = some c)
    (hcs : j.createdAt ≤ s) (hsc : s < c) :
    ∃ out mn mx, renderSparkline jobs width = .ok out ∧
      timeWindow (jobs.filter Job.hasTiming) = .ok (mn, mx) ∧
      (∃ i < width, bucketStartOf mn ((mx - mn) / width) i ≤ s ∧
        s < bucketStartOf mn ((mx - mn) / width) i + (mx - mn) / width) ∧
      ∀ i < width, bucketStartOf mn ((mx - mn) / width) i ≤ s →
        s < bucketStartOf mn ((mx - mn) / width) i + (mx - mn) / width →
        ∃ ch, out.data[i]? = some ch ∧ ch ≠ ' ' := by
  have hjE : j ∈ jobs.filter Job.hasTiming := List.mem_filter.mpr ⟨hj, by simp [hs, hc]⟩
  have hE : jobs.filter Job.hasTiming ≠ [] := List.ne_nil_of_mem hjE
  obtain ⟨mn, mx, hwin, hmn, hmx⟩ := timeWindow_ok hE fun k hk =>
    Job.isCompleted_of_hasTiming (List.mem_filter.mp hk).2
  have hmn_le : mn ≤ j.createdAt := (pyMin_ok_iff.mp hmn).2 _ (List.mem_map_of_mem _ hjE)
  have hc_le : c ≤ mx := (pyMax_ok_iff.mp hmx).2 _ (List.mem_filterMap.mpr ⟨j, hjE, hc⟩)
  have hwq : (0 : ℚ) < width := by exact_mod_cast hw
  have hspan_pos : 0 < mx - mn := sub_pos.mpr ((hmn_le.trans hcs).trans_lt (hsc.trans_le hc_le))
  set bs := (mx - mn) / width with hbs
  have hbs_pos : 0 < bs := div_pos hspan_pos hwq
  refine ⟨_, mn, mx, renderSparkline_of_span hw hE hwin hspan_pos.ne', hwin, ?_, ?_⟩
  · have hspan : (width : ℚ) * bs = mx - mn := by rw [hbs]; field_simp
    exact exists_bucket_of_mem_window hbs_pos (hmn_le.trans hcs)
      (by linarith only [hspan, hsc, hc_le])
  · intro i hi hstart hend
    have hrun : j.runsDuring (bucketStartOf mn bs i) (bucketStartOf mn bs i + bs) = true := by
      simp [Job.runsDuring, hs, hc, hend]; linarith only [hstart, hsc]
    have hlevel : sparkLevel (bucketCount (jobs.filter Job.hasTiming) mn bs i)
        (jobs.filter Job.hasTiming).length ≠ 0 := fun h0 =>
      absurd hrun (by simp [((bucket_level_spec hE i).1.mp h0) j hjE])
    refine ⟨_, by simp [List.getElem?_map, List.getElem?_range hi], sparkBlocks_ne_blank _
      (Nat.lt_succ_of_le sparkLevel_le_eight) hlevel⟩

theorem renderSparkline_running_job_visible_of_one_job : 1 ≤ 2 ∧
    (⟨"build", 0, some 5, some 10⟩ : Job) ∈ [⟨"build", 0, some 5, some 10⟩] ∧
    (⟨"build", 0, some 5, some 10⟩ : Job).startedAt = some 5 ∧
    (⟨"build", 0, some 5, some 10⟩ : Job).completedAt = some 10 ∧
    (⟨"build", 0, some 5, some 10⟩ : Job).createdAt ≤ 5 ∧ (5 : ℚ) < 10 ∧
    ∃ out mn mx, renderSparkline [⟨"build", 0, some 5, some 10⟩] 2 = .ok out ∧
      timeWindow (([⟨"build", 0, some 5, some 10⟩] : List Job).filter Job.hasTiming) = .ok (mn, mx) ∧
      (∃ i < 2, bucketStartOf mn ((mx - mn) / (2 : ℕ)) i ≤ 5 ∧
        5 < bucketStartOf mn ((mx - mn) / (2 : ℕ)) i + (mx - mn) / (2 : ℕ)) ∧
      ∀ i < 2, bucketStartOf mn ((mx - mn) / (2 : ℕ)) i ≤ 5 →
        5 < bucketStartOf mn ((mx - mn) / (2 : ℕ)) i + (mx - mn) / (2 : ℕ) →
        ∃ ch, out.data[i]? = some ch ∧ ch ≠ ' ' :=
  ⟨by decide, List.mem_singleton_self _, rfl, rfl, by norm_num, by norm_num,
    renderSparkline_running_job_visible _ 2 (by decide) (List.mem_singleton_self _) rfl rfl
      (by norm_num) (by norm_num)⟩

/-- The sparkline does not see the order of the jobs: the single-run view, which passes
them longest first, and the history, which passes them as listed, draw the same line. -/
theorem renderSparkline_perm {jobs jobs' : List Job} (h : jobs.Perm jobs') (width : ℕ) :
    renderSparkline jobs width = renderSparkline jobs' width := by
  have hE := h.filter Job.hasTiming
  have htimed : ∀ j ∈ jobs.filter Job.hasTiming, j.hasTiming = true :=
    fun j hj => (List.mem_filter.mp hj).2
  have hchar : ∀ n mn bs, sparkChar (jobs.filter Job.hasTiming) n mn bs =
      sparkChar (jobs'.filter Job.hasTiming) n mn bs := fun n mn bs => by
    funext i
    simp only [sparkChar, runningCount_ok htimed,
      runningCount_ok fun j hj => htimed j (hE.mem_iff.mpr hj), hE.countP_eq]
  have hempty : ∀ {l l' : List Job}, l.Perm l' → l.isEmpty = l'.isEmpty := fun {l l'} p => by
    cases l <;> cases l' <;> first | rfl | exact absurd p.length_eq (by simp)
  simp only [renderSparkline, hempty h, hempty hE, hE.length_eq, hchar,
    timeWindow_perm hE fun j hj => Job.isCompleted_of_hasTiming (htimed j hj)]

theorem renderSparkline_perm_of_swap :
    ([⟨"build", 0, some 0, some 100⟩, ⟨"lint", 0, some 10, some 30⟩] : List Job).Perm
      [⟨"lint", 0, some 10, some 30⟩, ⟨"build", 0, some 0, some 100⟩] ∧
    renderSparkline [⟨"build", 0, some 0, some 100⟩, ⟨"lint", 0, some 10, some 30⟩] 20 =
      renderSparkline [⟨"lint", 0, some 10, some 30⟩, ⟨"build", 0, some 0, some 100⟩] 20 :=
  ⟨.swap _ _ _, renderSparkline_perm (.swap _ _ _) 20⟩

end Render

end CiTimeline
