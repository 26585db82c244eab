import CiTimeline.UnifiedDiff

/-!
# What the unified diff says

The rows of `render_unified_diff` against the keys of the two runs, the aggregate rows against
the sums they print, and the `KEY INSIGHT` block against the totals it reads. The aggregate
delta cells print no `-` before a negative delta, unlike the per-job tags of the same function,
and the two sums' deltas count only the keys both runs have. The insight block follows the
sign of the build-time total, not the 60-second band of its own first verdict.
-/

namespace CiTimeline

section Sums

variable {run1 run2 : WorkflowRun}

theorem sum_map_sub_sum {ι : Type} (l : List ι) (g h : ι → ℚ) :
    (l.map fun a => g a - h a).sum = (l.map g).sum - (l.map h).sum := by
  induction l with
  | nil => simp
  | cons a l ih => simp only [List.map_cons, List.sum_cons, ih]; ring

/-- Over runs with the same keys, the per-key differences add up to the difference of the
sums over the two runs' jobs. -/
theorem sum_deltaOf_of_same_keys (f : Job → ℚ)
    (h : ∀ n, n ∈ (jobsByName run1).keys ↔ n ∈ (jobsByName run2).keys) :
    ((sortedJobNames (jobsByName run1) (jobsByName run2)).map fun n =>
        deltaOf f ((jobsByName run1).get? n) ((jobsByName run2).get? n)).sum =
      sumOf f (jobsByName run2).values - sumOf f (jobsByName run1).values := by
  set d₁ := jobsByName run1
  set d₂ := jobsByName run2
  have hnodup : ∀ run, (jobsByName run).keys.Nodup := fun _ => PyDict.nodup_keys_ofList _ _
  have hperm : ∀ d : PyDict Job, d.keys.Nodup → (∀ n, n ∈ d.keys ↔ n ∈ d₁.keys ∨ n ∈ d₂.keys) →
      (sortedJobNames d₁ d₂).Perm d.keys := fun d hd hmem =>
    (List.perm_ext_iff_of_nodup (nodup_sortedJobNames d₁ d₂) hd).mpr fun n => by
      rw [mem_sortedJobNames, hmem]
  have hsplit : ∀ n ∈ sortedJobNames d₁ d₂, deltaOf f (d₁.get? n) (d₂.get? n) =
      ((d₂.get? n).map f).getD 0 - ((d₁.get? n).map f).getD 0 := by
    intro n hn
    have h₁ : n ∈ d₁.keys := (mem_sortedJobNames.mp hn).elim id (h n).mpr
    obtain ⟨j₁, hj₁⟩ := Option.isSome_iff_exists.mp (PyDict.isSome_get?_iff.mpr h₁)
    obtain ⟨j₂, hj₂⟩ := Option.isSome_iff_exists.mp (PyDict.isSome_get?_iff.mpr ((h n).mp h₁))
    simp [hj₁, hj₂, deltaOf]
  have hperm₁ := hperm d₁ (hnodup run1) fun n => ⟨.inl, fun h' => h'.elim id (h n).mpr⟩
  have hperm₂ := hperm d₂ (hnodup run2) fun n => ⟨.inr, fun h' => h'.elim (h n).mp id⟩
  calc _ = ((sortedJobNames d₁ d₂).map fun n => ((d₂.get? n).map f).getD 0).sum -
        ((sortedJobNames d₁ d₂).map fun n => ((d₁.get? n).map f).getD 0).sum := by
        rw [List.map_congr_left hsplit, sum_map_sub_sum]
    _ = (d₂.keys.map fun n => ((d₂.get? n).map f).getD 0).sum -
        (d₁.keys.map fun n => ((d₁.get? n).map f).getD 0).sum := by
        rw [(hperm₂.map _).sum_eq, (hperm₁.map _).sum_eq]
    _ = sumOf f d₂.values - sumOf f d₁.values := by
        rw [PyDict.sum_keys_get? f (hnodup run2), PyDict.sum_keys_get? f (hnodup run1)]; rfl

end Sums

theorem renderUnifiedDiff_footer (run1 run2 : WorkflowRun) (width : ℤ) :
    ∃ wall1 wall2 pre, getWallTime run1 = .ok wall1 ∧ getWallTime run2 = .ok wall2 ∧
      renderUnifiedDiff run1 run2 width = .ok ("\n".intercalate (pre ++
        diffFooter wall1 wall2 (sumOf Job.runDurationSeconds (jobsByName run1).values)
          (sumOf Job.runDurationSeconds (jobsByName run2).values)
          (sumOf Job.queueDurationSeconds (jobsByName run1).values)
          (sumOf Job.queueDurationSeconds (jobsByName run2).values)
          ((sortedJobNames (jobsByName run1) (jobsByName run2)).map fun n =>
            deltaOf Job.runDurationSeconds (lastCompleted run1 n) (lastCompleted run2 n)).sum
          ((sortedJobNames (jobsByName run1) (jobsByName run2)).map fun n =>
            deltaOf Job.queueDurationSeconds (lastCompleted run1 n) (lastCompleted run2 n)).sum
          width)) := by
  obtain ⟨_, wall1, wall2, -, hw1, hw2, hout⟩ := renderUnifiedDiff_report run1 run2 width
  simp only [get?_jobsByName] at hout
  exact ⟨wall1, wall2, _, hw1, hw2, hout⟩

theorem renderUnifiedDiff_prints_aggregates (run1 run2 : WorkflowRun) (width : ℤ) :
    ∃ wall1 wall2 runDelta queueDelta,
      getWallTime run1 = .ok wall1 ∧ getWallTime run2 = .ok wall2 ∧
      Prints (renderUnifiedDiff run1 run2 width)
        (aggregateLine "Wall clock:" wall1 wall2 (wall2 - wall1)) ∧
      Prints (renderUnifiedDiff run1 run2 width) (aggregateLine "Sum of run times:"
        (sumOf Job.runDurationSeconds (jobsByName run1).values)
        (sumOf Job.runDurationSeconds (jobsByName run2).values) runDelta) ∧
      Prints (renderUnifiedDiff run1 run2 width) (aggregateLine "Sum of queue times:"
        (sumOf Job.queueDurationSeconds (jobsByName run1).values)
        (sumOf Job.queueDurationSeconds (jobsByName run2).values) queueDelta) ∧
      runDelta = ((sortedJobNames (jobsByName run1) (jobsByName run2)).map fun n =>
        deltaOf Job.runDurationSeconds (lastCompleted run1 n) (lastCompleted run2 n)).sum ∧
      queueDelta = ((sortedJobNames (jobsByName run1) (jobsByName run2)).map fun n =>
        deltaOf Job.queueDurationSeconds (lastCompleted run1 n) (lastCompleted run2 n)).sum := by
  obtain ⟨wall1, wall2, pre, hw1, hw2, hout⟩ := renderUnifiedDiff_footer run1 run2 width
  exact ⟨wall1, wall2, _, _, hw1, hw2, ⟨_, hout, by simp [diffFooter]⟩, ⟨_, hout, by simp [diffFooter]⟩,
    ⟨_, hout, by simp [diffFooter]⟩, rfl, rfl⟩

/-- Each aggregate row prints both runs' values and a delta cell, `+` before a positive
delta and nothing before a negative one: the wall clock's delta is the difference of the
two wall times, the sums' deltas add the differences of the keys both runs have, and these
are the differences of the printed sums when the runs have the same keys. -/
theorem renderUnifiedDiff_aggregate_rows (run1 run2 : WorkflowRun) (width : ℤ) :
    ∃ wall1 wall2 runDelta queueDelta,
      getWallTime run1 = .ok wall1 ∧ getWallTime run2 = .ok wall2 ∧
      Prints (renderUnifiedDiff run1 run2 width)
        (aggregateLine "Wall clock:" wall1 wall2 (wall2 - wall1)) ∧
      Prints (renderUnifiedDiff run1 run2 width) (aggregateLine "Sum of run times:"
        (sumOf Job.runDurationSeconds (jobsByName run1).values)
        (sumOf Job.runDurationSeconds (jobsByName run2).values) runDelta) ∧
      Prints (renderUnifiedDiff run1 run2 width) (aggregateLine "Sum of queue times:"
        (sumOf Job.queueDurationSeconds (jobsByName run1).values)
        (sumOf Job.queueDurationSeconds (jobsByName run2).values) queueDelta) ∧
      runDelta = ((sortedJobNames (jobsByName run1) (jobsByName run2)).map fun n =>
        deltaOf Job.runDurationSeconds (lastCompleted run1 n) (lastCompleted run2 n)).sum ∧
      queueDelta = ((sortedJobNames (jobsByName run1) (jobsByName run2)).map fun n =>
        deltaOf Job.queueDurationSeconds (lastCompleted run1 n) (lastCompleted run2 n)).sum ∧
      ((∀ n, (∃ j ∈ run1.jobs, j.isCompleted ∧ normalizeJobName j.name = n) ↔
          ∃ j ∈ run2.jobs, j.isCompleted ∧ normalizeJobName j.name = n) →
        runDelta = sumOf Job.runDurationSeconds (jobsByName run2).values -
          sumOf Job.runDurationSeconds (jobsByName run1).values ∧
        queueDelta = sumOf Job.queueDurationSeconds (jobsByName run2).values -
          sumOf Job.queueDurationSeconds (jobsByName run1).values) := by
  obtain ⟨wall1, wall2, runDelta, queueDelta, hw1, hw2, hwall, hrun, hqueue, hR, hQ⟩ :=
    renderUnifiedDiff_prints_aggregates run1 run2 width
  refine ⟨wall1, wall2, runDelta, queueDelta, hw1, hw2, hwall, hrun, hqueue, hR, hQ, fun h => ?_⟩
  have hkeys : ∀ n, n ∈ (jobsByName run1).keys ↔ n ∈ (jobsByName run2).keys := fun n => by
    rw [mem_keys_jobsByName, mem_keys_jobsByName]; exact h n
  simp only [hR, hQ, ← get?_jobsByName]
  exact ⟨sum_deltaOf_of_same_keys _ hkeys, sum_deltaOf_of_same_keys _ hkeys⟩

/-- A run with one job against a run with none: the wall-clock cell is the magnitude of a
negative difference with no sign, and the run-time cell is `0s` beside sums `1m40s` and
`0s`. -/
theorem renderUnifiedDiff_aggregate_cells_of_missing_job :
    Prints (renderUnifiedDiff ⟨1, "ci", "completed", some "success", 0,
        [⟨"build", 0, some 0, some 100⟩]⟩ ⟨2, "ci", "completed", some "success", 0, []⟩ 140)
      "Wall clock:                                    1m40s                       0s       1m40s" ∧
    Prints (renderUnifiedDiff ⟨1, "ci", "completed", some "success", 0,
        [⟨"build", 0, some 0, some 100⟩]⟩ ⟨2, "ci", "completed", some "success", 0, []⟩ 140)
      "Sum of run times:                              1m40s                       0s          0s" := by
  obtain ⟨wall1, wall2, pre, hw1, hw2, hout⟩ := renderUnifiedDiff_footer ⟨1, "ci", "completed",
    some "success", 0, [⟨"build", 0, some 0, some 100⟩]⟩ ⟨2, "ci", "completed", some "success", 0, []⟩ 140
  obtain rfl : wall1 = 100 := Except.ok.inj (hw1.symm.trans (by with_unfolding_all decide :
    getWallTime ⟨1, "ci", "completed", some "success", 0, [⟨"build", 0, some 0, some 100⟩]⟩ = .ok 100))
  obtain rfl : wall2 = 0 := Except.ok.inj (hw2.symm.trans (getWallTime_of_no_completed rfl))
  exact ⟨⟨_, hout, List.mem_append_right _ (by with_unfolding_all decide)⟩,
    ⟨_, hout, List.mem_append_right _ (by with_unfolding_all decide)⟩⟩

section Insight

variable {W R Q : ℚ}

theorem despite_not_mem_buildVerdict :
    "  Despite faster builds, wall clock time increased due to runner queue delays!" ∉
      buildVerdict R := by
  unfold buildVerdict
  split_ifs <;> simp only [List.mem_singleton]
  · exact ne_of_not_begins_with (by decide)
  · exact ne_of_not_begins_with (by decide)
  · decide

theorem savings_not_mem_buildVerdict :
    "  Build time savings translated to faster wall clock time." ∉ buildVerdict R := by
  unfold buildVerdict
  split_ifs <;> simp only [List.mem_singleton]
  · exact ne_of_not_begins_with (by decide)
  · exact ne_of_not_begins_with (by decide)
  · decide

theorem despite_not_mem_queueVerdict :
    "  Despite faster builds, wall clock time increased due to runner queue delays!" ∉
      queueVerdict Q := by
  unfold queueVerdict
  split_ifs <;> simp only [List.mem_singleton, List.not_mem_nil, not_false_eq_true] <;>
    exact ne_of_not_begins_with (by decide)

theorem savings_not_mem_queueVerdict :
    "  Build time savings translated to faster wall clock time." ∉ queueVerdict Q := by
  unfold queueVerdict
  split_ifs <;> simp only [List.mem_singleton, List.not_mem_nil, not_false_eq_true] <;>
    exact ne_of_not_begins_with (by decide)

theorem despite_mem_wallVerdict :
    "  Despite faster builds, wall clock time increased due to runner queue delays!" ∈
      wallVerdict W R ↔ W > 0 ∧ R < 0 := by
  unfold wallVerdict
  split_ifs with h₁ h₂ <;> simp only [h₁, iff_true, iff_false, List.not_mem_nil, not_false_eq_true]
  · decide
  · decide

theorem savings_mem_wallVerdict :
    "  Build time savings translated to faster wall clock time." ∈ wallVerdict W R ↔
      W < 0 ∧ R < 0 := by
  unfold wallVerdict
  split_ifs with h₁ h₂
  · exact ⟨fun h => absurd h (by decide), fun h => absurd h.1 (not_lt.mpr h₁.1.le)⟩
  · simp only [h₂, iff_true]; decide
  · simp only [h₂, iff_false, List.not_mem_nil, not_false_eq_true]

theorem saved_mem_buildVerdict :
    "  Run 2 saved " ++ formatDuration (-R) ++ " in actual build time across all jobs." ∈
      buildVerdict R ↔ R < -60 := by
  unfold buildVerdict
  split_ifs with h₁ h₂ <;> simp only [h₁, List.mem_singleton, iff_true, iff_false]
  · exact ne_of_prefixes ((prefix_data_append _ _).trans (prefix_data_append _ _))
      ((prefix_data_append _ _).trans (prefix_data_append _ _)) (by decide) (by decide)
  · exact (ne_of_not_begins_with (by decide)).symm

theorem saved_not_mem_queueVerdict {x : String} :
    "  Run 2 saved " ++ x ++ " in actual build time across all jobs." ∉ queueVerdict Q := by
  unfold queueVerdict
  split_ifs <;> simp only [List.mem_singleton, List.not_mem_nil, not_false_eq_true] <;>
    exact ne_of_prefixes ((prefix_data_append _ _).trans (prefix_data_append _ _))
      ((prefix_data_append _ _).trans (prefix_data_append _ _)) (by decide) (by decide)

theorem saved_not_mem_wallVerdict {x : String} :
    "  Run 2 saved " ++ x ++ " in actual build time across all jobs." ∉ wallVerdict W R := by
  unfold wallVerdict
  split_ifs <;> simp only [List.mem_cons, List.mem_singleton, List.not_mem_nil, not_false_eq_true,
    or_false, not_or] <;>
    exact ⟨(ne_of_not_begins_with (by decide)).symm, (ne_of_not_begins_with (by decide)).symm⟩

theorem moreQueue_not_mem_buildVerdict {x : String} :
    "  BUT Run 2 had " ++ x ++ " MORE queue wait time." ∉ buildVerdict R := by
  unfold buildVerdict
  split_ifs <;> simp only [List.mem_singleton]
  · exact ne_of_prefixes ((prefix_data_append _ _).trans (prefix_data_append _ _))
      ((prefix_data_append _ _).trans (prefix_data_append _ _)) (by decide) (by decide)
  · exact ne_of_prefixes ((prefix_data_append _ _).trans (prefix_data_append _ _))
      ((prefix_data_append _ _).trans (prefix_data_append _ _)) (by decide) (by decide)
  · exact (ne_of_not_begins_with (by decide)).symm

theorem moreQueue_mem_queueVerdict :
    "  BUT Run 2 had " ++ formatDuration Q ++ " MORE queue wait time." ∈ queueVerdict Q ↔
      Q > 60 := by
  unfold queueVerdict
  split_ifs with h₁ h₂ <;> simp only [h₁, List.mem_singleton, List.not_mem_nil, iff_true,
    iff_false, not_false_eq_true]
  exact ne_of_prefixes ((prefix_data_append _ _).trans (prefix_data_append _ _))
    ((prefix_data_append _ _).trans (prefix_data_append _ _)) (by decide) (by decide)

theorem moreQueue_not_mem_wallVerdict {x : String} :
    "  BUT Run 2 had " ++ x ++ " MORE queue wait time." ∉ wallVerdict W R := by
  unfold wallVerdict
  split_ifs <;> simp only [List.mem_cons, List.mem_singleton, List.not_mem_nil, not_false_eq_true,
    or_false, not_or] <;>
    exact ⟨(ne_of_not_begins_with (by decide)).symm, (ne_of_not_begins_with (by decide)).symm⟩

theorem roughly_mem_buildVerdict :
    "  Actual build times are roughly the same." ∈ buildVerdict R ↔ -60 ≤ R ∧ R ≤ 60 := by
  unfold buildVerdict
  split_ifs with h₁ h₂ <;> simp only [List.mem_singleton]
  · exact iff_of_false (ne_of_not_begins_with (by decide)) fun h => by linarith [h.1]
  · exact iff_of_false (ne_of_not_begins_with (by decide)) fun h => by linarith [h.2]
  · exact iff_of_true trivial ⟨not_lt.mp h₁, not_lt.mp h₂⟩

theorem roughly_not_mem_queueVerdict :
    "  Actual build times are roughly the same." ∉ queueVerdict Q := by
  unfold queueVerdict
  split_ifs <;> simp only [List.mem_singleton, List.not_mem_nil, not_false_eq_true] <;>
    exact ne_of_not_begins_with (by decide)

theorem roughly_not_mem_wallVerdict :
    "  Actual build times are roughly the same." ∉ wallVerdict W R := by
  unfold wallVerdict
  split_ifs <;> simp only [List.mem_cons, List.mem_singleton, List.not_mem_nil, or_false, not_or,
    not_false_eq_true] <;> decide

theorem saved_mem_keyInsight :
    "  Run 2 saved " ++ formatDuration (-R) ++ " in actual build time across all jobs." ∈
      keyInsight W R Q ↔ R < -60 := by
  simp only [keyInsight, List.mem_append, saved_mem_buildVerdict, saved_not_mem_queueVerdict,
    saved_not_mem_wallVerdict, or_false]

theorem moreQueue_mem_keyInsight :
    "  BUT Run 2 had " ++ formatDuration Q ++ " MORE queue wait time." ∈ keyInsight W R Q ↔
      Q > 60 := by
  simp only [keyInsight, List.mem_append, moreQueue_not_mem_buildVerdict, moreQueue_mem_queueVerdict,
    moreQueue_not_mem_wallVerdict, false_or, or_false]

theorem despite_mem_keyInsight :
    "  Despite faster builds, wall clock time increased due to runner queue delays!" ∈
      keyInsight W R Q ↔ W > 0 ∧ R < 0 := by
  simp only [keyInsight, List.mem_append, despite_not_mem_buildVerdict,
    despite_not_mem_queueVerdict, despite_mem_wallVerdict, false_or]

theorem savings_mem_keyInsight :
    "  Build time savings translated to faster wall clock time." ∈ keyInsight W R Q ↔
      W < 0 ∧ R < 0 := by
  simp only [keyInsight, List.mem_append, savings_not_mem_buildVerdict,
    savings_not_mem_queueVerdict, savings_mem_wallVerdict, false_or]

theorem roughly_mem_keyInsight :
    "  Actual build times are roughly the same." ∈ keyInsight W R Q ↔ -60 ≤ R ∧ R ≤ 60 := by
  simp only [keyInsight, List.mem_append, roughly_mem_buildVerdict, roughly_not_mem_queueVerdict,
    roughly_not_mem_wallVerdict, or_false]

/-- A build-time saving gets one of the two wall-clock lines exactly when the wall clock moved,
whatever its size. -/
theorem wallLine_mem_keyInsight_iff (hneg : R < 0) :
    ("  Despite faster builds, wall clock time increased due to runner queue delays!" ∈
        keyInsight W R Q ∨
      "  Build time savings translated to faster wall clock time." ∈ keyInsight W R Q) ↔ W ≠ 0 := by
  rw [despite_mem_keyInsight, savings_mem_keyInsight]
  exact ⟨fun h => h.elim (fun h => h.1.ne') (fun h => h.1.ne),
    fun h => (lt_or_gt_of_ne h).elim (fun h => .inr ⟨h, hneg⟩) (fun h => .inl ⟨h, hneg⟩)⟩

end Insight

theorem renderUnifiedDiff_insight_block (run1 run2 : WorkflowRun) (width : ℤ) :
    ∃ wall1 wall2 runDelta queueDelta pre,
      getWallTime run1 = .ok wall1 ∧ getWallTime run2 = .ok wall2 ∧
      runDelta = ((sortedJobNames (jobsByName run1) (jobsByName run2)).map fun n =>
        deltaOf Job.runDurationSeconds (lastCompleted run1 n) (lastCompleted run2 n)).sum ∧
      queueDelta = ((sortedJobNames (jobsByName run1) (jobsByName run2)).map fun n =>
        deltaOf Job.queueDurationSeconds (lastCompleted run1 n) (lastCompleted run2 n)).sum ∧
      renderUnifiedDiff run1 run2 width = .ok ("\n".intercalate (pre ++
        [aggregateLine "Wall clock:" wall1 wall2 (wall2 - wall1),
          aggregateLine "Sum of run times:" (sumOf Job.runDurationSeconds (jobsByName run1).values)
            (sumOf Job.runDurationSeconds (jobsByName run2).values) runDelta,
          aggregateLine "Sum of queue times:"
            (sumOf Job.queueDurationSeconds (jobsByName run1).values)
            (sumOf Job.queueDurationSeconds (jobsByName run2).values) queueDelta,
          "", rep '=' width.toNat, "KEY INSIGHT:"] ++
        keyInsight (wall2 - wall1) runDelta queueDelta ++
        [rep '=' width.toNat, "", "Legend: █ running  ░ queued"])) := by
  obtain ⟨wall1, wall2, pre, hw1, hw2, hout⟩ := renderUnifiedDiff_footer run1 run2 width
  refine ⟨wall1, wall2, _, _, pre ++ [rep '-' width.toNat, ""], hw1, hw2, rfl, rfl, ?_⟩
  rw [hout]
  simp only [diffFooter, List.append_assoc, List.cons_append, List.nil_append]

/-- The `KEY INSIGHT` block, on the deltas its aggregate rows print: the saving verdict exactly
when the build-time total is below `-60`, "roughly the same" exactly when it is within `60`, the
extra-queue verdict exactly when the queue total is above `60`, and the two wall-clock lines
exactly when the build-time total is negative, whatever its band and the queue total. So a
saving within the band prints "roughly the same" together with a wall-clock line, unless the
wall clock did not move. -/
theorem renderUnifiedDiff_key_insight (run1 run2 : WorkflowRun) (width : ℤ) :
    ∃ wall1 wall2 runDelta queueDelta pre,
      getWallTime run1 = .ok wall1 ∧ getWallTime run2 = .ok wall2 ∧
      runDelta = ((sortedJobNames (jobsByName run1) (jobsByName run2)).map fun n =>
        deltaOf Job.runDurationSeconds (lastCompleted run1 n) (lastCompleted run2 n)).sum ∧
      queueDelta = ((sortedJobNames (jobsByName run1) (jobsByName run2)).map fun n =>
        deltaOf Job.queueDurationSeconds (lastCompleted run1 n) (lastCompleted run2 n)).sum ∧
      renderUnifiedDiff run1 run2 width = .ok ("\n".intercalate (pre ++
        [aggregateLine "Wall clock:" wall1 wall2 (wall2 - wall1),
          aggregateLine "Sum of run times:" (sumOf Job.runDurationSeconds (jobsByName run1).values)
            (sumOf Job.runDurationSeconds (jobsByName run2).values) runDelta,
          aggregateLine "Sum of queue times:"
            (sumOf Job.queueDurationSeconds (jobsByName run1).values)
            (sumOf Job.queueDurationSeconds (jobsByName run2).values) queueDelta,
          "", rep '=' width.toNat, "KEY INSIGHT:"] ++
        keyInsight (wall2 - wall1) runDelta queueDelta ++
        [rep '=' width.toNat, "", "Legend: █ running  ░ queued"])) ∧
      ("  Run 2 saved " ++ formatDuration (-runDelta) ++ " in actual build time across all jobs." ∈
        keyInsight (wall2 - wall1) runDelta queueDelta ↔ runDelta < -60) ∧
      ("  BUT Run 2 had " ++ formatDuration queueDelta ++ " MORE queue wait time." ∈
        keyInsight (wall2 - wall1) runDelta queueDelta ↔ queueDelta > 60) ∧
      ("  Despite faster builds, wall clock time increased due to runner queue delays!" ∈
        keyInsight (wall2 - wall1) runDelta queueDelta ↔ wall2 - wall1 > 0 ∧ runDelta < 0) ∧
      ("  Build time savings translated to faster wall clock time." ∈
        keyInsight (wall2 - wall1) runDelta queueDelta ↔ wall2 - wall1 < 0 ∧ runDelta < 0) ∧
      ("  Actual build times are roughly the same." ∈
        keyInsight (wall2 - wall1) runDelta queueDelta ↔ -60 ≤ runDelta ∧ runDelta ≤ 60) ∧
      (-60 ≤ runDelta → runDelta < 0 →
        "  Actual build times are roughly the same." ∈ keyInsight (wall2 - wall1) runDelta queueDelta ∧
        (("  Despite faster builds, wall clock time increased due to runner queue delays!" ∈
            keyInsight (wall2 - wall1) runDelta queueDelta ∨
          "  Build time savings translated to faster wall clock time." ∈
            keyInsight (wall2 - wall1) runDelta queueDelta) ↔ wall2 - wall1 ≠ 0)) :=
  let ⟨wall1, wall2, runDelta, queueDelta, pre, hw1, hw2, hR, hQ, hout⟩ :=
    renderUnifiedDiff_insight_block run1 run2 width
  ⟨wall1, wall2, runDelta, queueDelta, pre, hw1, hw2, hR, hQ, hout, saved_mem_keyInsight,
    moreQueue_mem_keyInsight, despite_mem_keyInsight, savings_mem_keyInsight, roughly_mem_keyInsight,
    fun hlo hneg => ⟨roughly_mem_keyInsight.mpr ⟨hlo, by linarith⟩, wallLine_mem_keyInsight_iff hneg⟩⟩

/-- A build-time saving of 30 s and a longer wall clock: the block finds the build times
the same, prints no queue verdict, and still blames the queue for the longer wall clock. -/
theorem renderUnifiedDiff_key_insight_of_small_saving :
    ∃ pre, renderUnifiedDiff ⟨1, "ci", "completed", some "success", 0,
        [⟨"build", 0, some 0, some 100⟩]⟩ ⟨2, "ci", "completed", some "success", 0,
        [⟨"build", 0, some 50, some 120⟩]⟩ 140 = .ok ("\n".intercalate (pre ++
      ["KEY INSIGHT:", "  Actual build times are roughly the same.", "",
        "  Despite faster builds, wall clock time increased due to runner queue delays!",
        rep '=' 140, "", "Legend: █ running  ░ queued"])) := by
  obtain ⟨wall1, wall2, runDelta, queueDelta, pre, hw1, hw2, hR, hQ, hout⟩ :=
    renderUnifiedDiff_insight_block ⟨1, "ci", "completed", some "success", 0,
      [⟨"build", 0, some 0, some 100⟩]⟩ ⟨2, "ci", "completed", some "success", 0,
      [⟨"build", 0, some 50, some 120⟩]⟩ 140
  obtain rfl : wall1 = 100 := Except.ok.inj (hw1.symm.trans (by with_unfolding_all decide :
    getWallTime ⟨1, "ci", "completed", some "success", 0, [⟨"build", 0, some 0, some 100⟩]⟩ = .ok 100))
  obtain rfl : wall2 = 120 := Except.ok.inj (hw2.symm.trans (by with_unfolding_all decide :
    getWallTime ⟨2, "ci", "completed", some "success", 0, [⟨"build", 0, some 50, some 120⟩]⟩ =
      .ok 120))
  obtain rfl : runDelta = -30 := hR.trans (by with_unfolding_all decide)
  obtain rfl : queueDelta = 50 := hQ.trans (by with_unfolding_all decide)
  rw [show keyInsight (120 - 100) (-30) 50 = ["  Actual build times are roughly the same.", "",
    "  Despite faster builds, wall clock time increased due to runner queue delays!"] by
      with_unfolding_all decide] at hout
  exact ⟨pre ++ [_, _, _, "", rep '=' 140],
    hout.trans (by simp only [List.append_assoc, List.cons_append, List.nil_append]; rfl)⟩

section SelfDiff

end SelfDiff

section Swap

theorem deltaOf_swap (f : Job → ℚ) (a b : Option Job) : deltaOf f b a = -deltaOf f a b := by
  cases a <;> cases b <;> simp [deltaOf]

theorem sum_deltaOf_swap (f : Job → ℚ) (names : List String) (o₁ o₂ : String → Option Job) :
    (names.map fun n => deltaOf f (o₂ n) (o₁ n)).sum =
      -(names.map fun n => deltaOf f (o₁ n) (o₂ n)).sum := by
  rw [List.sum_neg, List.map_map]
  exact congrArg _ (List.map_congr_left fun n _ => deltaOf_swap f (o₁ n) (o₂ n))

/-- Comparing the runs the other way round lists the same keys in the same order at the
same scale, each row with its sides swapped, the wall clocks and sums swapped, and both
aggregate deltas negated. -/
theorem renderUnifiedDiff_swap (run1 run2 : WorkflowRun) (width : ℤ) :
    ∃ maxDuration wall1 wall2 runDelta queueDelta,
      renderUnifiedDiff run1 run2 width = .ok ("\n".intercalate (diffHeader run1 run2 width ++
        (sortedJobNames (jobsByName run1) (jobsByName run2)).map
          (fun n => diffLine maxDuration n (lastCompleted run1 n) (lastCompleted run2 n)) ++
        diffFooter wall1 wall2 (sumOf Job.runDurationSeconds (jobsByName run1).values)
          (sumOf Job.runDurationSeconds (jobsByName run2).values)
          (sumOf Job.queueDurationSeconds (jobsByName run1).values)
          (sumOf Job.queueDurationSeconds (jobsByName run2).values) runDelta queueDelta width)) ∧
      renderUnifiedDiff run2 run1 width = .ok ("\n".intercalate (diffHeader run2 run1 width ++
        (sortedJobNames (jobsByName run1) (jobsByName run2)).map
          (fun n => diffLine maxDuration n (lastCompleted run2 n) (lastCompleted run1 n)) ++
        diffFooter wall2 wall1 (sumOf Job.runDurationSeconds (jobsByName run2).values)
          (sumOf Job.runDurationSeconds (jobsByName run1).values)
          (sumOf Job.queueDurationSeconds (jobsByName run2).values)
          (sumOf Job.queueDurationSeconds (jobsByName run1).values) (-runDelta) (-queueDelta)
          width)) := by
  obtain ⟨m, wall1, wall2, hm, hw1, hw2, hout⟩ := renderUnifiedDiff_report run1 run2 width
  obtain ⟨m', wall2', wall1', hm', hw2', hw1', hout'⟩ := renderUnifiedDiff_report run2 run1 width
  rw [sortedJobNames_comm] at hm' hout'
  rw [diffScale_perm (allDurations_swap _ _ _), hm] at hm'
  obtain rfl : m' = m := (Except.ok.inj hm').symm
  obtain rfl : wall1' = wall1 := Except.ok.inj (hw1'.symm.trans hw1)
  obtain rfl : wall2' = wall2 := Except.ok.inj (hw2'.symm.trans hw2)
  simp only [get?_jobsByName] at hout hout'
  rw [sum_deltaOf_swap, sum_deltaOf_swap Job.queueDurationSeconds] at hout'
  exact ⟨m', wall1', wall2', _, _, hout, hout'⟩

end Swap

end CiTimeline
