import CiTimeline.PyStr

/-!
# The job-name normalizer

`normalize_job_name` keeps the last `/`-segment of a name, trims it, and deletes the matrix
wrapper `build (`…`)` and six runner labels, one `str.replace` pass each. Its key is the join key
of `render_unified_diff`. No pattern can start inside a label another pass deletes
(`labels_unmatched`), so a label at the front of the text goes by its own pass whatever the
others do.
-/

namespace CiTimeline

def normalizeJobName (name : String) : String :=
  let short := pyStrip (splitLast name '/')
  let short := pyReplace (pyReplace short "build (" "") ")" ""
  let short := pyReplace (pyReplace short "ubuntu-22.04, " "") "ubuntu-24.04, " ""
  let short := pyReplace (pyReplace short "macos-14, " "") "macos-15, " ""
  let short := pyReplace (pyReplace short "windows-2022, " "") "windows-2025, " ""
  short

/-- The runner labels `normalize_job_name` deletes, in the order it deletes them. -/
def runnerLabels : List String :=
  ["ubuntu-22.04, ", "ubuntu-24.04, ", "macos-14, ", "macos-15, ", "windows-2022, ",
    "windows-2025, "]

def stripLabels (s : String) : String :=
  runnerLabels.foldl (fun acc label => pyReplace acc label "") s

theorem normalizeJobName_eq (name : String) :
    normalizeJobName name =
      stripLabels (pyReplace (pyReplace (pyStrip (splitLast name '/')) "build (" "") ")" "") :=
  rfl

theorem stripLabels_sublist (s : String) : (stripLabels s).data.Sublist s.data := by
  suffices ∀ (labels : List String) (s : String),
      (labels.foldl (fun acc label => pyReplace acc label "") s).data.Sublist s.data from
    this runnerLabels s
  intro labels
  induction labels with
  | nil => exact fun s => List.Sublist.refl _
  | cons l ls ih => exact fun s => (ih _).trans (pyReplace_sublist s l)

/-- Every pass after the split only deletes, so the key is a sublist of the last
`/`-segment and never holds a `/`. -/
theorem normalizeJobName_within_last_segment (name : String) :
    (normalizeJobName name).data.Sublist (splitLast name '/').data ∧
      '/' ∉ (normalizeJobName name).data := by
  have h : (normalizeJobName name).data.Sublist (splitLast name '/').data := by
    rw [normalizeJobName_eq]
    exact (stripLabels_sublist _).trans
      ((pyReplace_sublist _ _).trans ((pyReplace_sublist _ _).trans (pyStrip_sublist _)))
  exact ⟨h, fun hm => sep_not_mem_splitLast name '/' (h.subset hm)⟩

theorem labels_unmatched :
    ∀ p ∈ runnerLabels, ∀ l ∈ runnerLabels, p ≠ l → Unmatched p.data l.data := by
  decide

theorem wrapper_unmatched :
    ∀ l ∈ runnerLabels, Unmatched "build (".data l.data ∧ Unmatched ")".data l.data := by
  decide

theorem labels_no_slash : ∀ l ∈ runnerLabels, '/' ∉ l.data ∧ l.data ≠ [] := by
  decide

theorem foldl_replace_label {labels : List String} {l : String} (hl : l ∈ labels)
    (hne : l.data ≠ []) (hu : ∀ p ∈ labels, p ≠ l → Unmatched p.data l.data) (t : String) :
    labels.foldl (fun acc label => pyReplace acc label "") (l ++ t) =
      labels.foldl (fun acc label => pyReplace acc label "") t := by
  induction labels generalizing t with
  | nil => exact absurd hl (List.not_mem_nil l)
  | cons p labels ih =>
    simp only [List.foldl_cons]
    by_cases hp : p = l
    · subst hp; rw [pyReplace_occurrence hne, String.empty_append]
    · rw [pyReplace_append_of_unmatched (hu p (List.mem_cons_self p labels) hp)]
      exact ih ((List.mem_cons.mp hl).resolve_left (Ne.symm hp))
        (fun q hq => hu q (List.mem_cons_of_mem p hq)) _

theorem stripLabels_label {l : String} (hl : l ∈ runnerLabels) (t : String) :
    stripLabels (l ++ t) = stripLabels t :=
  foldl_replace_label hl (labels_no_slash l hl).2 (fun p hp => labels_unmatched p hp l hl) t

section Matrix

variable {g s l : String}

/-- The group prefix of a matrix job: nothing, or a path ending in `/` and blanks. -/
def GroupPrefix (g : String) : Prop :=
  g = "" ∨ ∃ g' ws : String, g = g' ++ "/" ++ ws ∧ ∀ c ∈ ws.data, pyIsSpace c = true

theorem splitLast_matrix (hg : GroupPrefix g) (hl : l ∈ runnerLabels) (hs : '/' ∉ s.data) :
    ∃ ws : String, (∀ c ∈ ws.data, pyIsSpace c = true) ∧
      splitLast (g ++ "build (" ++ l ++ s ++ ")") '/' = ws ++ ("build (" ++ (l ++ (s ++ ")"))) := by
  have hT : '/' ∉ ("build (" ++ (l ++ (s ++ ")"))).data := by
    simp only [String.data_append, List.mem_append, not_or]
    exact ⟨by decide, (labels_no_slash l hl).1, hs, by decide⟩
  rcases hg with rfl | ⟨g', ws, rfl, hws⟩
  · refine ⟨"", by simp, ?_⟩
    simp only [String.empty_append, String.append_assoc]
    exact splitLast_of_not_mem hT
  · refine ⟨ws, hws, ?_⟩
    have hslash : '/' ∉ ws.data := fun h => absurd (hws '/' h) (by decide)
    have e : g' ++ "/" ++ ws ++ "build (" ++ l ++ s ++ ")" =
        g' ++ ⟨['/']⟩ ++ (ws ++ ("build (" ++ (l ++ (s ++ ")")))) := by
      simp only [String.append_assoc]
    rw [e, splitLast_append_sep]
    simp only [String.data_append, List.mem_append, not_or]
    exact ⟨hslash, by simpa using hT⟩

theorem normalizeJobName_matrix (hg : GroupPrefix g) (hl : l ∈ runnerLabels) (hs : '/' ∉ s.data) :
    normalizeJobName (g ++ "build (" ++ l ++ s ++ ")") =
      stripLabels (pyReplace (pyReplace (s ++ ")") "build (" "") ")" "") := by
  obtain ⟨ws, hws, hsplit⟩ := splitLast_matrix hg hl hs
  have hlast : ("build (" ++ (l ++ (s ++ ")"))).data.getLast? = some ')' := by
    rw [← String.append_assoc, ← String.append_assoc, String.data_append]
    exact List.getLast?_concat _
  have hstrip : pyStrip (ws ++ ("build (" ++ (l ++ (s ++ ")")))) = "build (" ++ (l ++ (s ++ ")")) :=
    pyStrip_append_of_edges hws (by simp [String.data_append]; decide)
      (by rw [hlast]; decide)
  rw [normalizeJobName_eq, hsplit, hstrip, pyReplace_occurrence (by decide), String.empty_append,
    pyReplace_append_of_unmatched (wrapper_unmatched l hl).1,
    pyReplace_append_of_unmatched (wrapper_unmatched l hl).2, stripLabels_label hl]

theorem normalizeJobName_of_slash (hs : '/' ∈ s.data) :
    normalizeJobName (g ++ "build (" ++ l ++ s ++ ")") = normalizeJobName (s ++ ")") := by
  have e : g ++ "build (" ++ l ++ s ++ ")" = g ++ "build (" ++ l ++ (s ++ ")") := by
    simp only [String.append_assoc]
  rw [normalizeJobName_eq, normalizeJobName_eq, e,
    splitLast_append_of_mem (by simp [String.data_append, hs])]

end Matrix

/-- Two matrix jobs whose names differ only in the runner label get one key, whatever the
group prefix and the rest of the matrix entry. -/
theorem normalizeJobName_runner_label_invariant (g s l₁ l₂ : String) (hg : GroupPrefix g)
    (h₁ : l₁ ∈ runnerLabels) (h₂ : l₂ ∈ runnerLabels) :
    normalizeJobName (g ++ "build (" ++ l₁ ++ s ++ ")") =
      normalizeJobName (g ++ "build (" ++ l₂ ++ s ++ ")") := by
  by_cases hs : '/' ∈ s.data
  · rw [normalizeJobName_of_slash hs, normalizeJobName_of_slash hs]
  · rw [normalizeJobName_matrix hg h₁ hs, normalizeJobName_matrix hg h₂ hs]

theorem normalizeJobName_runner_label_invariant_of_test : GroupPrefix "ci / " ∧
    "ubuntu-22.04, " ∈ runnerLabels ∧ "macos-15, " ∈ runnerLabels ∧
    normalizeJobName ("ci / " ++ "build (" ++ "ubuntu-22.04, " ++ "test" ++ ")") =
      normalizeJobName ("ci / " ++ "build (" ++ "macos-15, " ++ "test" ++ ")") :=
  have hg : GroupPrefix "ci / " := Or.inr ⟨"ci ", " ", rfl, by decide⟩
  ⟨hg, by decide, by decide,
    normalizeJobName_runner_label_invariant _ _ _ _ hg (by decide) (by decide)⟩

example : normalizeJobName "build (ubuntu-22.04, test)" = "test" ∧
    normalizeJobName "group / actual-job" = "actual-job" := by
  decide

end CiTimeline
