import CiTimeline.Job

/-!
# The duration formatter and the job bar

`format_duration` and `render_job_bar`, the two leaves every view formats with. On
non-negative seconds `format_duration` depends only on the whole seconds. The bar has its two
glyph runs at `int(q / m * w)` and `int((q + r) / m * w)`: when the durations are non-negative
and fit the scale these are floors that never pass `w`, and the bar is exactly `w` wide; a
negative duration breaks both.
-/

namespace CiTimeline

/-- `format_duration`: `Ns`, `MmSs` or `HhMm`, every part truncated toward zero. -/
def formatDuration (seconds : ℚ) : String :=
  if seconds < 60 then toString (pyInt seconds) ++ "s"
  else if seconds < 3600 then
    let mins := pyInt (pyFloorDiv seconds 60)
    let secs := pyInt (pyMod seconds 60)
    toString mins ++ "m" ++ toString secs ++ "s"
  else
    let hours := pyInt (pyFloorDiv seconds 3600)
    let mins := pyInt (pyFloorDiv (pyMod seconds 3600) 60)
    toString hours ++ "h" ++ toString mins ++ "m"

def renderJobBar (queueSecs runSecs maxSecs : ℚ) (width : ℕ := 16) : Py String := do
  if maxSecs = 0 then return rep ' ' width
  let total := queueSecs + runSecs
  let totalChars := pyInt ((← pyDiv total maxSecs) * width)
  let queueChars := pyInt ((← pyDiv queueSecs maxSecs) * width)
  let runChars := totalChars - queueChars
  let bar := rep '░' queueChars.toNat ++ rep '█' runChars.toNat
  return ljust bar width

/-- The bar `render_job_bar` returns; it never raises. -/
def jobBar (queueSecs runSecs maxSecs : ℚ) (width : ℕ) : String :=
  if maxSecs = 0 then rep ' ' width
  else ljust (rep '░' (pyInt (queueSecs / maxSecs * width)).toNat ++
    rep '█' (pyInt ((queueSecs + runSecs) / maxSecs * width) -
      pyInt (queueSecs / maxSecs * width)).toNat) width

/-- The report `out` holds `line` as one of the lines `"\n".join` put together. -/
def Prints (out : Py String) (line : String) : Prop :=
  ∃ lines : List String, out = .ok ("\n".intercalate lines) ∧ line ∈ lines

section Bar

variable {q r m : ℚ} {w : ℕ}

theorem renderJobBar_of_ne_zero (hm : m ≠ 0) :
    renderJobBar q r m w = .ok (ljust (rep '░' (pyInt (q / m * w)).toNat ++
      rep '█' (pyInt ((q + r) / m * w) - pyInt (q / m * w)).toNat) w) := by
  simp [renderJobBar, hm]

theorem renderJobBar_eq : renderJobBar q r m w = .ok (jobBar q r m w) := by
  rcases eq_or_ne m 0 with rfl | hm
  · rfl
  · rw [renderJobBar_of_ne_zero hm, jobBar, if_neg hm]

end Bar

section Duration

variable {s : ℚ}

theorem toString_natCast (n : ℕ) : toString (n : ℤ) = toString n := rfl

/-- On non-negative seconds `format_duration` shows only whole units of the whole seconds
`n = ⌊s⌋`: `n` seconds; minutes and seconds of `n`; hours of `n` and the minutes left. -/
theorem formatDuration_eq (hs : 0 ≤ s) : formatDuration s =
    if ⌊s⌋₊ < 60 then toString ⌊s⌋₊ ++ "s"
    else if ⌊s⌋₊ < 3600 then toString (⌊s⌋₊ / 60) ++ "m" ++ toString (⌊s⌋₊ % 60) ++ "s"
    else toString (⌊s⌋₊ / 3600) ++ "h" ++ toString (⌊s⌋₊ / 60 % 60) ++ "m" := by
  have hmin := pyInt_pyFloorDiv hs 60
  have hhour := pyInt_pyFloorDiv hs 3600
  have hsec := pyInt_pyMod hs 60
  have hrest := pyInt_pyFloorDiv (pyMod_nonneg hs 3600) 60
  rw [natFloor_pyMod hs, show ⌊s⌋₊ % 3600 / 60 = ⌊s⌋₊ / 60 % 60 by omega] at hrest
  have c60 := Nat.floor_lt hs (n := 60)
  have c3600 := Nat.floor_lt hs (n := 3600)
  simp only [Nat.cast_ofNat] at hmin hhour hsec hrest c60 c3600
  simp only [formatDuration, ← c60, ← c3600, hmin, hhour, hsec, hrest, pyInt_eq_natFloor hs,
    toString_natCast]

end Duration

theorem formatDuration_eq_of_minutes : (0 : ℚ) ≤ 125 ∧ formatDuration 125 =
    if ⌊(125 : ℚ)⌋₊ < 60 then toString ⌊(125 : ℚ)⌋₊ ++ "s"
    else if ⌊(125 : ℚ)⌋₊ < 3600 then
      toString (⌊(125 : ℚ)⌋₊ / 60) ++ "m" ++ toString (⌊(125 : ℚ)⌋₊ % 60) ++ "s"
    else toString (⌊(125 : ℚ)⌋₊ / 3600) ++ "h" ++ toString (⌊(125 : ℚ)⌋₊ / 60 % 60) ++ "m" :=
  ⟨by norm_num, formatDuration_eq (by norm_num)⟩

example : formatDuration 0 = "0s" ∧ formatDuration 59 = "59s" ∧ formatDuration 60 = "1m0s" ∧
    formatDuration 3599 = "59m59s" ∧ formatDuration 3600 = "1h0m" := by
  with_unfolding_all decide

end CiTimeline
