import CiTimeline.PyRuntime
import Mathlib.Tactic.IntervalCases

/-!
# Timestamps: `parse_datetime` and the calendar

`parse_datetime` gives `datetime.fromisoformat` the API's text with its trailing `Z` replaced by
`+00:00`. On GitHub's form `YYYY-MM-DDTHH:MM:SSZ` every Python from 3.7 on reads the six fields
as decimal numbers and calls `datetime(...)`, which raises `ValueError` outside the calendar;
`fromIsoFormat` is that reading, and `none` (not modelled) on any other text. The calendar is
CPython's `_ymd2ord`, and the rational instants of the rest of the model are `Fields.seconds`.
-/

namespace CiTimeline

/-! ## The calendar -/

def isLeap (year : ℕ) : Bool := year % 4 == 0 && (year % 100 != 0 || year % 400 == 0)

def daysInMonthTable : List ℕ := [0, 31, 28, 31, 30, 31, 30, 31, 31, 30, 31, 30, 31]

/-- `_DAYS_BEFORE_MONTH`, built as the source builds it: a placeholder, then the running
total of `_DAYS_IN_MONTH[1:]` before each month. -/
def daysBeforeMonthTable : List ℕ := 0 :: (daysInMonthTable.tail.scanl (· + ·) 0).dropLast

def daysInMonth (year month : ℕ) : ℕ :=
  if month = 2 ∧ isLeap year then 29 else daysInMonthTable.getD month 0

def daysBeforeYear (year : ℕ) : ℕ :=
  let y := year - 1
  y * 365 + y / 4 - y / 100 + y / 400

def daysBeforeMonth (year month : ℕ) : ℕ :=
  daysBeforeMonthTable.getD month 0 + if 2 < month ∧ isLeap year then 1 else 0

/-- `_ymd2ord(year, month, day)`: 1 January of year 1 is day 1. -/
def ymd2ord (year month day : ℕ) : ℕ := daysBeforeYear year + daysBeforeMonth year month + day

section Calendar

variable {year month : ℕ}

def leapDays (year : ℕ) : ℕ := if isLeap year then 1 else 0

theorem daysBeforeMonth_one : daysBeforeMonth year 1 = 0 := by simp [daysBeforeMonth]; rfl

theorem daysBeforeMonth_succ (h₁ : 1 ≤ month) (h₂ : month < 12) :
    daysBeforeMonth year (month + 1) = daysBeforeMonth year month + daysInMonth year month := by
  simp only [daysBeforeMonth, daysInMonth]
  cases isLeap year <;> interval_cases month <;> rfl

theorem daysInMonth_pos (h₁ : 1 ≤ month) (h₂ : month ≤ 12) : 1 ≤ daysInMonth year month := by
  simp only [daysInMonth]
  cases isLeap year <;> interval_cases month <;> decide

theorem daysInMonth_le (h₁ : 1 ≤ month) (h₂ : month ≤ 12) : daysInMonth year month ≤ 31 := by
  simp only [daysInMonth]
  cases isLeap year <;> interval_cases month <;> decide

theorem daysInMonth_twelve : daysInMonth year 12 = 31 := rfl

theorem daysBeforeMonth_twelve : daysBeforeMonth year 12 = 334 + leapDays year := by
  simp only [daysBeforeMonth, leapDays]
  cases isLeap year <;> rfl

theorem leapDays_eq (year : ℕ) :
    leapDays year = if 4 ∣ year ∧ (¬ 100 ∣ year ∨ 400 ∣ year) then 1 else 0 := by
  simp [leapDays, isLeap, Nat.dvd_iff_mod_eq_zero]

theorem daysBeforeYear_succ (h : 1 ≤ year) :
    daysBeforeYear (year + 1) = daysBeforeYear year + 365 + leapDays year := by
  obtain ⟨y, rfl⟩ : ∃ y, year = y + 1 := ⟨year - 1, by omega⟩
  have step : ∀ i j k, j ≤ i → (y + 1) * 365 + (y / 4 + i) - (y / 100 + j) + (y / 400 + k) =
      y * 365 + y / 4 - y / 100 + y / 400 + 365 + (i - j + k) := fun i j k hji => by
    have : y / 100 ≤ y / 4 := Nat.div_le_div_left (by norm_num) (by norm_num)
    generalize y / 4 = a, y / 100 = b, y / 400 = c at *
    omega
  have h₁ : 100 ∣ y + 1 → 4 ∣ y + 1 := Nat.dvd_trans (by norm_num)
  have h₂ : 400 ∣ y + 1 → 100 ∣ y + 1 := Nat.dvd_trans (by norm_num)
  simp only [daysBeforeYear, leapDays_eq, Nat.add_sub_cancel, Nat.succ_div]
  by_cases d₄ : 4 ∣ y + 1
  · by_cases d₁₀₀ : 100 ∣ y + 1
    · by_cases d₄₀₀ : 400 ∣ y + 1
      · rw [if_pos d₄, if_pos d₁₀₀, if_pos d₄₀₀, if_pos ⟨d₄, .inr d₄₀₀⟩]
        exact step 1 1 1 le_rfl
      · rw [if_pos d₄, if_pos d₁₀₀, if_neg d₄₀₀, if_neg fun h => h.2.elim (· d₁₀₀) d₄₀₀]
        exact step 1 1 0 le_rfl
    · rw [if_pos d₄, if_neg d₁₀₀, if_neg (mt h₂ d₁₀₀), if_pos ⟨d₄, .inl d₁₀₀⟩]
      exact step 1 0 0 zero_le_one
  · rw [if_neg d₄, if_neg (mt h₁ d₄), if_neg (mt (h₁ ∘ h₂) d₄), if_neg fun h => d₄ h.1]
    exact step 0 0 0 le_rfl

theorem ymd2ord_succ_day : ymd2ord year month (day + 1) = ymd2ord year month day + 1 := rfl

theorem ymd2ord_succ_month (h₁ : 1 ≤ month) (h₂ : month < 12) :
    ymd2ord year (month + 1) 1 = ymd2ord year month (daysInMonth year month) + 1 := by
  simp only [ymd2ord, daysBeforeMonth_succ h₁ h₂]
  omega

theorem ymd2ord_succ_year (h : 1 ≤ year) :
    ymd2ord (year + 1) 1 1 = ymd2ord year 12 31 + 1 := by
  simp only [ymd2ord, daysBeforeMonth_one, daysBeforeMonth_twelve, daysBeforeYear_succ h]
  omega

end Calendar

/-! ## Datetimes -/

structure Fields where
  year : ℕ
  month : ℕ
  day : ℕ
  hour : ℕ
  minute : ℕ
  second : ℕ
  deriving DecidableEq, Repr

namespace Fields

def Valid (f : Fields) : Prop :=
  1 ≤ f.year ∧ f.year ≤ 9999 ∧ 1 ≤ f.month ∧ f.month ≤ 12 ∧ 1 ≤ f.day ∧
    f.day ≤ daysInMonth f.year f.month ∧ f.hour < 24 ∧ f.minute < 60 ∧ f.second < 60

instance : DecidablePred Valid := fun f =>
  inferInstanceAs (Decidable (1 ≤ f.year ∧ f.year ≤ 9999 ∧ 1 ≤ f.month ∧ f.month ≤ 12 ∧
    1 ≤ f.day ∧ f.day ≤ daysInMonth f.year f.month ∧ f.hour < 24 ∧ f.minute < 60 ∧
    f.second < 60))

def seconds (f : Fields) : ℕ :=
  ymd2ord f.year f.month f.day * 86400 + (f.hour * 3600 + f.minute * 60 + f.second)

end Fields

/-- A UTC `datetime`: fields that passed the constructor's range checks. -/
structure DateTime where
  fields : Fields
  valid : fields.Valid

instance : DecidableEq DateTime := fun a b =>
  decidable_of_iff (a.fields = b.fields) (by cases a; cases b; simp)

def datetimeNew (f : Fields) : Py DateTime :=
  if h : f.Valid then .ok ⟨f, h⟩ else .error .valueError

namespace DateTime

def instant (t : DateTime) : ℚ := t.fields.seconds

/-- `(a - b).total_seconds()`: `datetime.__sub__` subtracts the ordinals and the seconds of
the day, and `timedelta.total_seconds` recombines them. -/
def subSeconds (a b : DateTime) : ℚ :=
  ((ymd2ord a.fields.year a.fields.month a.fields.day : ℤ) -
      ymd2ord b.fields.year b.fields.month b.fields.day) * 86400 +
    (((a.fields.hour * 3600 + a.fields.minute * 60 + a.fields.second : ℕ) : ℤ) -
      (b.fields.hour * 3600 + b.fields.minute * 60 + b.fields.second : ℕ))

/-- Durations are differences of instants, as the job model computes them. -/
theorem subSeconds_eq (a b : DateTime) : a.subSeconds b = a.instant - b.instant := by
  simp only [subSeconds, instant, Fields.seconds]
  push_cast
  ring

end DateTime

/-! ## Reading GitHub's text -/

def digitsValue (cs : List Char) : ℕ := cs.foldl (fun n c => 10 * n + (c.toNat - '0'.toNat)) 0

/-- `datetime.fromisoformat(s)` on the text `parse_datetime` makes of GitHub's form,
`YYYY-MM-DD?HH:MM:SS+00:00` with ASCII digits and any separator: the fields read as decimal
numbers, then `datetime(...)` with its range checks. `none` on any other text. -/
def fromIsoFormat (s : String) : Option (Py DateTime) :=
  match s.data with
  | [y₁, y₂, y₃, y₄, '-', m₁, m₂, '-', d₁, d₂, _, h₁, h₂, ':', i₁, i₂, ':', s₁, s₂,
      '+', '0', '0', ':', '0', '0'] =>
    let f : Fields := ⟨digitsValue [y₁, y₂, y₃, y₄], digitsValue [m₁, m₂], digitsValue [d₁, d₂],
      digitsValue [h₁, h₂], digitsValue [i₁, i₂], digitsValue [s₁, s₂]⟩
    if [y₁, y₂, y₃, y₄, m₁, m₂, d₁, d₂, h₁, h₂, i₁, i₂, s₁, s₂].all Char.isDigit && f.hour != 24
    then some (datetimeNew f) else none
  | _ => none

/-- `parse_datetime(s)`: `None` for a missing or empty string; otherwise `fromisoformat` of the
text with a trailing `Z` replaced by `+00:00`. -/
def parseDatetime : Option String → Option (Py (Option DateTime))
  | none => some (.ok none)
  | some s =>
    if s.data.isEmpty then some (.ok none)
    else
      let s := if s.data.getLast? = some 'Z' then ⟨s.data.dropLast⟩ ++ "+00:00" else s
      (fromIsoFormat s).map (Except.map some)

def digitChar (k : ℕ) : Char := Char.ofNat ('0'.toNat + k)

def padDigits : ℕ → ℕ → List Char
  | 0, _ => []
  | w + 1, n => padDigits w (n / 10) ++ [digitChar (n % 10)]

def githubTimestamp (f : Fields) : String :=
  ⟨padDigits 4 f.year ++ '-' :: padDigits 2 f.month ++ '-' :: padDigits 2 f.day ++ 'T' ::
    padDigits 2 f.hour ++ ':' :: padDigits 2 f.minute ++ ':' :: padDigits 2 f.second ++ ['Z']⟩

def Fields.Fits (f : Fields) : Prop :=
  f.year < 10000 ∧ f.month < 100 ∧ f.day < 100 ∧ f.hour < 100 ∧ f.minute < 100 ∧ f.second < 100

instance : DecidablePred Fields.Fits := fun f =>
  inferInstanceAs (Decidable (f.year < 10000 ∧ f.month < 100 ∧ f.day < 100 ∧ f.hour < 100 ∧
    f.minute < 100 ∧ f.second < 100))

section Digits

theorem digitChar_spec : ∀ k < 10, (digitChar k).isDigit = true ∧
    (digitChar k).toNat - '0'.toNat = k := by decide

theorem digitsValue_concat (cs : List Char) (c : Char) :
    digitsValue (cs ++ [c]) = 10 * digitsValue cs + (c.toNat - '0'.toNat) := by
  simp only [digitsValue, List.foldl_append, List.foldl_cons, List.foldl_nil]

theorem isDigit_of_mem_padDigits : ∀ {w n : ℕ} {c : Char}, c ∈ padDigits w n → c.isDigit = true
  | 0, _, _, h => absurd h (List.not_mem_nil _)
  | w + 1, n, c, h => by
    rcases List.mem_append.mp h with h | h
    · exact isDigit_of_mem_padDigits h
    · exact (List.mem_singleton.mp h) ▸ (digitChar_spec _ (Nat.mod_lt n (by norm_num))).1

theorem digitsValue_padDigits : ∀ w n, digitsValue (padDigits w n) = n % 10 ^ w
  | 0, n => by simp [digitsValue, padDigits, Nat.mod_one]
  | w + 1, n => by
    rw [padDigits, digitsValue_concat, digitsValue_padDigits w, Nat.pow_succ', Nat.mod_mul,
      (digitChar_spec _ (Nat.mod_lt n (by norm_num))).2]
    omega

theorem length_padDigits : ∀ w n, (padDigits w n).length = w
  | 0, _ => rfl
  | w + 1, n => by rw [padDigits, List.length_append, length_padDigits w, List.length_singleton]

end Digits

section Github

theorem padDigits_four (n : ℕ) : ∃ a b c d, padDigits 4 n = [a, b, c, d] := ⟨_, _, _, _, rfl⟩

theorem padDigits_two (n : ℕ) : ∃ a b, padDigits 2 n = [a, b] := ⟨_, _, rfl⟩

theorem digitsValue_of_padDigits {w n : ℕ} {cs : List Char} (h : padDigits w n = cs)
    (hn : n < 10 ^ w) : digitsValue cs = n := by
  rw [← h, digitsValue_padDigits, Nat.mod_eq_of_lt hn]

theorem parseDatetime_z (l : List Char) : parseDatetime (some ⟨l ++ ['Z']⟩) =
    (fromIsoFormat ⟨l ++ ['+', '0', '0', ':', '0', '0']⟩).map (Except.map some) := by
  have hne : (l ++ ['Z']).isEmpty = false := by cases l <;> rfl
  rw [parseDatetime, if_neg (by rw [hne]; decide), if_pos (List.getLast?_concat l)]
  simp only [List.dropLast_concat]
  rfl

theorem fromIsoFormat_eq {y₁ y₂ y₃ y₄ m₁ m₂ d₁ d₂ h₁ h₂ i₁ i₂ s₁ s₂ : Char} (sep : Char) :
    fromIsoFormat ⟨[y₁, y₂, y₃, y₄, '-', m₁, m₂, '-', d₁, d₂, sep, h₁, h₂, ':',
      i₁, i₂, ':', s₁, s₂] ++ ['+', '0', '0', ':', '0', '0']⟩ =
    let f : Fields := ⟨digitsValue [y₁, y₂, y₃, y₄], digitsValue [m₁, m₂], digitsValue [d₁, d₂],
      digitsValue [h₁, h₂], digitsValue [i₁, i₂], digitsValue [s₁, s₂]⟩
    if [y₁, y₂, y₃, y₄, m₁, m₂, d₁, d₂, h₁, h₂, i₁, i₂, s₁, s₂].all Char.isDigit && f.hour != 24
    then some (datetimeNew f) else none := rfl

variable {f : Fields}

/-- Reading GitHub's text of any fields it can spell is building the `datetime` from them: the
run's and jobs' timestamps come back as written when they are a date of the calendar, and
`parse_datetime` raises `ValueError` otherwise. -/
theorem parseDatetime_githubTimestamp (hf : f.Fits) (h24 : f.hour ≠ 24) :
    parseDatetime (some (githubTimestamp f)) = some ((datetimeNew f).map some) := by
  obtain ⟨y₁, y₂, y₃, y₄, hy⟩ := padDigits_four f.year
  obtain ⟨m₁, m₂, hm⟩ := padDigits_two f.month
  obtain ⟨d₁, d₂, hd⟩ := padDigits_two f.day
  obtain ⟨h₁, h₂, hh⟩ := padDigits_two f.hour
  obtain ⟨i₁, i₂, hi⟩ := padDigits_two f.minute
  obtain ⟨s₁, s₂, hs⟩ := padDigits_two f.second
  obtain ⟨fy, fm, fd, fh, fi, fs⟩ := hf
  have hfields : (⟨digitsValue [y₁, y₂, y₃, y₄], digitsValue [m₁, m₂], digitsValue [d₁, d₂],
      digitsValue [h₁, h₂], digitsValue [i₁, i₂], digitsValue [s₁, s₂]⟩ : Fields) = f := by
    rw [digitsValue_of_padDigits hy fy, digitsValue_of_padDigits hm fm,
      digitsValue_of_padDigits hd fd, digitsValue_of_padDigits hh fh,
      digitsValue_of_padDigits hi fi, digitsValue_of_padDigits hs fs]
  have hall : [y₁, y₂, y₃, y₄, m₁, m₂, d₁, d₂, h₁, h₂, i₁, i₂, s₁, s₂].all Char.isDigit := by
    have e : [y₁, y₂, y₃, y₄, m₁, m₂, d₁, d₂, h₁, h₂, i₁, i₂, s₁, s₂] = padDigits 4 f.year ++
        padDigits 2 f.month ++ padDigits 2 f.day ++ padDigits 2 f.hour ++ padDigits 2 f.minute ++
        padDigits 2 f.second := by rw [hy, hm, hd, hh, hi, hs]; rfl
    simp only [e, List.all_append, List.all_eq_true.mpr fun _ => isDigit_of_mem_padDigits,
      Bool.and_self]
  have htext : githubTimestamp f = ⟨[y₁, y₂, y₃, y₄, '-', m₁, m₂, '-', d₁, d₂, 'T', h₁, h₂, ':',
      i₁, i₂, ':', s₁, s₂] ++ ['Z']⟩ := by
    simp only [githubTimestamp, hy, hm, hd, hh, hi, hs]; rfl
  rw [htext, parseDatetime_z, fromIsoFormat_eq]
  dsimp only
  rw [hfields, hall, if_pos (by simpa [digitsValue_of_padDigits hh fh] using h24)]
  rfl

theorem Fields.Valid.fits {f : Fields} (h : f.Valid) : f.Fits := by
  obtain ⟨-, hy, hm₁, hm₂, -, hd, hh, hmi, hs⟩ := h
  have : daysInMonth f.year f.month ≤ 31 := daysInMonth_le hm₁ hm₂
  exact ⟨by omega, by omega, by omega, by omega, by omega, by omega⟩

theorem parseDatetime_dateTime (t : DateTime) :
    parseDatetime (some (githubTimestamp t.fields)) = some (.ok (some t)) := by
  rw [parseDatetime_githubTimestamp t.valid.fits (by have := t.valid.2.2.2.2.2.2.1; omega),
    datetimeNew, dif_pos t.valid]
  rfl

theorem parseDatetime_githubTimestamp_leap_day :
    (⟨2024, 2, 29, 12, 30, 5⟩ : Fields).Fits ∧ (⟨2024, 2, 29, 12, 30, 5⟩ : Fields).hour ≠ 24 ∧
    parseDatetime (some (githubTimestamp ⟨2024, 2, 29, 12, 30, 5⟩)) =
      some ((datetimeNew ⟨2024, 2, 29, 12, 30, 5⟩).map some) :=
  ⟨by decide, by decide, parseDatetime_githubTimestamp (by decide) (by decide)⟩

end Github

/-! ## The calendar is exact -/


namespace Fields

variable {f : Fields}

def tick (f : Fields) : Fields :=
  if f.second < 59 then { f with second := f.second + 1 }
  else if f.minute < 59 then { f with minute := f.minute + 1, second := 0 }
  else if f.hour < 23 then { f with hour := f.hour + 1, minute := 0, second := 0 }
  else if f.day < daysInMonth f.year f.month then
    { f with day := f.day + 1, hour := 0, minute := 0, second := 0 }
  else if f.month < 12 then ⟨f.year, f.month + 1, 1, 0, 0, 0⟩
  else ⟨f.year + 1, 1, 1, 0, 0, 0⟩

def last : Fields := ⟨9999, 12, 31, 23, 59, 59⟩

theorem tick_cases (f : Fields) :
    (f.second < 59 ∧ f.tick = ⟨f.year, f.month, f.day, f.hour, f.minute, f.second + 1⟩) ∨
    (59 ≤ f.second ∧ f.minute < 59 ∧
      f.tick = ⟨f.year, f.month, f.day, f.hour, f.minute + 1, 0⟩) ∨
    (59 ≤ f.second ∧ 59 ≤ f.minute ∧ f.hour < 23 ∧
      f.tick = ⟨f.year, f.month, f.day, f.hour + 1, 0, 0⟩) ∨
    (59 ≤ f.second ∧ 59 ≤ f.minute ∧ 23 ≤ f.hour ∧ f.day < daysInMonth f.year f.month ∧
      f.tick = ⟨f.year, f.month, f.day + 1, 0, 0, 0⟩) ∨
    (59 ≤ f.second ∧ 59 ≤ f.minute ∧ 23 ≤ f.hour ∧ daysInMonth f.year f.month ≤ f.day ∧
      f.month < 12 ∧ f.tick = ⟨f.year, f.month + 1, 1, 0, 0, 0⟩) ∨
    (59 ≤ f.second ∧ 59 ≤ f.minute ∧ 23 ≤ f.hour ∧ daysInMonth f.year f.month ≤ f.day ∧
      12 ≤ f.month ∧ f.tick = ⟨f.year + 1, 1, 1, 0, 0, 0⟩) := by
  unfold tick
  by_cases h₁ : f.second < 59
  · exact .inl ⟨h₁, if_pos h₁⟩
  rw [if_neg h₁]
  by_cases h₂ : f.minute < 59
  · exact .inr <| .inl ⟨by omega, h₂, if_pos h₂⟩
  rw [if_neg h₂]
  by_cases h₃ : f.hour < 23
  · exact .inr <| .inr <| .inl ⟨by omega, by omega, h₃, if_pos h₃⟩
  rw [if_neg h₃]
  by_cases h₄ : f.day < daysInMonth f.year f.month
  · exact .inr <| .inr <| .inr <| .inl ⟨by omega, by omega, by omega, h₄, if_pos h₄⟩
  rw [if_neg h₄]
  by_cases h₅ : f.month < 12
  · exact .inr <| .inr <| .inr <| .inr <| .inl
      ⟨by omega, by omega, by omega, by omega, h₅, if_pos h₅⟩
  exact .inr <| .inr <| .inr <| .inr <| .inr
    ⟨by omega, by omega, by omega, by omega, by omega, if_neg h₅⟩

theorem seconds_tick (h : f.Valid) : f.tick.seconds = f.seconds + 1 := by
  obtain ⟨hy, -, hm₁, hm₂, -, hd, hh, hmi, hs⟩ := h
  rcases tick_cases f with ⟨-, e⟩ | ⟨h₁, -, e⟩ | ⟨h₁, h₂, -, e⟩ | ⟨h₁, h₂, h₃, -, e⟩ |
    ⟨h₁, h₂, h₃, h₄, h₅, e⟩ | ⟨h₁, h₂, h₃, h₄, h₅, e⟩ <;> rw [e] <;> simp only [seconds]
  · omega
  · omega
  · omega
  · rw [ymd2ord_succ_day]; omega
  · rw [ymd2ord_succ_month hm₁ h₅, show f.day = daysInMonth f.year f.month by omega]; omega
  · have hm : f.month = 12 := by omega
    rw [hm, daysInMonth_twelve] at hd h₄
    rw [ymd2ord_succ_year hy, hm, show f.day = 31 by omega]
    omega

theorem tick_valid (h : f.Valid) (hlast : f ≠ last) : f.tick.Valid := by
  obtain ⟨hy₁, hy₂, hm₁, hm₂, hd₁, hd, hh, hmi, hs⟩ := h
  rcases tick_cases f with ⟨h₁, e⟩ | ⟨h₁, h₂, e⟩ | ⟨h₁, h₂, h₃, e⟩ | ⟨h₁, h₂, h₃, h₄, e⟩ |
    ⟨h₁, h₂, h₃, h₄, h₅, e⟩ | ⟨h₁, h₂, h₃, h₄, h₅, e⟩ <;> rw [e] <;> dsimp only [Valid]
  · exact ⟨hy₁, hy₂, hm₁, hm₂, hd₁, hd, hh, hmi, by omega⟩
  · exact ⟨hy₁, hy₂, hm₁, hm₂, hd₁, hd, hh, by omega, by omega⟩
  · exact ⟨hy₁, hy₂, hm₁, hm₂, hd₁, hd, by omega, by omega, by omega⟩
  · exact ⟨hy₁, hy₂, hm₁, hm₂, by omega, h₄, by omega, by omega, by omega⟩
  · exact ⟨hy₁, hy₂, by omega, h₅, le_rfl, daysInMonth_pos (by omega) h₅, by omega, by omega,
      by omega⟩
  · have hm : f.month = 12 := by omega
    rw [hm, daysInMonth_twelve] at hd h₄
    refine ⟨by omega, ?_, le_rfl, by omega, le_rfl, daysInMonth_pos le_rfl (by norm_num), by omega,
      by omega, by omega⟩
    by_contra hy
    obtain ⟨year, month, day, hour, minute, second⟩ := f
    exact hlast (by simp only [last, Fields.mk.injEq] at *; omega)

/-- The instants count calendar seconds exactly: `n` seconds after any datetime, across
minutes, days, month ends, year ends and leap days, is a datetime whose instant is `n` more,
as long as it stays in `datetime`'s range. Every duration the views show is the time that
passed on the calendar. -/
theorem seconds_iterate_tick (h : f.Valid) (n : ℕ) (hn : f.seconds + n ≤ last.seconds) :
    (tick^[n] f).Valid ∧ (tick^[n] f).seconds = f.seconds + n := by
  induction n generalizing f with
  | zero => exact ⟨h, by rw [Function.iterate_zero_apply, Nat.add_zero]⟩
  | succ n ih =>
    have hf : f ≠ last := by rintro rfl; omega
    have hs := seconds_tick h
    obtain ⟨hv, he⟩ := ih (tick_valid h hf) (by omega)
    rw [Function.iterate_succ_apply]
    exact ⟨hv, by omega⟩

theorem seconds_iterate_tick_leap_day : (⟨2024, 2, 28, 23, 59, 59⟩ : Fields).Valid ∧
    (⟨2024, 2, 28, 23, 59, 59⟩ : Fields).seconds + 86401 ≤ last.seconds ∧
    (tick^[86401] ⟨2024, 2, 28, 23, 59, 59⟩).Valid ∧
    (tick^[86401] ⟨2024, 2, 28, 23, 59, 59⟩).seconds =
      (⟨2024, 2, 28, 23, 59, 59⟩ : Fields).seconds + 86401 :=
  ⟨by decide, by decide, seconds_iterate_tick (by decide) 86401 (by decide)⟩

end Fields

end CiTimeline
