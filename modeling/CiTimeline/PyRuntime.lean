import Mathlib.Data.Rat.Floor
import Mathlib.Order.Lattice
import Mathlib.Data.List.ReduceOption
import Mathlib.Data.List.Forall2

/-!
# The Python runtime of the renderers

The built-ins `timeline.py` calls. A float is a rational and an operation that can raise
returns `Py`, whose error side names the exception: division by zero, `min`/`max` of an empty
sequence, a string index out of range and a timestamp read off `None`.
-/

namespace CiTimeline

/-- The exceptions of the rendering core; `noneAccess` is the `AttributeError` or
`TypeError` of using an `Optional[datetime]` that is `None` as a `datetime`. -/
inductive PyError
  | zeroDivisionError
  | valueError
  | indexError
  | noneAccess
  deriving DecidableEq, Repr

abbrev Py := Except PyError

instance instDecidableEqPy {α : Type} [DecidableEq α] : DecidableEq (Py α)
  | .ok x, .ok y =>
    if h : x = y then isTrue (congrArg _ h) else isFalse fun e => by cases e; exact h rfl
  | .error e, .error e' =>
    if h : e = e' then isTrue (congrArg _ h) else isFalse fun e => by cases e; exact h rfl
  | .ok _, .error _ => isFalse fun e => by cases e
  | .error _, .ok _ => isFalse fun e => by cases e

def pyDiv (a b : ℚ) : Py ℚ :=
  if b = 0 then throw .zeroDivisionError else pure (a / b)

/-- `int(x)` truncates toward zero. -/
def pyInt (x : ℚ) : ℤ :=
  if 0 ≤ x then ⌊x⌋ else ⌈x⌉

def pyFloorDiv (a b : ℚ) : ℚ := ⌊a / b⌋

/-- `a % b` on floats, with the sign of `b`. -/
def pyMod (a b : ℚ) : ℚ := a - b * ⌊a / b⌋

def pyMin (xs : List ℚ) : Py ℚ :=
  match xs.min? with
  | some m => pure m
  | none => throw .valueError

def pyMax (xs : List ℚ) : Py ℚ :=
  match xs.max? with
  | some m => pure m
  | none => throw .valueError

def pyMaxBy {α : Type} (key : α → Py ℚ) : List α → Py α
  | [] => throw .valueError
  | x :: xs => do
    let k ← key x
    let best ← xs.foldlM (fun (acc : α × ℚ) y => do
      let ky ← key y
      pure (if acc.2 < ky then (y, ky) else acc)) (x, k)
    pure best.1

/-- `a` is the first item of `l` of largest `g`, the item `max(l, key=g)` returns. -/
def IsFirstMax {α : Type} (g : α → ℚ) (l : List α) (a : α) : Prop :=
  ∃ pre post, l = pre ++ a :: post ∧ (∀ b ∈ pre, g b < g a) ∧ ∀ b ∈ post, g b ≤ g a

/-- `s[i]`; a negative index counts from the end. -/
def pyIndex (s : String) (i : ℤ) : Py Char :=
  let j := if i < 0 then i + s.length else i
  if 0 ≤ j then
    match s.data.get? j.toNat with
    | some c => pure c
    | none => throw .indexError
  else throw .indexError

def pyMaxDefault (xs : List ℚ) (d : ℚ) : ℚ := xs.max?.getD d

def pyTake (s : String) (n : ℕ) : String := ⟨s.data.take n⟩

/-- `c * n` for a one-character string `c`; a negative count gives `""`. CPython raises
`OverflowError` for a count outside `Py_ssize_t`, which `rep` does not model: a result about
every width holds for the widths of `FitsSsize`. -/
def rep (c : Char) (n : ℕ) : String := ⟨List.replicate n c⟩

/-- `n` fits `Py_ssize_t`, the counts `str * n` accepts. -/
def FitsSsize (n : ℤ) : Prop := -2 ^ 63 ≤ n ∧ n < 2 ^ 63

instance : DecidablePred FitsSsize := fun _ => inferInstanceAs (Decidable (_ ∧ _))

def ljust (s : String) (w : ℕ) : String := s ++ rep ' ' (w - s.length)

def rjust (s : String) (w : ℕ) : String := rep ' ' (w - s.length) ++ s

def center (s : String) (w : ℕ) : String :=
  rep ' ' ((w - s.length) / 2) ++ s ++ rep ' ' (w - s.length - (w - s.length) / 2)

section Lemmas

variable {a b m : ℚ} {xs : List ℚ} {α β : Type} {x : α}

@[simp] theorem Py.pure_eq_ok : (pure x : Py α) = .ok x := rfl

@[simp] theorem Py.ok_bind (f : α → Py β) : (Except.ok x >>= f : Py β) = f x := rfl

@[simp] theorem Py.error_bind (e : PyError) (f : α → Py β) :
    (Except.error e >>= f : Py β) = .error e := rfl

@[simp] theorem Py.map_ok (f : α → β) : (f <$> (Except.ok x : Py α)) = .ok (f x) := rfl

@[simp] theorem pyDiv_ok (h : b ≠ 0) : pyDiv a b = .ok (a / b) := by
  simp [pyDiv, h]

@[simp] theorem pyDiv_zero : pyDiv a 0 = .error .zeroDivisionError := rfl

theorem pyInt_of_nonneg (h : 0 ≤ a) : pyInt a = ⌊a⌋ := if_pos h

theorem pyInt_intCast (k : ℤ) : pyInt k = k := by
  unfold pyInt; split <;> simp

theorem pyInt_eq_natFloor (h : 0 ≤ a) : pyInt a = ⌊a⌋₊ := by
  rw [pyInt_of_nonneg h, Int.natCast_floor_eq_floor h]

theorem pyInt_pyFloorDiv (h : 0 ≤ a) (k : ℕ) : pyInt (pyFloorDiv a k) = (⌊a⌋₊ / k : ℕ) := by
  rw [pyFloorDiv, pyInt_intCast, ← Nat.floor_div_nat,
    Int.natCast_floor_eq_floor (div_nonneg h k.cast_nonneg)]

theorem pyMod_eq_natSub (h : 0 ≤ a) (k : ℕ) : pyMod a k = a - (k * (⌊a⌋₊ / k) : ℕ) := by
  rw [pyMod, ← Int.natCast_floor_eq_floor (div_nonneg h k.cast_nonneg), Nat.floor_div_nat]
  push_cast; rfl

theorem pyMod_nonneg (h : 0 ≤ a) (k : ℕ) : 0 ≤ pyMod a k := by
  rw [pyMod_eq_natSub h, sub_nonneg]
  exact (Nat.cast_le.mpr (Nat.mul_div_le _ _)).trans (Nat.floor_le h)

theorem natFloor_pyMod (h : 0 ≤ a) (k : ℕ) : ⌊pyMod a k⌋₊ = ⌊a⌋₊ % k := by
  rw [pyMod_eq_natSub h, Nat.floor_sub_nat]
  exact Nat.sub_eq_of_eq_add (Nat.mod_add_div _ _).symm

theorem pyInt_pyMod (h : 0 ≤ a) (k : ℕ) : pyInt (pyMod a k) = (⌊a⌋₊ % k : ℕ) := by
  rw [pyInt_eq_natFloor (pyMod_nonneg h k), natFloor_pyMod h]

@[simp] theorem length_rep (c : Char) (n : ℕ) : (rep c n).length = n := by
  simp [rep, String.length]

@[simp] theorem data_rep (c : Char) (n : ℕ) : (rep c n).data = List.replicate n c := rfl

theorem eq_of_mem_rep {c d : Char} {n : ℕ} (h : d ∈ (rep c n).data) : d = c :=
  List.eq_of_mem_replicate h

theorem pyMin_ok_iff : pyMin xs = .ok m ↔ m ∈ xs ∧ ∀ y ∈ xs, m ≤ y := by
  haveI : Std.Antisymm (α := ℚ) (· ≤ ·) := ⟨le_antisymm⟩
  rw [← List.min?_eq_some_iff le_refl min_choice (fun _ _ _ => le_min_iff)]
  unfold pyMin
  split <;> simp_all

theorem pyMax_ok_iff : pyMax xs = .ok m ↔ m ∈ xs ∧ ∀ y ∈ xs, y ≤ m := by
  haveI : Std.Antisymm (α := ℚ) (· ≤ ·) := ⟨le_antisymm⟩
  rw [← List.max?_eq_some_iff le_refl max_choice (fun _ _ _ => max_le_iff)]
  unfold pyMax
  split <;> simp_all

theorem pyMin_ok_of_ne_nil (h : xs ≠ []) : ∃ m, pyMin xs = .ok m := by
  cases hm : xs.min? with
  | none => exact absurd (List.min?_eq_none_iff.mp hm) h
  | some m => exact ⟨m, by simp [pyMin, hm]⟩

theorem pyMax_ok_of_ne_nil (h : xs ≠ []) : ∃ m, pyMax xs = .ok m := by
  cases hm : xs.max? with
  | none => exact absurd (List.max?_eq_none_iff.mp hm) h
  | some m => exact ⟨m, by simp [pyMax, hm]⟩

@[simp] theorem pyMax_nil : pyMax [] = .error .valueError := rfl

theorem pyIndex_of_getElem? {s : String} {i : ℕ} {c : Char} (h : s.data[i]? = some c) :
    pyIndex s i = .ok c := by
  have hi : ¬ (i : ℤ) < 0 := by omega
  simp only [pyIndex, if_neg hi, Int.toNat_ofNat, List.get?_eq_getElem?, h, Nat.cast_nonneg,
    Py.pure_eq_ok, if_true]

theorem Py.mapM_ok {f : α → Py β} {g : α → β} :
    ∀ {l : List α}, (∀ a ∈ l, f a = .ok (g a)) → l.mapM f = .ok (l.map g)
  | [], _ => rfl
  | a :: l, h => by
    simp only [List.mapM_cons, h a (List.mem_cons_self a l),
      Py.mapM_ok fun b hb => h b (List.mem_cons_of_mem a hb), Py.ok_bind, Py.pure_eq_ok,
      List.map_cons]

theorem Py.mapM_isOk {f : α → Py β} :
    ∀ {l : List α}, (∀ a ∈ l, ∃ b, f a = .ok b) → ∃ bs, l.mapM f = .ok bs
  | [], _ => ⟨[], rfl⟩
  | a :: l, h => by
    obtain ⟨b, hb⟩ := h a (List.mem_cons_self a l)
    obtain ⟨bs, hbs⟩ := Py.mapM_isOk fun c hc => h c (List.mem_cons_of_mem a hc)
    exact ⟨b :: bs, by simp only [List.mapM_cons, hb, hbs, Py.ok_bind, Py.pure_eq_ok]⟩

theorem Py.bind_eq_ok {x : Py α} {f : α → Py β} {b : β} :
    x >>= f = .ok b ↔ ∃ a, x = .ok a ∧ f a = .ok b := by
  cases x <;> simp [Py.error_bind]

theorem Py.forall₂_of_mapM_ok {f : α → Py β} :
    ∀ {l : List α} {bs : List β}, l.mapM f = .ok bs → List.Forall₂ (fun a b => f a = .ok b) l bs
  | [], _, h => Except.ok.inj h ▸ .nil
  | a :: l, bs, h => by
    rw [List.mapM_cons] at h
    obtain ⟨b, hb, h⟩ := Py.bind_eq_ok.mp h
    obtain ⟨bs', hl, h⟩ := Py.bind_eq_ok.mp h
    obtain rfl : b :: bs' = bs := Except.ok.inj h
    exact .cons hb (Py.forall₂_of_mapM_ok hl)

theorem Py.mapM_reduceOption {f : α → Py (Option β)} {p : α → Bool}
    (hf : ∀ a, (p a = false ∧ f a = .ok none) ∨ (p a = true ∧ ∃ b, f a = .ok (some b)))
    (l : List α) : ∃ bs, l.mapM f = .ok bs ∧
      List.Forall₂ (fun a b => f a = .ok (some b)) (l.filter p) bs.reduceOption := by
  induction l with
  | nil => exact ⟨[], rfl, .nil⟩
  | cons a l ih =>
    obtain ⟨bs, hbs, hF⟩ := ih
    rcases hf a with ⟨hp, ha⟩ | ⟨hp, b, ha⟩
    · refine ⟨none :: bs, by rw [List.mapM_cons, ha, Py.ok_bind, hbs]; rfl, ?_⟩
      rwa [List.filter_cons_of_neg (by simp [hp]), List.reduceOption_cons_of_none]
    · refine ⟨some b :: bs, by rw [List.mapM_cons, ha, Py.ok_bind, hbs]; rfl, ?_⟩
      rw [List.filter_cons_of_pos hp, List.reduceOption_cons_of_some]
      exact .cons ha hF

theorem Py.foldlM_ok {σ : Type} {f : σ → α → Py σ} {g : σ → α → σ} :
    ∀ {l : List α} (s : σ), (∀ s, ∀ a ∈ l, f s a = .ok (g s a)) → l.foldlM f s = .ok (l.foldl g s)
  | [], _, _ => rfl
  | a :: l, s, h => by
    rw [List.foldlM_cons, h s a (List.mem_cons_self a l), Py.ok_bind, List.foldl_cons,
      Py.foldlM_ok _ fun s b hb => h s b (List.mem_cons_of_mem a hb)]

theorem Py.foldlM_isOk {σ : Type} {f : σ → α → Py σ} :
    ∀ {l : List α} (s : σ), (∀ s, ∀ a ∈ l, ∃ s', f s a = .ok s') → ∃ s', l.foldlM f s = .ok s'
  | [], s, _ => ⟨s, rfl⟩
  | a :: l, s, h => by
    obtain ⟨s₁, hs₁⟩ := h s a (List.mem_cons_self a l)
    obtain ⟨s₂, hs₂⟩ := Py.foldlM_isOk (l := l) s₁ fun s b hb => h s b (List.mem_cons_of_mem a hb)
    exact ⟨s₂, by rw [List.foldlM_cons, hs₁, Py.ok_bind, hs₂]⟩

theorem pyMax_perm {xs ys : List ℚ} (h : xs.Perm ys) : pyMax xs = pyMax ys := by
  by_cases hne : xs = []
  · subst hne; rw [List.Perm.nil_eq h]
  obtain ⟨m, hm⟩ := pyMax_ok_of_ne_nil hne
  rw [hm, eq_comm, pyMax_ok_iff]
  have := pyMax_ok_iff.mp hm
  exact ⟨h.mem_iff.mp this.1, fun y hy => this.2 y (h.mem_iff.mpr hy)⟩

theorem pyMin_perm {xs ys : List ℚ} (h : xs.Perm ys) : pyMin xs = pyMin ys := by
  by_cases hne : xs = []
  · subst hne; rw [List.Perm.nil_eq h]
  obtain ⟨m, hm⟩ := pyMin_ok_of_ne_nil hne
  rw [hm, eq_comm, pyMin_ok_iff]
  have := pyMin_ok_iff.mp hm
  exact ⟨h.mem_iff.mp this.1, fun y hy => this.2 y (h.mem_iff.mpr hy)⟩

theorem isEmpty_of_filter_ne_nil {l : List α} {p : α → Bool} (h : l.filter p ≠ []) :
    l.isEmpty = false := by
  cases l
  · exact absurd rfl h
  · rfl

end Lemmas

section MaxBy

variable {α : Type} {g : α → ℚ} {l : List α} {a : α}

theorem IsFirstMax.mem (h : IsFirstMax g l a) : a ∈ l := by
  obtain ⟨pre, post, rfl, -, -⟩ := h; simp

theorem IsFirstMax.le (h : IsFirstMax g l a) : ∀ b ∈ l, g b ≤ g a := by
  obtain ⟨pre, post, rfl, hpre, hpost⟩ := h
  intro b hb
  rcases List.mem_append.mp hb with hb | hb
  · exact (hpre b hb).le
  · rcases List.mem_cons.mp hb with rfl | hb
    exacts [le_rfl, hpost b hb]

theorem IsFirstMax.snoc (h : IsFirstMax g l a) (y : α) :
    IsFirstMax g (l ++ [y]) (if g a < g y then y else a) := by
  split
  · next hlt => exact ⟨l, [], rfl, fun b hb => (h.le b hb).trans_lt hlt, by simp⟩
  · next hge =>
    obtain ⟨pre, post, rfl, hpre, hpost⟩ := h
    refine ⟨pre, post ++ [y], by simp, hpre, fun b hb => ?_⟩
    rcases List.mem_append.mp hb with hb | hb
    · exact hpost b hb
    · rw [List.mem_singleton.mp hb]; exact not_lt.mp hge

theorem IsFirstMax.foldl (h : IsFirstMax g l a) (xs : List α) :
    IsFirstMax g (l ++ xs) (xs.foldl (fun acc y => if acc.2 < g y then (y, g y) else acc) (a, g a)).1 := by
  induction xs generalizing l a with
  | nil => simpa using h
  | cons y ys ih =>
    have hstep : (if g a < g y then (y, g y) else (a, g a)) =
        ((if g a < g y then y else a), g (if g a < g y then y else a)) := by split <;> rfl
    rw [List.foldl_cons, hstep, ← List.singleton_append, ← List.append_assoc]
    exact ih (h.snoc y)

theorem pyMaxBy_spec {key : α → Py ℚ} (hne : l ≠ []) (hkey : ∀ a ∈ l, key a = .ok (g a)) :
    ∃ a, pyMaxBy key l = .ok a ∧ IsFirstMax g l a := by
  obtain ⟨x, xs, rfl⟩ := List.exists_cons_of_ne_nil hne
  have hloop := Py.foldlM_ok (l := xs) (f := fun (acc : α × ℚ) y => do
      let ky ← key y
      pure (if acc.2 < ky then (y, ky) else acc)) (g := fun acc y => if acc.2 < g y then (y, g y) else acc)
    (x, g x) fun acc y hy => by simp only [hkey y (List.mem_cons_of_mem x hy), Py.ok_bind, Py.pure_eq_ok]
  refine ⟨_, by simp only [pyMaxBy, hkey x (List.mem_cons_self x xs), Py.ok_bind, hloop]; rfl, ?_⟩
  exact IsFirstMax.foldl (l := [x]) ⟨[], [], rfl, by simp, by simp⟩ xs

end MaxBy

end CiTimeline
