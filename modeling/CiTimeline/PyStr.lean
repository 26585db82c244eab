import CiTimeline.PyRuntime
import Mathlib.Data.List.Infix

/-!
# Python string methods

`str.strip`, `str.split(sep)[-1]` and `str.replace`, on the code points of a string as
CPython sees them. `replace` scans left to right and replaces non-overlapping
occurrences; the scan is the only part with a real invariant, and its lemmas say when a
prefix of the text is left untouched by it.
-/

namespace CiTimeline

/-- The characters of `str.isspace()`, the ones `str.strip()` removes. -/
def pyIsSpace (c : Char) : Bool :=
  decide (let n := c.toNat
    9 ≤ n ∧ n ≤ 13 ∨ 28 ≤ n ∧ n ≤ 32 ∨ n = 133 ∨ n = 160 ∨ n = 5760 ∨ 8192 ≤ n ∧ n ≤ 8202 ∨
      n = 8232 ∨ n = 8233 ∨ n = 8239 ∨ n = 8287 ∨ n = 12288)

def pyStrip (s : String) : String :=
  ⟨((s.data.dropWhile pyIsSpace).reverse.dropWhile pyIsSpace).reverse⟩

/-- `s.split(sep)[-1]`: the text after the last `sep`, or all of `s` when it has none. -/
def splitLast (s : String) (sep : Char) : String :=
  ⟨(s.data.reverse.takeWhile (· != sep)).reverse⟩

/-- The scan of `s.replace(old, new)` for a non-empty `old`: `skip` counts the characters
of the occurrence just replaced that are still to be passed over. -/
def replaceScan (old new : List Char) : ℕ → List Char → List Char
  | _, [] => []
  | k + 1, _ :: cs => replaceScan old new k cs
  | 0, c :: cs =>
    if old.isPrefixOf (c :: cs) then new ++ replaceScan old new (old.length - 1) cs
    else c :: replaceScan old new 0 cs

def pyReplace (s old new : String) : String :=
  ⟨replaceScan old.data new.data 0 s.data⟩

/-- No occurrence of `old` starts inside `l`, whatever text follows `l`. -/
def Unmatched (old l : List Char) : Prop :=
  ∀ t ∈ l.tails, t ≠ [] → ¬ old <+: t ∧ ¬ t <+: old

instance (old l : List Char) : Decidable (Unmatched old l) :=
  inferInstanceAs (Decidable (∀ t ∈ l.tails, _))

section Replace

variable {old new : List Char}

theorem replaceScan_skip (xs s : List Char) :
    replaceScan old new xs.length (xs ++ s) = replaceScan old new 0 s := by
  induction xs with
  | nil => rfl
  | cons x xs ih => exact ih

theorem replaceScan_zero_cons (c : Char) (cs : List Char) :
    replaceScan old new 0 (c :: cs) = if old.isPrefixOf (c :: cs) then
      new ++ replaceScan old new (old.length - 1) cs else c :: replaceScan old new 0 cs := rfl

theorem replaceScan_occurrence (hold : old ≠ []) (s : List Char) :
    replaceScan old new 0 (old ++ s) = new ++ replaceScan old new 0 s := by
  obtain ⟨o, os, rfl⟩ := List.exists_cons_of_ne_nil hold
  have hp : (o :: os).isPrefixOf (o :: (os ++ s)) = true :=
    List.isPrefixOf_iff_prefix.mpr (List.prefix_append (o :: os) s)
  rw [List.cons_append, replaceScan_zero_cons, if_pos hp, List.length_cons,
    Nat.add_sub_cancel, replaceScan_skip]

theorem replaceScan_cons_of_not_prefix {c : Char} {s : List Char} (h : ¬ old <+: c :: s) :
    replaceScan old new 0 (c :: s) = c :: replaceScan old new 0 s := by
  rw [replaceScan_zero_cons, if_neg (mt List.isPrefixOf_iff_prefix.mp h)]

theorem not_prefix_append_of_unrelated {t : List Char} (h₁ : ¬ old <+: t) (h₂ : ¬ t <+: old)
    (s : List Char) : ¬ old <+: t ++ s := fun h =>
  (le_total old.length t.length).elim
    (fun hl => h₁ (List.prefix_of_prefix_length_le h (List.prefix_append t s) hl))
    (fun hl => h₂ (List.prefix_of_prefix_length_le (List.prefix_append t s) h hl))

theorem replaceScan_append_of_unmatched {l : List Char} (h : Unmatched old l)
    (s : List Char) : replaceScan old new 0 (l ++ s) = l ++ replaceScan old new 0 s := by
  induction l with
  | nil => rfl
  | cons c l ih =>
    have hc := h (c :: l) (by simp) (List.cons_ne_nil c l)
    have hn : ¬ old <+: c :: (l ++ s) := not_prefix_append_of_unrelated hc.1 hc.2 s
    rw [List.cons_append, replaceScan_cons_of_not_prefix hn,
      ih fun t ht => h t (by simp [ht]), List.cons_append]

theorem pyReplace_occurrence {old : String} (hold : old.data ≠ []) (t new : String) :
    pyReplace (old ++ t) old new = new ++ pyReplace t old new :=
  String.ext (by simp only [pyReplace, String.data_append]; exact replaceScan_occurrence hold _)

theorem pyReplace_append_of_unmatched {old l : String} (h : Unmatched old.data l.data)
    (t new : String) : pyReplace (l ++ t) old new = l ++ pyReplace t old new :=
  String.ext (by
    simp only [pyReplace, String.data_append]; exact replaceScan_append_of_unmatched h _)

theorem unmatched_of_forall_ne {c : Char} {l : List Char} (h : ∀ x ∈ l, x ≠ c) :
    Unmatched [c] l := by
  intro t ht hne
  obtain ⟨x, rest, rfl⟩ := List.exists_cons_of_ne_nil hne
  have hx : x ≠ c := h x (((List.mem_tails _ _).mp ht).subset (List.mem_cons_self x rest))
  simp only [List.cons_prefix_cons, List.prefix_nil]
  exact ⟨fun e => hx e.1.symm, fun e => hx e.1⟩

theorem replaceScan_single {c c' : Char} {pre post : List Char} (hpre : ∀ x ∈ pre, x ≠ c)
    (hpost : ∀ x ∈ post, x ≠ c) : replaceScan [c] [c'] 0 (pre ++ c :: post) = pre ++ c' :: post := by
  have hocc : replaceScan [c] [c'] 0 (c :: post) = [c'] ++ replaceScan [c] [c'] 0 post :=
    replaceScan_occurrence (List.cons_ne_nil c []) post
  have hrest : replaceScan [c] [c'] 0 (post ++ []) = post ++ replaceScan [c] [c'] 0 [] :=
    replaceScan_append_of_unmatched (unmatched_of_forall_ne hpost) []
  rw [replaceScan_append_of_unmatched (unmatched_of_forall_ne hpre), hocc]
  rw [List.append_nil] at hrest
  rw [hrest, show replaceScan [c] [c'] 0 [] = [] from rfl, List.append_nil]
  rfl

theorem replaceScan_sublist (k : ℕ) (s : List Char) : (replaceScan old [] k s).Sublist s := by
  induction s generalizing k with
  | nil => cases k <;> exact .slnil
  | cons c cs ih =>
    cases k with
    | succ k => exact (ih k).cons c
    | zero =>
      rw [replaceScan_zero_cons]
      split
      · exact (ih _).cons c
      · exact (ih 0).cons₂ c

theorem pyReplace_sublist (s old : String) : (pyReplace s old "").data.Sublist s.data :=
  replaceScan_sublist 0 s.data

end Replace

section Split

theorem splitLast_append_of_mem {s t : String} {sep : Char} (h : sep ∈ t.data) :
    splitLast (s ++ t) sep = splitLast t sep := by
  have hstop : (t.data.reverse.takeWhile (· != sep)).length ≠ t.data.reverse.length := by
    intro hlen
    have hall := List.takeWhile_eq_self_iff.mp
      (List.IsPrefix.eq_of_length (List.takeWhile_prefix _) hlen)
    simpa using hall sep (List.mem_reverse.mpr h)
  simp only [splitLast, String.data_append, List.reverse_append, List.takeWhile_append,
    if_neg hstop]

theorem splitLast_of_not_mem {s : String} {sep : Char} (h : sep ∉ s.data) :
    splitLast s sep = s := by
  have hall : ∀ c ∈ s.data.reverse, (c != sep) = true := fun c hc =>
    bne_iff_ne.mpr fun e => h (e ▸ List.mem_reverse.mp hc)
  simp [splitLast, List.takeWhile_eq_self_iff.mpr hall]

theorem splitLast_append_sep {s t : String} {sep : Char} (h : sep ∉ t.data) :
    splitLast (s ++ ⟨[sep]⟩ ++ t) sep = t := by
  have hall : ∀ c ∈ t.data.reverse, (c != sep) = true := fun c hc =>
    bne_iff_ne.mpr fun e => h (e ▸ List.mem_reverse.mp hc)
  simp only [splitLast, String.data_append, List.reverse_append, List.takeWhile_append_of_pos hall]
  simp

theorem sep_not_mem_splitLast (s : String) (sep : Char) : sep ∉ (splitLast s sep).data := by
  intro h
  have := List.mem_takeWhile_imp (List.mem_reverse.mp h)
  simp at this

end Split

section Lines

theorem prefix_data_append (p x : String) : p.data <+: (p ++ x).data := by
  rw [String.data_append]; exact List.prefix_append _ _

theorem ne_of_prefixes {s t p q : String} (hp : p.data <+: s.data) (hq : q.data <+: t.data)
    (h₁ : ¬ p.data <+: q.data) (h₂ : ¬ q.data <+: p.data) : s ≠ t := by
  rintro rfl
  rcases le_total p.data.length q.data.length with h | h
  · exact h₁ (List.prefix_of_prefix_length_le hp hq h)
  · exact h₂ (List.prefix_of_prefix_length_le hq hp h)

theorem ne_of_not_begins_with {c p x y : String} (h : ¬ p.data <+: c.data) : c ≠ p ++ x ++ y :=
  fun e => h (e ▸ (prefix_data_append p x).trans (prefix_data_append _ y))

end Lines

theorem pyStrip_sublist (s : String) : (pyStrip s).data.Sublist s.data := by
  refine List.Sublist.trans ?_ (List.dropWhile_suffix pyIsSpace).sublist
  rw [pyStrip, ← List.reverse_sublist, List.reverse_reverse]
  exact (List.dropWhile_suffix pyIsSpace).sublist

theorem pyStrip_append_of_edges {ws t : String} (hws : ∀ c ∈ ws.data, pyIsSpace c = true)
    (hhead : ∀ c ∈ t.data.head?, pyIsSpace c = false)
    (hlast : ∀ c ∈ t.data.getLast?, pyIsSpace c = false) : pyStrip (ws ++ t) = t := by
  have hd : t.data.dropWhile pyIsSpace = t.data := by
    cases h : t.data with
    | nil => rfl
    | cons c r => exact List.dropWhile_cons_of_neg (by simpa [h] using hhead)
  have hr : t.data.reverse.dropWhile pyIsSpace = t.data.reverse := by
    cases h : t.data.reverse with
    | nil => rfl
    | cons c r =>
      refine List.dropWhile_cons_of_neg ?_
      have : t.data.getLast? = some c := by rw [List.getLast?_eq_head?_reverse, h]; rfl
      simpa using hlast c this
  exact String.ext (by simp only [pyStrip, String.data_append, List.dropWhile_append_of_pos hws,
    hd, hr, List.reverse_reverse])

end CiTimeline
