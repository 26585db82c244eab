import CiTimeline.PyRuntime
import Mathlib.Data.List.Dedup

/-!
# Python dictionaries with string keys

A `dict` is its items in insertion order. `d[k] = v` overwrites in place or appends, and
a dict comprehension is a left fold of assignments. The lemmas say what a comprehension
holds: its keys are the keys of its items, and under each key the last item with it.
-/

namespace CiTimeline

/-- A `dict` with `str` keys, items in insertion order. -/
abbrev PyDict (α : Type) := List (String × α)

namespace PyDict

variable {α : Type}

/-- `d.get(k)`. -/
def get? : PyDict α → String → Option α
  | [], _ => none
  | (k', v) :: d, k => if k' = k then some v else get? d k

/-- `d[k] = v`. -/
def set : PyDict α → String → α → PyDict α
  | [], k, v => [(k, v)]
  | (k', v') :: d, k, v => if k' = k then (k, v) :: d else (k', v') :: set d k v

def keys (d : PyDict α) : List String := d.map (·.1)

def values (d : PyDict α) : List α := d.map (·.2)

/-- `{key(x): x for x in xs}`. -/
def ofList (key : α → String) (xs : List α) : PyDict α :=
  xs.foldl (fun d x => d.set (key x) x) []

@[simp] theorem keys_nil : keys ([] : PyDict α) = [] := rfl

@[simp] theorem keys_cons (k : String) (v : α) (d : PyDict α) : keys ((k, v) :: d) = k :: keys d :=
  rfl

@[simp] theorem values_nil : values ([] : PyDict α) = [] := rfl

@[simp] theorem values_cons (k : String) (v : α) (d : PyDict α) :
    values ((k, v) :: d) = v :: values d := rfl

variable {d : PyDict α} {k k' : String} {v : α}

theorem mem_keys_of_mem (h : (k, v) ∈ d) : k ∈ d.keys := List.mem_map_of_mem (·.1) h

theorem get?_set : (d.set k v).get? k' = if k = k' then some v else d.get? k' := by
  induction d with
  | nil => rfl
  | cons e d ih =>
    obtain ⟨k₀, v₀⟩ := e
    by_cases h₀ : k₀ = k
    · subst h₀; by_cases h : k₀ = k' <;> simp [set, get?, h]
    · simp only [set, if_neg h₀, get?, ih]
      by_cases h : k₀ = k'
      · subst h; simp [Ne.symm h₀]
      · simp [h]

theorem get?_of_mem (h : d.keys.Nodup) (hm : (k, v) ∈ d) : d.get? k = some v := by
  induction d with
  | nil => cases hm
  | cons e d ih =>
    obtain ⟨k₀, v₀⟩ := e
    rw [keys_cons, List.nodup_cons] at h
    rcases List.mem_cons.mp hm with he | hm
    · obtain ⟨rfl, rfl⟩ := Prod.mk.inj he
      simp [get?]
    · have hk : k₀ ≠ k := fun e => h.1 (e ▸ mem_keys_of_mem hm)
      simp only [get?, if_neg hk]
      exact ih h.2 hm

theorem isSome_get?_iff : (d.get? k).isSome ↔ k ∈ d.keys := by
  induction d with
  | nil => simp [get?]
  | cons e d ih =>
    obtain ⟨k₀, v₀⟩ := e
    by_cases h₀ : k₀ = k
    · simp [get?, h₀]
    · simp [get?, h₀, ih, Ne.symm h₀]

theorem keys_set : (d.set k v).keys = if k ∈ d.keys then d.keys else d.keys ++ [k] := by
  induction d with
  | nil => simp [set]
  | cons e d ih =>
    obtain ⟨k₀, v₀⟩ := e
    by_cases h₀ : k₀ = k
    · subst h₀; simp [set]
    · by_cases hk : k ∈ keys d <;> simp [set, h₀, ih, hk, Ne.symm h₀]

theorem nodup_keys_set (h : d.keys.Nodup) : (d.set k v).keys.Nodup := by
  rw [keys_set]
  split
  · exact h
  · next hk => exact List.nodup_append.mpr ⟨h, List.nodup_singleton k, by simpa using hk⟩

theorem sum_keys_get? (f : α → ℚ) (h : d.keys.Nodup) :
    (d.keys.map fun k => ((d.get? k).map f).getD 0).sum = (d.values.map f).sum := by
  induction d with
  | nil => rfl
  | cons e d ih =>
    obtain ⟨k₀, v₀⟩ := e
    rw [keys_cons, List.nodup_cons] at h
    have hmap : ((keys d).map fun k => ((get? ((k₀, v₀) :: d) k).map f).getD 0) =
        (keys d).map fun k => ((get? d k).map f).getD 0 :=
      List.map_congr_left fun k hk => by
        have : k₀ ≠ k := fun e => h.1 (e ▸ hk)
        simp [get?, this]
    rw [keys_cons, values_cons, List.map_cons, List.map_cons, List.sum_cons, List.sum_cons, hmap,
      ih h.2]
    simp [get?]

theorem get?_ofList_aux (key : α → String) (xs : List α) (d : PyDict α) (k : String) :
    (xs.foldl (fun d x => d.set (key x) x) d).get? k =
      ((xs.filter (key · = k)).getLast?).or (d.get? k) := by
  induction xs generalizing d with
  | nil => simp
  | cons x xs ih =>
    rw [List.foldl_cons, ih, get?_set]
    by_cases hx : key x = k
    · cases hl : (xs.filter (key · = k)).getLast? <;>
        simp [List.filter_cons, hx, hl, List.getLast?_cons]
    · simp [List.filter_cons, hx]

/-- A comprehension holds, under each key, the last item with that key. -/
theorem get?_ofList (key : α → String) (xs : List α) (k : String) :
    (ofList key xs).get? k = (xs.filter (key · = k)).getLast? := by
  simpa [ofList, get?] using get?_ofList_aux key xs [] k

theorem nodup_keys_ofList (key : α → String) (xs : List α) : (ofList key xs).keys.Nodup := by
  suffices ∀ d : PyDict α, d.keys.Nodup →
      (xs.foldl (fun d x => d.set (key x) x) d).keys.Nodup from this [] List.nodup_nil
  induction xs with
  | nil => exact fun _ h => h
  | cons x xs ih => exact fun d h => ih _ (nodup_keys_set h)

end PyDict

end CiTimeline
