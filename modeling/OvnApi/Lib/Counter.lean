import Mathlib.Data.List.Count
import OvnApi.Lib.KeyedTable

/-! A dictionary of counts, in which a key that is missing counts zero. After a run of
increments the dictionary holds how often each key was counted, and its keys are the keys
that were. -/

namespace OvnApi.Lib

abbrev Counter (κ : Type) := KeyedTable (Prod.fst : κ × ℕ → κ)

namespace Counter

variable {κ : Type}

def empty : Counter κ := ⟨[], List.nodup_nil⟩

def keys (c : Counter κ) : List κ := c.rows.map Prod.fst

@[simp] theorem keys_empty : (empty : Counter κ).keys = [] := rfl

variable [DecidableEq κ] {c : Counter κ} {k k' : κ}

def get (c : Counter κ) (k : κ) : ℕ := ((c.find k).map Prod.snd).getD 0

def increment (k : κ) (row : κ × ℕ) : κ × ℕ := if row.1 = k then (row.1, row.2 + 1) else row

theorem fst_increment (k : κ) (row : κ × ℕ) : (increment k row).1 = row.1 := by
  unfold increment
  split_ifs <;> rfl

theorem increment_of_ne {row : κ × ℕ} (h : row.1 ≠ k) : increment k row = row := if_neg h

def bump (c : Counter κ) (k : κ) : Counter κ := c.upsert (k, 1) (increment k) (fst_increment k)

theorem find_bump (c : Counter κ) (k k' : κ) :
    (c.bump k).find k' = if k' = k then some (k, c.get k + 1) else c.find k' := by
  rw [bump, KeyedTable.find_upsert fun _ => increment_of_ne]
  split_ifs with hk
  · subst hk
    cases hrow : c.find k' with
    | none => simp [get, hrow]
    | some row =>
      have hkey : row.1 = k' := KeyedTable.key_of_find hrow
      simp [get, hrow, increment, hkey]
  · rfl

/-- Every increment is in the sum of the counts. -/
theorem sum_bump (c : Counter κ) (k : κ) :
    ((c.bump k).rows.map Prod.snd).sum = (c.rows.map Prod.snd).sum + 1 :=
  KeyedTable.sum_upsert (fun _ => increment_of_ne) fun _ hrow => by rw [increment, if_pos hrow]

theorem get_bump (c : Counter κ) (k k' : κ) :
    (c.bump k).get k' = c.get k' + if k = k' then 1 else 0 := by
  unfold get
  rw [find_bump]
  by_cases hk : k' = k
  · subst hk
    simp [get]
  · simp [hk, Ne.symm hk]

theorem mem_keys_iff : k ∈ c.keys ↔ (c.find k).isSome := by
  rw [Option.isSome_iff_ne_none, Ne, KeyedTable.find_eq_none_iff, not_not]
  rfl

theorem mem_keys_bump : k' ∈ (c.bump k).keys ↔ k' = k ∨ k' ∈ c.keys := by
  rw [mem_keys_iff, mem_keys_iff, find_bump]
  by_cases hk : k' = k <;> simp [hk]

/-- Counting the elements of a list one by one. -/
theorem get_foldl_bump (xs : List κ) (c : Counter κ) (k : κ) :
    (xs.foldl bump c).get k = c.get k + xs.count k := by
  induction xs generalizing c with
  | nil => rfl
  | cons x xs ih =>
    rw [List.foldl_cons, ih, get_bump, List.count_cons]
    by_cases hx : x = k
    · subst hx
      simp
      omega
    · simp [hx]

theorem mem_keys_foldl_bump (xs : List κ) (c : Counter κ) (k : κ) :
    k ∈ (xs.foldl bump c).keys ↔ k ∈ c.keys ∨ k ∈ xs := by
  induction xs generalizing c with
  | nil => simp
  | cons x xs ih =>
    rw [List.foldl_cons, ih, mem_keys_bump, List.mem_cons]
    tauto

@[simp] theorem get_empty (k : κ) : (empty : Counter κ).get k = 0 := rfl

end Counter

end OvnApi.Lib
