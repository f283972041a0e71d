import Mathlib.Data.List.Basic
import Mathlib.Data.List.Count

/-! An index that finds a value by its key, where no other value has that key. Keys that
several values share are left out, so a lookup gives the sole value with the key or
nothing. -/

namespace OvnApi.Lib

variable {α β κ : Type}

def sole : List α → Option α
  | [x] => some x
  | _ => none

@[simp] theorem sole_nil : sole ([] : List α) = none := rfl

@[simp] theorem sole_singleton (x : α) : sole [x] = some x := rfl

theorem sole_eq_some_iff {xs : List α} {x : α} : sole xs = some x ↔ xs = [x] := by
  rcases xs with _ | ⟨y, _ | ⟨z, xs⟩⟩
  · simp
  · simp
  · simp [sole]

theorem sole_of_length_ne_one {xs : List α} (h : xs.length ≠ 1) : sole xs = none := by
  rcases xs with _ | ⟨y, _ | ⟨z, xs⟩⟩
  · rfl
  · simp at h
  · rfl

theorem sole_perm {xs ys : List α} (h : xs.Perm ys) : sole xs = sole ys := by
  by_cases hlen : xs.length = 1
  · have hx : ∃ x, xs = [x] := List.length_eq_one_iff.mp hlen
    obtain ⟨x, rfl⟩ := hx
    rw [List.singleton_perm.mp h]
  · rw [sole_of_length_ne_one hlen, sole_of_length_ne_one (h.length_eq ▸ hlen)]

theorem sole_map (f : α → β) (xs : List α) : sole (xs.map f) = (sole xs).map f := by
  rcases xs with _ | ⟨y, _ | ⟨z, xs⟩⟩ <;> rfl

variable [DecidableEq κ]

/-- Every value whose key no other value of the list has, under that key. -/
def uniqueIndex (key : α → κ) (xs : List α) : List (κ × α) :=
  (xs.filter fun x => (xs.map key).count (key x) == 1).map fun x => (key x, x)

theorem lookup_map_key (key : α → κ) (xs : List α) (k : κ) :
    (xs.map fun x => (key x, x)).lookup k = xs.find? fun x => key x = k := by
  induction xs with
  | nil => rfl
  | cons x xs ih =>
    rw [List.map_cons, List.lookup_cons, List.find?_cons]
    by_cases h : key x = k
    · subst h
      simp
    · have hk : (k == key x) = false := by simpa using Ne.symm h
      simp only [hk, h, decide_false]
      exact ih

theorem count_map_key (key : α → κ) (xs : List α) (k : κ) :
    (xs.map key).count k = (xs.filter fun x => key x = k).length := by
  rw [List.count, List.countP_map, List.countP_eq_length_filter]
  congr 1

theorem lookup_uniqueIndex (key : α → κ) (xs : List α) (k : κ) :
    (uniqueIndex key xs).lookup k = sole (xs.filter fun x => key x = k) := by
  -- among the values with this key, the index keeps all or none
  have hkeep : (xs.filter fun x => (xs.map key).count (key x) == 1).filter (fun x => key x = k) =
      (xs.filter fun x => key x = k).filter
        fun _ => (xs.filter fun x => key x = k).length == 1 := by
    rw [List.filter_filter, List.filter_filter]
    apply List.filter_congr
    intro x _
    by_cases h : key x = k
    · simp [h, count_map_key]
    · simp [h]
  rw [uniqueIndex, lookup_map_key, ← List.head?_filter, hkeep]
  generalize (xs.filter fun x => key x = k) = ys
  rcases ys with _ | ⟨y, _ | ⟨z, ys⟩⟩
  · rfl
  · rfl
  · simp [sole]

end OvnApi.Lib
