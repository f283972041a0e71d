import Mathlib.Data.List.Sort

/-! Facts about lists: sorting by a key, lists with at most one entry, and the place of an
entry that is found by counting. -/

namespace OvnApi.Lib

variable {α κ : Type}

/-! ### Sorting by a key -/

section Sorting

variable [LinearOrder κ]

/-- `list.sort(key=...)`, which is stable. -/
def sortOn (key : α → κ) (l : List α) : List α := l.insertionSort fun a b => key a ≤ key b

theorem perm_sortOn (key : α → κ) (l : List α) : (sortOn key l).Perm l :=
  List.perm_insertionSort _ l

theorem pairwise_sortOn (key : α → κ) (l : List α) :
    (sortOn key l).Pairwise fun a b => key a ≤ key b := by
  have htotal : Std.Total fun a b : α => key a ≤ key b := ⟨fun a b => le_total (key a) (key b)⟩
  have htrans : IsTrans α fun a b => key a ≤ key b := ⟨fun _ _ _ => le_trans⟩
  exact List.pairwise_insertionSort _ l

end Sorting

/-! ### At most one entry -/

variable {l l' m m' : List α} {x y : α}

/-- Two lists of at most one entry that are equal up to order are equal. -/
theorem eq_of_perm_of_length_le_one (h : l.Perm l') (hlength : l.length ≤ 1) : l = l' := by
  cases l with
  | nil => exact (List.nil_perm.mp h).symm
  | cons x l =>
    obtain rfl : l = [] := by simpa using hlength
    exact List.singleton_perm.mp h

theorem eq_nil_of_length_cons_le_one (h : (x :: l).length ≤ 1) : l = [] := by simpa using h

/-! ### The place of an entry -/

/-- Two entries behind equally many that `p` holds of, and which `p` holds of too, are the
same one. -/
theorem append_cons_inj_of_countP {p : α → Bool} (h : l ++ x :: m = l' ++ y :: m')
    (hcount : l.countP p = l'.countP p) (hx : p x) (hy : p y) : l = l' ∧ x = y ∧ m = m' := by
  induction l generalizing l' with
  | nil =>
    cases l' with
    | nil => exact ⟨rfl, List.cons.inj h⟩
    | cons a l' =>
      obtain rfl : x = a := (List.cons.inj h).1
      simp [hx] at hcount
  | cons a l ih =>
    cases l' with
    | nil =>
      obtain rfl : a = y := (List.cons.inj h).1
      simp [hy] at hcount
    | cons b l' =>
      obtain ⟨rfl, hrest⟩ := List.cons.inj h
      rw [List.countP_cons, List.countP_cons] at hcount
      obtain ⟨rfl, hxy, hm⟩ := ih hrest (Nat.add_right_cancel hcount)
      exact ⟨rfl, hxy, hm⟩

end OvnApi.Lib
