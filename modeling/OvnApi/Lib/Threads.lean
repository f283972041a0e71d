import Mathlib.Data.List.Perm.Basic

/-! A list of threads, each at its program counter, in which one thread moves.
What the threads hold is a list of tokens, up to order: the mover's own token
and the rest, which stays. -/

namespace OvnApi.Lib

variable {α β : Type} {f : α → Option β} {l : List α} {i : ℕ} {x : α}

/-- Moving thread `i` replaces its token and leaves the rest. -/
theorem filterMap_set_perm (h : l[i]? = some x) :
    ∃ rest, (l.filterMap f).Perm ((f x).toList ++ rest) ∧
      ∀ y, ((l.set i y).filterMap f).Perm ((f y).toList ++ rest) := by
  induction l generalizing i with
  | nil => simp at h
  | cons z l ih =>
    cases i with
    | zero =>
      obtain rfl : z = x := by simpa using h
      refine ⟨l.filterMap f, ?_, fun y => ?_⟩
      · rw [List.filterMap_cons]; cases f z <;> simp
      · rw [List.set_cons_zero, List.filterMap_cons]; cases f y <;> simp
    | succ i =>
      obtain ⟨rest, hl, hset⟩ := ih (i := i) (by simpa using h)
      have push : ∀ {xs ys : List β}, xs.Perm (ys ++ rest) →
          ((f z).toList ++ xs).Perm (ys ++ ((f z).toList ++ rest)) := by
        intro xs ys hp
        apply (hp.append_left (f z).toList).trans
        rw [← List.append_assoc, ← List.append_assoc]
        exact List.perm_append_comm.append_right rest
      have head : ∀ xs : List α, (z :: xs).filterMap f = (f z).toList ++ xs.filterMap f := by
        intro xs
        rw [List.filterMap_cons]
        cases f z <;> rfl
      refine ⟨(f z).toList ++ rest, ?_, fun y => ?_⟩
      · rw [head]; exact push hl
      · rw [List.set_cons_succ, head]; exact push (hset y)

/-- A thread that keeps its token changes nothing. -/
theorem filterMap_set_of_eq (h : l[i]? = some x) {y : α} (hy : f y = f x) :
    (l.set i y).filterMap f = l.filterMap f := by
  induction l generalizing i with
  | nil => simp at h
  | cons z l ih =>
    cases i with
    | zero =>
      obtain rfl : z = x := by simpa using h
      rw [List.set_cons_zero, List.filterMap_cons, List.filterMap_cons, hy]
    | succ i =>
      have hrest := ih (i := i) (by simpa using h)
      rw [List.set_cons_succ, List.filterMap_cons, List.filterMap_cons, hrest]

/-- The tokens before the mover, its own and those after it. -/
theorem filterMap_eq_take_drop (h : l[i]? = some x) :
    l.filterMap f =
      (l.take i).filterMap f ++ ((f x).toList ++ (l.drop (i + 1)).filterMap f) := by
  obtain ⟨hlt, rfl⟩ := List.getElem?_eq_some_iff.mp h
  have hsplit : l.take i ++ l[i] :: l.drop (i + 1) = l := by
    rw [← List.drop_eq_getElem_cons hlt, List.take_append_drop]
  conv_lhs => rw [← hsplit, List.filterMap_append, List.filterMap_cons]
  cases f l[i] <;> rfl

theorem filterMap_set_eq_take_drop (h : l[i]? = some x) (y : α) :
    (l.set i y).filterMap f =
      (l.take i).filterMap f ++ ((f y).toList ++ (l.drop (i + 1)).filterMap f) := by
  obtain ⟨hlt, rfl⟩ := List.getElem?_eq_some_iff.mp h
  have hself : (l.set i y)[i]? = some y := by simp [hlt]
  have hdrop : (l.set i y).drop (i + 1) = l.drop (i + 1) := List.drop_set_of_lt (Nat.lt_succ_self i)
  rw [filterMap_eq_take_drop hself, List.take_set_of_le (Nat.le_refl i), hdrop]

/-- The number of threads of a kind after thread `i` has moved from `x` to `y`. -/
theorem countP_set_add {p : α → Bool} (h : l[i]? = some x) (y : α) :
    (l.set i y).countP p + (if p x then 1 else 0) = l.countP p + if p y then 1 else 0 := by
  obtain ⟨hlt, rfl⟩ := List.getElem?_eq_some_iff.mp h
  have hle : (if p l[i] then 1 else 0) ≤ l.countP p := by
    split_ifs with hp
    · exact List.countP_pos_iff.mpr ⟨_, List.getElem_mem hlt, hp⟩
    · exact Nat.zero_le _
  rw [List.countP_set hlt]
  omega

/-- A thread of a list with one more is an old one or the new one. -/
theorem getElem?_snoc {y : α} (h : (l ++ [y])[i]? = some x) :
    l[i]? = some x ∨ i = l.length ∧ x = y := by
  rcases Nat.lt_trichotomy i l.length with hlt | rfl | hgt
  · rw [List.getElem?_append_left hlt] at h
    exact .inl h
  · rw [List.getElem?_concat_length] at h
    exact .inr ⟨rfl, (Option.some.inj h).symm⟩
  · rw [List.getElem?_eq_none (by simp; omega)] at h
    cases h

end OvnApi.Lib
