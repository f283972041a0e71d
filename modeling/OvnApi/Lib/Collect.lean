import Mathlib.Data.List.Nodup

/-! A loop over a list in which a turn keeps something, skips its element or raises,
and lists whose elements carry distinct tags. -/

namespace OvnApi.Lib

section Collect

variable {ε α β : Type} {turn : α → Except ε (Option β)} {x : α} {xs : List α} {y : β}
  {ys : List β}

/-- `for x in xs`: what the turns keep, in order; a turn that raises ends the loop. -/
def collect (turn : α → Except ε (Option β)) : List α → Except ε (List β)
  | [] => .ok []
  | x :: xs => do
    let kept ← turn x
    let rest ← collect turn xs
    pure (kept.toList ++ rest)

theorem collect_cons_ok : collect turn (x :: xs) = .ok ys ↔
    ∃ kept rest, turn x = .ok kept ∧ collect turn xs = .ok rest ∧ kept.toList ++ rest = ys := by
  simp only [collect]
  cases turn x with
  | error e => simp [bind, Except.bind]
  | ok kept =>
    cases collect turn xs with
    | error e => simp [bind, Except.bind]
    | ok rest => simp [bind, Except.bind, pure, Except.pure]

/-- What is kept is what the turns keep. -/
theorem mem_collect (h : collect turn xs = .ok ys) :
    y ∈ ys ↔ ∃ x ∈ xs, turn x = .ok (some y) := by
  induction xs generalizing ys with
  | nil =>
    cases h
    simp
  | cons x xs ih =>
    obtain ⟨kept, rest, hturn, hrest, rfl⟩ := collect_cons_ok.mp h
    rw [List.mem_append, ih hrest, List.exists_mem_cons_iff, hturn]
    simp

/-- A loop that comes to its end has had no turn that raises. -/
theorem turn_of_collect (h : collect turn xs = .ok ys) (hx : x ∈ xs) :
    ∃ kept, turn x = .ok kept := by
  induction xs generalizing ys with
  | nil => cases hx
  | cons x' xs ih =>
    obtain ⟨kept, rest, hturn, hrest, -⟩ := collect_cons_ok.mp h
    rcases List.mem_cons.mp hx with rfl | hx
    · exact ⟨kept, hturn⟩
    · exact ih hrest hx

theorem map_collect_sublist {κ : Type} {tag : β → κ} {source : α → κ}
    (htag : ∀ x ∈ xs, ∀ y, turn x = .ok (some y) → tag y = source x)
    (h : collect turn xs = .ok ys) :
    (ys.map tag).Sublist (xs.map source) := by
  induction xs generalizing ys with
  | nil =>
    cases h
    exact .slnil
  | cons x xs ih =>
    obtain ⟨kept, rest, hturn, hrest, rfl⟩ := collect_cons_ok.mp h
    have hsub := ih (fun x hx => htag x (List.mem_cons_of_mem _ hx)) hrest
    cases kept with
    | none => exact hsub.cons _
    | some y =>
      rw [List.map_cons, ← htag x List.mem_cons_self y hturn]
      exact hsub.cons_cons _

/-- Of distinct elements, what is kept with one as its tag is what its own turn keeps. -/
theorem filter_collect [DecidableEq α] {tag : β → α}
    (htag : ∀ x ∈ xs, ∀ y, turn x = .ok (some y) → tag y = x) (hnodup : xs.Nodup)
    (h : collect turn xs = .ok ys) (x : α) :
    (x ∉ xs → ys.filter (fun y => tag y = x) = []) ∧
      (x ∈ xs → ∀ kept, turn x = .ok kept → ys.filter (fun y => tag y = x) = kept.toList) := by
  induction xs generalizing ys with
  | nil =>
    cases h
    simp
  | cons x' xs ih =>
    obtain ⟨kept', rest, hturn, hrest, rfl⟩ := collect_cons_ok.mp h
    obtain ⟨hnotMem, hnodup⟩ := List.nodup_cons.mp hnodup
    obtain ⟨hout, hin⟩ := ih (fun x hx => htag x (List.mem_cons_of_mem _ hx)) hnodup hrest
    have hfirst : ∀ y ∈ kept'.toList, tag y = x' := fun y hy =>
      htag x' List.mem_cons_self y (Option.mem_toList.mp hy ▸ hturn)
    rw [List.filter_append]
    by_cases hx : x = x'
    · subst hx
      have hall : kept'.toList.filter (fun y => tag y = x) = kept'.toList :=
        List.filter_eq_self.mpr fun y hy => decide_eq_true (hfirst y hy)
      refine ⟨fun hne => absurd List.mem_cons_self hne, fun _ kept hkept => ?_⟩
      obtain rfl : kept' = kept := by simpa using hturn.symm.trans hkept
      rw [hall, hout hnotMem, List.append_nil]
    · have hnone : kept'.toList.filter (fun y => tag y = x) = [] := by
        apply List.filter_eq_nil_iff.mpr
        intro y hy
        simpa [hfirst y hy] using Ne.symm hx
      rw [hnone, List.nil_append]
      refine ⟨fun hne => hout fun hmem => hne (List.mem_cons_of_mem _ hmem), fun hmem => ?_⟩
      exact hin ((List.mem_cons.mp hmem).resolve_left hx)

end Collect

section Tagged

variable {α κ ν : Type} {tag : α → κ} {l : List α} {a : α}

/-- With distinct tags an element is the only one with its tag. -/
theorem filter_tag_eq [DecidableEq κ] (hnodup : (l.map tag).Nodup) (ha : a ∈ l) :
    l.filter (fun b => tag b = tag a) = [a] := by
  obtain ⟨before, after, rfl⟩ := List.append_of_mem ha
  rw [List.map_append, List.map_cons, List.nodup_append, List.nodup_cons] at hnodup
  have hbefore : before.filter (fun b => tag b = tag a) = [] := by
    apply List.filter_eq_nil_iff.mpr
    intro b hb
    simpa using hnodup.2.2 _ (List.mem_map_of_mem hb) _ List.mem_cons_self
  have hafter : after.filter (fun b => tag b = tag a) = [] := by
    apply List.filter_eq_nil_iff.mpr
    intro b hb heq
    exact hnodup.2.1.1 (of_decide_eq_true heq ▸ List.mem_map_of_mem hb)
  rw [List.filter_append, List.filter_cons, hbefore, hafter]
  simp

/-- A lookup in a dictionary whose entries for the key are known. -/
theorem lookup_eq_of_mem_iff [BEq κ] [LawfulBEq κ] {d : List (κ × ν)} {k : κ} {r : Option ν}
    (h : ∀ v, (k, v) ∈ d ↔ r = some v) : d.lookup k = r := by
  cases hfind : d.lookup k with
  | none =>
    cases r with
    | none => rfl
    | some v =>
      have hmem := (h v).mpr rfl
      simpa using List.lookup_eq_none_iff.mp hfind _ hmem
  | some v =>
    obtain ⟨before, after, rfl, -⟩ := List.lookup_eq_some_iff.mp hfind
    exact ((h v).mp (by simp)).symm

end Tagged

end OvnApi.Lib
