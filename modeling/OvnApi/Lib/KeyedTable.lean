import Mathlib.Algebra.BigOperators.Group.List.Basic
import Mathlib.Data.List.Nodup
import Mathlib.Tactic.Abel

/-! A table whose rows have a key, no two the same. The table carries the proof
of that, so a lookup is the row and every operation is described by what it does
to each lookup. -/

namespace OvnApi.Lib

structure KeyedTable {κ ρ : Type} (key : ρ → κ) where
  rows : List ρ
  nodup : (rows.map key).Nodup

namespace KeyedTable

variable {κ ρ : Type} {key : ρ → κ} {t t' : KeyedTable key} {k : κ} {r : ρ}

theorem ext_rows (h : t.rows = t'.rows) : t = t' := by
  cases t
  cases t'
  cases h
  rfl

theorem map_key_map {σ : Type} {key' : σ → κ} {f : ρ → σ} (hf : ∀ r, key' (f r) = key r)
    (rows : List ρ) : (rows.map f).map key' = rows.map key := by
  rw [List.map_map]
  exact List.map_congr_left fun r _ => hf r

/-- Translate every row, keeping the keys. -/
def mapRows {σ : Type} {key' : σ → κ} (t : KeyedTable key) (f : ρ → σ)
    (hf : ∀ r, key' (f r) = key r) : KeyedTable key' :=
  ⟨t.rows.map f, by rw [map_key_map hf]; exact t.nodup⟩

/-- Change rows without changing their keys. -/
def updateAll (t : KeyedTable key) (f : ρ → ρ) (hf : ∀ r, key (f r) = key r) : KeyedTable key :=
  t.mapRows f hf

def filter (t : KeyedTable key) (p : ρ → Bool) : KeyedTable key :=
  ⟨t.rows.filter p, t.nodup.sublist (t.rows.filter_sublist.map key)⟩

variable [DecidableEq κ]

def find (t : KeyedTable key) (k : κ) : Option ρ := t.rows.find? fun r => key r = k

/-- Add a row at the end, unless its key is taken. -/
def insert (t : KeyedTable key) (r : ρ) : Option (KeyedTable key) :=
  if h : key r ∈ t.rows.map key then none
  else some ⟨t.rows ++ [r], by simpa [List.nodup_append] using ⟨t.nodup, by simpa using h⟩⟩

/-- Put a row in the place of the one with its key, if there is one. -/
def replace (t : KeyedTable key) (r : ρ) : Option (KeyedTable key) :=
  if key r ∈ t.rows.map key then
    some (t.updateAll (fun x => if key x = key r then r else x) fun x => by
      by_cases h : key x = key r
      · rw [if_pos h, h]
      · rw [if_neg h])
  else none

/-! ### Lookups -/

theorem key_of_find (h : t.find k = some r) : key r = k := by
  simpa using List.find?_some h

theorem mem_of_find (h : t.find k = some r) : r ∈ t.rows := List.mem_of_find?_eq_some h

theorem find_of_mem (h : r ∈ t.rows) : t.find (key r) = some r := by
  obtain ⟨rows, hnodup⟩ := t
  induction rows with
  | nil => cases h
  | cons x rows ih =>
    rw [List.map_cons, List.nodup_cons] at hnodup
    rcases List.mem_cons.mp h with rfl | hr
    · simp [find]
    · have hne : key x ≠ key r := fun heq => hnodup.1 (heq ▸ List.mem_map_of_mem hr)
      simpa [find, List.find?_cons, hne] using ih hnodup.2 hr

theorem find_eq_some_iff : t.find k = some r ↔ r ∈ t.rows ∧ key r = k :=
  ⟨fun h => ⟨mem_of_find h, key_of_find h⟩, fun ⟨h, hk⟩ => hk ▸ find_of_mem h⟩

theorem find_eq_none_iff : t.find k = none ↔ k ∉ t.rows.map key := by
  simp only [find, List.find?_eq_none, List.mem_map, not_exists, not_and, decide_eq_true_eq]

theorem rows_insert (h : t.insert r = some t') :
    key r ∉ t.rows.map key ∧ t'.rows = t.rows ++ [r] := by
  unfold insert at h
  split_ifs at h with hin
  cases h
  exact ⟨hin, rfl⟩

theorem find_insert (h : t.insert r = some t') :
    t.find (key r) = none ∧ ∀ k, t'.find k = if k = key r then some r else t.find k := by
  obtain ⟨hin, hrows⟩ := rows_insert h
  have hnone := find_eq_none_iff.mpr hin
  refine ⟨hnone, fun k => ?_⟩
  simp only [find] at hnone ⊢
  rw [hrows, List.find?_append]
  by_cases hk : k = key r
  · subst hk
    simp [hnone]
  · simp [hk, Ne.symm hk]

theorem insert_eq_none_iff : t.insert r = none ↔ (t.find (key r)).isSome := by
  unfold insert
  rw [Option.isSome_iff_ne_none, Ne, find_eq_none_iff, not_not]
  split_ifs with h <;> simp [h]

theorem find_mapRows {σ : Type} {key' : σ → κ} (f : ρ → σ) (hf : ∀ r, key' (f r) = key r) (k : κ) :
    (t.mapRows f hf).find k = (t.find k).map f := by
  simp only [find, mapRows, List.find?_map]
  congr 2
  funext x
  simp [hf]

theorem find_updateAll (f : ρ → ρ) (hf : ∀ r, key (f r) = key r) (k : κ) :
    (t.updateAll f hf).find k = (t.find k).map f := find_mapRows f hf k

theorem rows_replace (h : t.replace r = some t') :
    t'.rows = t.rows.map fun x => if key x = key r then r else x := by
  unfold replace at h
  split_ifs at h
  cases h
  rfl

theorem find_replace (h : t.replace r = some t') :
    (t.find (key r)).isSome ∧ ∀ k, t'.find k = if k = key r then some r else t.find k := by
  unfold replace at h
  split_ifs at h with hin
  cases h
  have hsome : (t.find (key r)).isSome := by
    rw [Option.isSome_iff_ne_none, Ne, find_eq_none_iff, not_not]
    exact hin
  refine ⟨hsome, fun k => ?_⟩
  rw [find_updateAll]
  by_cases hk : k = key r
  · subst hk
    obtain ⟨x, hx⟩ := Option.isSome_iff_exists.mp hsome
    rw [hx, Option.map_some, if_pos (key_of_find hx), if_pos rfl]
  · rw [if_neg hk]
    cases hx : t.find k with
    | none => rfl
    | some x => rw [Option.map_some, if_neg]; rw [key_of_find hx]; exact hk

/-- The row with a key, and the others on both sides of it. -/
theorem split_of_find (h : t.find k = some r) : ∃ before after, t.rows = before ++ r :: after ∧
    ∀ x, x ∈ before ∨ x ∈ after → key x ≠ k := by
  obtain ⟨hmem, hkey⟩ := find_eq_some_iff.mp h
  obtain ⟨before, after, hsplit⟩ := List.append_of_mem hmem
  have hnodup := t.nodup
  rw [hsplit, List.map_append, List.map_cons, List.nodup_append, List.nodup_cons] at hnodup
  refine ⟨before, after, hsplit, fun x hx heq => ?_⟩
  have hsame : key x = key r := heq.trans hkey.symm
  rcases hx with hx | hx
  · exact hnodup.2.2 (key x) (List.mem_map_of_mem hx) (key r) List.mem_cons_self hsame
  · exact hnodup.2.1.1 (hsame ▸ List.mem_map_of_mem hx)

/-- Replacing a row changes a count by what the two rows contribute. -/
theorem countP_replace {x : ρ} (h : t.replace r = some t') (hx : t.find (key r) = some x)
    (p : ρ → Bool) :
    t'.rows.countP p + (if p x then 1 else 0) = t.rows.countP p + (if p r then 1 else 0) := by
  obtain ⟨before, after, hsplit, hne⟩ := split_of_find hx
  have hother : ∀ l : List ρ, (∀ y ∈ l, key y ≠ key r) →
      l.map (fun y => if key y = key r then r else y) = l := fun l hl =>
    (List.map_congr_left fun y hy => if_neg (hl y hy)).trans l.map_id
  rw [rows_replace h, hsplit, List.map_append, List.map_cons,
    hother before fun y hy => hne y (.inl hy), hother after fun y hy => hne y (.inr hy),
    if_pos (key_of_find hx)]
  simp only [List.countP_append, List.countP_cons]
  omega

theorem replace_eq_none_iff : t.replace r = none ↔ t.find (key r) = none := by
  unfold replace
  rw [find_eq_none_iff]
  split_ifs with h <;> simp [h]

theorem find_filter (p : ρ → Bool) (k : κ) :
    (t.filter p).find k = (t.find k).filter p := by
  apply Option.ext
  intro r
  rw [Option.filter_eq_some_iff, find_eq_some_iff, find_eq_some_iff]
  simp only [filter, List.mem_filter]
  tauto

/-- Tables with the same lookups have the same rows, up to order. -/
theorem perm_of_find_eq (h : ∀ k, t.find k = t'.find k) : t.rows.Perm t'.rows := by
  apply (List.perm_ext_iff_of_nodup t.nodup.of_map t'.nodup.of_map).mpr
  intro r
  have hsame : t.find (key r) = some r ↔ t'.find (key r) = some r := by rw [h]
  simpa [find_eq_some_iff] using hsame

/-! ### Insert or update -/

section Upsert

variable {M : Type} [AddCommMonoid M] {f : ρ → ρ} {hf : ∀ r, key (f r) = key r}

/-- Add a row, or change the one that has its key already. -/
def upsert (t : KeyedTable key) (r : ρ) (f : ρ → ρ) (hf : ∀ r, key (f r) = key r) :
    KeyedTable key :=
  match t.insert r with
  | some t' => t'
  | none => t.updateAll f hf

theorem find_upsert (hother : ∀ x, key x ≠ key r → f x = x) (k : κ) :
    (t.upsert r f hf).find k =
      if k = key r then some (((t.find k).map f).getD r) else t.find k := by
  unfold upsert
  cases hinsert : t.insert r with
  | some t' =>
    obtain ⟨hnone, hfind⟩ := find_insert hinsert
    rw [hfind]
    split_ifs with hk
    · rw [hk, hnone]
      rfl
    · rfl
  | none =>
    rw [find_updateAll]
    split_ifs with hk
    · subst hk
      obtain ⟨x, hx⟩ := Option.isSome_iff_exists.mp (insert_eq_none_iff.mp hinsert)
      rw [hx]
      rfl
    · cases hx : t.find k with
      | none => rfl
      | some x =>
        have hne : key x ≠ key r := fun heq => hk ((key_of_find hx).symm.trans heq)
        rw [Option.map_some, hother x hne]

/-- What the new row counts for, or the change of the old one, is added to a sum. -/
theorem sum_upsert {w : ρ → M} (hother : ∀ x, key x ≠ key r → f x = x)
    (hsame : ∀ x, key x = key r → w (f x) = w x + w r) :
    ((t.upsert r f hf).rows.map w).sum = (t.rows.map w).sum + w r := by
  unfold upsert
  cases hinsert : t.insert r with
  | some t' => simp [(rows_insert hinsert).2]
  | none =>
    obtain ⟨x, hx⟩ := Option.isSome_iff_exists.mp (insert_eq_none_iff.mp hinsert)
    obtain ⟨before, after, hsplit, hne⟩ := split_of_find hx
    have hkeep : ∀ l : List ρ, (∀ y ∈ l, key y ≠ key r) → l.map f = l := fun l hl =>
      (List.map_congr_left fun y hy => hother y (hl y hy)).trans l.map_id
    change ((t.rows.map f).map w).sum = _
    rw [hsplit, List.map_append, List.map_cons,
      hkeep before fun y hy => hne y (.inl hy), hkeep after fun y hy => hne y (.inr hy)]
    simp only [List.map_append, List.map_cons, List.sum_append, List.sum_cons,
      hsame x (key_of_find hx)]
    abel

end Upsert

/-! ### Tables of two kinds of rows -/

section MapRows

variable {σ : Type} {key' : σ → κ} {f : ρ → σ} {hf : ∀ r, key' (f r) = key r}

theorem insert_mapRows :
    (t.mapRows f hf).insert (f r) = (t.insert r).map fun t' => t'.mapRows f hf := by
  unfold insert
  by_cases h : key r ∈ t.rows.map key
  · rw [dif_pos h, dif_pos (by rw [mapRows, map_key_map hf, hf]; exact h)]
    rfl
  · rw [dif_neg h, dif_neg (by rw [mapRows, map_key_map hf, hf]; exact h)]
    exact congrArg some (ext_rows (by simp [mapRows]))

omit [DecidableEq κ] in
theorem updateAll_mapRows {g : ρ → ρ} {hg : ∀ r, key (g r) = key r} {g' : σ → σ}
    {hg' : ∀ r, key' (g' r) = key' r} (hcomm : ∀ r, g' (f r) = f (g r)) :
    (t.mapRows f hf).updateAll g' hg' = (t.updateAll g hg).mapRows f hf := by
  apply ext_rows
  simp [mapRows, updateAll, hcomm]

theorem replace_mapRows :
    (t.mapRows f hf).replace (f r) = (t.replace r).map fun t' => t'.mapRows f hf := by
  unfold replace
  by_cases h : key r ∈ t.rows.map key
  · rw [if_pos h, if_pos (by rw [mapRows, map_key_map hf, hf]; exact h)]
    apply congrArg some
    apply updateAll_mapRows
    intro x
    rw [hf, hf, apply_ite f]
  · rw [if_neg h, if_neg (by rw [mapRows, map_key_map hf, hf]; exact h)]
    rfl

omit [DecidableEq κ] in
theorem filter_mapRows {p : ρ → Bool} {p' : σ → Bool} (hp : ∀ r, p' (f r) = p r) :
    (t.mapRows f hf).filter p' = (t.filter p).mapRows f hf := by
  apply ext_rows
  simp only [mapRows, filter, List.filter_map]
  congr 2
  funext x
  exact hp x

end MapRows

end KeyedTable

end OvnApi.Lib
