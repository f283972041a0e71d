import Mathlib.Data.List.Nodup
import Mathlib.Data.List.Perm.Basic

/-! Dictionaries that keep their keys in the order in which they were first set. Two
dictionaries are the same when they have the same lookups, in whatever order. -/

namespace OvnApi.Lib

variable {κ ν : Type} [DecidableEq κ]

section Lookup

variable {l l' : List (κ × ν)} {k : κ} {v : ν}

theorem lookup_eq_none_iff_notMem : l.lookup k = none ↔ k ∉ l.map Prod.fst := by
  rw [List.lookup_eq_none_iff, List.mem_map]
  constructor
  · rintro h ⟨p, hp, rfl⟩
    simpa using h p hp
  · intro h p hp
    simpa using fun heq => h ⟨p, hp, heq.symm⟩

theorem lookup_eq_some_iff_mem (hnodup : (l.map Prod.fst).Nodup) :
    l.lookup k = some v ↔ (k, v) ∈ l := by
  induction l with
  | nil => simp
  | cons p l ih =>
    obtain ⟨k', v'⟩ := p
    rw [List.map_cons, List.nodup_cons] at hnodup
    by_cases hk : k = k'
    · subst hk
      have hout : (k, v) ∉ l := fun hmem => hnodup.1 (List.mem_map.mpr ⟨_, hmem, rfl⟩)
      simp [hout, eq_comm]
    · simp [List.lookup_cons, beq_eq_false_iff_ne.mpr hk, hk, ih hnodup.2]

theorem lookup_perm (hnodup : (l.map Prod.fst).Nodup) (h : l.Perm l') (k : κ) :
    l.lookup k = l'.lookup k := by
  have hnodup' : (l'.map Prod.fst).Nodup := (h.map Prod.fst).nodup_iff.mp hnodup
  refine Option.ext fun v => ?_
  rw [lookup_eq_some_iff_mem hnodup, lookup_eq_some_iff_mem hnodup', h.mem_iff]

theorem perm_of_lookup_eq (hnodup : (l.map Prod.fst).Nodup) (hnodup' : (l'.map Prod.fst).Nodup)
    (h : ∀ k, l.lookup k = l'.lookup k) : l.Perm l' := by
  refine (List.perm_ext_iff_of_nodup hnodup.of_map hnodup'.of_map).mpr fun p => ?_
  rw [← lookup_eq_some_iff_mem hnodup, ← lookup_eq_some_iff_mem hnodup', h]

/-- Keys that are renamed without a clash. -/
theorem lookup_map {κ' ν' : Type} [DecidableEq κ'] {f : κ → κ'} (hf : Function.Injective f)
    (g : ν → ν') (l : List (κ × ν)) (k : κ) :
    (l.map fun p => (f p.1, g p.2)).lookup (f k) = (l.lookup k).map g := by
  induction l with
  | nil => rfl
  | cons p l ih =>
    rw [List.map_cons, List.lookup_cons, List.lookup_cons, ih]
    by_cases hk : k = p.1
    · simp [hk]
    · simp [beq_eq_false_iff_ne.mpr hk, beq_eq_false_iff_ne.mpr (hf.ne hk)]

/-- The only element that has its key is found by it. -/
theorem find?_eq_some_of_mem {α : Type} {f : α → κ} {l : List α} {a : α} (hnodup : (l.map f).Nodup)
    (ha : a ∈ l) : (l.find? fun x => f x = f a) = some a := by
  induction l with
  | nil => cases ha
  | cons b l ih =>
    rw [List.map_cons, List.nodup_cons] at hnodup
    rcases List.mem_cons.mp ha with rfl | ha
    · simp
    · have hne : f b ≠ f a := fun h => hnodup.1 (h ▸ List.mem_map_of_mem ha)
      rw [List.find?_cons_of_neg (by simpa using hne)]
      exact ih hnodup.2 ha

end Lookup

structure Dict (κ ν : Type) where
  entries : List (κ × ν)
  nodup : (entries.map Prod.fst).Nodup

namespace Dict

variable {d e : Dict κ ν} {k k' : κ} {v : ν}

def empty : Dict κ ν := ⟨[], List.nodup_nil⟩

def get (d : Dict κ ν) (k : κ) : Option ν := d.entries.lookup k

theorem nodup_set (d : Dict κ ν) (k : κ) (v : ν) :
    ((if k ∈ d.entries.map Prod.fst then d.entries.map fun p => if p.1 = k then (p.1, v) else p
      else d.entries ++ [(k, v)]).map Prod.fst).Nodup := by
  split
  case isTrue =>
    have hkeys : (fun p : κ × ν => (if p.1 = k then (p.1, v) else p).1) = Prod.fst := by
      funext p
      split <;> rfl
    rw [List.map_map, Function.comp_def, hkeys]
    exact d.nodup
  case isFalse h =>
    rw [List.map_append, List.nodup_append]
    refine ⟨d.nodup, List.nodup_singleton k, ?_⟩
    intro a ha b hb hab
    rw [List.map_singleton, List.mem_singleton] at hb
    rw [hab, hb] at ha
    exact h ha

/-- `d[k] = v`: a key that is there keeps its place. -/
def set (d : Dict κ ν) (k : κ) (v : ν) : Dict κ ν :=
  ⟨if k ∈ d.entries.map Prod.fst then d.entries.map fun p => if p.1 = k then (p.1, v) else p
    else d.entries ++ [(k, v)], d.nodup_set k v⟩

theorem nodup_del (d : Dict κ ν) (k : κ) :
    ((d.entries.filter fun p => p.1 ≠ k).map Prod.fst).Nodup :=
  d.nodup.sublist (List.filter_sublist.map Prod.fst)

/-- `del d[k]`, or nothing if there is no such key. -/
def del (d : Dict κ ν) (k : κ) : Dict κ ν := ⟨d.entries.filter fun p => p.1 ≠ k, d.nodup_del k⟩

def same [DecidableEq ν] (d e : Dict κ ν) : Bool := decide (d.entries.Perm e.entries)

theorem get_eq_some_iff : d.get k = some v ↔ (k, v) ∈ d.entries := lookup_eq_some_iff_mem d.nodup

theorem get_eq_none_iff : d.get k = none ↔ k ∉ d.entries.map Prod.fst := lookup_eq_none_iff_notMem

@[simp] theorem get_empty (k : κ) : (empty : Dict κ ν).get k = none := rfl

theorem get_set (d : Dict κ ν) (k : κ) (v : ν) (k' : κ) :
    (d.set k v).get k' = if k' = k then some v else d.get k' := by
  refine Option.ext fun w => ?_
  rw [get_eq_some_iff, set]
  split
  case isTrue hmem =>
    rw [List.mem_map]
    by_cases hk : k' = k
    · rw [if_pos hk, Option.some.injEq]
      constructor
      · rintro ⟨q, hq, heq⟩
        by_cases hqk : q.1 = k
        · rw [if_pos hqk] at heq
          exact congrArg Prod.snd heq
        · rw [if_neg hqk] at heq
          exact absurd ((congrArg Prod.fst heq).trans hk) hqk
      · rintro rfl
        obtain ⟨p, hp, hpk⟩ := List.mem_map.mp hmem
        exact ⟨p, hp, by rw [if_pos hpk, hpk, hk]⟩
    · rw [if_neg hk, get_eq_some_iff]
      constructor
      · rintro ⟨q, hq, heq⟩
        by_cases hqk : q.1 = k
        · rw [if_pos hqk] at heq
          exact absurd ((congrArg Prod.fst heq).symm.trans hqk) hk
        · rw [if_neg hqk] at heq
          exact heq ▸ hq
      · intro hq
        exact ⟨(k', w), hq, if_neg hk⟩
  case isFalse hmem =>
    rw [List.mem_append, List.mem_singleton, Prod.mk.injEq]
    by_cases hk : k' = k
    · have hout : (k', w) ∉ d.entries := fun h => hmem (hk ▸ List.mem_map.mpr ⟨_, h, rfl⟩)
      simp [hk, hk ▸ hout, eq_comm]
    · simp [hk, get_eq_some_iff]

theorem get_del (d : Dict κ ν) (k k' : κ) :
    (d.del k).get k' = if k' = k then none else d.get k' := by
  refine Option.ext fun w => ?_
  rw [get_eq_some_iff, del, List.mem_filter]
  split
  case isTrue hk => simp [hk]
  case isFalse hk => simp [hk, get_eq_some_iff]

theorem same_iff [DecidableEq ν] : d.same e = true ↔ ∀ k, d.get k = e.get k := by
  rw [same, decide_eq_true_iff]
  exact ⟨fun h => lookup_perm d.nodup h, perm_of_lookup_eq d.nodup e.nodup⟩

/-- Nothing is left to look up in a dictionary without entries. -/
theorem entries_eq_nil_iff : d.entries = [] ↔ ∀ k, d.get k = none := by
  constructor
  · intro h k
    rw [get, h]
    rfl
  · intro h
    refine List.eq_nil_iff_forall_not_mem.mpr fun p hp => ?_
    exact Option.some_ne_none p.2 ((get_eq_some_iff.mpr hp).symm.trans (h p.1))

end Dict

end OvnApi.Lib
