import Mathlib.Order.Compare
import OvnApi.Lib.Dict

/-! Differences of dictionaries. A difference holds the entries that one of two dictionaries
has and the other has not, and the new ones of those that changed. Between two sorted lists
it is computed by one walk along both. Applied to the first dictionary it gives the second,
and what it does at one key is the same function both times. -/

namespace OvnApi.Lib

variable {κ ν : Type} [DecidableEq ν]

/-- The difference of what two dictionaries hold at a key, and also what is left there when the
second is a difference that is applied to the first. -/
def diffAt : Option ν → Option ν → Option ν
  | some v, some w => if v = w then none else some w
  | some v, none => some v
  | none, w => w

theorem diffAt_none_right (v : Option ν) : diffAt v none = v := by cases v <;> rfl

theorem diffAt_diffAt (v w : Option ν) : diffAt v (diffAt v w) = w := by
  cases v with
  | none => rfl
  | some v =>
    cases w with
    | none => simp [diffAt]
    | some w => by_cases h : v = w <;> simp [diffAt, h]

theorem diffAt_map {μ : Type} [DecidableEq μ] {g : ν → μ} (hg : Function.Injective g)
    (v w : Option ν) : diffAt (v.map g) (w.map g) = (diffAt v w).map g := by
  cases v with
  | none => rfl
  | some v =>
    cases w with
    | none => rfl
    | some w => by_cases h : v = w <;> simp [diffAt, h, hg.eq_iff]

section Walk

variable (cmp : κ → κ → Ordering)

/-- Along the new list with the old entry at hand; `rest` goes on with the next old one. -/
def walkNew (o : κ × ν) (old : List (κ × ν)) (rest : List (κ × ν) → List (κ × ν)) :
    List (κ × ν) → List (κ × ν)
  | [] => o :: old
  | n :: new =>
    match cmp o.1 n.1 with
    | .lt => o :: rest (n :: new)
    | .gt => n :: walkNew o old rest new
    | .eq => if o.2 = n.2 then rest new else n :: rest new

/-- The difference of two sorted lists. -/
def walk : List (κ × ν) → List (κ × ν) → List (κ × ν)
  | [] => id
  | o :: old => walkNew cmp o old (walk old)

def Sorted (l : List (κ × ν)) : Prop := l.Pairwise fun p q => cmp p.1 q.1 = .lt

variable {cmp} {l old new : List (κ × ν)} {o n p : κ × ν} {k : κ}

/-- Every entry of a difference is one of the old list or one of the new. -/
theorem mem_of_mem_walk (h : p ∈ walk cmp old new) : p ∈ old ∨ p ∈ new := by
  induction old generalizing new with
  | nil => exact .inr h
  | cons o old ihold =>
    rw [walk] at h
    induction new with
    | nil => exact .inl h
    | cons n new ih =>
      rw [walkNew] at h
      cases hcmp : cmp o.1 n.1 with
      | lt =>
        rw [hcmp] at h
        rcases List.mem_cons.mp h with rfl | h
        · exact .inl List.mem_cons_self
        · exact (ihold h).imp_left (List.mem_cons_of_mem o)
      | gt =>
        rw [hcmp] at h
        rcases List.mem_cons.mp h with rfl | h
        · exact .inr List.mem_cons_self
        · exact (ih h).imp_right (List.mem_cons_of_mem n)
      | eq =>
        simp only [hcmp] at h
        have hrest : p ∈ walk cmp old new → p ∈ o :: old ∨ p ∈ n :: new := fun h =>
          (ihold h).imp (List.mem_cons_of_mem o) (List.mem_cons_of_mem n)
        split at h
        · exact hrest h
        · rcases List.mem_cons.mp h with rfl | h
          · exact .inr List.mem_cons_self
          · exact hrest h

theorem length_walk (old new : List (κ × ν)) :
    (walk cmp old new).length ≤ old.length + new.length := by
  induction old generalizing new with
  | nil => simp [walk]
  | cons o old ihold =>
    rw [walk]
    induction new with
    | nil => simp [walkNew]
    | cons n new ih =>
      rw [walkNew]
      split
      · have hrest := ihold (n :: new)
        simp only [List.length_cons] at hrest ⊢
        omega
      · simp only [List.length_cons] at ih ⊢
        omega
      · have hrest := ihold new
        split <;> simp only [List.length_cons] <;> omega

/-- Only between equal lists there is no difference. -/
theorem eq_of_walk_eq_nil [Std.LawfulEqCmp cmp] (h : walk cmp old new = []) : old = new := by
  induction old generalizing new with
  | nil => exact h.symm
  | cons o old ih =>
    rw [walk] at h
    cases new with
    | nil => cases h
    | cons n new =>
      rw [walkNew] at h
      cases hcmp : cmp o.1 n.1 with
      | lt =>
        rw [hcmp] at h
        cases h
      | gt =>
        rw [hcmp] at h
        cases h
      | eq =>
        simp only [hcmp] at h
        split at h
        case isTrue heq => rw [Prod.ext (Std.LawfulEqCmp.eq_of_compare hcmp) heq, ih h]
        case isFalse => cases h

variable [Std.TransCmp cmp] [Std.LawfulEqCmp cmp]

omit [DecidableEq ν] [Std.TransCmp cmp] in
theorem Sorted.nodup (h : Sorted cmp l) : (l.map Prod.fst).Nodup := by
  refine List.pairwise_map.mpr (h.imp fun {p q} hlt heq => ?_)
  have hrefl : cmp q.1 q.1 = .eq := Std.ReflCmp.compare_self
  rw [heq, hrefl] at hlt
  cases hlt

/-- A difference is sorted itself. -/
theorem sorted_walk (hold : Sorted cmp old) (hnew : Sorted cmp new) :
    Sorted cmp (walk cmp old new) := by
  induction old generalizing new with
  | nil => exact hnew
  | cons o old ihold =>
    obtain ⟨ho, hold'⟩ := List.pairwise_cons.mp hold
    rw [walk]
    induction new with
    | nil => exact hold
    | cons n new ih =>
      obtain ⟨hn, hnew'⟩ := List.pairwise_cons.mp hnew
      rw [walkNew]
      cases hcmp : cmp o.1 n.1 with
      | lt =>
        refine List.pairwise_cons.mpr ⟨fun p hp => ?_, ihold hold' hnew⟩
        rcases mem_of_mem_walk hp with hp | hp
        · exact ho p hp
        · rcases List.mem_cons.mp hp with rfl | hp
          · exact hcmp
          · exact Std.TransCmp.lt_trans hcmp (hn p hp)
      | gt =>
        have hno : cmp n.1 o.1 = .lt := Std.OrientedCmp.gt_iff_lt.mp hcmp
        refine List.pairwise_cons.mpr ⟨fun p hp => ?_, ih hnew'⟩
        rcases (mem_of_mem_walk hp : p ∈ o :: old ∨ p ∈ new) with hp | hp
        · rcases List.mem_cons.mp hp with rfl | hp
          · exact hno
          · exact Std.TransCmp.lt_trans hno (ho p hp)
        · exact hn p hp
      | eq =>
        have hrest := ihold hold' hnew'
        dsimp only
        split
        · exact hrest
        · refine List.pairwise_cons.mpr ⟨fun p hp => ?_, hrest⟩
          rcases mem_of_mem_walk hp with hp | hp
          · rw [← Std.LawfulEqCmp.eq_of_compare hcmp]
            exact ho p hp
          · exact hn p hp

variable [DecidableEq κ]

omit [DecidableEq ν] [Std.LawfulEqCmp cmp] in
/-- A key below every key of a list is not in it. -/
theorem lookup_of_lt (h : ∀ p ∈ l, cmp k p.1 = .lt) : l.lookup k = none := by
  rw [lookup_eq_none_iff_notMem]
  intro hmem
  obtain ⟨p, hp, rfl⟩ := List.mem_map.mp hmem
  have hlt := h p hp
  have hrefl : cmp p.1 p.1 = .eq := Std.ReflCmp.compare_self
  rw [hrefl] at hlt
  cases hlt

omit [DecidableEq ν] [DecidableEq κ] [Std.LawfulEqCmp cmp] in
theorem lt_of_sorted_cons (h : Sorted cmp (p :: l)) (hk : cmp k p.1 = .lt) :
    ∀ q ∈ p :: l, cmp k q.1 = .lt := by
  intro q hq
  rcases List.mem_cons.mp hq with rfl | hq
  · exact hk
  · exact Std.TransCmp.lt_trans hk ((List.pairwise_cons.mp h).1 q hq)

omit [DecidableEq ν] [Std.TransCmp cmp] [Std.LawfulEqCmp cmp] in
theorem lookup_cons_ite (p : κ × ν) (l : List (κ × ν)) (k : κ) :
    (p :: l).lookup k = if k = p.1 then some p.2 else l.lookup k := by
  rw [List.lookup_cons]
  by_cases h : k = p.1
  · simp [h]
  · simp [beq_eq_false_iff_ne.mpr h, h]

/-- What a difference holds at a key is decided by what the two lists hold there. -/
theorem lookup_walk (hold : Sorted cmp old) (hnew : Sorted cmp new) :
    (walk cmp old new).lookup k = diffAt (old.lookup k) (new.lookup k) := by
  induction old generalizing new with
  | nil => rfl
  | cons o old ihold =>
    obtain ⟨ho, hold'⟩ := List.pairwise_cons.mp hold
    rw [walk]
    induction new with
    | nil =>
      rw [walkNew]
      exact (diffAt_none_right _).symm
    | cons n new ih =>
      obtain ⟨hn, hnew'⟩ := List.pairwise_cons.mp hnew
      rw [walkNew]
      cases hcmp : cmp o.1 n.1 with
      | lt =>
        -- the old key is not in the new list
        dsimp only
        rw [lookup_cons_ite, lookup_cons_ite o, ihold hold' hnew]
        split
        case isTrue hk =>
          rw [hk, lookup_of_lt (lt_of_sorted_cons hnew hcmp)]
          rfl
        case isFalse => rfl
      | gt =>
        -- the new key is not in the old list
        have hno : cmp n.1 o.1 = .lt := Std.OrientedCmp.gt_iff_lt.mp hcmp
        dsimp only
        rw [lookup_cons_ite, lookup_cons_ite n, ih hnew']
        split
        case isTrue hk =>
          rw [hk, lookup_of_lt (lt_of_sorted_cons hold hno)]
          rfl
        case isFalse => rfl
      | eq =>
        have hkey : o.1 = n.1 := Std.LawfulEqCmp.eq_of_compare hcmp
        have hrest := ihold hold' hnew'
        rw [lookup_cons_ite o, lookup_cons_ite n, hkey]
        dsimp only
        split
        case isTrue heq =>
          rw [hrest]
          split
          case isTrue hk =>
            rw [hk, ← hkey, lookup_of_lt ho, hkey, lookup_of_lt hn, diffAt, if_pos heq]
            rfl
          case isFalse => rfl
        case isFalse hne =>
          rw [lookup_cons_ite, hrest]
          split
          case isTrue => rw [diffAt, if_neg hne]
          case isFalse => rfl

end Walk

/-! ### Applying a difference -/

namespace Dict

variable [DecidableEq κ] {d : Dict κ ν}

/-- An entry of a difference that is there already goes, any other one is set. -/
def toggle (d : Dict κ ν) (p : κ × ν) : Dict κ ν :=
  if d.get p.1 = some p.2 then d.del p.1 else d.set p.1 p.2

def toggleAll (d : Dict κ ν) (l : List (κ × ν)) : Dict κ ν := l.foldl toggle d

theorem get_toggle (d : Dict κ ν) (p : κ × ν) (k : κ) :
    (d.toggle p).get k = if k = p.1 then diffAt (d.get k) (some p.2) else d.get k := by
  unfold toggle
  split
  case isTrue h =>
    rw [get_del]
    split
    case isTrue hk => rw [hk, h, diffAt, if_pos rfl]
    case isFalse => rfl
  case isFalse h =>
    rw [get_set]
    split
    case isTrue hk =>
      rw [hk]
      cases hget : d.get p.1 with
      | none => rfl
      | some v =>
        rw [diffAt, if_neg fun heq => h (hget.trans (congrArg some heq))]
    case isFalse => rfl

theorem get_toggleAll {l : List (κ × ν)} (hnodup : (l.map Prod.fst).Nodup) (d : Dict κ ν) (k : κ) :
    (d.toggleAll l).get k = diffAt (d.get k) (l.lookup k) := by
  induction l generalizing d with
  | nil => exact (diffAt_none_right _).symm
  | cons p l ih =>
    obtain ⟨hp, hnodup'⟩ := List.nodup_cons.mp hnodup
    have hstep : (d.toggleAll (p :: l)).get k = diffAt ((d.toggle p).get k) (l.lookup k) :=
      ih hnodup' (d.toggle p)
    rw [hstep, get_toggle, lookup_cons_ite]
    split
    case isTrue hk =>
      rw [hk, lookup_eq_none_iff_notMem.mpr hp]
      exact diffAt_none_right _
    case isFalse => rfl

end Dict

end OvnApi.Lib
