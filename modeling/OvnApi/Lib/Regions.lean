import OvnApi.Lib.Prog
import Mathlib.Data.Set.Lattice
import Mathlib.Order.CompletePartialOrder
import Mathlib.Order.Disjoint

/-! Programs that work on a region of the world. The world is read at places; a program
that finds what `P` says at each place of its region returns, leaves there what `Q` says,
and changes no other place. Turns of a loop on disjoint regions do not disturb each other,
so the loop does on all the regions what each turn does on its own. -/

namespace OvnApi.Lib.Prog

variable {ω ε α β ι κ ν : Type} {look : ω → κ → ν} {P Q : κ → ν → Prop} {region : Set κ}

/-- What `m` does on its region. -/
def WorksOn (look : ω → κ → ν) (P Q : κ → ν → Prop) (region : Set κ) (m : Prog ω ε α) : Prop :=
  ∀ w, (∀ k ∈ region, P k (look w k)) → ∃ a w', m w = (.ok a, w') ∧
    (∀ k ∉ region, look w' k = look w k) ∧ ∀ k ∈ region, Q k (look w' k)

/-- A program that returns and changes no place. -/
def Looks (look : ω → κ → ν) (m : Prog ω ε α) : Prop :=
  ∀ w, ∃ a w', m w = (.ok a, w') ∧ look w' = look w

theorem WorksOn.bind {m : Prog ω ε α} {f : α → Prog ω ε β} (hm : WorksOn look P Q region m)
    (hf : ∀ a, Looks look (f a)) : WorksOn look P Q region (m >>= f) := by
  intro w hw
  obtain ⟨a, w', hrun, hout, hin⟩ := hm w hw
  obtain ⟨b, w'', hrun', hlook⟩ := hf a w'
  refine ⟨b, w'', ?_, ?_, ?_⟩
  · rw [bind_of_ok hrun]
    exact hrun'
  · rw [hlook]
    exact hout
  · rw [hlook]
    exact hin

/-- Where nothing is to be done, a region may be larger. -/
theorem WorksOn.mono {m : Prog ω ε α} {region' : Set κ} (hm : WorksOn look P Q region m)
    (hsub : region ⊆ region') (hskip : ∀ k ∈ region', k ∉ region → ∀ v, P k v → Q k v) :
    WorksOn look P Q region' m := by
  intro w hw
  obtain ⟨a, w', hrun, hout, hin⟩ := hm w fun k hk => hw k (hsub hk)
  refine ⟨a, w', hrun, fun k hk => hout k fun h => hk (hsub h), ?_⟩
  intro k hk
  by_cases hin' : k ∈ region
  · exact hin k hin'
  · rw [hout k hin']
    exact hskip k hk hin' _ (hw k hk)

theorem WorksOn.forEach {body : ι → Prog ω ε Unit} {region : ι → Set κ} {l : List ι}
    (hbody : ∀ i ∈ l, WorksOn look P Q (region i) (body i))
    (hdisjoint : l.Pairwise fun i j => Disjoint (region i) (region j)) :
    WorksOn look P Q {k | ∃ i ∈ l, k ∈ region i} (Prog.forEach body l) := by
  induction l with
  | nil =>
    intro w _
    exact ⟨(), w, rfl, fun _ _ => rfl, fun k hk => absurd hk (by simp)⟩
  | cons i l ih =>
    obtain ⟨hi, hl⟩ := List.pairwise_cons.mp hdisjoint
    intro w hw
    obtain ⟨_, w', hrun, hout, hin⟩ :=
      hbody i List.mem_cons_self w fun k hk => hw k ⟨i, List.mem_cons_self, hk⟩
    -- the first turn leaves the regions of the others as they were
    have hrest : ∀ j ∈ l, ∀ k ∈ region j, look w' k = look w k := fun j hj k hk =>
      hout k fun hki => Set.disjoint_left.mp (hi j hj) hki hk
    obtain ⟨_, w'', hrun', hout', hin'⟩ :=
      ih (fun j hj => hbody j (List.mem_cons_of_mem i hj)) hl w' (by
        rintro k ⟨j, hj, hk⟩
        rw [hrest j hj k hk]
        exact hw k ⟨j, List.mem_cons_of_mem i hj, hk⟩)
    refine ⟨(), w'', ?_, ?_, ?_⟩
    · exact (bind_of_ok hrun).trans hrun'
    · intro k hk
      rw [hout' k fun ⟨j, hj, hkj⟩ => hk ⟨j, List.mem_cons_of_mem i hj, hkj⟩,
        hout k fun hki => hk ⟨i, List.mem_cons_self, hki⟩]
    · rintro k ⟨j, hj, hk⟩
      rcases List.mem_cons.mp hj with rfl | hj
      · rw [hout' k fun ⟨j', hj', hk'⟩ => Set.disjoint_left.mp (hi j' hj') hk hk']
        exact hin k hk
      · exact hin' k ⟨j, hj, hk⟩

end OvnApi.Lib.Prog
