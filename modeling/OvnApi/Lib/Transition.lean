import Mathlib.Tactic.Common

/-! Transition systems given by a partial step function on states and labels. A
label names the thread that moves and what its environment answers, so a run is
one interleaving. `Reach` carries a condition on every step taken: the state
before the step and its label. Invariants are proved once per step and hold in
every state reached. -/

namespace OvnApi.Lib

variable {σ ℓ : Type} {step : σ → ℓ → Option σ} {ok ok' : σ → ℓ → Prop} {s₀ s s' : σ}

/-- The states reached from `s₀` by steps that all meet `ok`. -/
inductive Reach (step : σ → ℓ → Option σ) (ok : σ → ℓ → Prop) (s₀ : σ) : σ → Prop where
  | start : Reach step ok s₀ s₀
  | next {s s' : σ} {l : ℓ} : Reach step ok s₀ s → ok s l → step s l = some s' →
      Reach step ok s₀ s'

/-- The condition of a step when every interleaving counts. -/
def anyStep : σ → ℓ → Prop := fun _ _ => True

theorem Reach.invariant {I : σ → Prop} (h0 : I s₀)
    (hstep : ∀ s l s', I s → ok s l → step s l = some s' → I s')
    (h : Reach step ok s₀ s) : I s := by
  induction h with
  | start => exact h0
  | next _ hok hs ih => exact hstep _ _ _ ih hok hs

theorem Reach.mono (hok : ∀ s l, ok s l → ok' s l) (h : Reach step ok s₀ s) :
    Reach step ok' s₀ s := by
  induction h with
  | start => exact .start
  | next _ ho hs ih => exact ih.next (hok _ _ ho) hs

theorem Reach.trans (h : Reach step ok s₀ s) (h' : Reach step ok s s') : Reach step ok s₀ s' := by
  induction h' with
  | start => exact h
  | next _ ho hs ih => exact ih.next ho hs

instance : ∀ (s : σ) (l : ℓ), Decidable (anyStep s l) := fun _ _ => .isTrue trivial

/-- The state after a sequence of labels, if every step is possible and meets `ok`. -/
def run (step : σ → ℓ → Option σ) (ok : σ → ℓ → Prop) [∀ s l, Decidable (ok s l)] :
    σ → List ℓ → Option σ
  | s, [] => some s
  | s, l :: ls => if ok s l then (step s l).bind fun s' => run step ok s' ls else none

theorem run_reach [∀ s l, Decidable (ok s l)] (ls : List ℓ) (hr : run step ok s ls = some s') :
    Reach step ok s s' := by
  induction ls generalizing s with
  | nil => cases hr; exact .start
  | cons l ls ih =>
    simp only [run] at hr
    split_ifs at hr with hok
    obtain ⟨t, ht, hr⟩ := Option.bind_eq_some_iff.mp hr
    exact Reach.trans (.next .start hok ht) (ih hr)

/-- A sequence of labels that evaluates to a state with some property reaches one. -/
theorem exists_reach_of_run [∀ s l, Decidable (ok s l)] {p : σ → Bool} (ls : List ℓ)
    (h : (run step ok s ls).any p = true) : ∃ s', Reach step ok s s' ∧ p s' = true := by
  obtain ⟨s', hrun, hp⟩ := (Option.any_eq_true _ _).mp h
  exact ⟨s', run_reach ls hrun, hp⟩

theorem exists_reach_of_mem_run [∀ s l, Decidable (ok s l)] {P : σ → Prop} (ls : List ℓ)
    (h : ∃ s' ∈ run step ok s ls, P s') : ∃ s', Reach step ok s s' ∧ P s' := by
  obtain ⟨s', hrun, hp⟩ := h
  exact ⟨s', run_reach ls hrun, hp⟩

/-- If a step never raises a measure, except from zero to one, it stays at most one. -/
theorem Reach.at_most_one (m : σ → ℕ) (h0 : m s₀ ≤ 1)
    (hstep : ∀ s l s', ok s l → step s l = some s' → m s' ≤ m s ∨ m s = 0 ∧ m s' ≤ 1)
    (h : Reach step ok s₀ s) : m s ≤ 1 := by
  refine Reach.invariant (I := fun s => m s ≤ 1) h0 (fun s l s' hm hok hs => ?_) h
  rcases hstep s l s' hok hs with hle | ⟨-, hone⟩ <;> omega

/-! ### A condition on every step of a sequence -/

/-- Every step of the sequence meets `P`: the state before it, the label and the
state after it. -/
def Along (step : σ → ℓ → Option σ) (P : σ → ℓ → σ → Prop) : σ → List ℓ → Prop
  | _, [] => True
  | s, l :: ls => ∀ s', step s l = some s' → P s l s' ∧ Along step P s' ls

/-- Conditions that agree on every step agree on every sequence. -/
theorem along_congr {P Q : σ → ℓ → σ → Prop}
    (h : ∀ s l s', step s l = some s' → (P s l s' ↔ Q s l s')) (s : σ) (ls : List ℓ) :
    Along step P s ls ↔ Along step Q s ls := by
  induction ls generalizing s with
  | nil => exact Iff.rfl
  | cons l ls ih =>
    simp only [Along]
    refine forall_congr' fun s' => forall_congr' fun hs => ?_
    rw [h s l s' hs, ih s']

/-! ### A thread that runs alone -/

section Alone

variable {π α : Type} {next : σ → π → α → Option (σ × π)} {ends : π → Bool}

/-- One thread moves until it ends, the others stand still: the state it leaves and the
point at which it ends. -/
def alone (next : σ → π → α → Option (σ × π)) (ends : π → Bool) :
    σ → π → List α → Option (σ × π)
  | _, _, [] => none
  | s, pc, a :: rest =>
    (next s pc a).bind fun r =>
      if ends r.2 then if rest.isEmpty then some r else none
      else alone next ends r.1 r.2 rest

/-- What every step but the last keeps holds before the last step; `n` counts the steps. -/
theorem alone_last {I : ℕ → σ → π → Prop} {n : ℕ} {s s' : σ} {pc fin : π} {answers : List α}
    (hstart : I n s pc)
    (hstep : ∀ n s pc a s' pc', I n s pc → next s pc a = some (s', pc') → ends pc' = false →
      I (n + 1) s' pc')
    (h : alone next ends s pc answers = some (s', fin)) :
    ∃ m s₁ last a, m + 1 = n + answers.length ∧ I m s₁ last ∧
      next s₁ last a = some (s', fin) ∧ ends fin = true := by
  induction answers generalizing n s pc with
  | nil => cases h
  | cons a rest ih =>
    obtain ⟨⟨s₁, pc₁⟩, hnext, h⟩ := Option.bind_eq_some_iff.mp h
    cases hends : ends pc₁ with
    | false =>
      simp only [hends, Bool.false_eq_true, if_false] at h
      obtain ⟨m, s₂, last, a', hm, hlast⟩ := ih (hstep n s pc a s₁ pc₁ hstart hnext hends) h
      exact ⟨m, s₂, last, a', by simp only [List.length_cons]; omega, hlast⟩
    | true =>
      simp only [hends, if_true, List.isEmpty_iff] at h
      split_ifs at h with hrest
      cases h
      exact ⟨n, s, pc, a, by simp [hrest], hstart, hnext, hends⟩

/-- If each step of the thread is a step of the system, so is the whole run. -/
theorem reach_alone (place : σ → π → σ) {s s' : σ} {pc fin : π} {answers : List α}
    (hstep : ∀ s pc a s' pc', next s pc a = some (s', pc') →
      Reach step anyStep (place s pc) (place s' pc'))
    (h : alone next ends s pc answers = some (s', fin)) :
    Reach step anyStep (place s pc) (place s' fin) := by
  induction answers generalizing s pc with
  | nil => cases h
  | cons a rest ih =>
    obtain ⟨⟨s₁, pc₁⟩, hnext, h⟩ := Option.bind_eq_some_iff.mp h
    have hfirst := hstep s pc a s₁ pc₁ hnext
    cases hends : ends pc₁ with
    | false =>
      simp only [hends, Bool.false_eq_true, if_false] at h
      exact hfirst.trans (ih h)
    | true =>
      simp only [hends, if_true] at h
      split_ifs at h
      cases h
      exact hfirst

end Alone

end OvnApi.Lib
