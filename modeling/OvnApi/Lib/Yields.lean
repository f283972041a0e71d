import Mathlib.Tactic.Common

/-! Rules for partial functions that must be shown to go through: `Yields x P` says
that `x` is defined and its value has `P`. -/

namespace OvnApi.Lib

variable {α β : Type} {x y : Option α} {P Q : α → Prop} {R : β → Prop}

abbrev Yields (x : Option α) (P : α → Prop) : Prop := ∃ a, x = some a ∧ P a

theorem yields_some {a : α} (h : P a) : Yields (some a) P := ⟨a, rfl, h⟩

theorem Yields.mono (h : Yields x P) (hPQ : ∀ a, P a → Q a) : Yields x Q := by
  obtain ⟨a, ha, hP⟩ := h
  exact ⟨a, ha, hPQ a hP⟩

theorem Yields.map {f : α → β} (h : Yields x P) (hf : ∀ a, P a → R (f a)) : Yields (x.map f) R := by
  obtain ⟨a, rfl, hP⟩ := h
  exact ⟨f a, rfl, hf a hP⟩

theorem Yields.bind {f : α → Option β} (h : Yields x P) (hf : ∀ a, P a → Yields (f a) R) :
    Yields (x.bind f) R := by
  obtain ⟨a, rfl, hP⟩ := h
  exact hf a hP

theorem yields_ite {p : Prop} [Decidable p] (hx : p → Yields x P) (hy : ¬p → Yields y P) :
    Yields (if p then x else y) P := by
  split
  case isTrue h => exact hx h
  case isFalse h => exact hy h

end OvnApi.Lib
