import Mathlib.Data.List.Infix

/-! The places at which a word occurs in a text, each with what stands before it,
read backwards from the word, and what stands after it. A word occurs somewhere
exactly if it is an infix of the text. -/

namespace OvnApi.Lib

variable {α : Type} [DecidableEq α] {word text : List α}

def occurrencesFrom (word : List α) : List α → List α → List (List α × List α)
  | before, [] => if word = [] then [(before, [])] else []
  | before, c :: text =>
    (if word <+: c :: text then [(before, (c :: text).drop word.length)] else []) ++
      occurrencesFrom word (c :: before) text

def occurrences (word text : List α) : List (List α × List α) := occurrencesFrom word [] text

theorem mem_prefixed {before rest : List α} {p : List α × List α} :
    p ∈ (if word <+: rest then [(before, rest.drop word.length)] else []) ↔
      rest = word ++ p.2 ∧ p.1 = before := by
  split_ifs with h
  · obtain ⟨after, rfl⟩ := h
    rw [List.drop_left, List.mem_singleton, Prod.ext_iff]
    simp [and_comm, eq_comm]
  · simp only [List.not_mem_nil, false_iff, not_and]
    intro hrest
    exact absurd ⟨p.2, hrest.symm⟩ h

theorem mem_occurrencesFrom {before : List α} {p : List α × List α} :
    p ∈ occurrencesFrom word before text ↔
      ∃ skipped, text = skipped ++ word ++ p.2 ∧ p.1 = skipped.reverse ++ before := by
  induction text generalizing before with
  | nil =>
    rw [occurrencesFrom]
    split_ifs with hword
    · subst hword
      simp [Prod.ext_iff, and_comm]
    · simp [hword]
  | cons c text ih =>
    rw [occurrencesFrom, List.mem_append, mem_prefixed, ih]
    constructor
    · rintro (⟨htext, hbefore⟩ | ⟨skipped, htext, hbefore⟩)
      · exact ⟨[], by simpa using htext, by simpa using hbefore⟩
      · exact ⟨c :: skipped, by simp [htext], by simp [hbefore]⟩
    · rintro ⟨skipped, htext, hbefore⟩
      cases skipped with
      | nil => exact .inl ⟨by simpa using htext, by simpa using hbefore⟩
      | cons d skipped =>
        simp only [List.cons_append, List.cons.injEq] at htext
        refine .inr ⟨skipped, htext.2, ?_⟩
        rw [hbefore, htext.1]
        simp

theorem mem_occurrences {p : List α × List α} :
    p ∈ occurrences word text ↔ text = p.1.reverse ++ word ++ p.2 := by
  rw [occurrences, mem_occurrencesFrom]
  constructor
  · rintro ⟨skipped, htext, hbefore⟩
    simpa [hbefore] using htext
  · intro htext
    exact ⟨p.1.reverse, htext, by simp⟩

theorem infix_iff_occurs : word <:+: text ↔ ∃ p, p ∈ occurrences word text := by
  simp only [mem_occurrences]
  constructor
  · rintro ⟨before, after, rfl⟩
    exact ⟨(before.reverse, after), by simp⟩
  · rintro ⟨p, htext⟩
    exact ⟨p.1.reverse, p.2, htext.symm⟩

end OvnApi.Lib
