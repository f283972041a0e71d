import Mathlib.Data.List.Induction
import Mathlib.Data.List.TakeWhile

/-! Scanning a text: the first and the last place of a character, the text without the
separators around it, and the words between separators. -/

namespace OvnApi.Lib

variable {α : Type}

/-! ### Places -/

section Places

variable [DecidableEq α] {a : α} {before after : List α}

def lastIdxOf? (a : α) (l : List α) : Option ℕ :=
  (l.reverse.idxOf? a).map fun i => l.length - 1 - i

theorem idxOf?_append_cons (h : a ∉ before) :
    (before ++ a :: after).idxOf? a = some before.length := by
  induction before with
  | nil => simp [List.idxOf?_cons]
  | cons b before ih =>
    obtain ⟨hne, hrest⟩ := not_or.mp (List.mem_cons.not.mp h)
    simp [List.idxOf?_cons, Ne.symm hne, ih hrest]

theorem lastIdxOf?_append_cons (h : a ∉ after) :
    lastIdxOf? a (before ++ a :: after) = some before.length := by
  have hreverse : (before ++ a :: after).reverse = after.reverse ++ a :: before.reverse := by simp
  rw [lastIdxOf?, hreverse, idxOf?_append_cons (by simpa using h), Option.map_some]
  simp only [List.length_append, List.length_cons, List.length_reverse, Option.some.injEq]
  omega

end Places

/-! ### Words -/

section Words

variable {sep : α → Bool} {x : α} {l w : List α}

def trim (sep : α → Bool) (l : List α) : List α :=
  ((l.dropWhile sep).reverse.dropWhile sep).reverse

/-- The words between separators, which may stand in any number. -/
def words (sep : α → Bool) (l : List α) : List (List α) :=
  (l.splitOnP sep).filter fun w => !w.isEmpty

theorem dropWhile_of_forall_not (hw : ∀ c ∈ w, sep c = false) : w.dropWhile sep = w := by
  cases w with
  | nil => rfl
  | cons c w => exact List.dropWhile_cons_of_neg (by simp [hw c List.mem_cons_self])

/-- A text without separators stays when those around it are dropped. -/
theorem trim_append_seps {seps : List α} (hw : ∀ c ∈ w, sep c = false)
    (hseps : ∀ c ∈ seps, sep c = true) : trim sep (w ++ seps) = w := by
  have hend : ∀ v : List α, (∀ c ∈ v, sep c = false) →
      ((v ++ seps).reverse.dropWhile sep).reverse = v := by
    intro v hv
    rw [List.reverse_append, List.dropWhile_append_of_pos (by simpa using hseps),
      dropWhile_of_forall_not (by simpa using hv), List.reverse_reverse]
  unfold trim
  cases w with
  | nil =>
    have hnil : seps.dropWhile sep = [] := List.dropWhile_eq_nil_iff.mpr hseps
    simp [hnil]
  | cons c w =>
    rw [List.cons_append, List.dropWhile_cons_of_neg (by simp [hw c List.mem_cons_self]),
      ← List.cons_append, hend _ hw]

theorem words_nil : words sep [] = [] := by simp [words]

theorem words_append_cons (l l' : List α) (hx : sep x = true) :
    words sep (l ++ x :: l') = words sep l ++ words sep l' := by
  simp [words, List.splitOnP_append_cons l l' hx]

theorem words_cons_sep (hx : sep x = true) (l : List α) : words sep (x :: l) = words sep l := by
  simpa [words_nil] using words_append_cons [] l hx

theorem words_eq_singleton (hw : ∀ c ∈ w, sep c = false) (hne : w ≠ []) : words sep w = [w] := by
  simp [words, List.splitOnP_eq_singleton hw, hne]

theorem words_of_forall_sep (h : ∀ c ∈ l, sep c = true) : words sep l = [] := by
  induction l with
  | nil => exact words_nil
  | cons x l ih =>
    rw [words_cons_sep (h x List.mem_cons_self), ih fun c hc => h c (List.mem_cons_of_mem _ hc)]

theorem words_append_seps (l : List α) {seps : List α} (h : ∀ c ∈ seps, sep c = true) :
    words sep (l ++ seps) = words sep l := by
  cases seps with
  | nil => rw [List.append_nil]
  | cons x seps =>
    rw [words_append_cons l seps (h x List.mem_cons_self),
      words_of_forall_sep fun c hc => h c (List.mem_cons_of_mem _ hc), List.append_nil]

theorem words_dropWhile (l : List α) : words sep (l.dropWhile sep) = words sep l := by
  induction l with
  | nil => rfl
  | cons x l ih =>
    by_cases hx : sep x = true
    · rw [List.dropWhile_cons_of_pos hx, ih, words_cons_sep hx]
    · rw [List.dropWhile_cons_of_neg hx]

/-- Separators at the ends make no words. -/
theorem words_trim (l : List α) : words sep (trim sep l) = words sep l := by
  have hsplit : l.dropWhile sep =
      trim sep l ++ ((l.dropWhile sep).reverse.takeWhile sep).reverse := by
    rw [trim, ← List.reverse_append, List.takeWhile_append_dropWhile, List.reverse_reverse]
  have hseps : ∀ c ∈ ((l.dropWhile sep).reverse.takeWhile sep).reverse, sep c = true := by
    intro c hc
    exact List.mem_takeWhile_imp (List.mem_reverse.mp hc)
  rw [← words_dropWhile l, hsplit, words_append_seps _ hseps]

/-- The words of a text in which each word follows a separator. -/
theorem words_flatMap {ws : List (List α)} (hx : sep x = true)
    (hws : ∀ w ∈ ws, w ≠ [] ∧ ∀ c ∈ w, sep c = false) :
    words sep (ws.flatMap fun w => x :: w) = ws := by
  induction ws using List.reverseRecOn with
  | nil => exact words_nil
  | append_singleton ws w ih =>
    obtain ⟨hne, hw⟩ := hws w (by simp)
    rw [List.flatMap_append, List.flatMap_singleton, words_append_cons _ _ hx,
      words_eq_singleton hw hne, ih fun v hv => hws v (List.mem_append_left _ hv)]

end Words

end OvnApi.Lib
