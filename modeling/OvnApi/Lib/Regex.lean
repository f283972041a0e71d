import Mathlib.Data.List.TakeWhile
import Mathlib.Tactic.Common
import OvnApi.Lib.Scan

/-! Regular expressions that are a sequence of literals and of character classes that are
repeated greedily, between `^` and `$`. The matcher tries the ways to take a repetition from
the longest down, and backtracks. What it finds are the parses of the text; where every
repetition is followed by something that begins with another character there is only one, so
that no order of trying matters. -/

namespace OvnApi.Lib.Regex

/-- A literal, or at least `atLeast` characters of a class, captured under a name or not. -/
inductive Piece where
  | lit (text : List Char)
  | many (cls : Char → Bool) (atLeast : ℕ) (group : Option String)

/-- The pieces between `^` and `$`. -/
abbrev Pattern := List Piece

abbrev Groups := List (String × List Char)

/-! ### The matcher -/

/-- The ways to take a piece from the front of the text, in the order of trying. -/
def Piece.ways : Piece → List Char → List (List Char × List Char)
  | .lit text, s => if text.isPrefixOf s then [(text, s.drop text.length)] else []
  | .many cls atLeast _, s =>
    ((List.range ((s.takeWhile cls).length + 1)).reverse.filter (atLeast ≤ ·)).map fun n =>
      (s.take n, s.drop n)

def Piece.captured : Piece → List Char → Groups
  | .many _ _ (some group), t => [(group, t)]
  | _, _ => []

/-- `$` stands at the end and before a final line feed. -/
def atEnd (s : List Char) : Bool := s = [] || s = ['\n']

/-- All matches, in the order in which backtracking finds them. -/
def Pattern.all : Pattern → List Char → List Groups
  | [], s => if atEnd s then [[]] else []
  | piece :: rest, s =>
    (piece.ways s).flatMap fun way => (Pattern.all rest way.2).map (piece.captured way.1 ++ ·)

def Pattern.firstMatch (p : Pattern) (s : List Char) : Option Groups := (p.all s).head?

/-! ### Parses -/

def Piece.Accepts : Piece → List Char → Prop
  | .lit text, t => t = text
  | .many cls atLeast _, t => atLeast ≤ t.length ∧ ∀ c ∈ t, cls c = true

/-- The text is made of texts for the pieces. -/
inductive Parses : Pattern → List Char → Groups → Prop where
  | done {s : List Char} (h : atEnd s = true) : Parses [] s []
  | piece {p : Piece} {rest : Pattern} {t u : List Char} {groups : Groups} (ht : p.Accepts t)
      (hu : Parses rest u groups) : Parses (p :: rest) (t ++ u) (p.captured t ++ groups)

section Parses

variable {p : Piece} {rest : Pattern} {s t u : List Char} {groups : Groups} {cls : Char → Bool}

theorem length_le_takeWhile (ht : ∀ c ∈ t, cls c = true) :
    t.length ≤ ((t ++ u).takeWhile cls).length := by
  rw [List.takeWhile_append_of_pos ht, List.length_append]
  exact Nat.le_add_right _ _

theorem mem_ways : (t, u) ∈ p.ways s ↔ s = t ++ u ∧ p.Accepts t := by
  cases p with
  | lit text =>
    simp only [Piece.ways, Piece.Accepts]
    constructor
    · intro h
      split_ifs at h with hprefix
      · obtain ⟨rfl, rfl⟩ := Prod.mk.inj (List.mem_singleton.mp h)
        obtain ⟨v, rfl⟩ := List.isPrefixOf_iff_prefix.mp hprefix
        simp
      · cases h
    · rintro ⟨rfl, rfl⟩
      simp
  | many cls atLeast group =>
    simp only [Piece.ways, Piece.Accepts, List.mem_map, List.mem_filter, List.mem_reverse,
      List.mem_range, decide_eq_true_eq]
    constructor
    · rintro ⟨n, ⟨hn, hleast⟩, heq⟩
      cases heq
      have hlen : n ≤ s.length := by
        have := (List.takeWhile_prefix cls (l := s)).length_le
        omega
      refine ⟨(List.take_append_drop n s).symm, by simpa [hlen] using hleast, fun c hc => ?_⟩
      have htake : s.take n = (s.takeWhile cls).take n := by
        conv_lhs => rw [← List.takeWhile_append_dropWhile (p := cls) (l := s)]
        exact List.take_append_of_le_length (by omega)
      rw [htake] at hc
      exact List.mem_takeWhile_imp (List.mem_of_mem_take hc)
    · rintro ⟨rfl, hleast, hcls⟩
      refine ⟨t.length, ⟨?_, hleast⟩, by simp⟩
      have := length_le_takeWhile (u := u) hcls
      omega

theorem parses_cons :
    Parses (p :: rest) s groups ↔ ∃ t u g, s = t ++ u ∧ p.Accepts t ∧ Parses rest u g ∧
      groups = p.captured t ++ g := by
  constructor
  · rintro (_ | ⟨ht, hu⟩)
    exact ⟨_, _, _, rfl, ht, hu, rfl⟩
  · rintro ⟨t, u, g, rfl, ht, hu, rfl⟩
    exact .piece ht hu

/-- The matcher finds the parses. -/
theorem mem_all {p : Pattern} : groups ∈ p.all s ↔ Parses p s groups := by
  induction p generalizing s groups with
  | nil =>
    simp only [Pattern.all]
    constructor
    · intro h
      split_ifs at h with hend
      · obtain rfl := List.mem_singleton.mp h
        exact .done hend
      · cases h
    · rintro ⟨hend⟩
      simp [hend]
  | cons p rest ih =>
    simp only [Pattern.all, List.mem_flatMap, List.mem_map]
    constructor
    · rintro ⟨⟨t, u⟩, hway, groups, hgroups, rfl⟩
      obtain ⟨rfl, ht⟩ := mem_ways.mp hway
      exact .piece ht (ih.mp hgroups)
    · intro h
      obtain ⟨t, u, g, hs, ht, hu, rfl⟩ := parses_cons.mp h
      exact ⟨(t, u), mem_ways.mpr ⟨hs, ht⟩, g, ih.mpr hu, rfl⟩

theorem firstMatch_eq_none_iff {p : Pattern} :
    p.firstMatch s = none ↔ ∀ groups, ¬Parses p s groups := by
  rw [Pattern.firstMatch, List.head?_eq_none_iff, List.eq_nil_iff_forall_not_mem]
  exact forall_congr' fun groups => not_congr mem_all

end Parses

/-! ### One parse -/

/-- The characters a text of the pattern may begin with. -/
def Pattern.begins : Pattern → Char → Bool
  | [], c => c == '\n'
  | .lit [] :: rest, c => Pattern.begins rest c
  | .lit (d :: _) :: _, c => c == d
  | .many cls atLeast _ :: rest, c => cls c || (atLeast == 0 && Pattern.begins rest c)

/-- No repetition can be shortened in favour of what follows, except an uncaptured one at
the end. -/
def Pattern.Separated : Pattern → Prop
  | [] => True
  | .lit _ :: rest => Pattern.Separated rest
  | .many cls _ group :: rest =>
    (group = none ∧ rest = [] ∨ ∀ c, cls c = true → Pattern.begins rest c = false) ∧
      Pattern.Separated rest

section Separated

variable {p : Pattern} {s : List Char} {groups groups' : Groups} {c : Char} {cls : Char → Bool}

theorem begins_of_parses (h : Parses p s groups) (hc : s.head? = some c) : p.begins c = true := by
  induction h with
  | done hend =>
    rcases (by simpa [atEnd] using hend) with rfl | rfl
    · cases hc
    · simpa [Pattern.begins] using hc.symm
  | @piece piece rest t u groups ht hu ih =>
    cases piece with
    | lit text =>
      obtain rfl : t = text := ht
      cases t with
      | nil => exact ih hc
      | cons d t => simpa [Pattern.begins] using hc.symm
    | many cls atLeast group =>
      obtain ⟨hleast, hcls⟩ := ht
      cases t with
      | nil =>
        obtain rfl : atLeast = 0 := Nat.le_zero.mp hleast
        simp [Pattern.begins, ih hc]
      | cons d t =>
        obtain rfl : d = c := by simpa using hc
        simp [Pattern.begins, hcls d List.mem_cons_self]

theorem takeWhile_append_of_head {t u : List Char} (ht : ∀ c ∈ t, cls c = true)
    (hu : ∀ c, u.head? = some c → cls c = false) : (t ++ u).takeWhile cls = t := by
  rw [List.takeWhile_append_of_pos ht]
  cases u with
  | nil => simp
  | cons c u => rw [List.takeWhile_cons_of_neg (by simp [hu c rfl]), List.append_nil]

theorem not_begins (hsep : ∀ c, cls c = true → p.begins c = false) (h : Parses p s groups)
    (hc : s.head? = some c) : cls c = false := by
  by_contra hcls
  have hbegins := begins_of_parses h hc
  rw [hsep c (by simpa using hcls)] at hbegins
  cases hbegins

/-- A separated pattern has one parse. -/
theorem Parses.unique (hp : p.Separated) (h : Parses p s groups) (h' : Parses p s groups') :
    groups = groups' := by
  induction p generalizing s groups groups' with
  | nil =>
    cases h
    cases h'
    rfl
  | cons piece rest ih =>
    obtain ⟨t, u, g, rfl, ht, hu, rfl⟩ := parses_cons.mp h
    obtain ⟨t', u', g', hs, ht', hu', rfl⟩ := parses_cons.mp h'
    cases piece with
    | lit text =>
      obtain rfl : t = text := ht
      obtain rfl : t' = t := ht'
      obtain rfl := List.append_cancel_left hs
      rw [ih hp hu hu']
    | many cls atLeast group =>
      obtain ⟨hsep, hrest⟩ := hp
      rcases hsep with ⟨rfl, rfl⟩ | hsep
      · cases hu
        cases hu'
        rfl
      · have hlongest : t = t' := by
          rw [← takeWhile_append_of_head ht.2 fun c hc => not_begins hsep hu hc, hs]
          exact takeWhile_append_of_head ht'.2 fun c hc => not_begins hsep hu' hc
        subst hlongest
        obtain rfl := List.append_cancel_left hs
        rw [ih hrest hu hu']

theorem firstMatch_of_parses (hp : p.Separated) (h : Parses p s groups) :
    p.firstMatch s = some groups := by
  cases hfirst : p.firstMatch s with
  | none => exact absurd h (firstMatch_eq_none_iff.mp hfirst groups)
  | some groups' =>
    have h' : Parses p s groups' := mem_all.mp (List.mem_of_head? hfirst)
    rw [Parses.unique hp h h']

end Separated

/-! ### What every parse has -/

def Pattern.avoids : Pattern → Char → Bool
  | [], d => d != '\n'
  | .lit text :: rest, d => !text.contains d && Pattern.avoids rest d
  | .many cls _ _ :: rest, d => !cls d && Pattern.avoids rest d

def Pattern.nullable : Pattern → Bool
  | [] => true
  | .lit text :: rest => text.isEmpty && Pattern.nullable rest
  | .many _ atLeast _ :: rest => atLeast == 0 && Pattern.nullable rest

section Necessary

variable {p q : Pattern} {s a b key : List Char} {groups : Groups} {c d : Char} {cls : Char → Bool}

theorem not_mem_of_parses (h : Parses p s groups) (hd : p.avoids d = true) : d ∉ s := by
  induction h with
  | done hend =>
    rcases (by simpa [atEnd] using hend) with rfl | rfl
    · exact List.not_mem_nil
    · simpa [Pattern.avoids] using hd
  | @piece piece rest t u groups ht hu ih =>
    intro hmem
    cases piece with
    | lit text =>
      obtain rfl : t = text := ht
      simp only [Pattern.avoids, Bool.and_eq_true, Bool.not_eq_true', List.contains_eq_mem,
        decide_eq_false_iff_not] at hd
      exact (List.mem_append.mp hmem).elim hd.1 (ih hd.2)
    | many cls atLeast group =>
      simp only [Pattern.avoids, Bool.and_eq_true, Bool.not_eq_true'] at hd
      refine (List.mem_append.mp hmem).elim (fun hmem => ?_) (ih hd.2)
      exact absurd (ht.2 d hmem) (by simp [hd.1])

theorem nullable_of_parses (h : Parses p [] groups) : p.nullable = true := by
  generalize hs : ([] : List Char) = s at h
  induction h with
  | done => rfl
  | @piece piece rest t u groups ht hu ih =>
    obtain ⟨rfl, rfl⟩ := List.append_eq_nil_iff.mp hs.symm
    cases piece with
    | lit text => simp [Pattern.nullable, ← (show [] = text from ht), ih rfl]
    | many cls atLeast group => simp [Pattern.nullable, Nat.le_zero.mp ht.1, ih rfl]

/-- A pattern that begins with blanks and a word. -/
theorem head_dropWhile_of_parses {word : List Char} (hc : cls c = false)
    (h : Parses (.many cls 0 none :: .lit (c :: word) :: p) s groups) :
    (s.dropWhile cls).head? = some c := by
  obtain ⟨t, u, g, rfl, ht, hu, -⟩ := parses_cons.mp h
  obtain ⟨t', u', g', rfl, ht', -, -⟩ := parses_cons.mp hu
  obtain rfl : t' = c :: word := ht'
  rw [List.dropWhile_append_of_pos ht.2, List.cons_append, List.dropWhile_cons_of_neg (by simp [hc])]
  rfl

theorem parses_append (h : Parses (p ++ q) s groups) :
    ∃ t u g, s = t ++ u ∧ Parses q u g := by
  induction p generalizing s groups with
  | nil => exact ⟨[], s, groups, rfl, h⟩
  | cons piece p ih =>
    obtain ⟨t, u, g, rfl, -, hu, -⟩ := parses_cons.mp h
    obtain ⟨t', u', g', rfl, hu'⟩ := ih hu
    exact ⟨t ++ t', u', g', (List.append_assoc _ _ _).symm, hu'⟩

theorem eq_of_last_mark {a' b' : List Char} (hb : d ∉ b) (hb' : d ∉ b')
    (h : a ++ d :: b = a' ++ d :: b') : a = a' ∧ b = b' := by
  have hlen : a.length = a'.length := by
    have hlast : lastIdxOf? d (a ++ d :: b) = some a.length := lastIdxOf?_append_cons hb
    rw [h, lastIdxOf?_append_cons hb'] at hlast
    exact (Option.some.inj hlast).symm
  obtain ⟨ha, hrest⟩ := List.append_inj h hlen
  exact ⟨ha, (List.cons.inj hrest).2⟩

/-- What stands around the last mark of a text, when the pattern has its last mark in this
word. -/
theorem around_last_mark (h : Parses (p ++ .lit (key ++ [d]) :: q) (a ++ d :: b) groups)
    (hq : q.avoids d = true) (hb : d ∉ b) : key <:+ a ∧ ∃ g, Parses q b g := by
  obtain ⟨t, u, g, hs, hu⟩ := parses_append h
  obtain ⟨t', u', g', rfl, ht', hu', -⟩ := parses_cons.mp hu
  obtain rfl : t' = key ++ [d] := ht'
  obtain ⟨rfl, rfl⟩ := eq_of_last_mark hb (not_mem_of_parses hu' hq)
    (show a ++ d :: b = (t ++ key) ++ d :: u' by rw [hs]; simp)
  exact ⟨List.suffix_append t key, g', hu'⟩

end Necessary

end OvnApi.Lib.Regex
