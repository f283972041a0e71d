import Mathlib.Algebra.Order.BigOperators.Group.List
import OvnApi.Datapath.Parser
import OvnApi.Datapath.Printer

/-! What `show_dpif` prints is what `_parse_dpctl_show` reads. Each of the four lines with
statistics is accepted by its own regular expression, with the printed numbers in its groups,
and the lines of names, caches and ports by none. So the loop sums the counters of the
datapaths that printed them. -/

namespace OvnApi.Datapath

open OvnApi.Core Lib Lib.Regex Lib.Exposition

/-! ### Characters -/

section Chars

variable {c : Char}

theorem isDigit_of_mem_natText {n : ℕ} (hc : c ∈ natText n) : c.isDigit = true :=
  Nat.isDigit_of_mem_toDigits (by decide) (by decide) hc

theorem isDecimal_of_isDigit (hc : c.isDigit = true) : isDecimal c = true := by
  rw [isDecimal, digitValue_of_isDigit hc]
  rfl

theorem isLineBreak_of_isDigit (hc : c.isDigit = true) : isLineBreak c = false := by
  have hrange := toNat_of_isDigit hc
  simp only [isLineBreak, Bool.or_eq_false_iff, Bool.and_eq_false_iff, decide_eq_false_iff_not,
    beq_eq_false_iff_ne]
  omega

/-- `isSpace`, on the number of the character. -/
def spaceCode (n : ℕ) : Bool :=
  (9 ≤ n && n ≤ 13) || (28 ≤ n && n ≤ 32) || n == 0x85 || n == 0xa0 || n == 0x1680 ||
    (0x2000 ≤ n && n ≤ 0x200a) || n == 0x2028 || n == 0x2029 || n == 0x202f || n == 0x205f ||
    n == 0x3000

theorem spaceCode_digits : ∀ z ∈ digitZeros, ∀ d < 10, spaceCode (z + d) = false := by
  decide +kernel

/-- No decimal digit of Unicode is white space. -/
theorem isSpace_of_isDecimal (hc : isDecimal c = true) : isSpace c = false := by
  unfold isDecimal digitValue at hc
  rw [Option.isSome_map, Option.isSome_iff_exists] at hc
  obtain ⟨z, hz⟩ := hc
  have hrange := List.find?_some hz
  simp only [Bool.and_eq_true, decide_eq_true_eq] at hrange
  have hcode := spaceCode_digits z (List.mem_of_find?_eq_some hz) (c.toNat - z) (by omega)
  rw [Nat.add_sub_cancel' hrange.1] at hcode
  exact hcode

theorem isDigit_or_of_mem_text {figure : Figure} (hc : c ∈ figure.text) :
    c.isDigit = true ∨ c = '.' := by
  unfold Figure.text at hc
  rcases List.mem_append.mp hc with hc | hc
  · rcases List.mem_append.mp hc with hc | hc
    · exact .inl (isDigit_of_mem_natText hc)
    · rcases List.mem_cons.mp hc with rfl | hc
      · exact .inr rfl
      · exact .inl (isDigit_of_mem_natText hc)
  · exact .inl (isDigit_of_mem_natText hc)

theorem isFigure_of_mem_text {figure : Figure} (hc : c ∈ figure.text) : isFigure c = true := by
  rcases isDigit_or_of_mem_text hc with hdigit | rfl
  · simp [isFigure, hdigit]
  · rfl

end Chars

/-! ### Lines -/

def NoBreak (l : List Char) : Prop := ∀ c ∈ l, isLineBreak c = false

instance decidableNoBreak (l : List Char) : Decidable (NoBreak l) :=
  List.decidableBAll (fun c => isLineBreak c = false) l

theorem NoBreak.append {a b : List Char} (ha : NoBreak a) (hb : NoBreak b) : NoBreak (a ++ b) :=
  fun c hc => (List.mem_append.mp hc).elim (ha c) (hb c)

theorem NoBreak.cons {c : Char} {l : List Char} (hc : isLineBreak c = false) (hl : NoBreak l) :
    NoBreak (c :: l) := List.forall_mem_cons.mpr ⟨hc, hl⟩

theorem noBreak_natText (n : ℕ) : NoBreak (natText n) := fun _ hc =>
  isLineBreak_of_isDigit (isDigit_of_mem_natText hc)

theorem noBreak_figure (figure : Figure) : NoBreak figure.text := fun c hc => by
  rcases isDigit_or_of_mem_text hc with hdigit | rfl
  · exact isLineBreak_of_isDigit hdigit
  · rfl

theorem splitLinesFrom_cons {c : Char} (hc : isLineBreak c = false) (line rest : List Char) :
    splitLinesFrom line (c :: rest) = splitLinesFrom (c :: line) rest := by
  conv_lhs => rw [splitLinesFrom.eq_def]
  split
  · next heq => cases heq
  · next heq => cases heq
  · next heq =>
    cases heq
    exact absurd hc (by decide)
  · next heq =>
    cases heq
    rw [if_neg (by simp [hc])]

theorem splitLinesFrom_append {l : List Char} (hl : NoBreak l) (line rest : List Char) :
    splitLinesFrom line (l ++ '\n' :: rest) = (line.reverse ++ l) :: splitLinesFrom [] rest := by
  induction l generalizing line with
  | nil => simp [splitLinesFrom, isLineBreak]
  | cons c l ih =>
    obtain ⟨hc, hl⟩ := List.forall_mem_cons.mp hl
    rw [List.cons_append, splitLinesFrom_cons hc, ih hl, List.reverse_cons, List.append_assoc,
      List.singleton_append]

/-- The lines of a text in which every line is ended by a line feed. -/
theorem splitLines_flatMap {ls : List (List Char)} (hls : ∀ l ∈ ls, NoBreak l) :
    splitLines (String.ofList (ls.flatMap fun l => l ++ ['\n'])) = ls.map String.ofList := by
  have hfrom : splitLinesFrom [] (ls.flatMap fun l => l ++ ['\n']) = ls := by
    induction ls with
    | nil => rfl
    | cons l ls ih =>
      obtain ⟨hl, hls⟩ := List.forall_mem_cons.mp hls
      rw [List.flatMap_cons, List.append_assoc, List.singleton_append, splitLinesFrom_append hl,
        ih hls]
      rfl
  rw [splitLines, String.toList_ofList, hfrom]

theorem noBreak_entryText {separator : Char} (hsep : isLineBreak separator = false)
    (entry : Text × Text) : NoBreak (entryText separator entry) :=
  NoBreak.append (.cons hsep (.cons rfl entry.1.noBreak)) (.cons rfl entry.2.noBreak)

theorem noBreak_config (config : PortConfig) : NoBreak config.text := by
  cases config with
  | openFailed error => exact ((show NoBreak _ by decide).append error.noBreak).append (by decide)
  | getFailed error => exact ((show NoBreak _ by decide).append error.noBreak).append (by decide)
  | config entries =>
    cases entries with
    | nil => exact fun _ hc => absurd hc List.not_mem_nil
    | cons entry entries =>
      refine (noBreak_entryText rfl entry).append fun c hc => ?_
      obtain ⟨entry', -, hc⟩ := List.mem_flatMap.mp hc
      exact noBreak_entryText rfl entry' c hc

theorem noBreak_port (port : Port) : NoBreak port.text := by
  unfold Port.text
  refine NoBreak.append port.name.noBreak ?_
  split_ifs
  · exact fun _ hc => absurd hc List.not_mem_nil
  · exact (NoBreak.append (.cons rfl (.cons rfl port.type.noBreak))
      (noBreak_config port.config)).append (by decide)

theorem Line.noBreak (line : Line) : NoBreak line.text := by
  cases line with
  | name label => exact NoBreak.append label.noBreak (by decide)
  | lookups hit missed lost =>
    exact (((((show NoBreak _ by decide).append (noBreak_natText _)).append (by decide)).append
      (noBreak_natText _)).append (by decide)).append (noBreak_natText _)
  | flows n => exact (show NoBreak _ by decide).append (noBreak_natText _)
  | masks hit total hitPerPkt =>
    exact (((((show NoBreak _ by decide).append (noBreak_natText _)).append (by decide)).append
      (noBreak_natText _)).append (by decide)).append (noBreak_figure _)
  | cache hit hitRate =>
    exact ((((show NoBreak _ by decide).append (noBreak_natText _)).append (by decide)).append
      (noBreak_figure _)).append (by decide)
  | caches => decide
  | cacheSize label size =>
    exact (((show NoBreak _ by decide).append label.noBreak).append (by decide)).append
      (noBreak_natText _)
  | port p =>
    exact (((show NoBreak _ by decide).append (noBreak_natText _)).append (by decide)).append
      (noBreak_port p)

theorem splitLines_showText (quotients : Quotients) (dpifs : List Dpif) :
    splitLines (showText quotients dpifs) =
      (dpifs.flatMap (showDpif quotients)).map fun line => String.ofList line.text := by
  have hmap : (dpifs.flatMap (showDpif quotients)).flatMap (fun line => line.text ++ ['\n']) =
      ((dpifs.flatMap (showDpif quotients)).map Line.text).flatMap fun l => l ++ ['\n'] := by
    rw [List.flatMap_map]
  rw [showText, hmap, splitLines_flatMap fun l hl => ?_, List.map_map]
  · rfl
  · obtain ⟨line, -, rfl⟩ := List.mem_map.mp hl
    exact line.noBreak

/-! ### The regular expressions -/

section Separated

variable {c d : Char} {rest : Pattern} {cls : Char → Bool} {word : List Char}

theorem isSpace_of_isFigure (hc : isFigure c = true) : isSpace c = false := by
  rcases Bool.or_eq_true_iff.mp hc with hdigit | hdot
  · exact isSpace_of_isDigit hdigit
  · obtain rfl := beq_iff_eq.mp hdot
    decide

/-- White space before a word. -/
theorem blank_then_word (hd : isSpace d = false) :
    ∀ c, isSpace c = true → Pattern.begins (.lit (d :: word) :: rest) c = false := by
  intro c hc
  change (c == d) = false
  rw [beq_eq_false_iff_ne]
  rintro rfl
  simp [hd] at hc

/-- White space before a number. -/
theorem blank_then_number (name : String) :
    ∀ c, isSpace c = true → Pattern.begins (number name :: rest) c = false := by
  intro c hc
  have hdecimal : isDecimal c = false := by
    by_contra h
    simp [isSpace_of_isDecimal (by simpa using h)] at hc
  simp [Pattern.begins, number, hdecimal]

/-- A number before white space. -/
theorem then_gap (hcls : ∀ c, cls c = true → isSpace c = false) :
    ∀ c, cls c = true → Pattern.begins (gap :: rest) c = false := by
  intro c hc
  simp [Pattern.begins, gap, hcls c hc]

/-- A number at the end of the line. -/
theorem then_end (hcls : ∀ c, cls c = true → isSpace c = false) :
    ∀ c, cls c = true → Pattern.begins [blanks] c = false := by
  intro c hc
  have hfeed : c ≠ '\n' := by
    rintro rfl
    exact absurd (hcls _ hc) (by decide)
  simp [Pattern.begins, blanks, hcls c hc, hfeed]

theorem lookupsRe_separated : lookupsRe.Separated :=
  ⟨.inr (blank_then_word rfl), .inr (blank_then_word rfl),
    .inr (then_gap fun _ => isSpace_of_isDecimal), .inr (blank_then_word rfl),
    .inr (then_gap fun _ => isSpace_of_isDecimal), .inr (blank_then_word rfl),
    .inr (then_end fun _ => isSpace_of_isDecimal), .inl ⟨rfl, rfl⟩, trivial⟩

theorem flowsRe_separated : flowsRe.Separated :=
  ⟨.inr (blank_then_word rfl), .inr (blank_then_number _),
    .inr (then_end fun _ => isSpace_of_isDecimal), .inl ⟨rfl, rfl⟩, trivial⟩

theorem masksRe_separated : masksRe.Separated :=
  ⟨.inr (blank_then_word rfl), .inr (blank_then_word rfl),
    .inr (then_gap fun _ => isSpace_of_isDecimal), .inr (blank_then_word rfl),
    .inr (then_gap fun _ => isSpace_of_isDecimal), .inr (blank_then_word rfl),
    .inr (then_end fun _ => isSpace_of_isFigure), .inl ⟨rfl, rfl⟩, trivial⟩

theorem cacheRe_separated : cacheRe.Separated := by
  have hpercent : ∀ c, isFigure c = true → Pattern.begins [.lit ['%'], blanks] c = false := by
    intro c hc
    change (c == '%') = false
    rw [beq_eq_false_iff_ne]
    rintro rfl
    exact absurd hc (by decide)
  exact ⟨.inr (blank_then_word rfl), .inr (blank_then_word rfl),
    .inr (then_gap fun _ => isSpace_of_isDecimal), .inr (blank_then_word rfl), .inr hpercent,
    .inl ⟨rfl, rfl⟩, trivial⟩

end Separated

/-! ### Lines with statistics -/

section Accepted

variable {rest : Pattern} {u : List Char} {groups : Groups}

theorem parses_blanks {t : List Char} (ht : t.all isSpace = true) (hu : Parses rest u groups) :
    Parses (blanks :: rest) (t ++ u) groups := .piece ⟨Nat.zero_le _, List.all_eq_true.mp ht⟩ hu

theorem parses_gap (hu : Parses rest u groups) : Parses (gap :: rest) ([' '] ++ u) groups :=
  .piece ⟨le_rfl, List.forall_mem_singleton.mpr rfl⟩ hu

theorem parses_lit (text : List Char) (hu : Parses rest u groups) :
    Parses (.lit text :: rest) (text ++ u) groups := .piece rfl hu

theorem parses_number (name : String) (n : ℕ) (hu : Parses rest u groups) :
    Parses (number name :: rest) (natText n ++ u) ((name, natText n) :: groups) :=
  .piece ⟨List.length_pos_iff.mpr Nat.toDigits_ne_nil, fun _ hc =>
    isDecimal_of_isDigit (isDigit_of_mem_natText hc)⟩ hu

theorem parses_figure (name : String) (figure : Figure) (hu : Parses rest u groups) :
    Parses (.many isFigure 1 (some name) :: rest) (figure.text ++ u)
      ((name, figure.text) :: groups) := by
  refine .piece ⟨?_, fun _ hc => isFigure_of_mem_text hc⟩ hu
  simp [Figure.text]
  omega

theorem parses_end : Parses [blanks] [] [] :=
  parses_blanks (t := []) rfl (.done rfl)

theorem lookups_match (hit missed lost : UInt64) :
    lookupsRe.firstMatch (Line.lookups hit missed lost).text =
      some [("hit", natText hit.toNat), ("missed", natText missed.toNat),
        ("lost", natText lost.toNat)] := by
  have htext : (Line.lookups hit missed lost).text =
      [' ', ' '] ++ (['l', 'o', 'o', 'k', 'u', 'p', 's', ':'] ++ ([' '] ++ (['h', 'i', 't', ':'] ++
        (natText hit.toNat ++ ([' '] ++ (['m', 'i', 's', 's', 'e', 'd', ':'] ++
          (natText missed.toNat ++ ([' '] ++ (['l', 'o', 's', 't', ':'] ++
            (natText lost.toNat ++ [])))))))))) := by
    simp [Line.text]
  rw [htext]
  exact firstMatch_of_parses lookupsRe_separated <|
    parses_blanks rfl <| parses_lit _ <| parses_blanks rfl <| parses_lit _ <|
    parses_number _ _ <| parses_gap <| parses_lit _ <| parses_number _ _ <| parses_gap <|
    parses_lit _ <| parses_number _ _ parses_end

theorem flows_match (n : UInt64) :
    flowsRe.firstMatch (Line.flows n).text = some [("flows", natText n.toNat)] := by
  have htext : (Line.flows n).text =
      [' ', ' '] ++ (['f', 'l', 'o', 'w', 's', ':'] ++ ([' '] ++ (natText n.toNat ++ []))) := by
    simp [Line.text]
  rw [htext]
  exact firstMatch_of_parses flowsRe_separated <|
    parses_blanks rfl <| parses_lit _ <| parses_blanks rfl <|
    parses_number _ _ parses_end

theorem masks_match (hit : UInt64) (total : UInt32) (hitPerPkt : Figure) :
    masksRe.firstMatch (Line.masks hit total hitPerPkt).text =
      some [("hit", natText hit.toNat), ("total", natText total.toNat),
        ("hit_per_pkt", hitPerPkt.text)] := by
  have htext : (Line.masks hit total hitPerPkt).text =
      [' ', ' '] ++ (['m', 'a', 's', 'k', 's', ':'] ++ ([' '] ++ (['h', 'i', 't', ':'] ++
        (natText hit.toNat ++ ([' '] ++ (['t', 'o', 't', 'a', 'l', ':'] ++
          (natText total.toNat ++ ([' '] ++ (['h', 'i', 't', '/', 'p', 'k', 't', ':'] ++
            (hitPerPkt.text ++ [])))))))))) := by
    simp [Line.text]
  rw [htext]
  exact firstMatch_of_parses masksRe_separated <|
    parses_blanks rfl <| parses_lit _ <| parses_blanks rfl <| parses_lit _ <|
    parses_number _ _ <| parses_gap <| parses_lit _ <| parses_number _ _ <| parses_gap <|
    parses_lit _ <| parses_figure _ _ parses_end

theorem cache_match (hit : UInt64) (hitRate : Figure) :
    cacheRe.firstMatch (Line.cache hit hitRate).text =
      some [("hit", natText hit.toNat), ("hit_rate", hitRate.text)] := by
  have htext : (Line.cache hit hitRate).text =
      [' ', ' '] ++ (['c', 'a', 'c', 'h', 'e', ':'] ++ ([' '] ++ (['h', 'i', 't', ':'] ++
        (natText hit.toNat ++ ([' '] ++ (['h', 'i', 't', '-', 'r', 'a', 't', 'e', ':'] ++
          (hitRate.text ++ (['%'] ++ [])))))))) := by
    simp [Line.text]
  rw [htext]
  exact firstMatch_of_parses cacheRe_separated <|
    parses_blanks rfl <| parses_lit _ <| parses_blanks rfl <| parses_lit _ <|
    parses_number _ _ <| parses_gap <| parses_lit _ <| parses_figure _ _ <|
    parses_lit _ parses_end

end Accepted

/-! ### Lines that a regular expression rejects -/

section Rejected

/-- A line whose first letter is not that of the pattern. -/
theorem no_match_of_head {c : Char} {word s : List Char} {p : Pattern} (hc : isSpace c = false)
    (hs : (s.dropWhile isSpace).head? ≠ some c) :
    Pattern.firstMatch (blanks :: .lit (c :: word) :: p) s = none :=
  firstMatch_eq_none_iff.mpr fun _ h => hs (head_dropWhile_of_parses hc h)

/-- The last colon of the pattern ends this word, and something has to follow it. -/
def LastWord (pattern : Pattern) (word : List Char) : Prop :=
  ∃ p q : Pattern, pattern = p ++ .lit (word ++ [':']) :: q ∧ q.avoids ':' = true ∧
    q.nullable = false

theorem lookupsRe_lastWord : LastWord lookupsRe ['l', 'o', 's', 't'] :=
  ⟨lookupsRe.take 9, [number "lost", blanks], rfl, by decide, by decide⟩

theorem flowsRe_lastWord : LastWord flowsRe ['f', 'l', 'o', 'w', 's'] :=
  ⟨[blanks], [blanks, number "flows", blanks], rfl, by decide, by decide⟩

theorem masksRe_lastWord : LastWord masksRe ['h', 'i', 't', '/', 'p', 'k', 't'] :=
  ⟨masksRe.take 9, [.many isFigure 1 (some "hit_per_pkt"), blanks], rfl, by decide, by decide⟩

theorem cacheRe_lastWord : LastWord cacheRe ['h', 'i', 't', '-', 'r', 'a', 't', 'e'] :=
  ⟨cacheRe.take 6, [.many isFigure 1 (some "hit_rate"), .lit ['%'], blanks], rfl, by decide,
    by decide⟩

variable {pattern : Pattern} {word : List Char}

/-- A line that ends with its last colon. -/
theorem LastWord.no_match_of_colon (h : LastWord pattern word) (a : List Char) :
    pattern.firstMatch (a ++ [':']) = none := by
  obtain ⟨p, q, rfl, hq, hnull⟩ := h
  refine firstMatch_eq_none_iff.mpr fun groups hparses => ?_
  obtain ⟨-, g, hrest⟩ := around_last_mark hparses hq List.not_mem_nil
  have hnull' := nullable_of_parses hrest
  simp [hnull] at hnull'

/-- A line whose last colon ends another word, at most as long. -/
theorem LastWord.no_match_of_word {other : List Char} (h : LastWord pattern word)
    (hlen : other.length ≤ word.length) (hother : ¬other <:+ word) (a : List Char) (n : ℕ) :
    pattern.firstMatch (a ++ other ++ ':' :: natText n) = none := by
  obtain ⟨p, q, rfl, hq, -⟩ := h
  refine firstMatch_eq_none_iff.mpr fun groups hparses => ?_
  have hcolon : ':' ∉ natText n := fun hc => absurd (isDigit_of_mem_natText hc) (by decide)
  obtain ⟨hword, -⟩ := around_last_mark hparses hq hcolon
  exact hother (List.suffix_of_suffix_length_le (List.suffix_append a other) hword hlen)

/-- None of the four regular expressions accepts the line. -/
def Ignored (text : List Char) : Prop :=
  lookupsRe.firstMatch text = none ∧ flowsRe.firstMatch text = none ∧
    masksRe.firstMatch text = none ∧ cacheRe.firstMatch text = none

/-- A name, and the title of the caches. -/
theorem ignored_of_colon (a : List Char) : Ignored (a ++ [':']) :=
  ⟨lookupsRe_lastWord.no_match_of_colon a, flowsRe_lastWord.no_match_of_colon a,
    masksRe_lastWord.no_match_of_colon a, cacheRe_lastWord.no_match_of_colon a⟩

theorem ignored_cacheSize (label : Text) (size : UInt32) :
    Ignored (Line.cacheSize label size).text := by
  have htext : (Line.cacheSize label size).text =
      ([' ', ' ', ' ', ' '] ++ label.chars ++ [':', ' ']) ++ ['s', 'i', 'z', 'e'] ++
        ':' :: natText size.toNat := by
    simp [Line.text]
  rw [htext]
  exact ⟨lookupsRe_lastWord.no_match_of_word (by decide) (by decide) _ _,
    flowsRe_lastWord.no_match_of_word (by decide) (by decide) _ _,
    masksRe_lastWord.no_match_of_word (by decide) (by decide) _ _,
    cacheRe_lastWord.no_match_of_word (by decide) (by decide) _ _⟩

theorem ignored_port (port : Port) : Ignored (Line.port port).text := by
  have hhead : ((Line.port port).text.dropWhile isSpace).head? = some 'p' := rfl
  refine ⟨no_match_of_head rfl ?_, no_match_of_head rfl ?_, no_match_of_head rfl ?_,
    no_match_of_head rfl ?_⟩ <;> simp [hhead]

end Rejected

/-! ### The loop -/

section Loop

variable (limit : IntLimit)

theorem pyInt_counter (n : UInt64) :
    pyInt limit.digits (String.ofList (natText n.toNat)) = .ok (n.toNat : ℤ) :=
  pyInt_intText (n := (n.toNat : ℤ)) (fits_of_natAbs_lt n.toNat_lt_size limit.valid)

def Totals.read (totals : Totals) : Line → Totals
  | .lookups hit missed lost => { totals with
      lookupsHit := totals.lookupsHit + hit.toNat
      lookupsMissed := totals.lookupsMissed + missed.toNat
      lookupsLost := totals.lookupsLost + lost.toNat
      hasDatapathStats := true }
  | .flows n => { totals with
      datapathFlows := totals.datapathFlows + n.toNat
      hasDatapathStats := true }
  | .masks hit _ _ => { totals with
      totalMaskHits := totals.totalMaskHits + hit.toNat
      hasMaskStats := true }
  | .cache hit _ => { totals with
      totalCacheHits := totals.totalCacheHits + hit.toNat
      hasCacheStats := true }
  | .name _ | .caches | .cacheSize _ _ | .port _ => totals

theorem parseLine_of_ignored (totals : Totals) {text : List Char} (h : Ignored text) :
    limit.parseLine totals (String.ofList text) = .ok totals := by
  obtain ⟨hlookups, hflows, hmasks, hcache⟩ := h
  rw [IntLimit.parseLine, String.toList_ofList, hlookups, hflows, hmasks, hcache]
  rfl

theorem groupInt_eq (groups : Groups) (name : String) : limit.groupInt groups name =
    (pyInt limit.digits (String.ofList ((groups.lookup name).getD []))).mapError
      (.other "ValueError") := by
  delta IntLimit.groupInt
  cases pyInt limit.digits (String.ofList ((groups.lookup name).getD [])) <;> rfl

theorem parseLine_text (totals : Totals) (line : Line) :
    limit.parseLine totals (String.ofList line.text) = .ok (totals.read line) := by
  cases line with
  | name label => exact parseLine_of_ignored limit totals (ignored_of_colon label.chars)
  | lookups hit missed lost =>
    simp [IntLimit.parseLine, lookups_match, groupInt_eq, List.lookup_cons, pyInt_counter,
      Except.mapError, Totals.read]
    rfl
  | flows n =>
    have hhead : ((Line.flows n).text.dropWhile isSpace).head? = some 'f' := rfl
    have hlookups : lookupsRe.firstMatch (Line.flows n).text = none :=
      no_match_of_head rfl (by simp [hhead])
    simp [IntLimit.parseLine, hlookups, flows_match, groupInt_eq, pyInt_counter,
      Except.mapError, Totals.read]
  | masks hit total hitPerPkt =>
    have hhead : ((Line.masks hit total hitPerPkt).text.dropWhile isSpace).head? = some 'm' := rfl
    have hlookups : lookupsRe.firstMatch (Line.masks hit total hitPerPkt).text = none :=
      no_match_of_head rfl (by simp [hhead])
    have hflows : flowsRe.firstMatch (Line.masks hit total hitPerPkt).text = none :=
      no_match_of_head rfl (by simp [hhead])
    simp [IntLimit.parseLine, hlookups, hflows, masks_match, groupInt_eq, pyInt_counter,
      Except.mapError, Totals.read]
  | cache hit hitRate =>
    have hhead : ((Line.cache hit hitRate).text.dropWhile isSpace).head? = some 'c' := rfl
    have hlookups : lookupsRe.firstMatch (Line.cache hit hitRate).text = none :=
      no_match_of_head rfl (by simp [hhead])
    have hflows : flowsRe.firstMatch (Line.cache hit hitRate).text = none :=
      no_match_of_head rfl (by simp [hhead])
    have hmasks : masksRe.firstMatch (Line.cache hit hitRate).text = none :=
      no_match_of_head rfl (by simp [hhead])
    simp [IntLimit.parseLine, hlookups, hflows, hmasks, cache_match, groupInt_eq,
      pyInt_counter, Except.mapError, Totals.read]
  | caches =>
    exact parseLine_of_ignored limit totals
      (ignored_of_colon [' ', ' ', 'c', 'a', 'c', 'h', 'e', 's'])
  | cacheSize label size => exact parseLine_of_ignored limit totals (ignored_cacheSize label size)
  | port port => exact parseLine_of_ignored limit totals (ignored_port port)

/-- The lines of a whole output are read one after another. -/
theorem foldlM_parseLine (quotients : Quotients) (dpifs : List Dpif) (totals : Totals) :
    (splitLines (showText quotients dpifs)).foldlM limit.parseLine totals =
      .ok ((dpifs.flatMap (showDpif quotients)).foldl Totals.read totals) := by
  rw [splitLines_showText, List.foldlM_map]
  simp only [parseLine_text]
  exact List.foldlM_pure

end Loop

/-! ### What the sums are -/

def DpStats.maskHits (stats : DpStats) : Option UInt64 :=
  if stats.nMasks ≠ 0xffffffff then some stats.nMaskHit else none

def DpStats.cacheHits (stats : DpStats) : Option UInt64 :=
  if stats.nMasks ≠ 0xffffffff ∧ stats.nCacheHit ≠ 0xffffffffffffffff then some stats.nCacheHit
  else none

def printed (dpifs : List Dpif) : List DpStats := dpifs.filterMap Dpif.stats

def sumOf (counters : List UInt64) : ℕ := (counters.map UInt64.toNat).sum

/-- The hits per packet, scaled and to three decimals, as doubles have it. -/
def perPacket (scaled : PyFloat → PyFloat) (hits : List UInt64) (packets : ℕ) : Option PyFloat :=
  if hits ≠ [] ∧ 0 < packets then
    some (scaled (.fin (nearest (sumOf hits / packets)))).round3
  else none

def packetsOf (stats : List DpStats) : ℕ :=
  sumOf (stats.map DpStats.nHit) + sumOf (stats.map DpStats.nMissed)

def summed (stats : List DpStats) : DatapathMetrics where
  datapathFlows := sumOf (stats.map DpStats.nFlows)
  lookupsHit := sumOf (stats.map DpStats.nHit)
  lookupsMissed := sumOf (stats.map DpStats.nMissed)
  lookupsLost := sumOf (stats.map DpStats.nLost)
  cacheHitRate := perPacket (.nsmul 100) (stats.filterMap DpStats.cacheHits) (packetsOf stats)
  maskHitPerPkt := perPacket id (stats.filterMap DpStats.maskHits) (packetsOf stats)

def Totals.count (totals : Totals) (stats : DpStats) : Totals :=
  { lookupsHit := totals.lookupsHit + stats.nHit.toNat
    lookupsMissed := totals.lookupsMissed + stats.nMissed.toNat
    lookupsLost := totals.lookupsLost + stats.nLost.toNat
    datapathFlows := totals.datapathFlows + stats.nFlows.toNat
    totalMaskHits := totals.totalMaskHits + sumOf stats.maskHits.toList
    totalCacheHits := totals.totalCacheHits + sumOf stats.cacheHits.toList
    hasMaskStats := totals.hasMaskStats || stats.maskHits.isSome
    hasCacheStats := totals.hasCacheStats || stats.cacheHits.isSome
    hasDatapathStats := true }

theorem foldl_read_stats (quotients : Quotients) (totals : Totals) (stats : DpStats) :
    (DpStats.lines quotients stats).foldl Totals.read totals = totals.count stats := by
  by_cases hmasks : stats.nMasks = 0xffffffff <;>
    by_cases hcache : stats.nCacheHit = 0xffffffffffffffff <;>
      simp [DpStats.lines, Totals.count, Totals.read, DpStats.maskHits, DpStats.cacheHits, sumOf,
        hmasks, hcache]

theorem foldl_read_quiet {lines : List Line}
    (h : ∀ line ∈ lines, ∀ totals, Totals.read totals line = totals) (totals : Totals) :
    lines.foldl Totals.read totals = totals := by
  induction lines with
  | nil => rfl
  | cons line lines ih =>
    rw [List.foldl_cons, h line List.mem_cons_self]
    exact ih fun line' hline => h line' (List.mem_cons_of_mem _ hline)

theorem foldl_read_showDpif (quotients : Quotients) (totals : Totals) (dpif : Dpif) :
    (showDpif quotients dpif).foldl Totals.read totals = dpif.stats.elim totals totals.count := by
  have hcaches : ∀ line ∈ cacheLines dpif.caches, ∀ totals, Totals.read totals line = totals := by
    cases dpif.caches with
    | none => simp [cacheLines]
    | some caches =>
      intro line hline totals
      rcases List.mem_cons.mp hline with rfl | hline
      · rfl
      · obtain ⟨cache, -, rfl⟩ := List.mem_map.mp hline
        rfl
  have hports : ∀ line ∈ dpif.ports.map Line.port, ∀ totals, Totals.read totals line = totals := by
    simp [Totals.read]
  rw [showDpif, List.foldl_append, List.foldl_append, List.foldl_cons, foldl_read_quiet hports,
    foldl_read_quiet hcaches]
  cases dpif.stats with
  | none => rfl
  | some stats => exact foldl_read_stats quotients totals stats

theorem foldl_read_dpifs (quotients : Quotients) (totals : Totals) (dpifs : List Dpif) :
    (dpifs.flatMap (showDpif quotients)).foldl Totals.read totals =
      (printed dpifs).foldl Totals.count totals := by
  rw [List.foldl_flatMap]
  simp only [foldl_read_showDpif]
  induction dpifs generalizing totals with
  | nil => rfl
  | cons dpif dpifs ih =>
    rw [List.foldl_cons, ih]
    unfold printed
    rw [List.filterMap_cons]
    cases dpif.stats with
    | none => rfl
    | some stats => rfl

/-- The whole loop, over the statistics that were printed. -/
theorem foldl_count (totals : Totals) (stats : List DpStats) :
    stats.foldl Totals.count totals =
      { lookupsHit := totals.lookupsHit + sumOf (stats.map DpStats.nHit)
        lookupsMissed := totals.lookupsMissed + sumOf (stats.map DpStats.nMissed)
        lookupsLost := totals.lookupsLost + sumOf (stats.map DpStats.nLost)
        datapathFlows := totals.datapathFlows + sumOf (stats.map DpStats.nFlows)
        totalMaskHits := totals.totalMaskHits + sumOf (stats.filterMap DpStats.maskHits)
        totalCacheHits := totals.totalCacheHits + sumOf (stats.filterMap DpStats.cacheHits)
        hasMaskStats := totals.hasMaskStats || (stats.filterMap DpStats.maskHits != [])
        hasCacheStats := totals.hasCacheStats || (stats.filterMap DpStats.cacheHits != [])
        hasDatapathStats := totals.hasDatapathStats || !stats.isEmpty } := by
  induction stats generalizing totals with
  | nil => simp [sumOf]
  | cons stats rest ih =>
    rw [List.foldl_cons, ih]
    cases hmasks : stats.maskHits <;> cases hcache : stats.cacheHits <;>
      simp [Totals.count, sumOf, hmasks, hcache, add_assoc]

theorem eq_nil_iff_of_perm {α : Type} {a b : List α} (h : a.Perm b) : a = [] ↔ b = [] := by
  rw [← List.length_eq_zero_iff, h.length_eq, List.length_eq_zero_iff]

theorem sumOf_perm {a b : List UInt64} (h : a.Perm b) : sumOf a = sumOf b :=
  (h.map UInt64.toNat).sum_eq

theorem perPacket_perm (scaled : PyFloat → PyFloat) {a b : List UInt64} (h : a.Perm b)
    (packets : ℕ) : perPacket scaled a packets = perPacket scaled b packets := by
  unfold perPacket
  simp only [sumOf_perm h, ne_eq, eq_nil_iff_of_perm h]

theorem summed_perm {a b : List DpStats} (h : a.Perm b) : summed a = summed b := by
  simp only [summed, packetsOf, sumOf_perm (h.map _), perPacket_perm _ (h.filterMap _)]

/-- What `_parse_dpctl_show` makes of the output for these datapaths. -/
def expected (dpifs : List Dpif) : Except Exc DatapathMetrics :=
  if printed dpifs = [] then .error noStats else .ok (summed (printed dpifs))

/-! ### The quotients -/

section Quotients

variable {hits : List UInt64} {packets : ℕ}

/-- The sum of fewer than 2 ^ 64 counters. -/
theorem sumOf_le (h : hits.length < 2 ^ 64) : sumOf hits ≤ 2 ^ 128 := by
  have hsum := List.sum_le_card_nsmul (hits.map UInt64.toNat) (2 ^ 64) fun n hn => by
    obtain ⟨counter, -, rfl⟩ := List.mem_map.mp hn
    exact counter.toNat_lt.le
  rw [List.length_map] at hsum
  calc sumOf hits ≤ hits.length * 2 ^ 64 := hsum
    _ ≤ 2 ^ 128 := by omega

theorem quotient_le (packets : ℕ) (h : hits.length < 2 ^ 64) : (sumOf hits : ℚ) / packets ≤ 2 ^ 128 := by
  have hsum : (sumOf hits : ℚ) ≤ 2 ^ 128 := by exact_mod_cast sumOf_le h
  rcases Nat.eq_zero_or_pos packets with rfl | hpos
  · simp
  · exact (div_le_self (Nat.cast_nonneg _) (by exact_mod_cast hpos)).trans hsum

/-- The division of the function does not overflow. -/
theorem trueDiv_eq (h : hits.length < 2 ^ 64) :
    trueDiv (sumOf hits) packets = .ok (.fin (nearest (sumOf hits / packets))) := by
  have hnonneg : (0 : ℚ) ≤ (sumOf hits : ℚ) / packets := by positivity
  have hquotient := quotient_le packets h
  have hdouble : nearestDouble (sumOf hits / packets) = some (nearest (sumOf hits / packets)) :=
    nearestDouble_of_abs_le (by rw [abs_of_nonneg hnonneg]; linarith)
  unfold trueDiv
  push_cast
  rw [hdouble]

/-- A figure is there exactly if such a line was printed and there are packets, and it is then
the scaled quotient, up to rounding to three decimals and to doubles. -/
def Accurate (scale : ℚ) (hits : List UInt64) (packets : ℕ) (figure : Option PyFloat) : Prop :=
  if hits ≠ [] ∧ 0 < packets then
    ∃ q, figure = some (.fin q) ∧
      |q - scale * (sumOf hits / packets)| ≤ 51 / 100000 + scale * (sumOf hits / packets) / 2 ^ 50
  else figure = none

/-- Three roundings of a number near `x`. -/
theorem round3_near {x y : ℚ} (hx : 0 ≤ x) (hlarge : x ≤ 2 ^ 140)
    (hy : |y - x| ≤ x / 2 ^ 51 + 1 / 2 ^ 60) :
    ∃ q, (PyFloat.fin y).round3 = .fin q ∧ |q - x| ≤ 51 / 100000 + x / 2 ^ 50 := by
  have hmillis := abs_le.mp (abs_roundMillis_sub_le y)
  have hnear := abs_le.mp hy
  have habs : |roundMillis y| ≤ x + x / 2 ^ 51 + 1 / 2 ^ 60 + 1 / 2000 :=
    abs_le.mpr ⟨by linarith, by linarith⟩
  have herror := abs_le.mp (abs_nearest_sub_le (roundMillis y))
  have hdouble : nearestDouble (roundMillis y) = some (nearest (roundMillis y)) :=
    nearestDouble_of_abs_le (by linarith)
  refine ⟨nearest (roundMillis y), ?_, abs_le.mpr ⟨by linarith, by linarith⟩⟩
  exact PyFloat.double_of_nearestDouble hdouble

theorem accurate_maskHits (h : hits.length < 2 ^ 64) :
    Accurate 1 hits packets (perPacket id hits packets) := by
  unfold Accurate perPacket
  split_ifs
  · have hnonneg : (0 : ℚ) ≤ (sumOf hits : ℚ) / packets := by positivity
    have hquotient := quotient_le packets h
    have herror := abs_nearest_sub_le (sumOf hits / packets)
    rw [abs_of_nonneg hnonneg] at herror
    obtain ⟨q, hq, hnear⟩ := round3_near hnonneg (by linarith) (herror.trans (by linarith))
    exact ⟨q, congrArg some hq, by rwa [one_mul]⟩
  · rfl

theorem accurate_cacheHits (h : hits.length < 2 ^ 64) :
    Accurate 100 hits packets (perPacket (.nsmul 100) hits packets) := by
  unfold Accurate perPacket
  split_ifs
  · have hnonneg : (0 : ℚ) ≤ (sumOf hits : ℚ) / packets := by positivity
    have hquotient := quotient_le packets h
    generalize (sumOf hits : ℚ) / packets = x at hnonneg hquotient ⊢
    have hx := abs_le.mp (abs_nearest_sub_le x)
    rw [abs_of_nonneg hnonneg] at hx
    have hscaled : |100 * nearest x| ≤ 100 * (x + x / 2 ^ 53 + 1 / 2 ^ 101) :=
      abs_le.mpr ⟨by linarith, by linarith⟩
    have hy := abs_le.mp (abs_nearest_sub_le (100 * nearest x))
    have hdouble : PyFloat.nsmul 100 (.fin (nearest x)) = .fin (nearest (100 * nearest x)) := by
      change PyFloat.double ((100 : ℕ) * nearest x) = _
      rw [Nat.cast_ofNat]
      exact PyFloat.double_of_nearestDouble (nearestDouble_of_abs_le (by linarith))
    obtain ⟨q, hq, hnear⟩ := round3_near (x := 100 * x) (y := nearest (100 * nearest x))
      (by linarith) (by linarith) (abs_le.mpr ⟨by linarith, by linarith⟩)
    exact ⟨q, by rw [hdouble, hq], hnear⟩
  · rfl

end Quotients

theorem metrics_foldl_count (stats : List DpStats) (h : stats.length < 2 ^ 64) :
    (stats.foldl Totals.count {}).metrics =
      if stats = [] then .error noStats else .ok (summed stats) := by
  have hpackets : ((sumOf (stats.map DpStats.nHit) : ℤ) + sumOf (stats.map DpStats.nMissed)) =
      (packetsOf stats : ℤ) := by
    unfold packetsOf
    push_cast
    rfl
  have hcache : (stats.filterMap DpStats.cacheHits).length < 2 ^ 64 :=
    (List.length_filterMap_le _ _).trans_lt h
  have hmasks : (stats.filterMap DpStats.maskHits).length < 2 ^ 64 :=
    (List.length_filterMap_le _ _).trans_lt h
  cases stats with
  | nil => rfl
  | cons first rest =>
    rw [foldl_count, if_neg (List.cons_ne_nil first rest)]
    simp only [Totals.metrics, zero_add, Bool.false_or, hpackets, trueDiv_eq hcache,
      trueDiv_eq hmasks, summed, perPacket, bne_iff_ne, Nat.pos_iff_ne_zero, ne_eq,
      Nat.cast_eq_zero, List.isEmpty_cons, Bool.not_false, if_true]
    split_ifs <;> rfl

theorem expected_perm {dpifs dpifs' : List Dpif} (h : dpifs.Perm dpifs') :
    expected dpifs' = expected dpifs := by
  have hprinted : (printed dpifs').Perm (printed dpifs) := h.symm.filterMap _
  simp only [expected, summed_perm hprinted, eq_nil_iff_of_perm hprinted]

/-- The whole function on what is printed. -/
theorem parseDpctlShow_showText (limit : IntLimit) (quotients : Quotients) {dpifs : List Dpif}
    (h : dpifs.length < 2 ^ 64) : limit.parseDpctlShow (showText quotients dpifs) = expected dpifs := by
  rw [IntLimit.parseDpctlShow, foldlM_parseLine, foldl_read_dpifs]
  exact metrics_foldl_count (printed dpifs) ((List.length_filterMap_le _ _).trans_lt h)

/-- What is printed for the datapaths is read as the sums over those with statistics, or as an
error if there are none, in whatever order they were printed. -/
theorem datapath_stats_read_as_printed (limit : IntLimit) (quotients : Quotients)
    (dpifs : List Dpif) (hfew : dpifs.length < 2 ^ 64) :
    limit.parseDpctlShow (showText quotients dpifs) = expected dpifs ∧
      (∀ metrics, limit.parseDpctlShow (showText quotients dpifs) = .ok metrics →
        Accurate 100 ((printed dpifs).filterMap DpStats.cacheHits) (packetsOf (printed dpifs))
          metrics.cacheHitRate ∧
        Accurate 1 ((printed dpifs).filterMap DpStats.maskHits) (packetsOf (printed dpifs))
          metrics.maskHitPerPkt) ∧
      ∀ dpifs', dpifs.Perm dpifs' → limit.parseDpctlShow (showText quotients dpifs') =
        limit.parseDpctlShow (showText quotients dpifs) := by
  have hprinted : (printed dpifs).length < 2 ^ 64 := (List.length_filterMap_le _ _).trans_lt hfew
  rw [parseDpctlShow_showText limit quotients hfew]
  refine ⟨rfl, fun metrics hmetrics => ?_, fun dpifs' hperm => ?_⟩
  · unfold expected at hmetrics
    split_ifs at hmetrics
    obtain rfl := Except.ok.inj hmetrics
    exact ⟨accurate_cacheHits ((List.length_filterMap_le _ _).trans_lt hprinted),
      accurate_maskHits ((List.length_filterMap_le _ _).trans_lt hprinted)⟩
  · rw [parseDpctlShow_showText limit quotients (hperm.length_eq ▸ hfew), expected_perm hperm]

theorem noBreak_br : NoBreak ['b', 'r'] := by decide

/-- A datapath with masks, without statistics of its cache, and with one port. -/
def sampleDpif (maskHits nHit : UInt64) : Dpif where
  name := ⟨['b', 'r'], noBreak_br⟩
  stats := some ⟨nHit, 0, 0, 3, 2, maskHits, 0xffffffffffffffff⟩
  caches := some [(⟨['b', 'r'], noBreak_br⟩, 256)]
  ports := [⟨0, ⟨['b', 'r'], noBreak_br⟩, ⟨['b', 'r'], noBreak_br⟩, .config []⟩]

def sampleQuotients : Quotients := ⟨fun _ _ => .zero, fun _ _ => .zero⟩

example : showText sampleQuotients [sampleDpif 60 30] =
    "br:\n  lookups: hit:30 missed:0 lost:0\n  flows: 3\n" ++
      "  masks: hit:60 total:2 hit/pkt:0.00\n  caches:\n    br: size:256\n  port 0: br (br)\n" := by
  decide +kernel

theorem datapath_stats_read_as_printed_sample :
    (⟨0, .inl rfl⟩ : IntLimit).parseDpctlShow
        (showText sampleQuotients [sampleDpif 60 30, sampleDpif 1 10]) =
      .ok ⟨6, 40, 0, 0, none, some (.fin (nearest (61 / 40)))⟩ := by
  rw [(datapath_stats_read_as_printed _ sampleQuotients [sampleDpif 60 30, sampleDpif 1 10]
    (by decide)).1]
  decide +kernel

/-- 2 ^ 53 + 1 hits in one packet are not a double: the figure is one hit short, and three
decimals of the exact quotient would not be. -/
theorem mask_hits_rounded_to_double :
    (⟨0, .inl rfl⟩ : IntLimit).parseDpctlShow
        (showText sampleQuotients [sampleDpif 9007199254740993 1]) =
      .ok ⟨3, 1, 0, 0, none, some (.fin (2 ^ 53))⟩ ∧
    roundMillis ((2 ^ 53 + 1) / 1) = 2 ^ 53 + 1 := by
  rw [parseDpctlShow_showText _ _ (by decide)]
  decide +kernel

end OvnApi.Datapath
