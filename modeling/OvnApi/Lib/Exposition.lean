import Mathlib.Data.List.Nodup
import Mathlib.Data.List.TakeWhile
import Mathlib.Tactic.Common

/-! The Prometheus text exposition format, version 0.0.4, as its reader sees it. A
page is a sequence of lines that each end in a line feed. Blank lines and lines that
begin with `#` carry no sample; every other line is a metric name, a label set in
braces that may be left out, a value and an optional timestamp. Inside the quotes of a
label value a backslash escapes a backslash, a double quote or, as `\n`, a line feed. -/

namespace OvnApi.Lib.Exposition

def isBlank (c : Char) : Bool := c == ' ' || c == '\t'

def isNameStart (c : Char) : Bool := c.isAlpha || c == '_' || c == ':'

def isNameChar (c : Char) : Bool := isNameStart c || c.isDigit

def isLabelStart (c : Char) : Bool := c.isAlpha || c == '_'

def isLabelChar (c : Char) : Bool := isLabelStart c || c.isDigit

/-- A first character of one kind, and then only characters of another. -/
def isName (start inside : Char → Bool) : List Char → Bool
  | [] => false
  | c :: cs => start c && cs.all inside

/-- The check of a literal, on its characters. -/
theorem isName_ofList {start inside : Char → Bool} {chars : List Char}
    (h : isName start inside chars = true) : isName start inside (String.ofList chars).toList = true := by
  rwa [String.toList_ofList]

abbrev MetricName := { name : String // isName isNameStart isNameChar name.toList = true }

abbrev LabelName := { name : String // isName isLabelStart isLabelChar name.toList = true }

def isTokenChar (c : Char) : Bool := !isBlank c && c != '\n' && c != '{'

/-- How the numbers of `ν` are written and read: the text of a number is one token. -/
class NumberFormat (ν : Type) where
  text : ν → List Char
  read : List Char → Option ν
  read_text : ∀ v, read (text v) = some v
  token : ∀ v, isName isTokenChar isTokenChar (text v) = true

structure Sample (ν : Type) where
  name : String
  labels : List (String × String)
  value : ν
  deriving DecidableEq

/-! ### The reader -/

def skipBlanks : List Char → List Char := List.dropWhile isBlank

def readName (start inside : Char → Bool) : List Char → Option (List Char × List Char)
  | [] => none
  | c :: cs => if start c then some (c :: cs.takeWhile inside, cs.dropWhile inside) else none

def unescape (c : Char) : Option Char :=
  if c = '\\' then some '\\'
  else if c = '"' then some '"'
  else if c = 'n' then some '\n'
  else none

/-- The value up to its closing quote, and what follows the quote. -/
def readValue : List Char → Option (List Char × List Char)
  | [] => none
  | c :: rest =>
    if c = '"' then some ([], rest)
    else if c = '\\' then
      match rest with
      | [] => none
      | e :: rest => (unescape e).bind fun c => (readValue rest).map (Prod.map (c :: ·) id)
    else (readValue rest).map (Prod.map (c :: ·) id)

def readLabel (input : List Char) : Option ((String × String) × List Char) :=
  (readName isLabelStart isLabelChar (skipBlanks input)).bind fun (name, rest) =>
    match skipBlanks rest with
    | '=' :: rest =>
      match skipBlanks rest with
      | '"' :: rest => (readValue rest).map fun (value, rest) =>
          ((String.ofList name, String.ofList value), skipBlanks rest)
      | _ => none
    | _ => none

/-- The labels up to the closing brace; a comma may stand before it. A label takes at
least one character, so the length of the input bounds the number of rounds. -/
def readLabels : ℕ → List Char → Option (List (String × String) × List Char)
  | 0, _ => none
  | rounds + 1, input =>
    match skipBlanks input with
    | '}' :: rest => some ([], rest)
    | _ => (readLabel input).bind fun (label, rest) =>
      match rest with
      | ',' :: rest => (readLabels rounds rest).map (Prod.map (label :: ·) id)
      | '}' :: rest => some ([label], rest)
      | _ => none

/-- The label set of a sample. Without one, a blank ends the name. -/
def readLabelSet (input : List Char) : Option (List (String × String) × List Char) :=
  match skipBlanks input with
  | '{' :: rest => (readLabels rest.length rest).filter fun read =>
      decide (read.1.map Prod.fst).Nodup
  | rest => if input.head?.any isBlank then some ([], rest) else none

/-- What may stand after a value: nothing, or a timestamp in milliseconds. -/
def isTimestamp (input : List Char) : Bool :=
  input.isEmpty ||
    isName (fun c => c.isDigit || c == '-') Char.isDigit (input.takeWhile (!isBlank ·)) &&
      (input.dropWhile (!isBlank ·)).all isBlank

variable {ν : Type} [NumberFormat ν]

def readSample (line : List Char) : Option (Sample ν) :=
  (readName isNameStart isNameChar line).bind fun (name, rest) =>
    (readLabelSet rest).bind fun (labels, rest) =>
      let rest := skipBlanks rest
      if isTimestamp (skipBlanks (rest.dropWhile (!isBlank ·))) then
        (NumberFormat.read (rest.takeWhile (!isBlank ·))).map (⟨String.ofList name, labels, ·⟩)
      else none

def readLine (line : List Char) : Option (List (Sample ν)) :=
  match skipBlanks line with
  | [] => some []
  | '#' :: _ => some []
  | line => (readSample line).map ([·])

/-- The lines in turn; what follows the last line feed must be empty. -/
def readLines : List (List Char) → Option (List (Sample ν))
  | [] => none
  | [last] => if last.isEmpty then some [] else none
  | line :: rest => (readLine line).bind fun samples => (readLines rest).map (samples ++ ·)

def readPage (page : List Char) : Option (List (Sample ν)) := readLines (page.splitOn '\n')

/-- A text of one line: its only line feed is the last character. -/
def IsLine (text : List Char) : Prop := ∃ line, '\n' ∉ line ∧ text = line ++ ['\n']

/-! ### Reading what was written

Each rule says what the reader does at the front of its input, whatever follows. -/

theorem readName_append {start inside : Char → Bool} {name : List Char} {c : Char}
    (hname : isName start inside name = true) (hc : inside c = false) (rest : List Char) :
    readName start inside (name ++ c :: rest) = some (name, c :: rest) := by
  cases name with
  | nil => simp [isName] at hname
  | cons d ds =>
    simp only [isName, Bool.and_eq_true, List.all_eq_true] at hname
    simp [readName, hname.1, List.takeWhile_append_of_pos hname.2,
      List.dropWhile_append_of_pos hname.2, hc]

theorem isName_head {start inside : Char → Bool} {name : List Char}
    (hname : isName start inside name = true) :
    ∃ c cs, name = c :: cs ∧ start c = true := by
  cases name with
  | nil => simp [isName] at hname
  | cons c cs =>
    simp only [isName, Bool.and_eq_true] at hname
    exact ⟨c, cs, rfl, hname.1⟩

/-- The text `quoted` stands for `value` between quotes. -/
def Quotes (quoted value : List Char) : Prop :=
  ∀ rest, readValue (quoted ++ '"' :: rest) = some (value, rest)

theorem readValue_quote (rest : List Char) : readValue ('"' :: rest) = some ([], rest) := by
  rw [readValue.eq_def]
  simp

theorem readValue_plain {c : Char} (hquote : c ≠ '"') (hslash : c ≠ '\\') (rest : List Char) :
    readValue (c :: rest) = (readValue rest).map (Prod.map (c :: ·) id) := by
  rw [readValue.eq_def]
  simp [hquote, hslash]

theorem quotes_nil : Quotes [] [] := readValue_quote

theorem Quotes.escaped {quoted value : List Char} (h : Quotes quoted value) {e c : Char}
    (he : unescape e = some c) : Quotes ('\\' :: e :: quoted) (c :: value) := by
  intro rest
  simp [readValue, he, h rest]

theorem Quotes.plain {quoted value : List Char} (h : Quotes quoted value) {c : Char}
    (hquote : c ≠ '"') (hslash : c ≠ '\\') : Quotes (c :: quoted) (c :: value) := by
  intro rest
  rw [List.cons_append, readValue_plain hquote hslash, h rest]
  rfl

theorem skipBlanks_cons {c : Char} (hc : isBlank c = false) (rest : List Char) :
    skipBlanks (c :: rest) = c :: rest := by
  simp [skipBlanks, hc]

theorem isBlank_of_isLabelStart {c : Char} (hc : isLabelStart c = true) : isBlank c = false := by
  by_contra h
  simp only [isBlank, Bool.not_eq_false, Bool.or_eq_true, beq_iff_eq] at h
  rcases h with rfl | rfl <;> revert hc <;> decide

theorem isBlank_of_isNameStart {c : Char} (hc : isNameStart c = true) : isBlank c = false := by
  by_contra h
  simp only [isBlank, Bool.not_eq_false, Bool.or_eq_true, beq_iff_eq] at h
  rcases h with rfl | rfl <;> revert hc <;> decide

def labelText (name quoted : List Char) : List Char := name ++ '=' :: '"' :: quoted ++ ['"']

theorem skipBlanks_label {name : List Char} (hname : isName isLabelStart isLabelChar name = true)
    (rest : List Char) : skipBlanks (name ++ rest) = name ++ rest := by
  obtain ⟨c, cs, rfl, hc⟩ := isName_head hname
  exact skipBlanks_cons (isBlank_of_isLabelStart hc) _

theorem readLabel_labelText {name quoted value : List Char} {c : Char}
    (hname : isName isLabelStart isLabelChar name = true) (hquoted : Quotes quoted value)
    (hc : isBlank c = false) (rest : List Char) :
    readLabel (labelText name quoted ++ c :: rest) =
      some ((String.ofList name, String.ofList value), c :: rest) := by
  have hinput : labelText name quoted ++ c :: rest =
      name ++ '=' :: '"' :: (quoted ++ '"' :: c :: rest) := by
    simp [labelText]
  have hequals : isLabelChar '=' = false := by decide
  rw [hinput, readLabel, skipBlanks_label hname, readName_append hname hequals]
  simp only [Option.bind_some, skipBlanks_cons (show isBlank '=' = false by decide),
    skipBlanks_cons (show isBlank '"' = false by decide), hquoted (c :: rest), Option.map_some,
    skipBlanks_cons hc]

/-- A label never begins as the end of the label set does. -/
theorem skipBlanks_label_ne {name : List Char} (hname : isName isLabelStart isLabelChar name = true)
    (rest tail : List Char) : skipBlanks (name ++ rest) ≠ '}' :: tail := by
  rw [skipBlanks_label hname]
  obtain ⟨c, cs, rfl, hc⟩ := isName_head hname
  intro heq
  obtain rfl := (List.cons.inj heq).1
  exact absurd hc (by decide)

theorem skipBlanks_labelText_ne {name quoted : List Char}
    (hname : isName isLabelStart isLabelChar name = true) (rest tail : List Char) :
    skipBlanks (labelText name quoted ++ rest) ≠ '}' :: tail := by
  rw [labelText, List.append_assoc, List.append_assoc]
  exact skipBlanks_label_ne hname _ tail

theorem readLabels_succ {rounds : ℕ} {input : List Char}
    (h : ∀ rest, skipBlanks input ≠ '}' :: rest) :
    readLabels (rounds + 1) input = (readLabel input).bind fun (label, rest) =>
      match rest with
      | ',' :: rest => (readLabels rounds rest).map (Prod.map (label :: ·) id)
      | '}' :: rest => some ([label], rest)
      | _ => none := by
  rw [readLabels]
  split
  · rename_i rest hskip
    exact absurd hskip (h rest)
  · rfl

def labelsText (labels : List (List Char × List Char)) : List Char :=
  [','].intercalate (labels.map fun label => labelText label.1 label.2)

theorem labelsText_singleton (q : List Char × List Char) : labelsText [q] = labelText q.1 q.2 := by
  simp [labelsText, List.intercalate]

theorem labelsText_cons_cons (q q' : List Char × List Char) (qs : List (List Char × List Char)) :
    labelsText (q :: q' :: qs) = labelText q.1 q.2 ++ ',' :: labelsText (q' :: qs) := by
  simp [labelsText, List.intercalate]

/-- Every label but the last is followed by a comma. -/
theorem labelsText_append_cons (before after : List (List Char × List Char))
    (q : List Char × List Char) :
    ∃ tail, labelsText (before ++ q :: after) =
      (before.flatMap fun q => labelText q.1 q.2 ++ [',']) ++ (labelText q.1 q.2 ++ tail) := by
  induction before with
  | nil =>
    cases after with
    | nil => exact ⟨[], by simp [labelsText_singleton]⟩
    | cons q' after => exact ⟨',' :: labelsText (q' :: after), by simp [labelsText_cons_cons]⟩
  | cons b before ih =>
    obtain ⟨tail, ih⟩ := ih
    refine ⟨tail, ?_⟩
    have hcons : labelsText (b :: (before ++ q :: after)) =
        labelText b.1 b.2 ++ ',' :: labelsText (before ++ q :: after) := by
      cases before <;> exact labelsText_cons_cons _ _ _
    rw [List.cons_append, hcons, ih]
    simp

/-- The written labels `quoted` stand for `labels`. -/
def LabelsQuote : List (List Char × List Char) → List (String × String) → Prop :=
  List.Forall₂ fun quoted label =>
    isName isLabelStart isLabelChar quoted.1 = true ∧ String.ofList quoted.1 = label.1 ∧
      Quotes quoted.2 label.2.toList

theorem readLabels_labelsText {quoted : List (List Char × List Char)}
    {labels : List (String × String)} (h : LabelsQuote quoted labels) (hne : quoted ≠ [])
    (rest : List Char) {rounds : ℕ} (hrounds : quoted.length ≤ rounds) :
    readLabels rounds (labelsText quoted ++ '}' :: rest) = some (labels, rest) := by
  induction h generalizing rounds with
  | nil => exact absurd rfl hne
  | @cons q label qs labels hq htail ih =>
    obtain ⟨hname, hfst, hvalue⟩ := hq
    obtain ⟨rounds, rfl⟩ : ∃ n, rounds = n + 1 := ⟨rounds - 1, by simp at hrounds; omega⟩
    cases qs with
    | nil =>
      cases htail
      rw [labelsText_singleton, readLabels_succ (skipBlanks_labelText_ne hname _),
        readLabel_labelText hname hvalue (by decide)]
      simp [hfst]
    | cons q' qs =>
      rw [labelsText_cons_cons, List.append_assoc, List.cons_append, readLabels_succ (skipBlanks_labelText_ne hname _),
        readLabel_labelText hname hvalue (by decide)]
      simp only [Option.bind_some]
      rw [ih (by simp) (by simpa using hrounds)]
      simp [hfst]

theorem length_le_length_labelsText (quoted : List (List Char × List Char)) :
    quoted.length ≤ (labelsText quoted ++ ['}']).length := by
  induction quoted with
  | nil => simp
  | cons q qs ih =>
    cases qs with
    | nil => simp [labelsText]
    | cons q' qs =>
      simp only [labelsText_cons_cons, List.length_append, List.length_cons,
        List.length_nil] at ih ⊢
      omega

theorem readLabelSet_labelsText {quoted : List (List Char × List Char)}
    {labels : List (String × String)} (h : LabelsQuote quoted labels) (hne : quoted ≠ [])
    (hnodup : (labels.map Prod.fst).Nodup) (rest : List Char) :
    readLabelSet ('{' :: labelsText quoted ++ '}' :: rest) = some (labels, rest) := by
  have hrounds : quoted.length ≤ (labelsText quoted ++ '}' :: rest).length := by
    have := length_le_length_labelsText quoted
    simp only [List.length_append, List.length_cons, List.length_nil] at this ⊢
    omega
  rw [List.cons_append, readLabelSet, skipBlanks_cons (by decide)]
  simp only [readLabels_labelsText h hne rest hrounds]
  simp [hnodup]

theorem readLabelSet_blank (c : Char) (hc : isBlank c = false) (hbrace : c ≠ '{')
    (rest : List Char) : readLabelSet (' ' :: c :: rest) = some ([], c :: rest) := by
  have hskip : skipBlanks (' ' :: c :: rest) = c :: rest := by
    simp [skipBlanks, hc, show isBlank ' ' = true by decide]
  unfold readLabelSet
  rw [hskip]
  split
  · rename_i heq
    exact absurd (List.cons.inj heq).1 hbrace
  · simp [show isBlank ' ' = true by decide]

theorem isName_all {p : Char → Bool} {text : List Char} (h : isName p p text = true) {c : Char}
    (hc : c ∈ text) : p c = true := by
  cases text with
  | nil => simp at hc
  | cons d ds =>
    simp only [isName, Bool.and_eq_true, List.all_eq_true] at h
    rcases List.mem_cons.mp hc with rfl | hc
    · exact h.1
    · exact h.2 c hc

theorem not_blank_text (v : ν) {c : Char} (hc : c ∈ NumberFormat.text v) : isBlank c = false := by
  have := isName_all (NumberFormat.token v) hc
  simp only [isTokenChar, Bool.and_eq_true, Bool.not_eq_true'] at this
  exact this.1.1

/-- A value at the end of its line. -/
theorem readSample_end {name : String} {labels : List (String × String)} {set : List Char} {c : Char}
    (hname : isName isNameStart isNameChar name.toList = true) (hc : isNameChar c = false) (v : ν)
    (hset : readLabelSet (c :: set) = some (labels, ' ' :: NumberFormat.text v) ∨
      readLabelSet (c :: set) = some (labels, NumberFormat.text v)) :
    readSample (name.toList ++ c :: set) = some ⟨name, labels, v⟩ := by
  have hpos : ∀ c ∈ NumberFormat.text v, (!isBlank c) = true := by
    intro c hc
    simp [not_blank_text v hc]
  have htake := List.takeWhile_eq_self_iff.mpr hpos
  have hdrop := List.dropWhile_eq_nil_iff.mpr hpos
  have hskip : skipBlanks (NumberFormat.text v) = NumberFormat.text v := by
    obtain ⟨d, ds, htext, -⟩ := isName_head (NumberFormat.token v)
    rw [htext]
    exact skipBlanks_cons (not_blank_text v (by simp [htext])) _
  have hblank : skipBlanks (' ' :: NumberFormat.text v) = skipBlanks (NumberFormat.text v) := rfl
  have hend : isTimestamp (skipBlanks []) = true := rfl
  rw [readSample, readName_append hname hc]
  rcases hset with hset | hset <;>
    simp [hset, hblank, hskip, htake, hdrop, hend, NumberFormat.read_text]

theorem readSample_labelled {name : String} {quoted : List (List Char × List Char)}
    {labels : List (String × String)} (hname : isName isNameStart isNameChar name.toList = true)
    (h : LabelsQuote quoted labels) (hne : quoted ≠ []) (hnodup : (labels.map Prod.fst).Nodup)
    (v : ν) :
    readSample (name.toList ++ '{' :: (labelsText quoted ++ '}' :: ' ' :: NumberFormat.text v)) =
      some ⟨name, labels, v⟩ :=
  readSample_end hname (by decide) v (.inl (readLabelSet_labelsText h hne hnodup _))

theorem readSample_plain {name : String} (hname : isName isNameStart isNameChar name.toList = true)
    (v : ν) : readSample (name.toList ++ ' ' :: NumberFormat.text v) = some ⟨name, [], v⟩ := by
  apply readSample_end hname (by decide)
  right
  obtain ⟨c, cs, htext, hc⟩ := isName_head (NumberFormat.token v)
  simp only [isTokenChar, Bool.and_eq_true, bne_iff_ne] at hc
  rw [htext]
  exact readLabelSet_blank c (by simpa using hc.1.1) hc.2 cs

/-! ### A line that ends inside a label value -/

theorem readValue_append {input value rest : List Char} (h : readValue input = some (value, rest))
    (more : List Char) : readValue (input ++ more) = some (value, rest ++ more) := by
  induction input using readValue.induct generalizing value with
  | case1 => simp [readValue] at h
  | case2 tail =>
    rw [readValue_quote] at h
    cases h
    exact readValue_quote _
  | case3 => simp [readValue] at h
  | case4 e tail hquote ih =>
    simp only [readValue, hquote, if_false, if_true, Option.bind_eq_some_iff,
      Option.map_eq_some_iff] at h
    obtain ⟨c, hc, ⟨value', rest'⟩, hread, hpair⟩ := h
    cases hpair
    simp [readValue, hc, ih hread]
  | case5 c tail hquote hslash ih =>
    rw [readValue_plain hquote hslash, Option.map_eq_some_iff] at h
    obtain ⟨⟨value', rest'⟩, hread, hpair⟩ := h
    cases hpair
    rw [List.cons_append, readValue_plain hquote hslash, ih hread]
    rfl

/-- A value without its closing quote is not read. -/
theorem Quotes.unclosed {quoted value : List Char} (h : Quotes quoted value) :
    readValue quoted = none := by
  cases hread : readValue quoted with
  | none => rfl
  | some read =>
    -- A quote found inside `quoted` would be found first, and more would be left over.
    have hfirst := readValue_append hread ['"']
    rw [h []] at hfirst
    have := congrArg List.length (Prod.mk.inj (Option.some.inj hfirst)).2
    simp at this

theorem readLabel_unclosed {name quoted value : List Char}
    (hname : isName isLabelStart isLabelChar name = true) (hquoted : Quotes quoted value) :
    readLabel (name ++ '=' :: '"' :: quoted) = none := by
  rw [readLabel, skipBlanks_label hname, readName_append hname (by decide)]
  simp only [Option.bind_some, skipBlanks_cons (show isBlank '=' = false by decide),
    skipBlanks_cons (show isBlank '"' = false by decide), hquoted.unclosed, Option.map_none]

theorem readLabels_unclosed {quotes : List (List Char × List Char)}
    {labels : List (String × String)} (h : LabelsQuote quotes labels) {name quoted value : List Char}
    (hname : isName isLabelStart isLabelChar name = true) (hquoted : Quotes quoted value)
    (rounds : ℕ) :
    readLabels rounds ((quotes.flatMap fun q => labelText q.1 q.2 ++ [',']) ++
      (name ++ '=' :: '"' :: quoted)) = none := by
  induction h generalizing rounds with
  | nil =>
    cases rounds with
    | zero => rfl
    | succ rounds =>
      rw [List.flatMap_nil, List.nil_append, readLabels_succ (skipBlanks_label_ne hname _),
        readLabel_unclosed hname hquoted]
      rfl
  | @cons q label qs labels hq htail ih =>
    cases rounds with
    | zero => rfl
    | succ rounds =>
      rw [List.flatMap_cons, List.append_assoc, List.append_assoc, List.singleton_append,
        readLabels_succ (skipBlanks_labelText_ne hq.1 _),
        readLabel_labelText hq.1 hq.2.2 (by decide)]
      simp [ih rounds]

/-- A sample line that ends inside a label value is rejected. -/
theorem readSample_unclosed {quotes : List (List Char × List Char)}
    {labels : List (String × String)} (h : LabelsQuote quotes labels)
    {metric name quoted value : List Char} (hmetric : isName isNameStart isNameChar metric = true)
    (hname : isName isLabelStart isLabelChar name = true) (hquoted : Quotes quoted value) :
    (readSample (metric ++ '{' :: ((quotes.flatMap fun q => labelText q.1 q.2 ++ [',']) ++
      (name ++ '=' :: '"' :: quoted))) : Option (Sample ν)) = none := by
  rw [readSample, readName_append hmetric (by decide)]
  simp [readLabelSet, skipBlanks_cons (show isBlank '{' = false by decide),
    readLabels_unclosed h hname hquoted]

/-! ### Pages -/

theorem isName_not_lf {start inside : Char → Bool} {name : List Char}
    (hname : isName start inside name = true) (hstart : start '\n' = false)
    (hinside : inside '\n' = false) : '\n' ∉ name := by
  obtain ⟨c, cs, rfl, hc⟩ := isName_head hname
  simp only [isName, Bool.and_eq_true, List.all_eq_true] at hname
  intro hmem
  rcases List.mem_cons.mp hmem with rfl | hmem
  · simp [hstart] at hc
  · simp [hname.2 _ hmem] at hinside

theorem lf_notMem_labelText {name quoted : List Char}
    (hname : isName isLabelStart isLabelChar name = true) (hquoted : '\n' ∉ quoted) :
    '\n' ∉ labelText name quoted := by
  simp [labelText, hquoted, isName_not_lf hname (by decide) (by decide)]

theorem lf_notMem_labelsText {quoted : List (List Char × List Char)}
    (h : ∀ q ∈ quoted, '\n' ∉ labelText q.1 q.2) : '\n' ∉ labelsText quoted := by
  induction quoted with
  | nil => simp [labelsText]
  | cons q qs ih =>
    have hq := h q (by simp)
    have hqs := ih fun q' hq' => h q' (by simp [hq'])
    cases qs with
    | nil => simpa [labelsText_singleton] using hq
    | cons q' qs =>
      rw [labelsText_cons_cons]
      simp [hq, hqs]

theorem lf_notMem_text (v : ν) : '\n' ∉ NumberFormat.text v := by
  intro hmem
  exact absurd (isName_all (NumberFormat.token v) hmem) (by decide)

/-- A line that begins with a metric name carries one sample. -/
theorem readLine_name {name : List Char} (hname : isName isNameStart isNameChar name = true)
    (rest : List Char) :
    (readLine (name ++ rest) : Option (List (Sample ν))) = (readSample (name ++ rest)).map ([·]) := by
  obtain ⟨c, cs, rfl, hc⟩ := isName_head hname
  have hskip : skipBlanks (c :: cs ++ rest) = c :: cs ++ rest :=
    skipBlanks_cons (isBlank_of_isNameStart hc) _
  unfold readLine
  rw [hskip]
  split
  · rename_i heq
    simp at heq
  · rename_i heq
    obtain rfl := (List.cons.inj heq).1
    exact absurd hc (by decide)
  · rfl

theorem splitOn_line {line : List Char} (hline : '\n' ∉ line) (rest : List Char) :
    (line ++ '\n' :: rest).splitOn '\n' = line :: rest.splitOn '\n' := by
  apply List.splitOnP_append_cons_of_forall_mem
  · intro c hc
    simp only [beq_eq_false_iff_ne]
    rintro rfl
    exact hline hc
  · simp

/-- The reader takes the lines one at a time. -/
theorem readPage_line {line : List Char} (hline : '\n' ∉ line) (rest : List Char) :
    (readPage (line ++ '\n' :: rest) : Option (List (Sample ν))) =
      (readLine line).bind fun samples => (readPage rest).map (samples ++ ·) := by
  rw [readPage, splitOn_line hline]
  cases hsplit : rest.splitOn '\n' with
  | nil => simp [List.splitOn, List.splitOnP_ne_nil] at hsplit
  | cons first tail => simp [readLines, readPage, hsplit]

/-! ### Integers -/

/-- The decimal digits of a number, after a minus sign when it is negative. -/
def readInt : List Char → Option ℤ
  | '-' :: digits => if isName Char.isDigit Char.isDigit digits then
      some (-(Nat.ofDigitChars 10 digits 0 : ℕ)) else none
  | digits => if isName Char.isDigit Char.isDigit digits then
      some (Nat.ofDigitChars 10 digits 0 : ℕ) else none

def intText : ℤ → List Char
  | .ofNat n => Nat.toDigits 10 n
  | .negSucc n => '-' :: Nat.toDigits 10 (n + 1)

theorem isName_toDigits (n : ℕ) : isName Char.isDigit Char.isDigit (Nat.toDigits 10 n) = true := by
  have hdigit : ∀ c ∈ Nat.toDigits 10 n, c.isDigit = true := fun c hc =>
    Nat.isDigit_of_mem_toDigits (by decide) (by decide) hc
  cases hdigits : Nat.toDigits 10 n with
  | nil => exact absurd hdigits Nat.toDigits_ne_nil
  | cons c cs =>
    rw [hdigits] at hdigit
    simp only [isName, Bool.and_eq_true, List.all_eq_true]
    exact ⟨hdigit c (by simp), fun d hd => hdigit d (by simp [hd])⟩

theorem readInt_intText (n : ℤ) : readInt (intText n) = some n := by
  cases n with
  | ofNat n =>
    have hname := isName_toDigits n
    obtain ⟨c, cs, hdigits, hc⟩ := isName_head hname
    have hminus : c ≠ '-' := by
      rintro rfl
      exact absurd hc (by decide)
    simp only [intText, readInt]
    split
    · rename_i heq
      exact absurd (List.cons.inj (hdigits.symm.trans heq)).1 hminus
    · simp [hname, Nat.ofDigitChars_ten_toDigits]
  | negSucc n =>
    simp [intText, readInt, isName_toDigits, Nat.ofDigitChars_ten_toDigits, Int.negSucc_eq]

theorem isTokenChar_of_isDigit {c : Char} (hc : c.isDigit = true) : isTokenChar c = true := by
  by_contra h
  simp only [isTokenChar, isBlank, Bool.and_eq_true, Bool.not_eq_true', bne_iff_ne,
    Bool.or_eq_false_iff, beq_eq_false_iff_ne, not_and_or, not_not] at h
  rcases h with ((rfl | rfl) | rfl) | rfl <;> revert hc <;> decide

theorem isName_intText (n : ℤ) : isName isTokenChar isTokenChar (intText n) = true := by
  have htoken : ∀ n : ℕ, ∀ c ∈ Nat.toDigits 10 n, isTokenChar c = true := fun n c hc =>
    isTokenChar_of_isDigit (isName_all (isName_toDigits n) hc)
  cases n with
  | ofNat n =>
    obtain ⟨c, cs, hdigits, -⟩ := isName_head (isName_toDigits n)
    have := htoken n
    rw [hdigits] at this
    simp only [intText, hdigits, isName, Bool.and_eq_true, List.all_eq_true]
    exact ⟨this c (by simp), fun d hd => this d (by simp [hd])⟩
  | negSucc n =>
    simp only [intText, isName, Bool.and_eq_true, List.all_eq_true]
    exact ⟨by decide, htoken (n + 1)⟩

instance intFormat : NumberFormat ℤ where
  text := intText
  read := readInt
  read_text := readInt_intText
  token := isName_intText

end OvnApi.Lib.Exposition
