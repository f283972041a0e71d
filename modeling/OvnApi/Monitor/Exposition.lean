import Mathlib.Data.List.Sort
import OvnApi.Lib.Exposition

/-! How both services write their Prometheus pages. `_append_metric` and
`_escape_label_value` are the same text in `LiveMonitoringService` and in
`CpuMonitorService`: a metric is one line, and in label values backslashes and double
quotes are escaped and nothing else is. -/

namespace OvnApi.Monitor

open Lib Exposition

/-- What one call of `_append_metric` is given. The labels are a dictionary, in the order
its items were added. -/
structure Metric (ν : Type) where
  name : MetricName
  value : ν
  labels : List (LabelName × String) := []
  distinct : (labels.map Prod.fst).Nodup := by first | exact List.nodup_nil | decide

/-- `str.replace`, for a pattern of one character. -/
def replaceChar (old : Char) (new : List Char) (s : List Char) : List Char :=
  s.flatMap fun c => if c = old then new else [c]

def escapeLabelValue (raw : String) : List Char :=
  replaceChar '"' ['\\', '"'] (replaceChar '\\' ['\\', '\\'] raw.toList)

/-- `sorted(labels.items())`; the keys are distinct, so they alone decide the order. -/
def sortedItems (labels : List (LabelName × String)) : List (LabelName × String) :=
  labels.insertionSort fun a b => a.1.val ≤ b.1.val

variable {ν : Type}

/-- The text that `_append_metric` appends. -/
def metricText [NumberFormat ν] (m : Metric ν) : List Char :=
  if m.labels ≠ [] then
    let renderedLabels := [','].intercalate ((sortedItems m.labels).map fun (key, raw) =>
      key.val.toList ++ '=' :: '"' :: escapeLabelValue raw ++ ['"'])
    m.name.val.toList ++ '{' :: renderedLabels ++ '}' :: ' ' :: NumberFormat.text m.value ++ ['\n']
  else m.name.val.toList ++ ' ' :: NumberFormat.text m.value ++ ['\n']

def appendMetric [NumberFormat ν] (lines : List (List Char)) (m : Metric ν) : List (List Char) :=
  lines ++ [metricText m]

/-- The page of a sequence of metrics, `"".join(lines)`. -/
def renderPage [NumberFormat ν] (metrics : List (Metric ν)) : List Char := (metrics.foldl appendMetric []).flatten

def Metric.lfFree (m : Metric ν) : Bool := m.labels.all fun label => '\n' ∉ label.2.toList

def plainLabels (labels : List (LabelName × String)) : List (String × String) :=
  labels.map fun label => (label.1.val, label.2)

/-- The sample of a metric, its labels in the order of their names. -/
def Metric.sample (m : Metric ν) : Sample ν :=
  ⟨m.name.val, plainLabels (sortedItems m.labels), m.value⟩

/-- The sample carries the metric: its name, its value, and its labels as a map. -/
def Carries (m : Metric ν) (s : Sample ν) : Prop :=
  s.name = m.name.val ∧ s.labels.Perm (plainLabels m.labels) ∧ s.value = m.value

/-! ### Escaping -/

def escapeChar (c : Char) : List Char :=
  if c = '\\' then ['\\', '\\'] else if c = '"' then ['\\', '"'] else [c]

theorem escapeLabelValue_eq (raw : String) :
    escapeLabelValue raw = raw.toList.flatMap escapeChar := by
  simp only [escapeLabelValue, replaceChar, List.flatMap_assoc]
  congr 1
  funext c
  by_cases hslash : c = '\\' <;> simp [escapeChar, hslash]

/-- What is read between the quotes is the label value, whatever it is. -/
theorem quotes_escape (chars : List Char) : Quotes (chars.flatMap escapeChar) chars := by
  induction chars with
  | nil => exact quotes_nil
  | cons c cs ih =>
    rw [List.flatMap_cons]
    by_cases hslash : c = '\\'
    · simpa [escapeChar, hslash] using ih.escaped (show unescape '\\' = some '\\' by decide)
    · by_cases hquote : c = '"'
      · simpa [escapeChar, hquote] using ih.escaped (show unescape '"' = some '"' by decide)
      · simpa [escapeChar, hslash, hquote] using ih.plain hquote hslash

/-- Escaping leaves line feeds as they are. -/
theorem lf_mem_escape (chars : List Char) : '\n' ∈ chars.flatMap escapeChar ↔ '\n' ∈ chars := by
  have hchar : ∀ c, '\n' ∈ escapeChar c ↔ '\n' = c := by
    intro c
    unfold escapeChar
    split_ifs with hslash hquote
    · simp [hslash]
    · simp [hquote]
    · simp
  simp [List.mem_flatMap, hchar]

/-! ### One line -/

def quote (label : LabelName × String) : List Char × List Char :=
  (label.1.val.toList, escapeLabelValue label.2)

/-- The labels as they are written, in the order of their names. -/
def Metric.quoted (m : Metric ν) : List (List Char × List Char) := (sortedItems m.labels).map quote

theorem perm_sortedItems (labels : List (LabelName × String)) : (sortedItems labels).Perm labels :=
  List.perm_insertionSort _ _

theorem labelsQuote_map (labels : List (LabelName × String)) :
    LabelsQuote (labels.map quote) (plainLabels labels) := by
  rw [LabelsQuote, plainLabels, List.forall₂_map_left_iff, List.forall₂_map_right_iff,
    List.forall₂_same]
  intro label _
  refine ⟨label.1.property, String.ofList_toList, ?_⟩
  rw [quote, escapeLabelValue_eq]
  exact quotes_escape _

theorem lf_notMem_name (name : MetricName) : '\n' ∉ name.val.toList :=
  isName_not_lf name.property (by decide) (by decide)

theorem lf_notMem_quote {label : LabelName × String} (hvalue : '\n' ∉ label.2.toList) :
    '\n' ∉ labelText (quote label).1 (quote label).2 := by
  apply lf_notMem_labelText label.1.property
  rwa [quote, escapeLabelValue_eq, lf_mem_escape]

variable [NumberFormat ν]

def Metric.line (m : Metric ν) : List Char :=
  m.name.val.toList ++
    if m.labels ≠ [] then '{' :: (labelsText m.quoted ++ '}' :: ' ' :: NumberFormat.text m.value)
    else ' ' :: NumberFormat.text m.value

theorem metricText_eq (m : Metric ν) : metricText m = m.line ++ ['\n'] := by
  unfold metricText Metric.line
  split_ifs with h
  · simp [labelsText, Metric.quoted, quote, labelText, Function.comp_def]
  · simp

theorem readSample_line (m : Metric ν) : readSample m.line = some m.sample := by
  unfold Metric.line Metric.sample
  split_ifs with hlabels
  · have hkeys : ((plainLabels (sortedItems m.labels)).map Prod.fst).Nodup := by
      have hsorted := ((perm_sortedItems m.labels).map Prod.fst).nodup_iff.mpr m.distinct
      simpa [plainLabels, Function.comp_def] using hsorted.map Subtype.val_injective
    have hne : m.quoted ≠ [] := by
      have := (perm_sortedItems m.labels).length_eq
      simpa [Metric.quoted, ← List.length_eq_zero_iff, this] using hlabels
    exact readSample_labelled m.name.property (labelsQuote_map _) hne hkeys _
  · have hempty : m.labels = [] := not_not.mp hlabels
    simpa [hempty, sortedItems, plainLabels] using readSample_plain m.name.property m.value

theorem readLine_line (m : Metric ν) : readLine m.line = some [m.sample] := by
  rw [Metric.line, readLine_name m.name.property, ← Metric.line, readSample_line]
  rfl

theorem lf_notMem_line {m : Metric ν} (h : m.lfFree = true) : '\n' ∉ m.line := by
  have hquoted : '\n' ∉ labelsText m.quoted := by
    apply lf_notMem_labelsText
    intro q hq
    obtain ⟨label, hmem, rfl⟩ := List.mem_map.mp hq
    have hfree := List.all_eq_true.mp h label ((perm_sortedItems _).mem_iff.mp hmem)
    exact lf_notMem_quote (by simpa using hfree)
  unfold Metric.line
  split_ifs <;> simp [lf_notMem_name, hquoted, lf_notMem_text]

/-- The first label with a line feed, and the first line feed in its value. -/
theorem exists_first_lf {labels : List (LabelName × String)}
    (h : ∃ label ∈ labels, '\n' ∈ label.2.toList) :
    ∃ before label after front back, labels = before ++ label :: after ∧
      label.2.toList = front ++ '\n' :: back ∧ '\n' ∉ front ∧
      ∀ l ∈ before, '\n' ∉ l.2.toList := by
  obtain ⟨label, hfind⟩ : ∃ label,
      labels.find? (fun label => '\n' ∈ label.2.toList) = some label := by
    rw [← Option.isSome_iff_exists, List.find?_isSome]
    simpa using h
  obtain ⟨hlf, before, after, hitems, hbefore⟩ := List.find?_eq_some_iff_append.mp hfind
  obtain ⟨front, back, hvalue, hfront⟩ := List.eq_append_cons_of_mem (of_decide_eq_true hlf)
  exact ⟨before, label, after, front, back, hitems, hvalue, hfront, by simpa using hbefore⟩

/-- A label value with a line feed ends the line inside its quotes, and the reader rejects
what stands before. -/
theorem exists_broken_line {m : Metric ν} (h : m.lfFree = false) :
    ∃ first rest, metricText m = first ++ '\n' :: rest ∧ '\n' ∉ first ∧
      (readLine first : Option (List (Sample ν))) = none := by
  have hlabel : ∃ label ∈ sortedItems m.labels, '\n' ∈ label.2.toList := by
    simpa [Metric.lfFree, (perm_sortedItems m.labels).mem_iff] using h
  have hlabels : m.labels ≠ [] := by
    rintro heq
    simp [heq, sortedItems] at hlabel
  obtain ⟨before, label, after, front, back, hitems, hvalue, hfront, hbefore⟩ :=
    exists_first_lf hlabel
  obtain ⟨tail, htext⟩ := labelsText_append_cons (before.map quote) (after.map quote) (quote label)
  refine ⟨m.name.val.toList ++ '{' :: (((before.map quote).flatMap
      fun q => labelText q.1 q.2 ++ [',']) ++
        (label.1.val.toList ++ '=' :: '"' :: front.flatMap escapeChar)),
    back.flatMap escapeChar ++ '"' :: (tail ++ '}' :: ' ' :: NumberFormat.text m.value ++ ['\n']),
    ?_, ?_, ?_⟩
  · have hquoted : m.quoted = before.map quote ++ quote label :: after.map quote := by
      simp [Metric.quoted, hitems]
    rw [metricText_eq, Metric.line, if_pos hlabels, hquoted, htext]
    simp [labelText, quote, escapeLabelValue_eq, hvalue, escapeChar]
  · have hkey : '\n' ∉ label.1.val.toList :=
      isName_not_lf label.1.property (by decide) (by decide)
    have hescaped : '\n' ∉ front.flatMap escapeChar := by rwa [lf_mem_escape]
    have hwhole : '\n' ∉ (before.map quote).flatMap fun q => labelText q.1 q.2 ++ [','] := by
      rw [List.flatMap_map, List.mem_flatMap]
      rintro ⟨l, hl, hmem⟩
      have := lf_notMem_quote (hbefore l hl)
      simp [this] at hmem
    simp only [List.mem_append, List.mem_cons, lf_notMem_name, hwhole, hkey, hescaped, false_or,
      or_false]
    decide
  · rw [readLine_name m.name.property,
      readSample_unclosed (labelsQuote_map before) m.name.property label.1.property
        (quotes_escape front)]
    rfl

/-! ### Whole pages -/

theorem renderPage_cons (m : Metric ν) (metrics : List (Metric ν)) :
    renderPage (m :: metrics) = metricText m ++ renderPage metrics := by
  have hfold : ∀ (metrics : List (Metric ν)) lines,
      metrics.foldl appendMetric lines = lines ++ metrics.map metricText := by
    intro metrics
    induction metrics with
    | nil => simp
    | cons m metrics ih => simp [appendMetric, ih]
  simp [renderPage, hfold]

/-- The reader gives back the metrics of a page, or rejects the page as a whole: one
label value with a line feed is enough. -/
theorem readPage_renderPage (metrics : List (Metric ν)) :
    readPage (renderPage metrics) =
      if metrics.all Metric.lfFree then some (metrics.map Metric.sample) else none := by
  induction metrics with
  | nil => rfl
  | cons m metrics ih =>
    rw [renderPage_cons]
    cases hfree : m.lfFree with
    | true =>
      rw [metricText_eq, List.append_assoc, List.singleton_append,
        readPage_line (lf_notMem_line hfree), readLine_line, ih]
      by_cases hall : metrics.all Metric.lfFree = true <;> simp [hfree, hall]
    | false =>
      obtain ⟨first, rest, htext, hlf, hread⟩ := exists_broken_line hfree
      rw [htext, List.append_assoc, List.cons_append, readPage_line hlf, hread]
      simp [hfree]

/-- Every metric is one line and the page reads back as the metrics that were appended, if
and only if no label value holds a line feed. -/
theorem page_reads_back_iff (metrics : List (Metric ν)) :
    ((∀ m ∈ metrics, IsLine (metricText m)) ∧
        ∃ samples, readPage (renderPage metrics) = some samples ∧
          List.Forall₂ Carries metrics samples) ↔
      ∀ m ∈ metrics, ∀ label ∈ m.labels, '\n' ∉ label.2.toList := by
  have hfree : (metrics.all Metric.lfFree = true) ↔
      ∀ m ∈ metrics, ∀ label ∈ m.labels, '\n' ∉ label.2.toList := by
    simp [Metric.lfFree]
  rw [← hfree, readPage_renderPage]
  constructor
  · rintro ⟨-, samples, hread, -⟩
    by_contra hall
    simp [hall] at hread
  · intro hall
    refine ⟨fun m hm => ⟨m.line, lf_notMem_line (List.all_eq_true.mp hall m hm), metricText_eq m⟩,
      metrics.map Metric.sample, if_pos hall, ?_⟩
    rw [List.forall₂_map_right_iff, List.forall₂_same]
    exact fun m _ => ⟨rfl, (perm_sortedItems m.labels).map _, rfl⟩

/-- A process may give its threads any name. -/
def brokenMetric : Metric ℤ where
  name := ⟨"ovn_cpu_thread_present", isName_ofList (by decide)⟩
  value := 1
  labels := [(⟨"thread_name", isName_ofList (by decide)⟩, "handler\n1")]

theorem line_feed_breaks_page :
    ¬ IsLine (metricText brokenMetric) ∧
      (readPage (renderPage [⟨⟨"ovn_cpu_exporter_up", isName_ofList (by decide)⟩, 1, [], List.nodup_nil⟩,
        brokenMetric]) : Option (List (Sample ℤ))) = none := by
  refine ⟨?_, by decide +kernel⟩
  rintro ⟨line, hline, htext⟩
  have hcount := congrArg (List.count '\n') htext
  rw [List.count_append, List.count_eq_zero.mpr hline] at hcount
  exact absurd hcount (by decide +kernel)

end OvnApi.Monitor
