import OvnApi.Core.Numerals
import OvnApi.Sampler.Snapshot

/-! The texts of procfs. A `stat` line holds the name of the command in parentheses, as it
is: it may contain blanks, parentheses and line ends. No field after it does, so the first
opening and the last closing parenthesis delimit it. -/

namespace OvnApi.Sampler

open OvnApi.Core Lib Lib.Exposition

section Parse

variable (maxStrDigits : ℕ)

def toInt (s : String) : Except ReadError ℤ :=
  (pyInt maxStrDigits s).mapError ReadError.valueError

def item (fields : List String) (i : ℕ) : Except ReadError String :=
  match fields[i]? with
  | some field => .ok field
  | none => .error (.other "IndexError" "list index out of range")

def statOf (pid : ℤ) (comm : String) (fields : List String) :
    Except ReadError SchedEntityStat := do
  let state ← item fields 0
  let ppid ← item fields 1 >>= toInt maxStrDigits
  let utime ← item fields 11 >>= toInt maxStrDigits
  let stime ← item fields 12 >>= toInt maxStrDigits
  let numThreads ← item fields 17 >>= toInt maxStrDigits
  let starttime ← item fields 19 >>= toInt maxStrDigits
  pure { pid, comm, state, ppid, utime, stime, numThreads, starttime }

/-- `parse_stat_line` on the parts before, between and after the parentheses. -/
def parseStatParts (raw : String) (head comm tail : List Char) :
    Except ReadError SchedEntityStat := do
  let pid ← toInt maxStrDigits (strip (String.ofList head))
  let fields := split (strip (String.ofList tail))
  if fields.length < 20 then .error (.valueError ("Malformed stat payload: " ++ pyRepr raw))
  else statOf maxStrDigits pid (String.ofList comm) fields

def parseStatLine (raw : String) : Except ReadError SchedEntityStat :=
  match raw.toList.idxOf? '(', lastIdxOf? ')' raw.toList with
  | some left, some right =>
    if right ≤ left then .error (.valueError ("Malformed stat line: " ++ pyRepr raw))
    else parseStatParts maxStrDigits raw (raw.toList.take left)
      ((raw.toList.take right).drop (left + 1)) (raw.toList.drop (right + 1))
  | _, _ => .error (.valueError ("Malformed stat line: " ++ pyRepr raw))

end Parse

/-! ### Lines of the kernel -/

/-- The `stat` line: the id, the name, the state letter, and each further field after a
blank. -/
def statLine (pid : ℕ) (comm : String) (state : Char) (fields : List ℤ) : String :=
  String.ofList (intText pid ++ ' ' :: '(' :: (comm.toList ++ ')' :: ' ' :: state ::
    (fields.flatMap (fun n => ' ' :: intText n) ++ ['\n'])))

section Printed

variable {maxStrDigits : ℕ} {pid : ℕ} {comm : String} {state : Char} {fields : List ℤ}

theorem toInt_intText {n : ℤ} (h : Fits maxStrDigits n) :
    toInt maxStrDigits (String.ofList (intText n)) = .ok n := by
  rw [toInt, pyInt_intText h]
  rfl

/-- The fields of a text in which each stands after a blank. -/
theorem split_fields (ws : List (List Char)) (hws : ∀ w ∈ ws, w ≠ [] ∧ ∀ c ∈ w, isSpace c = false) :
    split (strip (String.ofList (ws.flatMap (fun w => ' ' :: w) ++ ['\n']))) =
      ws.map String.ofList := by
  have hblank : isSpace ' ' = true := by decide
  have hend : ∀ c ∈ ['\n'], isSpace c = true := List.forall_mem_singleton.mpr rfl
  rw [split_strip, split, String.toList_ofList, words_append_seps _ hend, words_flatMap hblank hws]

def statHead (pid : ℕ) : List Char := intText pid ++ [' ']

def statTail (state : Char) (fields : List ℤ) : List Char :=
  ([state] :: fields.map intText).flatMap (fun w => ' ' :: w) ++ ['\n']

theorem toList_statLine (pid : ℕ) (comm : String) (state : Char) (fields : List ℤ) :
    (statLine pid comm state fields).toList =
      statHead pid ++ '(' :: (comm.toList ++ ')' :: statTail state fields) := by
  simp [statLine, statHead, statTail, List.flatMap_map]

theorem strip_statHead (pid : ℕ) :
    strip (String.ofList (statHead pid)) = String.ofList (intText pid) := by
  have hblank : ∀ c ∈ [' '], isSpace c = true := List.forall_mem_singleton.mpr rfl
  rw [strip_eq_trim, String.toList_ofList, statHead,
    trim_append_seps (fun _ => isSpace_of_mem_intText) hblank]

/-- A character that stands in a printed number. -/
theorem isDigit_or_minus_of_mem_intText {n : ℤ} {c : Char} (hc : c ∈ intText n) :
    c.isDigit = true ∨ c = '-' := by
  have hdigits : ∀ n : ℕ, ∀ c ∈ Nat.toDigits 10 n, c.isDigit = true := fun n c hc =>
    Nat.isDigit_of_mem_toDigits (by decide) (by decide) hc
  cases n with
  | ofNat n => exact .inl (hdigits n c hc)
  | negSucc n =>
    rcases List.mem_cons.mp hc with rfl | hc
    · exact .inr rfl
    · exact .inl (hdigits _ c hc)

theorem open_notMem_statHead (pid : ℕ) : '(' ∉ statHead pid := by
  intro h
  rcases List.mem_append.mp h with h | h
  · rcases isDigit_or_minus_of_mem_intText h with h | h <;> exact absurd h (by decide)
  · exact absurd h (by decide)

theorem isSpace_of_isAlpha {c : Char} (hc : c.isAlpha = true) : isSpace c = false := by
  have hrange : 65 ≤ c.toNat ∧ c.toNat ≤ 122 := by
    rcases Bool.or_eq_true_iff.mp hc with hupper | hlower
    · have hupper : 'A'.val ≤ c.val ∧ c.val ≤ 'Z'.val := of_decide_eq_true hupper
      have hlow : 65 ≤ c.toNat := UInt32.le_iff_toNat_le.mp hupper.1
      have hhigh : c.toNat ≤ 90 := UInt32.le_iff_toNat_le.mp hupper.2
      omega
    · have hlower := Bool.and_eq_true_iff.mp hlower
      have hlow : 97 ≤ c.toNat := UInt32.le_iff_toNat_le.mp (of_decide_eq_true hlower.1)
      have hhigh : c.toNat ≤ 122 := UInt32.le_iff_toNat_le.mp (of_decide_eq_true hlower.2)
      omega
  simp only [isSpace, Bool.or_eq_false_iff, Bool.and_eq_false_iff, decide_eq_false_iff_not,
    beq_eq_false_iff_ne]
  omega

theorem close_notMem_statTail (hstate : state.isAlpha = true) (fields : List ℤ) :
    ')' ∉ statTail state fields := by
  intro h
  rcases List.mem_append.mp h with h | h
  · obtain ⟨w, hw, h⟩ := List.mem_flatMap.mp h
    rcases List.mem_cons.mp h with h | h
    · exact absurd h (by decide)
    · rcases List.mem_cons.mp hw with rfl | hw
      · rw [← List.mem_singleton.mp h] at hstate
        exact absurd hstate (by decide)
      · obtain ⟨n, -, rfl⟩ := List.mem_map.mp hw
        rcases isDigit_or_minus_of_mem_intText h with h | h <;> exact absurd h (by decide)
  · exact absurd h (by decide)

theorem split_statTail (hstate : state.isAlpha = true) (fields : List ℤ) :
    split (strip (String.ofList (statTail state fields))) =
      String.ofList [state] :: fields.map fun n => String.ofList (intText n) := by
  rw [statTail, split_fields, List.map_cons, List.map_map]
  · rfl
  · intro w hw
    rcases List.mem_cons.mp hw with rfl | hw
    · exact ⟨List.cons_ne_nil _ _, by simpa using isSpace_of_isAlpha hstate⟩
    · obtain ⟨n, -, rfl⟩ := List.mem_map.mp hw
      exact ⟨intText_ne_nil n, fun c => isSpace_of_mem_intText⟩

theorem ok_bind {α β : Type} (a : α) (f : α → Except ReadError β) :
    (Except.ok a >>= f) = f a := rfl

theorem item_field {first : String} {i : ℕ} (hi : i < fields.length) :
    item (first :: fields.map fun n => String.ofList (intText n)) (i + 1) =
      .ok (String.ofList (intText (fields.getD i 0))) := by
  simp [item, hi]

theorem toInt_field {first : String} {i : ℕ} (hi : i < fields.length)
    (hfit : ∀ n ∈ fields, Fits maxStrDigits n) :
    (item (first :: fields.map fun n => String.ofList (intText n)) (i + 1) >>=
      toInt maxStrDigits) = .ok (fields.getD i 0) := by
  have hmem : fields.getD i 0 ∈ fields := by simp [hi]
  rw [item_field hi, ok_bind, toInt_intText (hfit _ hmem)]

def statRecord (pid : ℕ) (comm : String) (state : Char) (fields : List ℤ) : SchedEntityStat where
  pid := pid
  comm := comm
  state := String.ofList [state]
  ppid := fields.getD 0 0
  utime := fields.getD 10 0
  stime := fields.getD 11 0
  numThreads := fields.getD 16 0
  starttime := fields.getD 18 0

theorem statOf_fields (hlength : 19 ≤ fields.length)
    (hfit : ∀ n ∈ fields, Fits maxStrDigits n) :
    statOf maxStrDigits pid comm
        (String.ofList [state] :: fields.map fun n => String.ofList (intText n)) =
      .ok (statRecord pid comm state fields) := by
  have hitem : ∀ i, i < 19 → (item (String.ofList [state] ::
      fields.map fun n => String.ofList (intText n)) (i + 1) >>= toInt maxStrDigits) =
        .ok (fields.getD i 0) := fun i hi => toInt_field (hi.trans_le hlength) hfit
  rw [statOf, hitem 0 (by decide), hitem 10 (by decide), hitem 11 (by decide),
    hitem 16 (by decide), hitem 18 (by decide)]
  rfl

theorem parseStatLine_statLine (hstate : state.isAlpha = true) (hlength : 19 ≤ fields.length)
    (hpid : Fits maxStrDigits pid) (hfit : ∀ n ∈ fields, Fits maxStrDigits n) :
    parseStatLine maxStrDigits (statLine pid comm state fields) =
      .ok (statRecord pid comm state fields) := by
  have htext := toList_statLine pid comm state fields
  have hassoc : (statLine pid comm state fields).toList =
      (statHead pid ++ '(' :: comm.toList) ++ ')' :: statTail state fields := by
    rw [htext]
    simp
  have hleft : (statLine pid comm state fields).toList.idxOf? '(' = some (statHead pid).length := by
    rw [htext, idxOf?_append_cons (open_notMem_statHead pid)]
  have hright : lastIdxOf? ')' (statLine pid comm state fields).toList =
      some (statHead pid ++ '(' :: comm.toList).length := by
    rw [hassoc, lastIdxOf?_append_cons (close_notMem_statTail hstate fields)]
  have horder : ¬(statHead pid ++ '(' :: comm.toList).length ≤ (statHead pid).length := by
    simp
  have hhead : (statLine pid comm state fields).toList.take (statHead pid).length = statHead pid := by
    rw [htext, List.take_left]
  have hcomm : ((statLine pid comm state fields).toList.take
      (statHead pid ++ '(' :: comm.toList).length).drop ((statHead pid).length + 1) =
        comm.toList := by
    rw [hassoc, List.take_left]
    simp
  have htail : (statLine pid comm state fields).toList.drop
      ((statHead pid ++ '(' :: comm.toList).length + 1) = statTail state fields := by
    rw [hassoc, List.drop_append]
    simp
  have hlen : ¬(String.ofList [state] ::
      fields.map fun n => String.ofList (intText n)).length < 20 := by
    simp only [List.length_cons, List.length_map]
    omega
  unfold parseStatLine
  rw [hleft, hright]
  simp only [if_neg horder, hhead, hcomm, htail, parseStatParts, strip_statHead,
    toInt_intText hpid, split_statTail hstate, if_neg hlen, String.ofList_toList, ok_bind]
  exact statOf_fields hlength hfit

end Printed

/-! ### Any text -/

section AnyText

variable {α β : Type} {maxStrDigits : ℕ}

def OnlyValueError (x : Except ReadError α) : Prop := ∀ e, x = .error e → ∃ m, e = .valueError m

theorem OnlyValueError.ok (a : α) : OnlyValueError (.ok a) := fun _ h => by cases h

theorem OnlyValueError.error (m : String) :
    OnlyValueError (.error (.valueError m) : Except ReadError α) := fun _ h => ⟨m, by cases h; rfl⟩

theorem OnlyValueError.bind {x : Except ReadError α} {f : α → Except ReadError β}
    (hx : OnlyValueError x) (hf : ∀ a, OnlyValueError (f a)) : OnlyValueError (x >>= f) := by
  cases x with
  | ok a => exact hf a
  | error e =>
    intro e' h
    cases h
    exact hx e rfl

theorem toInt_onlyValueError (s : String) : OnlyValueError (toInt maxStrDigits s) := by
  unfold toInt
  cases pyInt maxStrDigits s with
  | ok n => exact .ok n
  | error m => exact .error m

theorem item_onlyValueError {fields : List String} {i : ℕ} (hi : i < fields.length) :
    OnlyValueError (item fields i) := by
  rw [item, List.getElem?_eq_getElem hi]
  exact .ok _

theorem statOf_onlyValueError {fields : List String} (h : 20 ≤ fields.length) (pid : ℤ)
    (comm : String) : OnlyValueError (statOf maxStrDigits pid comm fields) := by
  have hnumber : ∀ i, i < 20 → OnlyValueError (item fields i >>= toInt maxStrDigits) := fun i hi =>
    (item_onlyValueError (hi.trans_le h)).bind toInt_onlyValueError
  refine (item_onlyValueError (by omega)).bind fun _ => (hnumber 1 (by decide)).bind fun _ =>
    (hnumber 11 (by decide)).bind fun _ => (hnumber 12 (by decide)).bind fun _ =>
      (hnumber 17 (by decide)).bind fun _ => (hnumber 19 (by decide)).bind fun _ => .ok _

theorem parseStatLine_onlyValueError (raw : String) :
    OnlyValueError (parseStatLine maxStrDigits raw) := by
  unfold parseStatLine
  split
  · split_ifs
    · exact .error _
    · refine (toInt_onlyValueError _).bind fun pid => ?_
      dsimp only
      split_ifs with hlen
      · exact .error _
      · exact statOf_onlyValueError (not_lt.mp hlen) _ _
  · exact .error _

/-- A process whose line cannot be decoded is skipped. -/
theorem sampleProcess_of_valueError {settings : Settings} {prev : Baseline} {elapsedS : ℚ}
    {fs : Procfs} {pid : ℕ} {m : String} (h : fs.readProcessStat pid = .error (.valueError m)) :
    sampleProcess settings prev elapsedS fs pid = .ok none := by
  rw [sampleProcess, h]
  rfl

theorem sampleThread_of_valueError {settings : Settings} {prev : Baseline} {elapsedS : ℚ}
    {fs : Procfs} {stat : SchedEntityStat} {identity : ProcessIdentity} {pid tid : ℕ} {m : String}
    (h : fs.readTaskStat pid tid = .error (.valueError m)) :
    sampleThread settings prev elapsedS fs stat identity pid tid = .ok none := by
  rw [sampleThread, h]
  rfl

end AnyText

/-- The line that the kernel prints is decoded, whatever the name of the command; any other
text gives a record or a `ValueError`, and a process or task with such a line is skipped. -/
theorem stat_line_decoded (maxStrDigits : ℕ) :
    (∀ (pid : ℕ) (comm : String) (state : Char) (fields : List ℤ), state.isAlpha = true →
      19 ≤ fields.length → Fits maxStrDigits pid → (∀ n ∈ fields, Fits maxStrDigits n) →
        parseStatLine maxStrDigits (statLine pid comm state fields) =
          .ok (statRecord pid comm state fields)) ∧
    ∀ raw : String, (∃ stat, parseStatLine maxStrDigits raw = .ok stat) ∨
      ∃ m, parseStatLine maxStrDigits raw = .error (.valueError m) ∧
        ∀ (settings : Settings) (prev : Baseline) (elapsedS : ℚ) (fs : Procfs) (pid : ℕ),
          (fs.readProcessStat pid = parseStatLine maxStrDigits raw →
            sampleProcess settings prev elapsedS fs pid = .ok none) ∧
          ∀ (tid : ℕ) (stat : SchedEntityStat) (identity : ProcessIdentity),
            fs.readTaskStat pid tid = parseStatLine maxStrDigits raw →
              sampleThread settings prev elapsedS fs stat identity pid tid = .ok none := by
  refine ⟨fun pid comm state fields hstate hlength hpid hfit =>
    parseStatLine_statLine hstate hlength hpid hfit, fun raw => ?_⟩
  cases hparse : parseStatLine maxStrDigits raw with
  | ok stat => exact .inl ⟨stat, rfl⟩
  | error e =>
    obtain ⟨m, rfl⟩ := parseStatLine_onlyValueError raw e hparse
    refine .inr ⟨m, rfl, fun settings prev elapsedS fs pid => ⟨fun hread => ?_, ?_⟩⟩
    · exact sampleProcess_of_valueError hread
    · intro tid stat identity hread
      exact sampleThread_of_valueError hread

/-- A line that breaks off, and a `/proc` in which it is all there is. -/
def brokenLine : String := "42 (ovs-vswitchd"

def brokenProcfs : Procfs where
  readSystemCpu := .error (.osError "")
  readSoftirqs := .error (.osError "")
  readLoadavg := .error (.osError "")
  listPids := .ok ⟨[42], List.nodup_singleton 42⟩
  readProcessStat _ := parseStatLine 4300 brokenLine
  readCmdline _ := .ok ""
  listTaskIds _ := .error (.osError "")
  readTaskStat _ _ := parseStatLine 4300 brokenLine
  readWchan _ _ := .ok none

theorem stat_line_decoded_parentheses :
    parseStatLine 4300 (statLine 42 "a) (b\n" 'S' (List.replicate 19 (-7))) =
      .ok (statRecord 42 "a) (b\n" 'S' (List.replicate 19 (-7))) ∧
    ∀ settings prev elapsedS,
      sampleProcess settings prev elapsedS brokenProcfs 42 = .ok none := by
  obtain ⟨hprinted, hany⟩ := stat_line_decoded 4300
  refine ⟨hprinted 42 _ 'S' _ rfl (by simp) ?_ ?_, fun settings prev elapsedS => ?_⟩
  · exact fits_of_natAbs_lt (by decide) (.inr (by decide))
  · intro n hn
    rw [List.eq_of_mem_replicate hn]
    exact fits_of_natAbs_lt (by decide) (.inr (by decide))
  · rcases hany brokenLine with ⟨stat, hstat⟩ | ⟨m, -, hskip⟩
    · cases hstat
    · exact (hskip settings prev elapsedS brokenProcfs 42).1 rfl

end OvnApi.Sampler
