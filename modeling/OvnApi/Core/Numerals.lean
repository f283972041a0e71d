import OvnApi.Core.Python
import OvnApi.Lib.Exposition
import OvnApi.Lib.Scan

/-! Python's `int` on a string: white space around it is dropped, a sign may stand in
front, single underscores between digits, and every decimal digit of Unicode counts. The
interpreter refuses numbers with more digits than a limit of its own. -/

namespace OvnApi.Core

open Lib Lib.Exposition

def split (s : String) : List String := (words isSpace s.toList).map String.ofList

theorem strip_eq_trim (s : String) : strip s = String.ofList (trim isSpace s.toList) := rfl

/-- White space at the ends makes no parts. -/
theorem split_strip (s : String) : split (strip s) = split s := by
  rw [split, split, strip_eq_trim, String.toList_ofList, words_trim]

/-! ### Digits -/

/-- The zeros of the decimal digits beyond ASCII (Unicode 13, category `Nd`); the other nine
follow each. -/
def foreignZeros : List ℕ :=
  [0x660, 0x6f0, 0x7c0, 0x966, 0x9e6, 0xa66, 0xae6, 0xb66, 0xbe6, 0xc66, 0xce6, 0xd66, 0xde6,
    0xe50, 0xed0, 0xf20, 0x1040, 0x1090, 0x17e0, 0x1810, 0x1946, 0x19d0, 0x1a80, 0x1a90, 0x1b50,
    0x1bb0, 0x1c40, 0x1c50, 0xa620, 0xa8d0, 0xa900, 0xa9d0, 0xa9f0, 0xaa50, 0xabf0, 0xff10,
    0x104a0, 0x10d30, 0x11066, 0x110f0, 0x11136, 0x111d0, 0x112f0, 0x11450, 0x114d0, 0x11650,
    0x116c0, 0x11730, 0x118e0, 0x11950, 0x11c50, 0x11d50, 0x11da0, 0x16a60, 0x16b50, 0x1d7ce,
    0x1d7d8, 0x1d7e2, 0x1d7ec, 0x1d7f6, 0x1e140, 0x1e2f0, 0x1e950, 0x1fbf0]

def digitZeros : List ℕ := 0x30 :: foreignZeros

/-- `unicodedata.decimal(c)`. -/
def digitValue (c : Char) : Option ℕ :=
  (digitZeros.find? fun z => z ≤ c.toNat && c.toNat < z + 10).map fun z => c.toNat - z

def readGroup (group : List Char) : Option (List ℕ) :=
  if group.isEmpty then none else group.mapM digitValue

/-- Digits with single underscores between them. -/
def readDigits (cs : List Char) : Option (List ℕ) :=
  ((cs.splitOn '_').mapM readGroup).map List.flatten

def ofDigits (digits : List ℕ) : ℕ := digits.foldl (fun n d => 10 * n + d) 0

/-- The digits after the sign, and whether it is a minus. -/
def splitSign : List Char → Bool × List Char
  | '-' :: cs => (true, cs)
  | '+' :: cs => (false, cs)
  | cs => (false, cs)

/-- `int(s)`, or the text of the `ValueError` it raises. `maxStrDigits` is what
`sys.get_int_max_str_digits()` answers; zero stands for no limit. -/
def pyInt (maxStrDigits : ℕ) (s : String) : Except String ℤ :=
  let signed := splitSign (strip s).toList
  match readDigits signed.2 with
  | none => .error ("invalid literal for int() with base 10: " ++ pyRepr s)
  | some digits =>
    if 0 < maxStrDigits ∧ maxStrDigits < digits.length then
      .error ("Exceeds the limit (" ++ toString maxStrDigits ++
        " digits) for integer string conversion: value has " ++ toString digits.length ++
        " digits; use sys.set_int_max_str_digits() to increase the limit")
    else .ok (if signed.1 then -(ofDigits digits : ℤ) else ofDigits digits)

/-- A number with no more digits than the limit. -/
def Fits (maxStrDigits : ℕ) (n : ℤ) : Prop :=
  maxStrDigits = 0 ∨ (Nat.toDigits 10 n.natAbs).length ≤ maxStrDigits

/-- The numbers of 64-bit counters fit every limit that Python lets a program set. -/
theorem fits_of_natAbs_lt {maxStrDigits : ℕ} {n : ℤ} (h : n.natAbs < UInt64.size)
    (hlimit : maxStrDigits = 0 ∨ 640 ≤ maxStrDigits) : Fits maxStrDigits n := by
  rcases hlimit with hlimit | hlimit
  · exact .inl hlimit
  · have hlen : (Nat.toDigits 10 n.natAbs).length ≤ 20 :=
      (Nat.length_toDigits_le_iff (by decide) (by decide)).mpr (h.trans (by decide))
    exact .inr (by omega)

/-! ### What is printed is read -/

section Printed

variable {c : Char} {cs : List Char} {maxStrDigits : ℕ}

theorem toNat_of_isDigit (hc : c.isDigit = true) : 48 ≤ c.toNat ∧ c.toNat ≤ 57 := by
  simpa [Char.isDigit, UInt32.le_iff_toNat_le] using hc

theorem digitValue_of_isDigit (hc : c.isDigit = true) : digitValue c = some (c.toNat - 48) := by
  have hrange := toNat_of_isDigit hc
  have hfirst : ((48 : ℕ) ≤ c.toNat && c.toNat < 48 + 10) = true := by
    simp only [Bool.and_eq_true, decide_eq_true_eq]
    omega
  have hfind : digitZeros.find? (fun z => z ≤ c.toNat && c.toNat < z + 10) = some 48 :=
    List.find?_cons_of_pos hfirst
  rw [digitValue, hfind, Option.map_some]

theorem isSpace_of_isDigit (hc : c.isDigit = true) : isSpace c = false := by
  have hrange := toNat_of_isDigit hc
  simp only [isSpace, Bool.or_eq_false_iff, Bool.and_eq_false_iff, decide_eq_false_iff_not,
    beq_eq_false_iff_ne]
  omega

theorem readGroup_of_isDigit (hcs : ∀ c ∈ cs, c.isDigit = true) (hne : cs ≠ []) :
    readGroup cs = some (cs.map fun c => c.toNat - 48) := by
  have hmap : ∀ l : List Char, (∀ c ∈ l, c.isDigit = true) →
      l.mapM digitValue = some (l.map fun c => c.toNat - 48) := by
    intro l hl
    induction l with
    | nil => rfl
    | cons c l ih =>
      rw [List.mapM_cons, digitValue_of_isDigit (hl c List.mem_cons_self),
        ih fun d hd => hl d (List.mem_cons_of_mem _ hd)]
      rfl
  rw [readGroup, hmap cs hcs]
  simp [hne]

theorem readDigits_toDigits (n : ℕ) :
    readDigits (Nat.toDigits 10 n) = some ((Nat.toDigits 10 n).map fun c => c.toNat - 48) := by
  have hdigit : ∀ c ∈ Nat.toDigits 10 n, c.isDigit = true := fun c hc =>
    Nat.isDigit_of_mem_toDigits (by decide) (by decide) hc
  rw [readDigits, List.splitOn_eq_singleton Nat.underscore_not_in_toDigits, List.mapM_cons,
    readGroup_of_isDigit hdigit Nat.toDigits_ne_nil]
  simp

theorem ofDigits_toDigits (n : ℕ) :
    ofDigits ((Nat.toDigits 10 n).map fun c => c.toNat - 48) = n := by
  have hvalue := Nat.ofDigitChars_ten_toDigits (n := n)
  rw [Nat.ofDigitChars_eq_foldl] at hvalue
  rw [ofDigits, List.foldl_map]
  exact hvalue

theorem isSpace_of_mem_intText {n : ℤ} (hc : c ∈ intText n) : isSpace c = false := by
  have hdigits : ∀ n : ℕ, ∀ c ∈ Nat.toDigits 10 n, isSpace c = false := fun n c hc =>
    isSpace_of_isDigit (Nat.isDigit_of_mem_toDigits (by decide) (by decide) hc)
  cases n with
  | ofNat n => exact hdigits n c hc
  | negSucc n =>
    rcases List.mem_cons.mp hc with rfl | hc
    · decide
    · exact hdigits _ c hc

theorem intText_ne_nil (n : ℤ) : intText n ≠ [] := by
  cases n with
  | ofNat n => exact Nat.toDigits_ne_nil
  | negSucc n => exact List.cons_ne_nil _ _

theorem splitSign_toDigits (n : ℕ) :
    splitSign (Nat.toDigits 10 n) = (false, Nat.toDigits 10 n) := by
  have hdigit : ∀ c ∈ Nat.toDigits 10 n, c.isDigit = true := fun c hc =>
    Nat.isDigit_of_mem_toDigits (by decide) (by decide) hc
  cases hcs : Nat.toDigits 10 n with
  | nil => rfl
  | cons c cs =>
    have hc : c.isDigit = true := hdigit c (by simp [hcs])
    unfold splitSign
    split
    · next heq => cases heq; exact absurd hc (by decide)
    · next heq => cases heq; exact absurd hc (by decide)
    · rfl

/-- `int(str(n))` is `n`. -/
theorem pyInt_intText {n : ℤ} (h : Fits maxStrDigits n) :
    pyInt maxStrDigits (String.ofList (intText n)) = .ok n := by
  have hstrip : strip (String.ofList (intText n)) = String.ofList (intText n) :=
    strip_of_forall_not_isSpace (by simpa using fun c => isSpace_of_mem_intText)
  have hlimit : ∀ m : ℕ, m = n.natAbs →
      ¬(0 < maxStrDigits ∧ maxStrDigits < (Nat.toDigits 10 m).length) := by
    rintro m rfl
    rcases h with h | h <;> omega
  simp only [pyInt, hstrip, String.toList_ofList]
  cases n with
  | ofNat n =>
    simp only [intText, splitSign_toDigits, readDigits_toDigits, ofDigits_toDigits,
      List.length_map, if_neg (hlimit n rfl)]
    simp
  | negSucc n =>
    simp only [intText, splitSign, readDigits_toDigits, ofDigits_toDigits, List.length_map,
      if_neg (hlimit (n + 1) rfl), if_true]
    rfl

end Printed

end OvnApi.Core
