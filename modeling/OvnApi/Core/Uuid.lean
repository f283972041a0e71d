import OvnApi.Core.Python

/-! Row and probe UUIDs. A UUID is held as its canonical text, five groups of
lower-case hexadecimal digits, which is what `str` of it prints; its integer
value is read off the digits. -/

namespace OvnApi.Core

def isLowerHex (c : Char) : Bool :=
  (48 ≤ c.toNat && c.toNat ≤ 57) || (97 ≤ c.toNat && c.toNat ≤ 102)

/-- `true` marks the positions of the dashes. -/
def uuidShape : List Bool :=
  List.replicate 8 false ++ true :: List.replicate 4 false ++ true :: List.replicate 4 false ++
    true :: List.replicate 4 false ++ true :: List.replicate 12 false

def matchesShape : List Bool → List Char → Bool
  | [], [] => true
  | true :: shape, c :: cs => c == '-' && matchesShape shape cs
  | false :: shape, c :: cs => isLowerHex c && matchesShape shape cs
  | _, _ => false

def isUuidText (s : String) : Bool := matchesShape uuidShape s.toList

structure Uuid where
  text : String
  canonical : isUuidText text = true
  deriving DecidableEq

namespace Uuid

theorem ext_text {u v : Uuid} (h : u.text = v.text) : u = v := by
  cases u; cases v; simpa using h

def firstSegment (u : Uuid) : String := String.ofList (u.text.toList.takeWhile (· ≠ '-'))

def hexValue (c : Char) : ℕ := if c.toNat ≤ 57 then c.toNat - 48 else c.toNat - 87

def toNat (u : Uuid) : ℕ :=
  (u.text.toList.filter (· ≠ '-')).foldl (fun n c => 16 * n + hexValue c) 0

instance neZero_ten : @NeZero ℕ Zero.ofOfNat0 10 := ⟨by decide⟩

/-- The UUID all of whose digits are `d`. -/
def uniform (d : Fin 10) : Uuid where
  text := String.ofList (uuidShape.map fun dash => if dash then '-' else Char.ofNat (48 + d))
  canonical := by revert d; decide

/-- `uuid_from_string` of the OVS library, which accepts either case. -/
def fromString (s : String) : Option Uuid :=
  if h : isUuidText (lower s) then some ⟨lower s, h⟩ else none

end Uuid

theorem toLower_of_isLowerHex {c : Char} (h : isLowerHex c = true) : c.toLower = c := by
  have hn : ¬(65 ≤ c.toNat ∧ c.toNat ≤ 90) := by
    simp only [isLowerHex, Bool.or_eq_true, Bool.and_eq_true, decide_eq_true_eq] at h
    omega
  unfold Char.toLower
  rw [dif_neg]
  intro hc
  exact hn ⟨by simpa using UInt32.le_iff_toNat_le.mp hc.1,
    by simpa using UInt32.le_iff_toNat_le.mp hc.2⟩

theorem map_toLower_of_matchesShape {shape : List Bool} {cs : List Char}
    (h : matchesShape shape cs = true) : cs.map Char.toLower = cs := by
  induction shape generalizing cs with
  | nil => cases cs <;> simp_all [matchesShape]
  | cons dash shape ih =>
    cases cs with
    | nil => rfl
    | cons c cs =>
      cases dash <;> simp only [matchesShape, Bool.and_eq_true, beq_iff_eq] at h
      · rw [List.map_cons, toLower_of_isLowerHex h.1, ih h.2]
      · rw [List.map_cons, h.1, ih h.2]; rfl

theorem Uuid.lower_text (u : Uuid) : lower u.text = u.text := by
  unfold lower
  rw [map_toLower_of_matchesShape u.canonical, String.ofList_toList]

/-- The text of a UUID reads back as that UUID. -/
theorem Uuid.fromString_text (u : Uuid) : Uuid.fromString u.text = some u := by
  have h : isUuidText (lower u.text) = true := by rw [u.lower_text]; exact u.canonical
  simp only [Uuid.fromString, h, ↓reduceDIte, Option.some.injEq]
  exact Uuid.ext_text u.lower_text

theorem length_takeWhile_of_matchesShape {n : ℕ} {shape : List Bool} {cs : List Char}
    (h : matchesShape (List.replicate n false ++ true :: shape) cs = true) :
    (cs.takeWhile (· ≠ '-')).length = n := by
  induction n generalizing cs with
  | zero =>
    cases cs with
    | nil => cases h
    | cons c cs =>
      obtain ⟨rfl, -⟩ : c = '-' ∧ matchesShape shape cs = true := by
        simpa [matchesShape] using h
      rfl
  | succ n ih =>
    cases cs with
    | nil => cases h
    | cons c cs =>
      obtain ⟨hc, hcs⟩ : isLowerHex c = true ∧
          matchesShape (List.replicate n false ++ true :: shape) cs = true := by
        simpa [matchesShape, List.replicate_succ] using h
      have hne : c ≠ '-' := by
        rintro rfl
        exact absurd hc (by decide)
      rw [List.takeWhile_cons_of_pos (by simpa using hne), List.length_cons, ih hcs]

theorem length_of_matchesShape {shape : List Bool} {cs : List Char}
    (h : matchesShape shape cs = true) : cs.length = shape.length := by
  induction shape generalizing cs with
  | nil => cases cs <;> simp_all [matchesShape]
  | cons dash shape ih =>
    cases cs with
    | nil => cases dash <;> cases h
    | cons c cs =>
      cases dash <;> simp only [matchesShape, Bool.and_eq_true] at h <;>
        rw [List.length_cons, List.length_cons, ih h.2]

theorem length_text (u : Uuid) : u.text.toList.length = 36 :=
  length_of_matchesShape u.canonical

theorem isSpace_of_isLowerHex {c : Char} (h : isLowerHex c = true) : isSpace c = false := by
  simp only [isLowerHex, Bool.or_eq_true, Bool.and_eq_true, decide_eq_true_eq] at h
  simp only [isSpace, Bool.or_eq_false_iff, Bool.and_eq_false_iff, decide_eq_false_iff_not,
    beq_eq_false_iff_ne]
  omega

theorem isSpace_of_matchesShape {shape : List Bool} {cs : List Char}
    (h : matchesShape shape cs = true) : ∀ c ∈ cs, isSpace c = false := by
  induction shape generalizing cs with
  | nil => cases cs <;> simp_all [matchesShape]
  | cons dash shape ih =>
    cases cs with
    | nil => simp
    | cons c cs =>
      cases dash <;> simp only [matchesShape, Bool.and_eq_true, beq_iff_eq] at h <;>
        intro d hd <;> rcases List.mem_cons.mp hd with rfl | hd
      · exact isSpace_of_isLowerHex h.1
      · exact ih h.2 d hd
      · rw [h.1]
        rfl
      · exact ih h.2 d hd

/-- A UUID is printed without blanks around it. -/
theorem Uuid.strip_text (u : Uuid) : strip u.text = u.text :=
  strip_of_forall_not_isSpace (isSpace_of_matchesShape u.canonical)

/-- The first group of a UUID has eight digits. -/
theorem length_firstSegment (u : Uuid) : u.firstSegment.toList.length = 8 := by
  rw [Uuid.firstSegment, String.toList_ofList]
  exact length_takeWhile_of_matchesShape (n := 8) u.canonical

end OvnApi.Core
