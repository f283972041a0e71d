import Mathlib.Data.Int.Log
import OvnApi.Lib.Float

/-! The documents of `ovs/json.py`: the values a text denotes, and the numbers in
it. A Python string is the list of its code points, since an escape can put a lone
surrogate into it, which no character is. A float is the rational number it
stands for; the reader never makes one that is not finite. -/

namespace OvnApi.Ovs

abbrev Text := List ℕ

def codes (s : String) : Text := s.toList.map Char.toNat

inductive Value where
  | null
  | bool (b : Bool)
  | int (n : ℤ)
  | real (x : ℚ)
  | str (s : Text)
  | arr (items : List Value)
  | obj (members : List (Text × Value))

instance lawfulBEq_text : LawfulBEq Text := List.instLawfulBEq

/-- `d[name] = value`: a key that is there keeps its place. -/
def setMember (members : List (Text × Value)) (name : Text) (value : Value) :
    List (Text × Value) :=
  if name ∈ members.map Prod.fst then
    members.map fun m => if m.1 = name then (m.1, value) else m
  else members ++ [(name, value)]

/-! ### Floating-point numbers -/

/-- `float` of the decimal `significand * 10 ** pow10`. The first two tests only
keep the powers small: such a number is above every double, or nearest to zero. -/
def floatOfDecimal (significand : ℕ) (pow10 : ℤ) : Option ℚ :=
  if significand = 0 then some 0
  else if 309 < pow10 then none
  else if pow10 + Nat.log 10 significand < -400 then some 0
  else Lib.nearestDouble (significand * 10 ^ pow10)

/-! ### Numbers -/

def isDigit (c : ℕ) : Bool := 48 ≤ c && c ≤ 57

/-- `int` of a text of ASCII digits. -/
def digitsValue (digits : Text) : ℕ := digits.foldl (fun n c => 10 * n + (c - 48)) 0

/-- The groups of `__number_re`. -/
structure Numeral where
  negative : Bool
  integer : Text
  fraction : Option Text
  /-- whether it has a minus sign, and its digits -/
  exponent : Option (Bool × Text)

/-- `(?:[eE]([-+]?[0-9]+))?$` -/
def matchExponent : Text → Option (Option (Bool × Text))
  | [] => some none
  | c :: s =>
    if c = 'e'.toNat ∨ c = 'E'.toNat then
      let signed := if s.head? = some '-'.toNat then (true, s.tail)
        else if s.head? = some '+'.toNat then (false, s.tail) else (false, s)
      if signed.2 ≠ [] ∧ signed.2.all isDigit then some (some signed) else none
    else none

/-- `(?:\.([0-9]+))?`, and what follows. -/
def matchFraction : Text → Option (Option Text × Text)
  | [] => some (none, [])
  | c :: s =>
    if c = '.'.toNat then
      if s.takeWhile isDigit = [] then none else some (some (s.takeWhile isDigit), s.dropWhile isDigit)
    else some (none, c :: s)

/-- `(0|[1-9][0-9]*)`, and what follows. -/
def matchInteger : Text → Option (Text × Text)
  | [] => none
  | c :: s =>
    if c = '0'.toNat then some ([c], s)
    else if isDigit c then some (c :: s.takeWhile isDigit, s.dropWhile isDigit)
    else none

/-- The text after `(-)?`. -/
def unsigned (s : Text) : Text := if s.head? = some '-'.toNat then s.tail else s

/-- `__number_re.match`. -/
def matchNumber (s : Text) : Option Numeral := do
  let integer ← matchInteger (unsigned s)
  let fraction ← matchFraction integer.2
  let exponent ← matchExponent fraction.2
  pure ⟨s.head? = some '-'.toNat, integer.1, fraction.1, exponent⟩

/-- `[^0-9]` or the end of the text. -/
def endsDigits (s : Text) : Bool :=
  match s with
  | [] => true
  | c :: _ => !isDigit c

/-- `re.search("e[-+]?([^0-9]|$)", s)`: a sign after the `e` is itself no digit. -/
def emptyExponent : Text → Bool
  | [] => false
  | c :: s => (c = 'e'.toNat && endsDigits s) || emptyExponent s

def numberError (s : Text) : Text :=
  if (unsigned s).head? = some '0'.toNat ∧ endsDigits (unsigned s).tail = false then
    codes "leading zeros not allowed"
  else if s.head? = some '-'.toNat ∧ endsDigits s.tail then
    codes "'-' must be followed by digit"
  else if (matchInteger (unsigned s)).any fun m => m.2.head? = some '.'.toNat && endsDigits m.2.tail then
    codes "decimal point must be followed by digit"
  else if emptyExponent s then codes "exponent must contain at least one digit"
  else codes "syntax error in number"

/-- What the lexer makes of a complete number or string. -/
inductive Lexed where
  | token (value : Value)
  | error (message : Text)
  /-- `int` raises a `ValueError` on a text of too many digits. -/
  | raised

/-- `while pow10 > 0 and significand <= 2 ** 63` -/
def scaleUp : ℕ → ℕ → ℕ × ℕ
  | 0, significand => (significand, 0)
  | pow10 + 1, significand =>
    if significand ≤ 2 ^ 63 then scaleUp pow10 (significand * 10) else (significand, pow10 + 1)

/-- `while pow10 < 0 and significand % 10 == 0`, on `-pow10`. -/
def scaleDown : ℕ → ℕ → ℕ × ℕ
  | 0, significand => (significand, 0)
  | pow10 + 1, significand =>
    if significand % 10 = 0 then scaleDown pow10 (significand / 10) else (significand, pow10 + 1)

/-- The significand after both loops, and whether the power of ten is used up. -/
def scale (significand : ℕ) : ℤ → ℕ × Bool
  | .ofNat n => ((scaleUp n significand).1, (scaleUp n significand).2 = 0)
  | .negSucc n => ((scaleDown (n + 1) significand).1, (scaleDown (n + 1) significand).2 = 0)

def maxsize : ℤ := 2 ^ 63 - 1

/-- More digits than `sys.get_int_max_str_digits()`, where 0 is no limit. -/
def tooLong (maxStrDigits : ℕ) (digits : Text) : Bool :=
  0 < maxStrDigits && maxStrDigits < digits.length

def Numeral.exponentValue (m : Numeral) : ℤ :=
  match m.exponent with
  | none => 0
  | some e => if e.1 then -(digitsValue e.2) else digitsValue e.2

/-- A fraction of zeros is no fraction. -/
def Numeral.digitsAfterPoint (m : Numeral) : Text :=
  match m.fraction with
  | none => []
  | some f => if f.all (· = '0'.toNat) then [] else f

/-- The end of `__lex_finish_number`: the value is a float. -/
def floatToken (negative : Bool) (significand : ℕ) (pow10 : ℤ) : Lexed :=
  match floatOfDecimal significand pow10 with
  | none => .error (codes "number outside valid range")
  | some x => .token (if x = 0 then .int 0 else .real (if negative then -x else x))

def lexFinishNumber (maxStrDigits : ℕ) (s : Text) : Lexed :=
  match matchNumber s with
  | none => .error (numberError s)
  | some m =>
    if m.exponent.any fun e => tooLong maxStrDigits e.2 then .raised
    else if maxsize < m.exponentValue ∨ m.exponentValue < -maxsize - 1 then
      .error (codes "exponent outside valid range")
    else
      let sigString := m.integer ++ m.digitsAfterPoint
      if tooLong maxStrDigits sigString then .raised
      else
        let significand := digitsValue sigString
        let pow10 := m.exponentValue - m.digitsAfterPoint.length
        let scaled := scale significand pow10
        if significand = 0 then .token (.int 0)
        else if significand ≤ 2 ^ 63 ∧ scaled.2 ∧
            (if m.negative then scaled.1 ≤ 2 ^ 63 else scaled.1 < 2 ^ 63) then
          .token (.int (if m.negative then -scaled.1 else scaled.1))
        else floatToken m.negative significand pow10

end OvnApi.Ovs
