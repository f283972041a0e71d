import Mathlib.Data.List.Sort
import OvnApi.Ovs.Parser

/-! The writer of `ovs/json.py`: `to_string` is `json.dumps` with the shortest
separators, sorted keys and every character outside printable ASCII escaped. How
a float is spelled is a parameter. -/

namespace OvnApi.Ovs

def escapeChar (c : ℕ) : Text :=
  if c = '"'.toNat then ['\\'.toNat, '"'.toNat]
  else if c = '\\'.toNat then ['\\'.toNat, '\\'.toNat]
  else if c = 10 then ['\\'.toNat, 'n'.toNat]
  else if c = 13 then ['\\'.toNat, 'r'.toNat]
  else if c = 9 then ['\\'.toNat, 't'.toNat]
  else if c = 12 then ['\\'.toNat, 'f'.toNat]
  else if c = 8 then ['\\'.toNat, 'b'.toNat]
  else if 32 ≤ c ∧ c ≤ 126 then [c]
  else if c < 0x10000 then '\\'.toNat :: 'u'.toNat :: hex4 c
  else
    '\\'.toNat :: 'u'.toNat :: hex4 (0xd800 ||| (((c - 0x10000) >>> 10) &&& 0x3ff)) ++
      '\\'.toNat :: 'u'.toNat :: hex4 (0xdc00 ||| ((c - 0x10000) &&& 0x3ff))

def quoted (s : Text) : Text := '"'.toNat :: s.flatMap escapeChar ++ ['"'.toNat]

/-- `int.__repr__` -/
def intCodes : ℤ → Text
  | .ofNat n => (Nat.toDigits 10 n).map Char.toNat
  | .negSucc n => '-'.toNat :: (Nat.toDigits 10 (n + 1)).map Char.toNat

/-! ### Sorted keys -/

/-- `a <= b` on strings. -/
def textLe : Text → Text → Bool
  | [], _ => true
  | _ :: _, [] => false
  | a :: s, b :: t => a < b || (a = b && textLe s t)

def keyLe (a b : Text × Value) : Prop := textLe a.1 b.1 = true

instance decidableKeyLe : DecidableRel keyLe := fun a b =>
  inferInstanceAs (Decidable (textLe a.1 b.1 = true))

mutual

/-- The value with the members of every object in the order they are written. -/
def sortKeys : Value → Value
  | .arr items => .arr (sortItems items)
  | .obj members => .obj ((sortMembers members).insertionSort keyLe)
  | v => v

def sortItems : List Value → List Value
  | [] => []
  | v :: vs => sortKeys v :: sortItems vs

def sortMembers : List (Text × Value) → List (Text × Value)
  | [] => []
  | m :: ms => (m.1, sortKeys m.2) :: sortMembers ms

end

/-! ### The text -/

section Dump

variable (repr : ℚ → Text)

mutual

/-- The text of a value, its members in the order they have. -/
def dump : Value → Text
  | .null => codes "null"
  | .bool b => if b then codes "true" else codes "false"
  | .int n => intCodes n
  | .real x => repr x
  | .str s => quoted s
  | .arr items => '['.toNat :: dumpItems items ++ [']'.toNat]
  | .obj members => '\x7b'.toNat :: dumpMembers members ++ ['\x7d'.toNat]

def dumpItems : List Value → Text
  | [] => []
  | v :: vs => dump v ++ dumpMoreItems vs

def dumpMoreItems : List Value → Text
  | [] => []
  | v :: vs => ','.toNat :: dump v ++ dumpMoreItems vs

def dumpMembers : List (Text × Value) → Text
  | [] => []
  | m :: ms => quoted m.1 ++ ':'.toNat :: dump m.2 ++ dumpMoreMembers ms

def dumpMoreMembers : List (Text × Value) → Text
  | [] => []
  | m :: ms => ','.toNat :: quoted m.1 ++ ':'.toNat :: dump m.2 ++ dumpMoreMembers ms

end

def toText (v : Value) : Text := dump repr (sortKeys v)

end Dump

end OvnApi.Ovs
