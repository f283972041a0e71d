import Mathlib.Data.List.Basic

/-! UTF-8 as a decoder reads it, a byte at a time. Between two characters it owes
nothing; inside one it owes some bytes, the next of them within bounds. -/

namespace OvnApi.Lib

/-- An incremental decoder: how many bytes it owes, the bounds of the next one, and the code
point so far. -/
structure Utf8Decoder where
  owed : ℕ := 0
  low : ℕ := 0x80
  high : ℕ := 0xBF
  point : ℕ := 0

namespace Utf8Decoder

/-- The first byte of a character: the whole of it, or what is owed. -/
def first (b : ℕ) : Option (List ℕ × Utf8Decoder) :=
  if b < 0x80 then some ([b], {})
  else if b < 0xC2 then none
  else if b < 0xE0 then some ([], ⟨1, 0x80, 0xBF, b - 0xC0⟩)
  else if b = 0xE0 then some ([], ⟨2, 0xA0, 0xBF, 0⟩)
  else if b = 0xED then some ([], ⟨2, 0x80, 0x9F, 0xD⟩)
  else if b < 0xF0 then some ([], ⟨2, 0x80, 0xBF, b - 0xE0⟩)
  else if b = 0xF0 then some ([], ⟨3, 0x90, 0xBF, 0⟩)
  else if b < 0xF4 then some ([], ⟨3, 0x80, 0xBF, b - 0xF0⟩)
  else if b = 0xF4 then some ([], ⟨3, 0x80, 0x8F, 4⟩)
  else none

/-- A byte: the character it completes, if any; `none` where no text has it. -/
def byte (d : Utf8Decoder) (b : ℕ) : Option (List ℕ × Utf8Decoder) :=
  if d.owed = 0 then first b
  else if b < d.low ∨ d.high < b then none
  else
    let point := d.point * 64 + (b - 0x80)
    if d.owed = 1 then some ([point], {}) else some ([], ⟨d.owed - 1, 0x80, 0xBF, point⟩)

def decode : Utf8Decoder → List ℕ → Option (List ℕ × Utf8Decoder)
  | d, [] => some ([], d)
  | d, b :: bytes => do
    let r ← d.byte b
    let rest ← decode r.2 bytes
    pure (r.1 ++ rest.1, rest.2)

end Utf8Decoder

def utf8Char (c : ℕ) : List ℕ :=
  if c < 0x80 then [c]
  else if c < 0x800 then [0xC0 + c / 64, 0x80 + c % 64]
  else if c < 0x10000 then [0xE0 + c / 4096, 0x80 + c / 64 % 64, 0x80 + c % 64]
  else [0xF0 + c / 262144, 0x80 + c / 4096 % 64, 0x80 + c / 64 % 64, 0x80 + c % 64]

def utf8 (s : List ℕ) : List ℕ := s.flatMap utf8Char

end OvnApi.Lib
