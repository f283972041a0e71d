import Mathlib.Data.List.Infix

/-! What the services take from Python: exceptions, as the handlers tell them
apart, and the string methods they call. Strings are handled as lists of
characters. -/

namespace OvnApi.Core

/-- An exception. The code distinguishes `HTTPException`, with its status code
and detail, and everything else, by the name of its class. -/
inductive Exc where
  | http (statusCode : ℕ) (detail : String)
  | other (kind message : String)
  deriving DecidableEq, Repr

/-- `except HTTPException as exc`: the detail of the exceptions it catches. -/
def Exc.httpDetail : Exc → Option String
  | .http _ detail => some detail
  | .other _ _ => none

def Exc.IsHttp (e : Exc) : Prop := ∃ statusCode detail, e = .http statusCode detail

theorem Exc.IsHttp.httpDetail_ne_none {e : Exc} (h : e.IsHttp) : e.httpDetail ≠ none := by
  obtain ⟨statusCode, detail, rfl⟩ := h
  exact Option.some_ne_none detail

/-- `except HTTPException` followed by `except Exception`: nothing gets past. -/
def Exc.caught (e : Exc) : Option Exc := some e

theorem bind_eq_ok {ε α β : Type} {x : Except ε α} {f : α → Except ε β} {b : β}
    (h : (x >>= f) = .ok b) : ∃ a, x = .ok a ∧ f a = .ok b := by
  cases x with
  | error e => cases h
  | ok a => exact ⟨a, rfl, h⟩

def isSpace (c : Char) : Bool :=
  let n := c.toNat
  (9 ≤ n && n ≤ 13) || (28 ≤ n && n ≤ 32) || n == 0x85 || n == 0xa0 || n == 0x1680 ||
    (0x2000 ≤ n && n ≤ 0x200a) || n == 0x2028 || n == 0x2029 || n == 0x202f || n == 0x205f ||
    n == 0x3000

def strip (s : String) : String :=
  String.ofList ((s.toList.dropWhile isSpace).reverse.dropWhile isSpace).reverse

theorem strip_of_forall_not_isSpace {s : String} (h : ∀ c ∈ s.toList, isSpace c = false) :
    strip s = s := by
  have hkeep : ∀ cs : List Char, (∀ c ∈ cs, isSpace c = false) → cs.dropWhile isSpace = cs := by
    intro cs hcs
    cases cs with
    | nil => rfl
    | cons c cs => simp [hcs c List.mem_cons_self]
  unfold strip
  rw [hkeep _ h, hkeep _ (by simpa using h), List.reverse_reverse, String.ofList_toList]

/-- `str.lower()` on the ASCII letters. -/
def lower (s : String) : String := String.ofList (s.toList.map Char.toLower)

/-- The characters at which `str.splitlines()` ends a line. -/
def isLineBreak (c : Char) : Bool :=
  let n := c.toNat
  (10 ≤ n && n ≤ 13) || (28 ≤ n && n ≤ 30) || n == 0x85 || n == 0x2028 || n == 0x2029

/-- Split at line breaks, a carriage return and a line feed counting as one; the
first argument is the line read so far, reversed. -/
def splitLinesFrom : List Char → List Char → List (List Char)
  | [], [] => []
  | line, [] => [line.reverse]
  | line, '\r' :: '\n' :: cs => line.reverse :: splitLinesFrom [] cs
  | line, c :: cs =>
    if isLineBreak c then line.reverse :: splitLinesFrom [] cs else splitLinesFrom (c :: line) cs

def splitLines (s : String) : List String := (splitLinesFrom [] s.toList).map String.ofList

def contains (token s : String) : Bool := decide (token.toList <:+: s.toList)

def startsWith (head s : String) : Bool := head.toList.isPrefixOf s.toList

def join (sep : String) : List String → String
  | [] => ""
  | [s] => s
  | s :: rest => s ++ sep ++ join sep rest

def hexDigit (n : ℕ) : Char := if n < 10 then Char.ofNat (48 + n) else Char.ofNat (87 + n)

def hexByte (n : ℕ) : String := String.ofList [hexDigit (n / 16), hexDigit (n % 16)]

/-- One character as `repr` prints it inside the given quote; beyond Latin-1 every character is
taken as printable. -/
def reprChar (quote c : Char) : List Char :=
  if c == quote || c == '\\' then ['\\', c]
  else if c == '\n' then ['\\', 'n']
  else if c == '\r' then ['\\', 'r']
  else if c == '\t' then ['\\', 't']
  else if c.toNat < 32 || 127 ≤ c.toNat && c.toNat ≤ 160 || c.toNat == 173 then
    ['\\', 'x'] ++ (hexByte c.toNat).toList
  else [c]

/-- `repr(s)`: single quotes, unless only the single quote occurs in `s`. -/
def pyRepr (s : String) : String :=
  let quote := if s.toList.contains '\'' && !s.toList.contains '"' then '"' else '\''
  String.ofList (quote :: s.toList.flatMap (reprChar quote) ++ [quote])

/-- An f-string shows an absent value as `None`. -/
def orNone (s : Option String) : String := s.getD "None"

end OvnApi.Core
