import OvnApi.Lib.Float

/-! JSON documents and codecs. A document is the tree its text denotes; a codec
writes a value as a document and reads a document back, or rejects it. Two
writers of floating-point numbers differ: one keeps the values that are not
finite, the other writes `null` for them, which its reader rejects. -/

namespace OvnApi.Lib

inductive Json where
  | null
  | bool (b : Bool)
  | int (n : ℤ)
  | num (x : PyFloat)
  | str (s : String)
  | arr (items : List Json)
  | obj (fields : List (String × Json))

structure Codec (α : Type) where
  encode : α → Json
  decode : Json → Option α

/-- Every value is read back as it was written, and none is written as `null`. -/
structure Codec.Faithful {α : Type} (c : Codec α) : Prop where
  decode_encode : ∀ a, c.decode (c.encode a) = some a
  encode_ne_null : ∀ a, c.encode a ≠ .null

/-! ### Fields of an object -/

def Json.get (j : Json) (key : String) : Option Json :=
  match j with
  | .obj fields => fields.lookup key
  | _ => none

def Json.field {α : Type} (j : Json) (key : String) (c : Codec α) : Option α :=
  (j.get key).bind c.decode

def Json.fieldD {α : Type} (j : Json) (key : String) (c : Codec α) (default : α) : Option α :=
  match j.get key with
  | some value => c.decode value
  | none => some default

namespace Codec

variable {α : Type}

def string : Codec String where
  encode := .str
  decode
    | .str s => some s
    | _ => none

def boolean : Codec Bool where
  encode := .bool
  decode
    | .bool b => some b
    | _ => none

def integer : Codec ℤ where
  encode := .int
  decode
    | .int n => some n
    | _ => none

/-- Finite and other floats alike are written as numbers. -/
def float : Codec PyFloat where
  encode := .num
  decode
    | .num x => some x
    | .int n => some (.fin n)
    | _ => none

/-- A float that is not finite is written as `null`. -/
def finiteFloat : Codec PyFloat where
  encode x := if x.isFinite then .num x else .null
  decode := float.decode

def rational : Codec ℚ where
  encode q := .num (.fin q)
  decode
    | .num (.fin q) => some q
    | .int n => some n
    | _ => none

/-- An absent value is `null`. -/
def optional (c : Codec α) : Codec (Option α) where
  encode
    | some a => c.encode a
    | none => .null
  decode
    | .null => some none
    | j => (c.decode j).map some

def list (c : Codec α) : Codec (List α) where
  encode xs := .arr (xs.map c.encode)
  decode
    | .arr items => items.mapM c.decode
    | _ => none

/-- An object whose values are all of one kind, in its order. -/
def dict (c : Codec α) : Codec (List (String × α)) where
  encode kvs := .obj (kvs.map fun kv => (kv.1, c.encode kv.2))
  decode
    | .obj fields => fields.mapM fun kv => (c.decode kv.2).map fun a => (kv.1, a)
    | _ => none

/-- One of the listed values, written by its name. -/
def enum (name : α → String) (values : List α) : Codec α where
  encode a := .str (name a)
  decode
    | .str s => values.find? fun a => name a = s
    | _ => none

/-! ### Round trips -/

/-- One field of a document is read, and the rest goes on. -/
theorem reads {β : Type} {o : Option α} {f : α → Option β} {a : α} {r : Option β}
    (h : o = some a) (hf : f a = r) : (o >>= f) = r := by
  rw [h]
  exact hf

/-- One field of a document is rejected, and so is the document. -/
theorem rejects {β : Type} {o : Option α} {f : α → Option β} (h : o = none) :
    (o >>= f) = none := by
  rw [h]
  rfl

theorem obj_ne_null (fields : List (String × Json)) : Json.obj fields ≠ .null := nofun

theorem string_faithful : string.Faithful := ⟨fun _ => rfl, nofun⟩

theorem boolean_faithful : boolean.Faithful := ⟨fun _ => rfl, nofun⟩

theorem integer_faithful : integer.Faithful := ⟨fun _ => rfl, nofun⟩

theorem float_faithful : float.Faithful := ⟨fun _ => rfl, nofun⟩

theorem rational_faithful : rational.Faithful := ⟨fun _ => rfl, nofun⟩

/-- The second writer's values are read back exactly when they are finite. -/
theorem finiteFloat_decode_encode (x : PyFloat) :
    finiteFloat.decode (finiteFloat.encode x) = if x.isFinite then some x else none := by
  cases x <;> rfl

theorem optional_decode_encode {c : Codec α} (hc : c.Faithful) (o : Option α) :
    (optional c).decode ((optional c).encode o) = some o := by
  cases o with
  | none => rfl
  | some a =>
    have ha := hc.decode_encode a
    cases henc : c.encode a with
    | null => exact absurd henc (hc.encode_ne_null a)
    | _ =>
      rw [henc] at ha
      simp only [optional, henc, ha, Option.map_some]

theorem list_faithful {c : Codec α} (hc : c.Faithful) : (list c).Faithful := by
  refine ⟨fun xs => ?_, nofun⟩
  change (xs.map c.encode).mapM c.decode = some xs
  induction xs with
  | nil => rfl
  | cons a xs ih =>
    rw [List.map_cons, List.mapM_cons, hc.decode_encode, ih]
    rfl

theorem dict_faithful {c : Codec α} (hc : c.Faithful) : (dict c).Faithful := by
  refine ⟨fun kvs => ?_, nofun⟩
  change (kvs.map fun kv => (kv.1, c.encode kv.2)).mapM
    (fun kv => (c.decode kv.2).map fun a => (kv.1, a)) = some kvs
  induction kvs with
  | nil => rfl
  | cons kv kvs ih =>
    rw [List.map_cons, List.mapM_cons, hc.decode_encode, ih]
    rfl

end Codec

end OvnApi.Lib
