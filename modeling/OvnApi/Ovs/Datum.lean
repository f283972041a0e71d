import Mathlib.Algebra.Order.Ring.Rat
import Mathlib.Order.Compare
import OvnApi.Core.Uuid
import OvnApi.Lib.Difference
import OvnApi.Ovs.Value

/-! The data of a column at the two ends of a connection: `Datum` of `ovs/db/data.py`, which
the client keeps as a dictionary, and `struct ovsdb_datum` of the server, which is sorted.
What the server writes of a datum the client reads as that datum, unless a real in it needs
more than 15 digits, and the server's difference of two data takes the client from the one to
the other. -/

namespace OvnApi.Ovs

open OvnApi.Lib OvnApi.Core

/-! ### Types -/

inductive AtomicType where
  | integer
  | real
  | boolean
  | string
  | uuid
  deriving DecidableEq

/-- A value of an atomic type. A Boolean in a column of numbers is the number that it equals. -/
inductive Scalar where
  | integer (n : ℤ)
  | real (x : ℚ)
  | boolean (b : Bool)
  | string (s : Text)
  | uuid (u : Uuid)
  deriving DecidableEq

def Scalar.type : Scalar → AtomicType
  | .integer _ => .integer
  | .real _ => .real
  | .boolean _ => .boolean
  | .string _ => .string
  | .uuid _ => .uuid

def AtomicType.default : AtomicType → Scalar
  | .integer => .integer 0
  | .real => .real 0
  | .boolean => .boolean false
  | .string => .string []
  | .uuid => .uuid (.uniform 0)

/-- `Atom`. `Atom(type_)` takes `type_.default_atom()` for its value, which is an atom itself, so it
is not equal to an atom with the default value. -/
inductive Atom where
  | value (s : Scalar)
  | default (type : AtomicType)
  deriving DecidableEq

/-- `BaseType`, as far as it constrains an atom. -/
structure BaseType where
  type : AtomicType
  enum : Option (List Scalar)
  min : Option ℚ
  max : Option ℚ
  minLength : ℕ
  maxLength : ℕ
  deriving DecidableEq

/-- `Type`; `none` is the `max` that is `"unlimited"`. -/
structure ColumnType where
  key : BaseType
  value : Option BaseType
  nMin : ℕ
  nMax : Option ℕ
  /-- `is_valid` -/
  bounds : nMin ≤ 1 ∧ ∀ n ∈ nMax, 1 ≤ n

namespace ColumnType

def isMap (type : ColumnType) : Bool := type.value.isSome

/-- `n_max` of the client, where `"unlimited"` is `sys.maxsize`. -/
def most (type : ColumnType) : ℕ := type.nMax.getD maxsize.toNat

end ColumnType

/-- `(base.min is None or value >= base.min) and (base.max is None or value <= base.max)` -/
def BaseType.inRange (base : BaseType) (x : ℚ) : Bool :=
  base.min.all (· ≤ x) && base.max.all (x ≤ ·)

/-- Whether `check_constraints` lets a value pass. -/
def BaseType.accepts (base : BaseType) (s : Scalar) : Bool :=
  if base.enum.any fun allowed => s ∉ allowed then false
  else
    match s with
    | .integer n => base.inRange n
    | .real x => base.inRange x
    | .string t => base.minLength ≤ t.length && t.length ≤ base.maxLength
    | _ => true

/-! ### The client reads -/

/-- An `error.Error`, or an exception that is none. -/
inductive Fault where
  | error
  | raised
  deriving DecidableEq

def floatToInt : Value → Value
  | .real x => if x.den = 1 ∧ -2 ^ 53 ≤ x.num ∧ x.num < 2 ^ 53 then .int x.num else .real x
  | v => v

/-- `unwrap_json`, without the test of what is inside. -/
def unwrapJson (json : Value) (name : Text) : Option Value :=
  match json with
  | .arr [.str s, inner] => if s = name then some inner else none
  | _ => none

/-- The string of some code points; one that is no character is in no UUID. -/
def stringOf (s : Text) : String := String.ofList (s.map Char.ofNat)

/-- `ovsuuid.from_string`. The pattern lets a line break at the end pass, and then `uuid.UUID`
raises. -/
def uuidFromString (s : Text) : Except Fault Uuid :=
  match Uuid.fromString (stringOf s) with
  | some u => .ok u
  | none =>
    if s.getLast? = some '\n'.toNat ∧ (Uuid.fromString (stringOf s.dropLast)).isSome then .error .raised
    else .error .error

/-- `ovsuuid.from_json`, without names. -/
def uuidFromJson (json : Value) : Except Fault Uuid :=
  match unwrapJson json (codes "uuid") with
  | some (.str s) => uuidFromString s
  | _ => .error .error

def Scalar.fromJson (type : AtomicType) (json : Value) : Except Fault Scalar :=
  match type, floatToInt json with
  | .integer, .int n => .ok (.integer n)
  | .integer, .bool b => .ok (.integer b.toInt)
  | .real, .int n => .ok (.real n)
  | .real, .real x => .ok (.real x)
  | .real, .bool b => .ok (.real b.toInt)
  | .boolean, .bool b => .ok (.boolean b)
  | .string, .str s => .ok (.string s)
  | .uuid, json => (uuidFromJson json).map .uuid
  | _, _ => .error .error

def Atom.fromJson (base : BaseType) (json : Value) : Except Fault Atom :=
  (Scalar.fromJson base.type json).bind fun s => if base.accepts s then .ok (.value s) else .error .error

/-- `Datum`: a value for each key, or `none` for each member of a set. -/
abbrev Datum := Dict Atom (Option Atom)

namespace Datum

/-- `isinstance(json, list) and len(json) > 0 and json[0] == "set"` -/
def isSet : Value → Bool
  | .arr (.str s :: _) => s = codes "set"
  | _ => false

/-- `values[key] = value`, unless the key is there. -/
def add (values : Datum) (key : Atom) (value : Option Atom) : Except Fault Datum :=
  if (values.get key).isSome then .error .error else .ok (values.set key value)

/-- One turn of the loop of `from_json`. -/
def addElement (type : ColumnType) (values : Datum) (element : Value) : Except Fault Datum :=
  match type.value with
  | none => (Atom.fromJson type.key element).bind fun key => values.add key none
  | some base =>
    match element with
    | .arr [k, v] => (Atom.fromJson type.key k).bind fun key =>
      (Atom.fromJson base v).bind fun value => values.add key (some value)
    | _ => .error .error

def fromJson (type : ColumnType) (json : Value) : Except Fault Datum :=
  if type.isMap || isSet json then
    match unwrapJson json (codes (if type.isMap then "map" else "set")) with
    | some (.arr inner) =>
      if inner.length < type.nMin ∨ type.most < inner.length then .error .error
      else inner.foldlM (addElement type) Dict.empty
    | _ => .error .error
  else (Atom.fromJson type.key json).map fun key => Dict.empty.set key none

def default (type : ColumnType) : Datum :=
  if type.nMin = 0 then Dict.empty
  else Dict.empty.set (.default type.key.type) (type.value.map fun base => .default base.type)

def diff (type : ColumnType) (self datum : Datum) : Datum :=
  if 1 < type.most ∨ self.entries = [] then self.toggleAll datum.entries else datum

end Datum

/-! ### The server writes -/

/-- `strcmp`: the order of the bytes of two texts is that of their code points. -/
def strcmp : Text → Text → Ordering := List.compareLex compare

/-- Where a type stands among the types. -/
def AtomicType.rank : AtomicType → ℕ
  | .integer => 0
  | .real => 1
  | .boolean => 2
  | .string => 3
  | .uuid => 4

/-- `ovsdb_atom_compare_3way`. The text of a UUID has the order of its number. Values of two types
are never compared. -/
def Scalar.compare3way : Scalar → Scalar → Ordering
  | .integer a, .integer b => compare a b
  | .real a, .real b => compare a b
  | .boolean a, .boolean b => compare a b
  | .string a, .string b => strcmp a b
  | .uuid a, .uuid b => strcmp (codes a.text) (codes b.text)
  | a, b => compare a.type.rank b.type.rank

namespace Server

/-- `struct ovsdb_datum`: sorted keys, each with a value or, in a set, without. -/
abbrev Datum := List (Scalar × Option Scalar)

/-- The number that `%.*g` writes of a real, with `DBL_DIG` digits. -/
def printed (x : ℚ) : ℚ :=
  roundHalfEven (x / 10 ^ (Int.log 10 |x| - 14)) * 10 ^ (Int.log 10 |x| - 14)

/-- Whether the reader takes a number for an integer. -/
def isInteger (x : ℚ) : Bool := x.den = 1 && -2 ^ 63 ≤ x.num && x.num < 2 ^ 63

/-- A real in the way the reader hands it over, an integer or the nearest double. The largest
doubles, of which the digits may be too large for it, are left out. -/
def realToJson (x : ℚ) : Value :=
  if isInteger (printed x) then .int (printed x).num else .real (nearest (printed x))

def atomToJson : Scalar → Value
  | .integer n => .int n
  | .real x => realToJson x
  | .boolean b => .bool b
  | .string s => .str s
  | .uuid u => .arr [.str (codes "uuid"), .str (codes u.text)]

/-- An element of a map. In a map every key has a value. -/
def pairToJson (p : Scalar × Option Scalar) : Value :=
  .arr [atomToJson p.1, (p.2.map atomToJson).getD .null]

def datumToJson (type : ColumnType) (d : Datum) : Value :=
  if type.isMap then .arr [.str (codes "map"), .arr (d.map pairToJson)]
  else
    match d with
    | [p] => atomToJson p.1
    | _ => .arr [.str (codes "set"), .arr (d.map fun p => atomToJson p.1)]

/-- `n_max` of the server, where `"unlimited"` is `UINT_MAX`. -/
def most (type : ColumnType) : ℕ := type.nMax.getD 4294967295

def datumDiff (type : ColumnType) (old new : Datum) : Datum :=
  if most type ≤ 1 then new else walk Scalar.compare3way old new

def atomIsDefault (s : Scalar) : Bool := s = s.type.default

def datumIsDefault (type : ColumnType) (d : Datum) : Bool :=
  d.length = type.nMin && d.all fun p => atomIsDefault p.1 && p.2.all atomIsDefault

def fits (base : BaseType) (s : Scalar) : Bool := s.type = base.type && base.accepts s

def entryFits (type : ColumnType) (p : Scalar × Option Scalar) : Bool :=
  fits type.key p.1 &&
    match type.value, p.2 with
    | none, none => true
    | some base, some v => fits base v
    | _, _ => false

/-- A value that the client reads as it is: a real is the number that its digits are read as. -/
def spelled : Scalar → Bool
  | .real x => (if isInteger (printed x) then printed x else nearest (printed x)) = x
  | _ => true

/-- The order of the keys, and what each entry is. Every real is one that the client gets. -/
structure Typed (type : ColumnType) (d : Datum) : Prop where
  sorted : Sorted Scalar.compare3way d
  fits : ∀ p ∈ d, entryFits type p = true
  spelled : ∀ p ∈ d, spelled p.1 = true ∧ p.2.all spelled = true

/-- What the server keeps in a column: it checks every transaction for the entries and their
number. -/
structure Conforms (type : ColumnType) (d : Datum) : Prop extends Typed type d where
  least : type.nMin ≤ d.length
  most : d.length ≤ Server.most type

end Server

/-! ### The order of the values -/

section Order

theorem codes_injective : Function.Injective codes := by
  intro s t h
  have hchar : Function.Injective Char.toNat := fun a b hab => Char.toNat_inj.mp hab
  exact String.toList_inj.mp (List.map_injective_iff.mpr hchar h)

instance transCmp_strcmp : Std.TransCmp strcmp := List.instTransCmpCompareLex

instance lawfulEqCmp_strcmp : Std.LawfulEqCmp strcmp := List.instLawfulEqCmpCompareLex

theorem Scalar.compare3way_swap (a b : Scalar) : a.compare3way b = (b.compare3way a).swap := by
  cases a <;> cases b <;> try rfl
  all_goals
    simp only [compare3way]
    exact Std.OrientedCmp.eq_swap

theorem Scalar.compare3way_isLE_trans {a b c : Scalar} : (a.compare3way b).isLE = true →
    (b.compare3way c).isLE = true → (a.compare3way c).isLE = true := by
  -- values of two types are in the order of the types, whatever they are
  cases a <;> cases b <;> cases c <;>
    first
    | exact fun _ _ => rfl
    | exact fun h _ => Bool.noConfusion h
    | exact fun _ h => Bool.noConfusion h
    | skip
  all_goals
    simp only [compare3way]
    exact Std.TransCmp.isLE_trans

theorem Scalar.eq_of_compare3way {a b : Scalar} (h : a.compare3way b = .eq) : a = b := by
  cases a <;> cases b <;> try cases h
  all_goals
    simp only [compare3way] at h
    have heq := Std.LawfulEqCmp.eq_of_compare h
  case uuid.uuid => exact congrArg _ (Uuid.ext_text (codes_injective heq))
  all_goals exact congrArg _ heq

instance Scalar.transCmp_compare3way : Std.TransCmp Scalar.compare3way where
  eq_swap {a b} := a.compare3way_swap b
  isLE_trans := compare3way_isLE_trans

instance Scalar.lawfulEqCmp_compare3way : Std.LawfulEqCmp Scalar.compare3way where
  compare_self := Std.ReflCmp.compare_self
  eq_of_compare := eq_of_compare3way

end Order

/-! ### What is written is read -/

section ReadBack

variable {type : ColumnType} {d : Server.Datum}

theorem stringOf_codes (s : String) : stringOf (codes s) = s := by
  have hround : Char.ofNat ∘ Char.toNat = id := funext Char.ofNat_toNat
  rw [stringOf, codes, List.map_map, hround, List.map_id, String.ofList_toList]

theorem uuidFromString_codes (u : Uuid) : uuidFromString (codes u.text) = .ok u := by
  rw [uuidFromString, stringOf_codes, Uuid.fromString_text]

theorem floatToInt_real (x : ℚ) : floatToInt (.real x) = .real x ∨
    x.den = 1 ∧ floatToInt (.real x) = .int x.num := by
  rw [floatToInt]
  split
  case isTrue h => exact .inr ⟨h.1, rfl⟩
  case isFalse => exact .inl rfl

theorem fromJson_real (x : ℚ) : Scalar.fromJson .real (.real x) = .ok (.real x) := by
  unfold Scalar.fromJson
  rcases floatToInt_real x with h | ⟨hden, h⟩
  · rw [h]
  · rw [h]
    exact congrArg (Except.ok ∘ Scalar.real) (Rat.coe_int_num_of_den_eq_one hden)

theorem Scalar.fromJson_atomToJson {s : Scalar} (hspelled : Server.spelled s = true) :
    Scalar.fromJson s.type (Server.atomToJson s) = .ok s := by
  cases s with
  | integer n => rfl
  | real x =>
    have hx := of_decide_eq_true hspelled
    rw [Server.atomToJson, Server.realToJson]
    split
    case isTrue h =>
      rw [if_pos h] at hx
      have hden : (Server.printed x).den = 1 := by
        simp only [Server.isInteger, Bool.and_eq_true, decide_eq_true_eq] at h
        exact h.1.1
      exact congrArg (Except.ok ∘ Scalar.real) ((Rat.coe_int_num_of_den_eq_one hden).trans hx)
    case isFalse h =>
      rw [if_neg h] at hx
      rw [hx]
      exact fromJson_real x
  | boolean b => rfl
  | string s => rfl
  | uuid u =>
    have hread : uuidFromJson (Server.atomToJson (.uuid u)) = .ok u := by
      rw [uuidFromJson, Server.atomToJson, unwrapJson, if_pos rfl]
      exact uuidFromString_codes u
    simp only [Server.atomToJson, Scalar.type, Scalar.fromJson, floatToInt] at hread ⊢
    rw [hread]
    rfl

theorem Atom.fromJson_atomToJson {base : BaseType} {s : Scalar} (h : Server.fits base s = true)
    (hspelled : Server.spelled s = true) :
    Atom.fromJson base (Server.atomToJson s) = .ok (.value s) := by
  obtain ⟨htype, haccepts⟩ := Bool.and_eq_true_iff.mp h
  rw [Atom.fromJson, ← of_decide_eq_true htype, Scalar.fromJson_atomToJson hspelled]
  exact if_pos haccepts

/-- One and a half is read as it is, the double after three tenths is not. -/
example : Server.spelled (.real (3 / 2)) = true ∧
    Server.spelled (.real (5404319552844596 / 2 ^ 54)) = false := by decide +kernel

/-- The entries of a datum of the server as the client has them. -/
def Server.atoms (d : Server.Datum) : List (Atom × Option Atom) :=
  d.map fun p => (.value p.1, p.2.map .value)

theorem Atom.value_injective : Function.Injective Atom.value := fun _ _ h => Atom.value.inj h

theorem Server.nodup_atoms (h : Sorted Scalar.compare3way d) :
    ((Server.atoms d).map Prod.fst).Nodup := by
  have hkeys : (Server.atoms d).map Prod.fst = (d.map Prod.fst).map Atom.value := by
    rw [Server.atoms, List.map_map, List.map_map]
    rfl
  rw [hkeys]
  exact h.nodup.map Atom.value_injective

def Server.elementToJson (type : ColumnType) (p : Scalar × Option Scalar) : Value :=
  if type.isMap then Server.pairToJson p else Server.atomToJson p.1

theorem Datum.add_eq {values : Datum} {key : Atom} (h : key ∉ values.entries.map Prod.fst)
    (value : Option Atom) :
    ∃ r, values.add key value = .ok r ∧ r.entries = values.entries ++ [(key, value)] := by
  refine ⟨values.set key value, ?_, if_neg h⟩
  rw [Datum.add, Dict.get_eq_none_iff.mpr h]
  rfl

theorem Datum.addElement_eq {values : Datum} {p : Scalar × Option Scalar}
    (hfits : Server.entryFits type p = true)
    (hspelled : Server.spelled p.1 = true ∧ p.2.all Server.spelled = true)
    (h : Atom.value p.1 ∉ values.entries.map Prod.fst) :
    ∃ r, addElement type values (Server.elementToJson type p) = .ok r ∧
      r.entries = values.entries ++ [(.value p.1, p.2.map .value)] := by
  obtain ⟨k, v⟩ := p
  obtain ⟨hkey, hvalue⟩ := Bool.and_eq_true_iff.mp hfits
  rw [addElement, Server.elementToJson, ColumnType.isMap]
  cases htype : type.value with
  | none =>
    rw [htype] at hvalue
    cases v with
    | none =>
      simp only [Option.isSome_none, Bool.false_eq_true, if_false, Atom.fromJson_atomToJson hkey hspelled.1]
      exact Datum.add_eq h none
    | some v => cases hvalue
  | some base =>
    rw [htype] at hvalue
    cases v with
    | none => cases hvalue
    | some v =>
      simp only [Option.isSome_some, if_true, Server.pairToJson, Option.map_some, Option.getD_some,
        Atom.fromJson_atomToJson hkey hspelled.1, Atom.fromJson_atomToJson hvalue hspelled.2]
      exact Datum.add_eq h (some (.value v))

theorem Datum.foldlM_addElement {values : Datum} (hfits : ∀ p ∈ d, Server.entryFits type p = true)
    (hspelled : ∀ p ∈ d, Server.spelled p.1 = true ∧ p.2.all Server.spelled = true)
    (hnodup : ((values.entries ++ Server.atoms d).map Prod.fst).Nodup) :
    ∃ r, (d.map (Server.elementToJson type)).foldlM (addElement type) values = .ok r ∧
      r.entries = values.entries ++ Server.atoms d := by
  induction d generalizing values with
  | nil => exact ⟨values, rfl, (List.append_nil _).symm⟩
  | cons p d ih =>
    obtain ⟨hp, hd⟩ := List.forall_mem_cons.mp hfits
    obtain ⟨hs, hrest⟩ := List.forall_mem_cons.mp hspelled
    have happend : values.entries ++ Server.atoms (p :: d) =
        values.entries ++ [(.value p.1, p.2.map .value)] ++ Server.atoms d :=
      List.append_cons _ _ _
    have hnew : Atom.value p.1 ∉ values.entries.map Prod.fst := by
      rw [List.map_append, List.nodup_append] at hnodup
      intro hmem
      exact hnodup.2.2 _ hmem _ List.mem_cons_self rfl
    obtain ⟨r, hr, hentries⟩ := addElement_eq hp hs hnew
    rw [happend, ← hentries] at hnodup ⊢
    obtain ⟨r', hr', hentries'⟩ := ih hd hrest hnodup
    refine ⟨r', ?_, hentries'⟩
    rw [List.map_cons, List.foldlM_cons, hr]
    exact hr'

theorem Server.isSet_atomToJson (s : Scalar) : Datum.isSet (Server.atomToJson s) = false := by
  cases s with
  | real x =>
    rw [Server.atomToJson, Server.realToJson]
    split <;> rfl
  | uuid u =>
    change decide (codes "uuid" = codes "set") = false
    decide
  | _ => rfl

/-- A datum that is not one atom of a set is written with its elements in a list. -/
theorem Server.datumToJson_list (h : type.isMap = true ∨ d.length ≠ 1) :
    Server.datumToJson type d = .arr [.str (codes (if type.isMap then "map" else "set")),
      .arr (d.map (Server.elementToJson type))] := by
  unfold Server.datumToJson Server.elementToJson
  cases hmap : type.isMap with
  | true => rfl
  | false =>
    rcases d with _ | ⟨p, _ | ⟨q, d⟩⟩
    · rfl
    · rw [hmap] at h
      simp at h
    · rfl

/-- How many elements may be in a list. -/
theorem Datum.fromJson_list (h : type.isMap = true ∨ d.length ≠ 1) :
    Datum.fromJson type (Server.datumToJson type d) =
      if d.length < type.nMin ∨ type.most < d.length then .error .error
      else (d.map (Server.elementToJson type)).foldlM (addElement type) Dict.empty := by
  have hset : type.isMap = false → isSet (Server.datumToJson type d) = true := by
    intro hmap
    rw [Server.datumToJson_list h, hmap]
    rfl
  have hlist : (type.isMap || isSet (Server.datumToJson type d)) = true := by
    cases hmap : type.isMap with
    | true => rfl
    | false => exact hset hmap
  rw [Datum.fromJson, if_pos hlist, Server.datumToJson_list h, unwrapJson, if_pos rfl]
  simp only [List.length_map]

/-- What the server writes of a datum, the client reads, as long as the number of its elements is
in the bounds of the type. -/
theorem Datum.fromJson_datumToJson (h : Server.Typed type d)
    (hsize : type.isMap = false ∧ d.length = 1 ∨ type.nMin ≤ d.length ∧ d.length ≤ type.most) :
    ∃ r, Datum.fromJson type (Server.datumToJson type d) = .ok r ∧ r.entries = Server.atoms d := by
  by_cases hone : type.isMap = false ∧ d.length = 1
  · obtain ⟨p, rfl⟩ := List.length_eq_one_iff.mp hone.2
    obtain ⟨hkey, hvalue⟩ := Bool.and_eq_true_iff.mp (h.fits p List.mem_cons_self)
    have hnone : p.2 = none := by
      have htype : type.value = none :=
        Option.isNone_iff_eq_none.mp (Option.isSome_eq_false_iff.mp hone.1)
      rw [htype] at hvalue
      cases hp : p.2 with
      | none => rfl
      | some v =>
        rw [hp] at hvalue
        cases hvalue
    have hwrite : Server.datumToJson type [p] = Server.atomToJson p.1 := by
      rw [Server.datumToJson, if_neg (by simp [hone.1])]
    rw [Datum.fromJson, hwrite, hone.1, Server.isSet_atomToJson,
      Atom.fromJson_atomToJson hkey (h.spelled p List.mem_cons_self).1]
    refine ⟨_, rfl, ?_⟩
    rw [Server.atoms, List.map_singleton, hnone]
    rfl
  · have hlist : type.isMap = true ∨ d.length ≠ 1 := by
      by_contra hcon
      push Not at hcon
      exact hone ⟨by simpa using hcon.1, hcon.2⟩
    have hbounds := hsize.resolve_left hone
    rw [Datum.fromJson_list hlist, if_neg (by omega)]
    exact Datum.foldlM_addElement h.fits h.spelled (Server.nodup_atoms h.sorted)

end ReadBack

/-! ### Differences -/

/-- The client has the datum of the server. -/
def Datum.Is (d : Datum) (e : Server.Datum) : Prop := ∀ k, d.get k = (Server.atoms e).lookup k

section Differences

variable {type : ColumnType} {old new : Server.Datum} {self datum : Datum}

theorem Datum.is_of_entries {e : Server.Datum} (h : datum.entries = Server.atoms e) : datum.Is e := by
  intro k
  rw [Dict.get, h]

theorem Server.lookup_atoms_default (e : Server.Datum) (t : AtomicType) :
    (Server.atoms e).lookup (.default t) = none := by
  rw [lookup_eq_none_iff_notMem, Server.atoms, List.map_map]
  intro hmem
  obtain ⟨p, -, hp⟩ := List.mem_map.mp hmem
  cases hp

theorem Server.lookup_atoms_walk (hold : Sorted Scalar.compare3way old)
    (hnew : Sorted Scalar.compare3way new) (k : Atom) :
    (Server.atoms (walk Scalar.compare3way old new)).lookup k =
      diffAt ((Server.atoms old).lookup k) ((Server.atoms new).lookup k) := by
  cases k with
  | default t =>
    rw [Server.lookup_atoms_default, Server.lookup_atoms_default, Server.lookup_atoms_default]
    rfl
  | value s =>
    have hvalue : Function.Injective (Option.map Atom.value) := Option.map_injective Atom.value_injective
    unfold Server.atoms
    rw [lookup_map Atom.value_injective, lookup_map Atom.value_injective,
      lookup_map Atom.value_injective, lookup_walk hold hnew, diffAt_map hvalue]

/-- The two ends agree on which columns hold more than one element. -/
theorem Server.most_le_one_iff : Server.most type ≤ 1 ↔ type.most ≤ 1 := by
  unfold Server.most ColumnType.most
  cases type.nMax with
  | none => decide
  | some n => exact Iff.rfl

theorem Server.Typed.datumDiff (hold : Server.Typed type old) (hnew : Server.Typed type new) :
    Server.Typed type (Server.datumDiff type old new) := by
  unfold Server.datumDiff
  split
  · exact hnew
  · refine ⟨sorted_walk hold.sorted hnew.sorted, fun p hp => ?_, fun p hp => ?_⟩
    · exact (mem_of_mem_walk hp).elim (hold.fits p) (hnew.fits p)
    · exact (mem_of_mem_walk hp).elim (hold.spelled p) (hnew.spelled p)

/-- A datum that changed has a difference that is not too small for its type. -/
theorem Server.Conforms.nMin_le_datumDiff (hnew : Server.Conforms type new) (hne : old ≠ new) :
    type.nMin ≤ (Server.datumDiff type old new).length := by
  unfold Server.datumDiff
  split
  · exact hnew.least
  · have hpos : walk Scalar.compare3way old new ≠ [] := fun h => hne (eq_of_walk_eq_nil h)
    exact type.bounds.1.trans (List.length_pos_iff.mpr hpos)

theorem Datum.diff_is (hold : Sorted Scalar.compare3way old) (hnew : Sorted Scalar.compare3way new)
    (hself : self.Is old) (hdatum : datum.entries = Server.atoms (Server.datumDiff type old new)) :
    (Datum.diff type self datum).Is new := by
  intro k
  unfold Datum.diff
  unfold Server.datumDiff at hdatum
  by_cases hcomposite : Server.most type ≤ 1
  · rw [if_pos hcomposite] at hdatum
    split
    case isTrue hempty =>
      -- the client had nothing, and takes what it is given
      have hnothing : self.entries = [] := hempty.resolve_left fun hmost =>
        Nat.not_lt.mpr (Server.most_le_one_iff.mp hcomposite) hmost
      rw [Dict.get_toggleAll datum.nodup, Dict.entries_eq_nil_iff.mp hnothing k, hdatum]
      rfl
    case isFalse => exact Datum.is_of_entries hdatum k
  · rw [if_neg hcomposite] at hdatum
    rw [if_pos (.inl (Nat.lt_of_not_le (mt Server.most_le_one_iff.mpr hcomposite))),
      Dict.get_toggleAll datum.nodup, hdatum, Server.lookup_atoms_walk hold hnew, hself, diffAt_diffAt]

/-- A datum of more elements than a column may have cannot be read. -/
theorem Datum.fromJson_refused {d : Server.Datum} (h : ¬d.length ≤ type.most) :
    Datum.fromJson type (Server.datumToJson type d) = .error .error := by
  have hone : (1 : ℕ) ≤ type.most := by
    unfold ColumnType.most
    cases hmax : type.nMax with
    | none => decide
    | some n => exact type.bounds.2 n hmax
  rw [Datum.fromJson_list (.inr (by omega)), if_pos (.inr (Nat.lt_of_not_le h))]

/-- A column without a bound, or for one element at most, follows the server. -/
theorem Server.Conforms.length_datumDiff (hold : Server.Conforms type old)
    (hnew : Server.Conforms type new) (hmax : type.nMax = none ∨ type.nMax = some 1) :
    (Server.datumDiff type old new).length ≤ type.most := by
  have hlength := hold.most
  have hlength' := hnew.most
  have hwalk : (walk Scalar.compare3way old new).length ≤ old.length + new.length := length_walk old new
  unfold Server.datumDiff ColumnType.most
  unfold Server.most at hlength hlength' ⊢
  rcases hmax with hmax | hmax
  · have hbound : 2 * 4294967295 ≤ maxsize.toNat := by decide
    rw [hmax] at hlength hlength' ⊢
    rw [if_neg (by decide)]
    simp only [Option.getD_none] at hlength hlength' ⊢
    omega
  · rw [hmax, Option.getD_some] at hlength' ⊢
    rw [if_pos (Nat.le_refl 1)]
    exact hlength'

end Differences

/-! ### Defaults -/

section Defaults

variable {type : ColumnType} {d : Server.Datum}

/-- `__column_name`: what stands for the default of a column of a type. -/
def columnName : AtomicType → Value
  | .integer => .int 0
  | .real => .real 0
  | .boolean => .bool false
  | .string => .str []
  | .uuid => .arr [.str (codes "uuid"), .str (codes (Uuid.uniform 0).text)]

theorem Scalar.fromJson_columnName (t : AtomicType) :
    Scalar.fromJson t (columnName t) = .ok t.default := by
  cases t with
  | real => exact fromJson_real 0
  | uuid => exact Scalar.fromJson_atomToJson (s := .uuid (.uniform 0)) rfl
  | _ => rfl

theorem Server.eq_default_of_fits {base : BaseType} {s : Scalar} (hfits : Server.fits base s = true)
    (h : Server.atomIsDefault s = true) : s = base.type.default := by
  have htype := of_decide_eq_true (Bool.and_eq_true_iff.mp hfits).1
  exact (of_decide_eq_true h).trans (congrArg AtomicType.default htype)

/-- A datum that the server does not send is empty, or has one element that is the default. -/
theorem Server.Conforms.eq_default (h : Server.Conforms type d)
    (hdefault : Server.datumIsDefault type d = true) :
    type.nMin = 0 ∧ d = [] ∨
      type.nMin = 1 ∧ d = [(type.key.type.default, type.value.map fun base => base.type.default)] := by
  obtain ⟨hlength, hall⟩ := Bool.and_eq_true_iff.mp hdefault
  have hlength := of_decide_eq_true hlength
  rcases Nat.le_one_iff_eq_zero_or_eq_one.mp type.bounds.1 with hmin | hmin
  · exact .inl ⟨hmin, List.length_eq_zero_iff.mp (hlength.trans hmin)⟩
  · obtain ⟨⟨k, v⟩, rfl⟩ := List.length_eq_one_iff.mp (hlength.trans hmin)
    obtain ⟨hkey, hvalue⟩ := Bool.and_eq_true_iff.mp (h.fits (k, v) List.mem_cons_self)
    obtain ⟨hk, hv⟩ := Bool.and_eq_true_iff.mp (List.all_eq_true.mp hall (k, v) List.mem_cons_self)
    obtain rfl : k = type.key.type.default := Server.eq_default_of_fits hkey hk
    refine .inr ⟨hmin, ?_⟩
    cases htype : type.value with
    | none =>
      rw [htype] at hvalue
      cases v with
      | none => rfl
      | some v => cases hvalue
    | some base =>
      rw [htype] at hvalue
      cases v with
      | none => cases hvalue
      | some v =>
        obtain rfl : v = base.type.default := Server.eq_default_of_fits hvalue hv
        rfl

theorem isSet_columnName (t : AtomicType) : Datum.isSet (columnName t) = false := by
  cases t with
  | uuid => exact Server.isSet_atomToJson (.uuid (.uniform 0))
  | _ => rfl

/-- A default that is written into an update is read as the datum that the server did not send. -/
theorem Datum.fromJson_columnName (h : Server.Conforms type d)
    (hdefault : Server.datumIsDefault type d = true) (hset : type.isMap = false) (hmin : type.nMin ≠ 0) :
    ∃ r, Datum.fromJson type (columnName type.key.type) = .ok r ∧ r.entries = Server.atoms d := by
  obtain ⟨hzero, -⟩ | ⟨-, rfl⟩ := h.eq_default hdefault
  · exact absurd hzero hmin
  · have hfits := (Bool.and_eq_true_iff.mp (h.fits _ List.mem_cons_self)).1
    have hvalue : type.value = none := Option.isNone_iff_eq_none.mp (Option.isSome_eq_false_iff.mp hset)
    have hread : Atom.fromJson type.key (columnName type.key.type) = .ok (.value type.key.type.default) := by
      rw [Atom.fromJson, Scalar.fromJson_columnName]
      exact if_pos (Bool.and_eq_true_iff.mp hfits).2
    rw [Datum.fromJson, hset, isSet_columnName, hread]
    refine ⟨_, rfl, ?_⟩
    rw [Server.atoms, hvalue]
    rfl

end Defaults

end OvnApi.Ovs
