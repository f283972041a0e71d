import Mathlib.Data.List.Sort
import Mathlib.Data.String.Basic
import OvnApi.Lib.Counter
import OvnApi.Traces.Idl

/-! `ChassisService`: the list of the chassis with the number of port bindings of each, and
the port bindings of one chassis. A binding refers to chassis in two columns, an optional
one and a set; the Python IDL presents both as lists of rows. -/

namespace OvnApi.Chassis

open OvnApi.Core Lib
open Traces (ChassisRef Dict)

structure EncapRow where
  type : String
  ip : String
  deriving DecidableEq

structure ChassisRow where
  uuid : Uuid
  name : String
  hostname : String := ""
  nbCfg : ℤ := 0
  encaps : List EncapRow := []
  otherConfig : Dict := []
  externalIds : Dict := []
  deriving DecidableEq

structure PortBindingRow where
  logicalPort : String
  type : String := ""
  datapath : Uuid
  tunnelKey : ℤ
  up : List Bool := []
  parentPort : List String := []
  chassis : List ChassisRef := []
  additionalChassis : List ChassisRef := []
  options : Dict := []
  externalIds : Dict := []
  /-- The column holds at most one reference. -/
  chassis_le : chassis.length ≤ 1
  /-- The column is a set of references. -/
  additional_nodup : (additionalChassis.map ChassisRef.uuid).Nodup
  deriving DecidableEq

/-- The two tables, with the indexes of their schema. -/
structure SbContent where
  chassis : List ChassisRow
  portBinding : List PortBindingRow
  uuid_nodup : (chassis.map ChassisRow.uuid).Nodup
  name_nodup : (chassis.map ChassisRow.name).Nodup
  port_nodup : (portBinding.map PortBindingRow.logicalPort).Nodup

/-! ### Values of columns -/

/-- A row, as a reference shows it, or a string. -/
inductive Item where
  | row (uuid : Uuid) (name : Option String)
  | str (s : String)

/-- A column that may hold references. -/
inductive Value where
  | none
  | item (x : Item)
  | list (xs : List Item)

def Item.ofChassis (ref : ChassisRef) : Item := .row ref.uuid (some ref.name)

def Item.uuidText : Item → String
  | .row uuid _ => uuid.text
  | .str s => s

/-- `getattr(value, "name", None)`. -/
def Item.attrName : Item → Option String
  | .row _ name => name
  | .str _ => none

def rowUuid : Value → Option String
  | .none => none
  | .item x => some x.uuidText
  | .list xs => xs.head?.map Item.uuidText

/-- `_row_name`; a list has no name of its own. -/
def rowName : Value → Option String
  | .none => none
  | .item x => if x.attrName.getD "" = "" then rowUuid (.item x) else x.attrName
  | .list xs => rowUuid (.list xs)

def singleOptionalString : Value → Option String
  | .none => none
  | .item x => some x.uuidText
  | .list [] => none
  | .list (x :: _) => some ((rowName (.item x)).getD x.uuidText)

/-! ### Listing -/

structure ChassisSummary where
  uuid : String
  name : String
  hostname : String
  nbCfg : ℤ
  transportTypes : List String
  encapIps : List String
  portBindingCount : ℕ
  otherConfig : Dict
  externalIds : Dict
  deriving DecidableEq

/-- `sorted({text for ... if text})`. -/
def sortedSet (texts : List String) : List String :=
  (texts.filter (· ≠ "")).dedup.insertionSort (· ≤ ·)

def PortBindingRow.references (row : PortBindingRow) : List Value :=
  .list (row.chassis.map .ofChassis) :: row.additionalChassis.map fun ref => .item (.ofChassis ref)

def countReference (counts : Counter String) (chassis : Value) : Counter String :=
  match rowUuid chassis with
  | none => counts
  | some uuid => if uuid = "" then counts else counts.bump uuid

def bindingCounts (idl : SbContent) : Counter String :=
  idl.portBinding.foldl (fun counts row => row.references.foldl countReference counts) .empty

def chassisSummary (counts : Counter String) (row : ChassisRow) : ChassisSummary where
  uuid := row.uuid.text
  name := row.name
  hostname := row.hostname
  nbCfg := row.nbCfg
  transportTypes := sortedSet (row.encaps.map EncapRow.type)
  encapIps := sortedSet (row.encaps.map EncapRow.ip)
  portBindingCount := counts.get row.uuid.text
  otherConfig := row.otherConfig
  externalIds := row.externalIds

def listChassis (idl : SbContent) : List ChassisSummary :=
  (idl.chassis.map (chassisSummary (bindingCounts idl))).insertionSort fun a b => a.name ≤ b.name

/-! ### The bindings of a chassis -/

structure ChassisBinding where
  logicalPort : String
  type : String
  datapathUuid : Option String
  tunnelKey : ℤ
  up : Option Bool
  parentPort : Option String
  chassis : Option String
  additionalChassis : List String
  options : Dict
  externalIds : Dict
  deriving DecidableEq

structure ChassisBindingsResponse where
  chassis : String
  bindingCount : ℕ
  bindings : List ChassisBinding
  deriving DecidableEq

/-- `_find_chassis`: the first row with this UUID or this name. -/
def findChassis (idl : SbContent) (chassisRef : String) : Except Exc ChassisRow :=
  match idl.chassis.find? fun row => row.uuid.text == chassisRef || row.name == chassisRef with
  | some row => .ok row
  | none => .error (.http 404 ("Chassis " ++ pyRepr chassisRef ++ " not found."))

def chassisBinding (row : PortBindingRow) : ChassisBinding where
  logicalPort := row.logicalPort
  type := row.type
  datapathUuid := rowUuid (.item (.row row.datapath none))
  tunnelKey := row.tunnelKey
  up := row.up.head?
  parentPort := singleOptionalString (.list (row.parentPort.map .str))
  chassis := rowName (.list (row.chassis.map .ofChassis))
  additionalChassis :=
    ((row.additionalChassis.filterMap fun ref => rowName (.item (.ofChassis ref))).filter
      (· ≠ "")).insertionSort (· ≤ ·)
  options := row.options
  externalIds := row.externalIds

/-- The test of the loop: neither column refers to the chassis. -/
def PortBindingRow.skipped (row : PortBindingRow) (chassisUuid : String) : Bool :=
  rowUuid (.list (row.chassis.map .ofChassis)) != some chassisUuid &&
    row.additionalChassis.all fun ref => rowUuid (.item (.ofChassis ref)) != some chassisUuid

def getChassisBindings (idl : SbContent) (chassisRef : String) :
    Except Exc ChassisBindingsResponse := do
  let chassisRow ← findChassis idl chassisRef
  let bindings := ((idl.portBinding.filter fun row => !row.skipped chassisRow.uuid.text).map
    chassisBinding).insertionSort fun a b => a.logicalPort ≤ b.logicalPort
  pure { chassis := chassisRow.name, bindingCount := bindings.length, bindings := bindings }

end OvnApi.Chassis
