import OvnApi.Traces.Models

/-! Rows of the Northbound and Southbound databases as the Python IDL presents
them, restricted to the columns the services read. A scalar column is a value, an
optional or set column is a list, a map column is a dictionary. A table is the
list of its rows in the order in which the IDL yields them. -/

namespace OvnApi.Traces

open OvnApi.Core

/-- A column value as a comparison or `str` sees it. -/
inductive PyValue where
  | str (s : String)
  | int (n : ℤ)
  | strs (xs : List String)
  deriving DecidableEq, Repr

structure AclRow where
  uuid : Uuid
  name : List String
  direction : String
  priority : ℤ
  matchText : String
  deriving DecidableEq

structure NatRow where
  uuid : Uuid
  type : String
  externalIp : String
  logicalIp : String
  deriving DecidableEq

structure LogicalSwitchRow where
  uuid : Uuid
  name : String
  ports : List Uuid := []
  acls : List Uuid := []
  loadBalancer : List Uuid := []
  deriving DecidableEq

structure LogicalRouterRow where
  uuid : Uuid
  name : String
  ports : List Uuid := []
  nat : List Uuid := []
  staticRoutes : List Uuid := []
  deriving DecidableEq

structure LogicalSwitchPortRow where
  uuid : Uuid
  name : String
  deriving DecidableEq

structure LogicalRouterPortRow where
  uuid : Uuid
  name : String
  deriving DecidableEq

structure NbIdl where
  acl : List AclRow := []
  nat : List NatRow := []
  logicalSwitch : List LogicalSwitchRow := []
  logicalRouter : List LogicalRouterRow := []
  logicalSwitchPort : List LogicalSwitchPortRow := []
  logicalRouterPort : List LogicalRouterPortRow := []
  deriving DecidableEq

/-- A row of any of the tables a probe can look into. -/
inductive NbRow where
  | acl (row : AclRow)
  | nat (row : NatRow)
  | logicalSwitch (row : LogicalSwitchRow)
  | logicalRouter (row : LogicalRouterRow)
  | logicalSwitchPort (row : LogicalSwitchPortRow)
  | logicalRouterPort (row : LogicalRouterPortRow)
  deriving DecidableEq

def NbRow.uuid : NbRow → Uuid
  | .acl row => row.uuid
  | .nat row => row.uuid
  | .logicalSwitch row => row.uuid
  | .logicalRouter row => row.uuid
  | .logicalSwitchPort row => row.uuid
  | .logicalRouterPort row => row.uuid

def NbRow.getattr : NbRow → String → Option PyValue
  | .acl row, "name" => some (.strs row.name)
  | .acl row, "match" => some (.str row.matchText)
  | .acl row, "direction" => some (.str row.direction)
  | .acl row, "priority" => some (.int row.priority)
  | .nat row, "type" => some (.str row.type)
  | .nat row, "external_ip" => some (.str row.externalIp)
  | .nat row, "logical_ip" => some (.str row.logicalIp)
  | .logicalSwitch row, "name" => some (.str row.name)
  | .logicalRouter row, "name" => some (.str row.name)
  | .logicalSwitchPort row, "name" => some (.str row.name)
  | .logicalRouterPort row, "name" => some (.str row.name)
  | _, _ => none

/-- `idl.tables[name].rows.values()`; an unknown table is a `KeyError`. -/
def NbIdl.rows (idl : NbIdl) : String → Except Exc (List NbRow)
  | "ACL" => .ok (idl.acl.map .acl)
  | "NAT" => .ok (idl.nat.map .nat)
  | "Logical_Switch" => .ok (idl.logicalSwitch.map .logicalSwitch)
  | "Logical_Router" => .ok (idl.logicalRouter.map .logicalRouter)
  | "Logical_Switch_Port" => .ok (idl.logicalSwitchPort.map .logicalSwitchPort)
  | "Logical_Router_Port" => .ok (idl.logicalRouterPort.map .logicalRouterPort)
  | name => .error (.other "KeyError" (pyRepr name))

/-- The same tables, each in some order. -/
structure NbIdl.Reordered (idl idl' : NbIdl) : Prop where
  acl : idl.acl.Perm idl'.acl
  nat : idl.nat.Perm idl'.nat
  logicalSwitch : idl.logicalSwitch.Perm idl'.logicalSwitch
  logicalRouter : idl.logicalRouter.Perm idl'.logicalRouter
  logicalSwitchPort : idl.logicalSwitchPort.Perm idl'.logicalSwitchPort
  logicalRouterPort : idl.logicalRouterPort.Perm idl'.logicalRouterPort

theorem NbIdl.Reordered.refl (idl : NbIdl) : idl.Reordered idl :=
  ⟨.refl _, .refl _, .refl _, .refl _, .refl _, .refl _⟩

structure DatapathBindingRow where
  uuid : Uuid
  type : List String
  nbUuid : List Uuid
  tunnelKey : ℤ
  externalIds : Dict
  deriving DecidableEq

/-- The part of a `Chassis` row that a reference to it shows. -/
structure ChassisRef where
  uuid : Uuid
  name : String
  deriving DecidableEq

structure PortBindingRow where
  uuid : Uuid
  logicalPort : String
  type : String
  datapath : Uuid
  chassis : List ChassisRef
  additionalChassis : List ChassisRef
  deriving DecidableEq

structure LogicalFlowRow where
  uuid : Uuid
  logicalDatapath : List Uuid
  tableId : ℤ
  priority : ℤ
  matchText : String
  actions : String
  externalIds : Dict
  deriving DecidableEq

structure SbIdl where
  datapathBinding : List DatapathBindingRow := []
  portBinding : List PortBindingRow := []
  logicalFlow : List LogicalFlowRow := []
  deriving DecidableEq

structure SbIdl.Reordered (idl idl' : SbIdl) : Prop where
  datapathBinding : idl.datapathBinding.Perm idl'.datapathBinding
  portBinding : idl.portBinding.Perm idl'.portBinding
  logicalFlow : idl.logicalFlow.Perm idl'.logicalFlow

theorem SbIdl.Reordered.refl (idl : SbIdl) : idl.Reordered idl := ⟨.refl _, .refl _, .refl _⟩

end OvnApi.Traces
