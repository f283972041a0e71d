import OvnApi.Lib.KeyedTable
import OvnApi.Traces.Idl

/-! The Northbound database, as far as a canary probe can touch it. Switches and
routers are root rows; ports, ACLs and NAT rules live as long as some root row
holds a strong reference to them. A transaction ends with the collection of the
rows that lost their last reference, so a database is always closed under
references and free of unreferenced rows. Row UUIDs are distinct in the whole
database. Weak references and the columns no command reads are left out. -/

namespace OvnApi.Northbound

open OvnApi.Core Lib Traces

inductive DatapathKind where
  | switch
  | router
  deriving DecidableEq, Repr

/-- A row of `Logical_Switch` or `Logical_Router`; `rules` is the column `acls` of
a switch and the column `nat` of a router. -/
structure Datapath where
  uuid : Uuid
  kind : DatapathKind
  name : String
  ports : List Uuid := []
  rules : List Uuid := []
  deriving DecidableEq

/-- The two columns of strong references. -/
inductive Column where
  | ports
  | rules
  deriving DecidableEq

def Datapath.refs (d : Datapath) : List Uuid := d.ports ++ d.rules

def Datapath.column (d : Datapath) : Column → List Uuid
  | .ports => d.ports
  | .rules => d.rules

def Datapath.modify (d : Datapath) (col : Column) (f : List Uuid → List Uuid) : Datapath :=
  match col with
  | .ports => { d with ports := f d.ports }
  | .rules => { d with rules := f d.rules }

structure RouterPort where
  name : String
  mac : String
  networks : List String
  /-- It has a gateway chassis or an HA chassis group. -/
  gateway : Bool := false
  deriving DecidableEq

structure Acl where
  name : Option String
  direction : String
  priority : ℤ
  matchText : String
  action : String
  log : Bool := false
  tier : ℤ := 0
  applyAfterLb : Bool := false
  deriving DecidableEq

structure NatRule where
  type : String
  externalIp : String
  logicalIp : String
  gatewayPort : Option Uuid := none
  /-- The option of this name, if it is set. -/
  stateless : Option String := none
  deriving DecidableEq

/-- The columns of a row that is no root. -/
inductive Columns where
  | switchPort (name : String)
  | routerPort (port : RouterPort)
  | acl (acl : Acl)
  | nat (nat : NatRule)
  deriving DecidableEq

def Columns.portName (kind : DatapathKind) : Columns → Option String
  | .switchPort name => if kind = .switch then some name else none
  | .routerPort port => if kind = .router then some port.name else none
  | _ => none

structure Leaf where
  uuid : Uuid
  columns : Columns
  deriving DecidableEq

/-- A root row of another table that holds references, such as a port group. -/
structure Holder where
  uuid : Uuid
  table : String
  refs : List Uuid
  deriving DecidableEq

/-- The rows, in the middle of a transaction. -/
structure Content where
  datapaths : KeyedTable Datapath.uuid
  leaves : KeyedTable Leaf.uuid
  holders : List Holder

namespace Content

def references (c : Content) : List Uuid :=
  c.datapaths.rows.flatMap Datapath.refs ++ c.holders.flatMap Holder.refs

def uuids (c : Content) : List Uuid :=
  c.datapaths.rows.map Datapath.uuid ++ c.leaves.rows.map Leaf.uuid

def PortNamesDistinct (c : Content) : Prop :=
  ∀ kind ∈ [DatapathKind.switch, .router], ∀ leaf ∈ c.leaves.rows, ∀ leaf' ∈ c.leaves.rows,
    (leaf.columns.portName kind).isSome = true →
      leaf.columns.portName kind = leaf'.columns.portName kind → leaf = leaf'

instance (c : Content) : Decidable c.PortNamesDistinct :=
  inferInstanceAs (Decidable (∀ _ ∈ _, _))

/-- Drop the rows nothing refers to. -/
def collect (c : Content) : Content :=
  { c with leaves := c.leaves.filter fun leaf => leaf.uuid ∈ c.references }

theorem mem_references {c : Content} {u : Uuid} :
    u ∈ c.references ↔
      (∃ d ∈ c.datapaths.rows, u ∈ d.refs) ∨ ∃ h ∈ c.holders, u ∈ h.refs := by
  simp only [references, List.mem_append, List.mem_flatMap]

theorem mem_collect {c : Content} {leaf : Leaf} :
    leaf ∈ c.collect.leaves.rows ↔ leaf ∈ c.leaves.rows ∧ leaf.uuid ∈ c.references := by
  simp [collect, KeyedTable.filter]

end Content

/-- A database between two transactions. -/
structure NbDb where
  content : Content
  closed : ∀ u ∈ content.references, u ∈ content.leaves.rows.map Leaf.uuid
  collected : ∀ leaf ∈ content.leaves.rows, leaf.uuid ∈ content.references
  indexed : content.PortNamesDistinct

/-- The end of a transaction: references must point to rows, rows that nothing
refers to are deleted, and the names of ports are an index. -/
def commit (c : Content) : Except String NbDb :=
  if h : ∀ u ∈ c.references, u ∈ c.leaves.rows.map Leaf.uuid then
    if hindex : c.collect.PortNamesDistinct then
      .ok {
        content := c.collect
        closed := fun u hu => by
          obtain ⟨leaf, hleaf, rfl⟩ := List.mem_map.mp (h u hu)
          exact List.mem_map_of_mem (Content.mem_collect.mpr ⟨hleaf, hu⟩)
        collected := fun leaf hleaf => (Content.mem_collect.mp hleaf).2
        indexed := hindex }
    else .error "constraint violation"
  else .error "referential integrity violation"

theorem commit_ok {c : Content} {db : NbDb} (h : commit c = .ok db) : db.content = c.collect := by
  unfold commit at h
  split_ifs at h
  obtain rfl := Except.ok.inj h
  rfl

/-- A port is determined by its name. -/
theorem NbDb.port_unique (db : NbDb) {kind : DatapathKind} {name : String} {leaf leaf' : Leaf}
    (hleaf : leaf ∈ db.content.leaves.rows) (hleaf' : leaf' ∈ db.content.leaves.rows)
    (hname : leaf.columns.portName kind = some name)
    (hname' : leaf'.columns.portName kind = some name) : leaf = leaf' := by
  apply db.indexed kind _ leaf hleaf leaf' hleaf'
  · rw [hname]
    rfl
  · rw [hname, hname']
  · cases kind <;> simp

/-! ### What the Python IDL shows of it -/

def Datapath.switchRow (d : Datapath) : Option LogicalSwitchRow :=
  match d.kind with
  | .switch => some { uuid := d.uuid, name := d.name, ports := d.ports, acls := d.rules }
  | .router => none

def Datapath.routerRow (d : Datapath) : Option LogicalRouterRow :=
  match d.kind with
  | .switch => none
  | .router => some { uuid := d.uuid, name := d.name, ports := d.ports, nat := d.rules }

def Leaf.aclRow (leaf : Leaf) : Option AclRow :=
  match leaf.columns with
  | .acl acl => some {
      uuid := leaf.uuid
      name := acl.name.toList
      direction := acl.direction
      priority := acl.priority
      matchText := acl.matchText }
  | _ => none

def Leaf.natRow (leaf : Leaf) : Option NatRow :=
  match leaf.columns with
  | .nat nat => some {
      uuid := leaf.uuid
      type := nat.type
      externalIp := nat.externalIp
      logicalIp := nat.logicalIp }
  | _ => none

def Leaf.switchPortRow (leaf : Leaf) : Option LogicalSwitchPortRow :=
  match leaf.columns with
  | .switchPort name => some { uuid := leaf.uuid, name }
  | _ => none

def Leaf.routerPortRow (leaf : Leaf) : Option LogicalRouterPortRow :=
  match leaf.columns with
  | .routerPort port => some { uuid := leaf.uuid, name := port.name }
  | _ => none

def NbDb.view (db : NbDb) : NbIdl where
  acl := db.content.leaves.rows.filterMap Leaf.aclRow
  nat := db.content.leaves.rows.filterMap Leaf.natRow
  logicalSwitch := db.content.datapaths.rows.filterMap Datapath.switchRow
  logicalRouter := db.content.datapaths.rows.filterMap Datapath.routerRow
  logicalSwitchPort := db.content.leaves.rows.filterMap Leaf.switchPortRow
  logicalRouterPort := db.content.leaves.rows.filterMap Leaf.routerPortRow

end OvnApi.Northbound
