import OvnApi.Ovs.Rpc
import OvnApi.Ovs.Tables

/-! The monitors of `ovsdb-server`: what `ovsdb/monitor.c` keeps of the changes that a client
has not been told, and the updates it composes of them. A hash map is a function here, and
the order in which its rows are visited, with the order in which the members of an object
come out of a text, is given from outside. A set of changes that tracks what happened from
one state of the database to another holds, for each row that changed, what it was in the
first and what it is in the second. -/

namespace OvnApi.Ovs

open OvnApi.Lib OvnApi.Core

namespace Server

/-- The fields of a row, by the names of the columns. -/
abbrev Row := Text → Datum

abbrev Database := Text → Uuid → Option Row

/-- `struct ovsdb_monitor_row`. -/
structure Change where
  old : Option Row
  new : Option Row

/-- `struct ovsdb_monitor_change_set`: the changed rows by table and UUID. -/
abbrev ChangeSet := Text → Uuid → Option Change

structure RowChange where
  table : Text
  uuid : Uuid
  old : Option Row
  new : Option Row

structure Txn where
  id : Uuid
  changes : List RowChange

/-! ### Changes -/

/-- `clone_monitor_row_data`: only the columns that are asked for. -/
def cloneRow (table : TableSchema) (row : Row) : Row := fun name =>
  if name ∈ table.monitored.map Column.name then row name else []

def columnsChanged (columns : List Column) (old new : Row) : Bool :=
  columns.any fun c => old c.name ≠ new c.name

/-- `OVSDB_CHANGES_NO_EFFECT` of `ovsdb_monitor_changes_classify`. -/
def noEffect (table : TableSchema) (old new : Option Row) : Bool :=
  match old, new with
  | some old, some new => !columnsChanged table.monitored old new
  | _, _ => false

/-- `ovsdb_monitor_changes_update`, for the row with its change so far. -/
def changesUpdate (old new : Option Row) : Option Change → Option Change
  | none => some ⟨old, new⟩
  | some change =>
    match new with
    | some row => some { change with new := some row }
    | none => if change.old.isSome then some { change with new := none } else none

/-- `ovsdb_monitor_change_cb`, and `ovsdb_monitor_history_change_cb`. -/
def changeCb (tables : List TableSchema) (changes : ChangeSet) (r : RowChange) : ChangeSet :=
  match tables.find? fun table => table.name = r.table with
  | none => changes
  | some table =>
    if noEffect table r.old r.new then changes
    else Function.update changes r.table (Function.update (changes r.table) r.uuid
      (changesUpdate (r.old.map (cloneRow table)) (r.new.map (cloneRow table)) (changes r.table r.uuid)))

def track (tables : List TableSchema) (changes : ChangeSet) (txn : Txn) : ChangeSet :=
  txn.changes.foldl (changeCb tables) changes

/-- `ovsdb_monitor_get_initial`: every row was inserted. -/
def initialChanges (tables : List TableSchema) (db : Database) : ChangeSet := fun name uuid =>
  (tables.find? fun table => table.name = name).bind fun table =>
    (db name uuid).map fun row => ⟨none, some (cloneRow table row)⟩

/-- `ovsdb_monitor_get_changes_after`, for a monitor that has no changes yet. -/
def changesAfter (tables : List TableSchema) (history : List Txn) (id : Uuid) : Option ChangeSet :=
  match history.dropWhile fun txn => txn.id ≠ id with
  | [] => none
  | _ :: later => some (later.foldl (track tables) fun _ _ => none)

def lastTxnid (history : List Txn) : Uuid := (history.getLast?.map Txn.id).getD (.uniform 0)

/-! ### Updates -/

inductive Selection where
  | none
  | initial
  | insert
  | delete
  | modify

def rowUpdateType (initial old new : Bool) : Selection :=
  if initial then if new then .initial else .none
  else if !old then .insert
  else if !new then .delete
  else .modify

section Compose

variable (columns : List Column)

def rowToJson (row : Row) : List (Text × Value) :=
  columns.map fun c => (c.name, datumToJson c.type (row c.name))

def changedToJson (old new : Row) : List (Text × Value) :=
  rowToJson (columns.filter fun c => old c.name ≠ new c.name) old

def insertToJson (row : Row) : List (Text × Value) :=
  rowToJson (columns.filter fun c => !datumIsDefault c.type (row c.name)) row

def modifyToJson (old new : Row) : List (Text × Value) :=
  (columns.filter fun c => old c.name ≠ new c.name).map fun c =>
    (c.name, datumToJson c.type (datumDiff c.type (old c.name) (new c.name)))

/-- A row that is not there has no data. -/
def Change.oldRow (change : Change) : Row := change.old.getD fun _ => []

def Change.newRow (change : Change) : Row := change.new.getD fun _ => []

def composeRowUpdate (initial : Bool) (change : Change) : Option Value :=
  let old := change.oldRow
  let new := change.newRow
  match rowUpdateType initial change.old.isSome change.new.isSome with
  | .none => none
  | .initial => some (.obj [(codes "new", .obj (rowToJson columns new))])
  | .insert => some (.obj [(codes "new", .obj (rowToJson columns new))])
  | .delete => some (.obj [(codes "old", .obj (rowToJson columns old))])
  | .modify =>
    if columnsChanged columns old new then
      some (.obj [(codes "old", .obj (changedToJson columns old new)),
        (codes "new", .obj (rowToJson columns new))])
    else none

/-- `ovsdb_monitor_compose_row_update2`, without conditions. -/
def composeRowUpdate2 (initial : Bool) (change : Change) : Option Value :=
  let old := change.oldRow
  let new := change.newRow
  match rowUpdateType initial change.old.isSome change.new.isSome with
  | .none => none
  | .initial => some (.obj [(codes "initial", .obj (insertToJson columns new))])
  | .insert => some (.obj [(codes "insert", .obj (insertToJson columns new))])
  | .delete => some (.obj [(codes "delete", .null)])
  | .modify =>
    if columnsChanged columns old new then
      some (.obj [(codes "modify", .obj (modifyToJson columns old new))])
    else none

theorem composeRowUpdate_modify (old new : Row) : composeRowUpdate columns false ⟨some old, some new⟩ =
    if columnsChanged columns old new then
      some (.obj [(codes "old", .obj (changedToJson columns old new)),
        (codes "new", .obj (rowToJson columns new))])
    else none := rfl

theorem composeRowUpdate2_modify (old new : Row) : composeRowUpdate2 columns false ⟨some old, some new⟩ =
    if columnsChanged columns old new then
      some (.obj [(codes "modify", .obj (modifyToJson columns old new))])
    else none := rfl

end Compose

/-- In which order things come out of hash maps and objects. -/
structure Order where
  tables : List TableSchema
  rows : Text → List Uuid
  columns : Text → List Column

/-- The order visits each table, each changed row and each column once. -/
structure Order.Visits (order : Order) (tables : List TableSchema) (changes : ChangeSet) : Prop where
  perm_tables : order.tables.Perm tables
  nodup_rows : ∀ table ∈ tables, (order.rows table.name).Nodup
  mem_rows : ∀ table ∈ tables, ∀ uuid, (changes table.name uuid).isSome → uuid ∈ order.rows table.name
  perm_columns : ∀ table ∈ tables, (order.columns table.name).Perm table.monitored

section ComposeUpdate

variable (version : Version) (order : Order) (initial : Bool) (changes : ChangeSet)

def composeRow (columns : List Column) (change : Change) : Option Value :=
  match version with
  | .update => composeRowUpdate columns initial change
  | _ => composeRowUpdate2 columns initial change

def composeRows (table : TableSchema) : List (Text × Value) :=
  (order.rows table.name).filterMap fun uuid =>
    (changes table.name uuid).bind fun change =>
      (composeRow version initial (order.columns table.name) change).map (codes uuid.text, ·)

def composeTables : List (Text × Value) :=
  order.tables.filterMap fun table =>
    let rows := composeRows version order initial changes table
    if rows.isEmpty then none else some (table.name, .obj rows)

def composeUpdate : Option Value :=
  let tables := composeTables version order initial changes
  if tables.isEmpty then none else some (.obj tables)

end ComposeUpdate

/-! ### Sessions -/

/-- `ovsdb_jsonrpc_create_notify`, with the parameters that `ovsdb_jsonrpc_monitor_flush_all` gives it. -/
def createNotify (version : Version) (monitorId : Value) (lastId : Uuid) (json : Value) : Message :=
  match version with
  | .update => Message.createNotify (codes "update") (.arr [monitorId, json])
  | .update2 => Message.createNotify (codes "update2") (.arr [monitorId, json])
  | .update3 => Message.createNotify (codes "update3") (.arr [monitorId, .str (codes lastId.text), json])

/-- The version of a request to monitor a database, in `ovsdb_jsonrpc_session_got_request`. -/
def versionOf (dbName : Text) (request : Message) : Option Version :=
  match request.params with
  | .arr (.str name :: _) =>
    if name ≠ dbName then none
    else if request.method = some (codes "monitor") then some .update
    else if request.method = some (codes "monitor_cond") then some .update2
    else if request.method = some (codes "monitor_cond_since") then some .update3
    else none
  | _ => none

/-- What a client that names a transaction starts with, and whether that is everything. -/
def changesSince (tables : List TableSchema) (history : List Txn) (db : Database) (id : Uuid) :
    Bool × ChangeSet :=
  match if id = .uniform 0 then none else changesAfter tables history id with
  | some changes => (false, changes)
  | none => (true, initialChanges tables db)

theorem changesSince_cases (tables : List TableSchema) (history : List Txn) (db : Database) (id : Uuid) :
    changesSince tables history db id = (true, initialChanges tables db) ∨
      id ≠ .uniform 0 ∧ ∃ changes, changesAfter tables history id = some changes ∧
        changesSince tables history db id = (false, changes) := by
  unfold changesSince
  by_cases hid : id = .uniform 0
  · rw [if_pos hid]
    exact .inl rfl
  · rw [if_neg hid]
    cases changesAfter tables history id with
    | none => exact .inl rfl
    | some changes => exact .inr ⟨hid, changes, rfl, rfl⟩

/-- The part of `ovsdb_jsonrpc_monitor_create` that chooses what to start with: the monitor's name,
whether it gets everything, and the changes. -/
def firstChanges (tables : List TableSchema) (history : List Txn) (db : Database) (version : Version)
    (params : Value) : Option (Value × Bool × ChangeSet) :=
  match version, params with
  | .update3, .arr [_, monitorId, _, .str lastId] =>
    (Uuid.fromString (stringOf lastId)).map fun id => (monitorId, changesSince tables history db id)
  | .update3, _ => none
  | .update2, .arr [_, monitorId, _] => some (monitorId, true, initialChanges tables db)
  | .update2, _ => none
  | .update, .arr (_ :: monitorId :: _) => some (monitorId, true, initialChanges tables db)
  | .update, _ => none

/-- The result in the reply to a request to monitor a database. -/
def monitorResult (version : Version) (initial : Bool) (lastId : Uuid) (json : Value) : Value :=
  match version with
  | .update3 => .arr [.bool !initial, .str (codes lastId.text), json]
  | _ => json

/-! ### What a set of changes says -/

/-- The part of the database that is monitored. -/
def view (tables : List TableSchema) (db : Database) : Database := fun name uuid =>
  (tables.find? fun table => table.name = name).bind fun table => (db name uuid).map (cloneRow table)

def write (db : Database) (r : RowChange) : Database :=
  Function.update db r.table (Function.update (db r.table) r.uuid r.new)

/-- What is recorded of a row that was `base` and is `now`. -/
def Change.Says (change : Option Change) (base now : Option Row) : Prop :=
  match change with
  | none => base = now
  | some change => change.old = base ∧ change.new = now ∧ (base.isSome ∨ now.isSome)

/-- The changes lead from one state of the monitored part to another. -/
def Tracks (changes : ChangeSet) (base now : Database) : Prop :=
  ∀ name uuid, Change.Says (changes name uuid) (base name uuid) (now name uuid)

section Tracking

variable {tables : List TableSchema} {changes : ChangeSet} {base db : Database} {r : RowChange}

theorem tracks_refl (base : Database) : Tracks (fun _ _ => none) base base := fun _ _ => rfl

/-- Two rows that differ in no monitored column are the same to a monitor. -/
theorem cloneRow_eq_of_not_columnsChanged {table : TableSchema} {old new : Row}
    (h : columnsChanged table.monitored old new = false) : cloneRow table old = cloneRow table new := by
  funext name
  unfold cloneRow
  split
  case isTrue hmem =>
    obtain ⟨c, hc, rfl⟩ := List.mem_map.mp hmem
    simpa using List.any_eq_false.mp h c hc
  case isFalse => rfl

theorem says_changesUpdate {change : Option Change} {first old new : Option Row}
    (h : Change.Says change first old) (hsome : old.isSome ∨ new.isSome) :
    Change.Says (changesUpdate old new change) first new := by
  cases change with
  | none =>
    obtain rfl : first = old := h
    exact ⟨rfl, rfl, hsome⟩
  | some change =>
    obtain ⟨hold, hnew, -⟩ := h
    cases new with
    | some row => exact ⟨hold, rfl, .inr rfl⟩
    | none =>
      cases hfirst : change.old with
      | none =>
        rw [changesUpdate, hfirst]
        exact hold.symm.trans hfirst
      | some row =>
        rw [changesUpdate, hfirst]
        exact ⟨hfirst ▸ hold, rfl, .inl (by rw [← hold, hfirst]; rfl)⟩

theorem view_write (tables : List TableSchema) (db : Database) (r : RowChange) (name : Text) (uuid : Uuid) :
    view tables (write db r) name uuid =
      if name = r.table ∧ uuid = r.uuid then
        (tables.find? fun table => table.name = r.table).bind fun table => r.new.map (cloneRow table)
      else view tables db name uuid := by
  unfold view write
  by_cases hname : name = r.table
  · subst hname
    rw [Function.update_self]
    by_cases huuid : uuid = r.uuid
    · subst huuid
      rw [Function.update_self, if_pos ⟨rfl, rfl⟩]
    · rw [Function.update_of_ne huuid, if_neg fun h => huuid h.2]
  · rw [Function.update_of_ne hname, if_neg fun h => hname h.1]

/-- A change of a row that is recorded as it happens. -/
theorem tracks_changeCb (h : Tracks changes base (view tables db)) (hold : r.old = db r.table r.uuid)
    (hsome : r.old.isSome ∨ r.new.isSome) :
    Tracks (changeCb tables changes r) base (view tables (write db r)) := by
  intro name uuid
  have hsays := h name uuid
  rw [view_write]
  unfold changeCb
  cases hfind : tables.find? fun table => table.name = r.table with
  | none =>
    split
    case isTrue hrow =>
      obtain ⟨rfl, rfl⟩ := hrow
      unfold view at hsays
      rw [hfind] at hsays
      exact hsays
    case isFalse => exact hsays
  | some table =>
    have hview : view tables db r.table r.uuid = r.old.map (cloneRow table) := by
      rw [hold]
      unfold view
      rw [hfind]
      rfl
    dsimp only
    split
    case isTrue hno =>
      -- the row is the same to the monitor
      split
      case isTrue hrow =>
        obtain ⟨rfl, rfl⟩ := hrow
        rw [hview] at hsays
        have hsame : r.old.map (cloneRow table) = r.new.map (cloneRow table) := by
          cases hrold : r.old with
          | none =>
            rw [hrold] at hno
            cases hno
          | some old =>
            cases hrnew : r.new with
            | none =>
              rw [hrold, hrnew] at hno
              cases hno
            | some new =>
              rw [hrold, hrnew] at hno
              exact congrArg some (cloneRow_eq_of_not_columnsChanged (by simpa [noEffect] using hno))
        rw [hsame] at hsays
        exact hsays
      case isFalse => exact hsays
    case isFalse =>
      by_cases hname : name = r.table
      · subst hname
        rw [Function.update_self]
        by_cases huuid : uuid = r.uuid
        · subst huuid
          rw [Function.update_self, if_pos ⟨rfl, rfl⟩]
          rw [hview] at hsays
          refine says_changesUpdate hsays ?_
          simpa only [Option.isSome_map] using hsome
        · rw [Function.update_of_ne huuid, if_neg fun h => huuid h.2]
          exact hsays
      · rw [Function.update_of_ne hname, if_neg fun h => hname h.1]
        exact hsays

/-- Each change of a transaction starts from what the ones before it left. -/
def Chains : Database → List RowChange → Prop
  | _, [] => True
  | db, r :: rs => r.old = db r.table r.uuid ∧ (r.old.isSome ∨ r.new.isSome) ∧ Chains (write db r) rs

theorem tracks_foldl {rs : List RowChange} (h : Tracks changes base (view tables db)) (hrs : Chains db rs) :
    Tracks (rs.foldl (changeCb tables) changes) base (view tables (rs.foldl write db)) := by
  induction rs generalizing changes db with
  | nil => exact h
  | cons r rs ih =>
    obtain ⟨hold, hsome, hrs⟩ := hrs
    exact ih (tracks_changeCb h hold hsome) hrs

/-- Nothing is known of an empty database. -/
theorem tracks_initialChanges (tables : List TableSchema) (db : Database) :
    Tracks (initialChanges tables db) (fun _ _ => none) (view tables db) := by
  intro name uuid
  unfold initialChanges view
  cases tables.find? fun table => table.name = name with
  | none => rfl
  | some table =>
    cases db name uuid with
    | none => rfl
    | some row => exact ⟨rfl, rfl, .inr rfl⟩

end Tracking

end Server

end OvnApi.Ovs
