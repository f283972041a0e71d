import OvnApi.Lib.Prog
import OvnApi.Ovs.Datum

/-! The tables of `ovs/db/idl.py` and what an update does to them. A row is the dictionary
of the columns that have been set; a column that has not reads as its default. An exception
in the middle of an update leaves what has been done until then. -/

namespace OvnApi.Ovs

open OvnApi.Lib OvnApi.Lib.Prog OvnApi.Core

/-- A column, whether a change of it counts as one, and whether it is in `readonly`. -/
structure Column where
  name : Text
  type : ColumnType
  alert : Bool
  readonly : Bool

structure TableSchema where
  name : Text
  columns : List Column
  nodup : (columns.map Column.name).Nodup

def TableSchema.column (table : TableSchema) (name : Text) : Option Column :=
  table.columns.find? fun c => c.name = name

def TableSchema.monitored (table : TableSchema) : List Column := table.columns.filter fun c => !c.readonly

/-! ### Rows -/

/-- The attribute `_data` of a row, a `ColumnDefaultDict`. -/
abbrev Row := Dict Text Datum

/-- `row._data[c.name]` -/
def Row.datum (row : Row) (c : Column) : Datum := (row.get c.name).getD (Datum.default c.type)

/-- The rows of a table, for each UUID a stack. -/
abbrev IndexedRows := Dict Uuid (List Row)

namespace IndexedRows

def getItem (rows : IndexedRows) (uuid : Uuid) : Option Row := (rows.get uuid).bind List.getLast?

def setItem (rows : IndexedRows) (uuid : Uuid) (row : Row) : IndexedRows :=
  rows.set uuid ((rows.get uuid).getD [] ++ [row])

/-- `del rows[uuid]`, where there is a row. -/
def delItem (rows : IndexedRows) (uuid : Uuid) : IndexedRows :=
  let stack := ((rows.get uuid).getD []).dropLast
  if stack = [] then rows.del uuid else rows.set uuid stack

end IndexedRows

section Columns

variable (table : TableSchema)

/-- The column and the datum of a member of an update. A column that is not known or cannot be
read is passed over. -/
def readColumn (m : Text × Value) : Except Fault (Option (Column × Datum)) :=
  match table.column m.1 with
  | none => .ok none
  | some c =>
    match Datum.fromJson c.type m.2 with
    | .ok datum => .ok (some (c, datum))
    | .error .error => .ok none
    | .error .raised => .error .raised

/-- The loop over the members of an update, from which only exceptions of other kinds leave. -/
def forColumns {α : Type} (body : α → Column × Datum → α) (acc : α) (members : List (Text × Value)) :
    Except Fault α :=
  members.foldlM (fun acc m => (readColumn table m).map fun read => (read.map (body acc)).getD acc) acc

/-- One turn of the loop of `__row_update`: the row, and whether it changed. -/
def updateColumn (acc : Row × Bool) (read : Column × Datum) : Row × Bool :=
  if read.2.same (Row.datum acc.1 read.1) then acc
  else (acc.1.set read.1.name read.2, acc.2 || read.1.alert)

def rowUpdate (row : Row) (members : List (Text × Value)) : Except Fault (Row × Bool) :=
  forColumns table updateColumn (row, false) members

/-- One turn of the loop of `__apply_diff`: the row, and the old data of its columns. -/
def diffColumn (acc : Row × Row) (read : Column × Datum) : Row × Row :=
  let old := Row.datum acc.1 read.1
  let datum := Datum.diff read.1.type old read.2
  (if datum.same old then acc.1 else acc.1.set read.1.name datum, acc.2.set read.1.name old)

def applyDiff (row : Row) (members : List (Text × Value)) : Except Fault (Row × Row) :=
  forColumns table diffColumn (row, Dict.empty) members

def rowFromJson (members : List (Text × Value)) : Except Fault Row :=
  forColumns table (fun row read => row.set read.1.name read.2) Dict.empty members

/-- The columns that get a default in `__add_default`. -/
def wantsDefault (members : List (Text × Value)) (c : Column) : Bool :=
  c.name ∉ members.map Prod.fst && !c.readonly && c.type.nMin ≠ 0 && !c.type.isMap

def addDefault (members : List (Text × Value)) : List (Text × Value) :=
  members ++ (table.columns.filter (wantsDefault members)).map fun c => (c.name, columnName c.type.key.type)

end Columns

/-! ### Updates of a row -/

inductive Event where
  | create
  | update
  | delete
  deriving DecidableEq

structure Notice where
  event : Event
  uuid : Uuid
  updates : Option Row

section RowUpdates

variable (table : TableSchema) (uuid : Uuid)

def processDelete : Prog IndexedRows Fault (Option Notice) := fun rows =>
  match rows.getItem uuid with
  | some _ => (.ok (some ⟨.delete, uuid, none⟩), rows.delItem uuid)
  | none => (.ok none, rows)

/-- The part of `__process_update2` that inserts a row. One that is there goes first. -/
def processInsert2 (json : Value) : Prog IndexedRows Fault (Option Notice) := fun rows =>
  let rows := if (rows.getItem uuid).isSome then rows.delItem uuid else rows
  match json with
  | .obj members =>
    match rowUpdate table Dict.empty (addDefault table members) with
    | .ok (row, changed) =>
      (.ok (if changed then some ⟨.create, uuid, none⟩ else none), rows.setItem uuid row)
    | .error fault => (.raised fault, rows)
  | _ => (.raised .raised, rows)

def processModify2 (json : Value) : Prog IndexedRows Fault (Option Notice) := fun rows =>
  match rows.getItem uuid with
  | none => (.raised .error, rows)
  | some row =>
    match json with
    | .obj members =>
      match applyDiff table row members with
      | .ok (row, old) => (.ok (some ⟨.update, uuid, some old⟩), (rows.delItem uuid).setItem uuid row)
      | .error fault => (.raised fault, rows.delItem uuid)
    | _ => (.raised .raised, rows.delItem uuid)

def processUpdate2 (update : List (Text × Value)) : Prog IndexedRows Fault (Option Notice) :=
  if (update.lookup (codes "delete")).isSome then processDelete uuid
  else
    match (update.lookup (codes "insert")).or (update.lookup (codes "initial")) with
    | some json => processInsert2 table uuid json
    | none =>
      match update.lookup (codes "modify") with
      | some json => processModify2 table uuid json
      | none => raise .error

/-- The parts of `__process_update` that insert and modify a row: `found` and `missing` are what
to tell of a row that was there and of one that was not. -/
def processWrite (new : List (Text × Value)) (found missing : Event)
    (updates : Except Fault (Option Row)) : Prog IndexedRows Fault (Option Notice) := fun rows =>
  let row := rows.getItem uuid
  let rows := if row.isSome then rows.delItem uuid else rows
  match rowUpdate table (row.getD Dict.empty) new with
  | .error fault => (.raised fault, rows)
  | .ok (row', changed) =>
    let rows := rows.setItem uuid row'
    if changed || row.isNone then
      match updates with
      | .ok updates => (.ok (some ⟨if row.isSome then found else missing, uuid, updates⟩), rows)
      | .error fault => (.raised fault, rows)
    else (.ok none, rows)

/-- `__process_update`; an object without members counts as none. -/
def processUpdate (old new : List (Text × Value)) : Prog IndexedRows Fault (Option Notice) :=
  if new = [] then processDelete uuid
  else if old = [] then processWrite table uuid new .create .create (.ok none)
  else processWrite table uuid new .update .create ((rowFromJson table old).map some)

end RowUpdates

/-! ### Updates of the tables -/

inductive Version where
  | update
  | update2
  | update3
  deriving DecidableEq

/-- The tables, the changes that have been counted, and the notices that wait for the end of an
update or have been given. -/
structure Tables where
  rows : Text → IndexedRows
  changeSeqno : ℕ
  notices : List Notice
  notified : List Notice

namespace Tables

/-- The members `old` and `new` of a row of the first version, none of them missing or of another
type, and no other member. -/
def parseOldNew (update : List (Text × Value)) :
    Except Fault (List (Text × Value) × List (Text × Value)) :=
  let member (name : Text) : Option (List (Text × Value)) :=
    match update.lookup name with
    | none => some []
    | some (.obj members) => some members
    | some _ => none
  match member (codes "old"), member (codes "new") with
  | some old, some new =>
    if (update.any fun m => m.1 ∉ [codes "old", codes "new"]) ∨ (old = [] ∧ new = []) then .error .error
    else .ok (old, new)
  | _, _ => .error .error

def processRow (version : Version) (table : TableSchema) (uuid : Uuid) (update : List (Text × Value)) :
    Prog IndexedRows Fault (Option Notice) :=
  match version with
  | .update => do
    let both ← ofExcept (parseOldNew update)
    processUpdate table uuid both.1 both.2
  | _ => processUpdate2 table uuid update

/-- A program on the rows of one table. -/
def inTable {α : Type} (name : Text) (m : Prog IndexedRows Fault α) : Prog Tables Fault α := fun w =>
  ((m (w.rows name)).1, { w with rows := Function.update w.rows name (m (w.rows name)).2 })

/-- `if changes and tables is not self.server_tables` -/
def note (counts : Bool) (changes : Option Notice) : Prog Tables Fault Unit := fun w =>
  match changes with
  | some notice =>
    (.ok (), if counts then { w with notices := w.notices ++ [notice], changeSeqno := w.changeSeqno + 1 }
      else w)
  | none => (.ok (), w)

variable (counts : Bool) (version : Version)

/-- The inner loop of `__do_parse_update`. -/
def parseRow (table : TableSchema) (m : Text × Value) : Prog Tables Fault Unit := do
  let uuid ← ofExcept (uuidFromString m.1)
  match m.2 with
  | .obj update =>
    let changes ← inTable table.name (processRow version table uuid update)
    note counts changes
  | _ => raise .error

/-- The outer loop of `__do_parse_update`. -/
def parseTable (tables : List TableSchema) (m : Text × Value) : Prog Tables Fault Unit :=
  match tables.find? fun table => table.name = m.1 with
  | none => raise .error
  | some table =>
    match m.2 with
    | .obj rows => forEach (parseRow counts version table) rows
    | _ => raise .error

def doParseUpdate (tables : List TableSchema) (update : Value) : Prog Tables Fault Unit :=
  match update with
  | .obj members => do
    forEach (parseTable counts version tables) members
    read fun w => ((), { w with notices := [], notified := w.notified ++ w.notices })
  | _ => raise .error

/-- `except error.Error` -/
def Fault.caught : Fault → Option Unit
  | .error => some ()
  | .raised => none

/-- `__parse_update`. The notices are a local variable: an error loses them. -/
def parseUpdate (tables : List TableSchema) (update : Value) : Prog Tables Fault Unit := do
  read fun w => ((), { w with notices := [] })
  let _ ← attempt Fault.caught (doParseUpdate counts version tables update)
  pure ()

def clear (tables : List TableSchema) (w : Tables) : Tables :=
  { w with
    rows := fun name => if name ∈ tables.map TableSchema.name then Dict.empty else w.rows name
    changeSeqno := if tables.any fun table => (w.rows table.name).entries ≠ [] then w.changeSeqno + 1
      else w.changeSeqno }

end Tables

end OvnApi.Ovs
