import OvnApi.Lib.Regions
import OvnApi.Ovs.Rpc
import OvnApi.Ovs.Tables

/-! The client side of the monitoring protocol, `Idl` of `ovs/db/idl.py`: the states it goes
through after a connection is made, the requests it sends in them and what it does with each
message. It first asks the server for the schema and the contents of the database `_Server`,
and monitors its own database when that server will do. Conditions, locks and transactions
are left out; nothing here uses them. -/

namespace OvnApi.Ovs

open OvnApi.Lib OvnApi.Lib.Prog OvnApi.Core

/-! ### Python's view of a message -/

/-- `value[n]`: a list and a string have items. -/
def Value.item (value : Value) (n : ℕ) : Except Fault Value :=
  match value with
  | .arr items => (items[n]?).elim (.error .raised) .ok
  | .str s => (s[n]?).elim (.error .raised) fun c => .ok (.str [c])
  | _ => .error .raised

def Value.truthy : Value → Bool
  | .null => false
  | .bool b => b
  | .int n => n ≠ 0
  | .real x => x ≠ 0
  | .str s => s ≠ []
  | .arr items => !items.isEmpty
  | .obj members => !members.isEmpty

def Value.isText (value : Value) (s : Text) : Bool :=
  match value with
  | .str t => t = s
  | _ => false

/-- `n is not None and n == value`: a boolean and a float can equal a number. -/
def Value.isId (value : Value) (n : Option ℕ) : Bool :=
  match n, value with
  | some n, .int m => m = n
  | some n, .bool b => b.toNat = n
  | some n, .real x => x = n
  | _, _ => false

def Message.args (msg : Message) : List Value :=
  match msg.params with
  | .arr args => args
  | _ => []

/-! ### The database `_Server` -/

/-- The columns of `Database` that are looked at. A column for one element at most is a list. -/
structure DatabaseRow where
  name : Text
  model : Text
  cid : List Uuid
  schema : List Text
  connected : Bool
  leader : Bool
  index : List ℤ

/-- What an `Idl` is made with. How a schema is read, how the rows of `Database` look to Python, and
the text of a value are given from outside. -/
structure Config where
  tables : List TableSchema
  dbName : Text
  uuid : Text
  serverMonitorUuid : Text
  clusterId : Text
  leaderOnly : Bool
  readSchema : Value → Except Fault TableSchema
  databases : TableSchema → IndexedRows → Except Fault (List DatabaseRow)
  str : Value → Text

section CheckServerDb

variable (cfg : Config)

def isDatabase (row : DatabaseRow) : Bool :=
  if cfg.clusterId ≠ [] then row.cid.any fun u => (codes u.text).take 4 = cfg.clusterId
  else row.name = cfg.dbName

/-- `__check_server_db`, from the rows and `_min_index`: the new `_min_index` if the server will do. -/
def checkServerDb (rows : List DatabaseRow) (minIndex : ℤ) : Option ℤ :=
  match rows.find? (isDatabase cfg) with
  | none => none
  | some database =>
    if database.model = codes "clustered" then
      if database.schema = [] then none
      else if !database.connected then none
      else if cfg.leaderOnly && !database.leader then none
      else
        match database.index with
        | [] => some minIndex
        | index :: _ => if index < minIndex then none else some index
    else if database.model = codes "relay" then
      if database.schema = [] then none
      else if !database.connected then none
      else if cfg.leaderOnly then none
      else some minIndex
    else some minIndex

end CheckServerDb

/-! ### States -/

/-- `IDL_S_*`. -/
inductive Phase where
  | initial
  | serverSchemaRequested
  | serverMonitorRequested
  | dataMonitorRequested
  | dataMonitorCondRequested
  | dataMonitorCondSinceRequested
  | monitoring
  deriving DecidableEq

/-- The state of the client, with whether it has told its session to drop the connection, and the
requests that it has handed to it. -/
structure Idl where
  state : Phase
  data : Tables
  lastId : Value
  serverTable : Option TableSchema
  serverRows : IndexedRows
  minIndex : ℤ
  monitorRequestId : Option ℕ
  serverSchemaRequestId : Option ℕ
  serverMonitorRequestId : Option ℕ
  dbChangeAwareRequestId : Option ℕ
  monitorCancelRequestId : Option ℕ
  nextId : ℕ
  forced : Bool
  sent : List Message

namespace Idl

def noTables : Tables where
  rows _ := Dict.empty
  changeSeqno := 0
  notices := []
  notified := []

def new : Idl where
  state := .initial
  data := noTables
  lastId := .str (codes (Uuid.uniform 0).text)
  serverTable := none
  serverRows := Dict.empty
  minIndex := 0
  monitorRequestId := none
  serverSchemaRequestId := none
  serverMonitorRequestId := none
  dbChangeAwareRequestId := none
  monitorCancelRequestId := none
  nextId := 0
  forced := false
  sent := []

def hasEverConnected (idl : Idl) : Bool := idl.data.changeSeqno ≠ 0

/-! ### Requests -/

def sendRequest (idl : Idl) (method : Text) (params : Value) : Idl :=
  { idl with
    nextId := idl.nextId + 1
    sent := idl.sent ++ [Message.createRequest method params (.int idl.nextId)] }

variable (cfg : Config)

/-- `__send_server_schema_request`; without conditions `restart_fsm` does nothing else. -/
def restartFsm (idl : Idl) : Idl :=
  { idl.sendRequest (codes "get_schema") (.arr [.str (codes "_Server"), .str cfg.uuid]) with
    state := .serverSchemaRequested
    serverSchemaRequestId := some idl.nextId }

/-- The `monitor_requests` for some tables. -/
def monitorRequests (tables : List TableSchema) : Value :=
  .obj (tables.map fun table => (table.name,
    .arr [.obj [(codes "columns", .arr (table.monitored.map fun c => .str c.name))]]))

/-- `Monitor(version).name` -/
def methodOf : Version → Text
  | .update => codes "monitor"
  | .update2 => codes "monitor_cond"
  | .update3 => codes "monitor_cond_since"

def monitorMap : Version → Phase
  | .update => .serverMonitorRequested
  | .update2 => .dataMonitorCondRequested
  | .update3 => .dataMonitorCondSinceRequested

/-- The state and the version that `__send_monitor_request` chooses. -/
def monitorChoice (state : Phase) (maxVersion : Version) : Phase × Version :=
  match state with
  | .initial => (.dataMonitorCondRequested, .update2)
  | .serverMonitorRequested => (monitorMap maxVersion, maxVersion)
  | _ => (.dataMonitorRequested, .update)

def monitorParams (version : Version) (lastId : Value) : Value :=
  .arr ([.str cfg.dbName, .str cfg.uuid, monitorRequests cfg.tables] ++
    if version = .update3 then [.str (cfg.str lastId)] else [])

def sendMonitorRequest (maxVersion : Version) (idl : Idl) : Idl :=
  let choice := monitorChoice idl.state maxVersion
  { idl.sendRequest (methodOf choice.2) (monitorParams cfg choice.2 idl.lastId) with
    state := choice.1
    monitorRequestId := some idl.nextId }

def sendServerMonitorRequest (table : TableSchema) (idl : Idl) : Idl :=
  { idl.sendRequest (codes "monitor_cond") (.arr [.str (codes "_Server"), .str cfg.serverMonitorUuid,
      .obj [(table.name, .arr [.obj [(codes "columns", .arr (table.columns.map fun c => .str c.name))]])]]) with
    state := .serverMonitorRequested
    serverMonitorRequestId := some idl.nextId }

def sendDbChangeAware (idl : Idl) : Idl :=
  { idl.sendRequest (codes "set_db_change_aware") (.arr [.bool true]) with
    dbChangeAwareRequestId := some idl.nextId }

/-! ### Messages -/

def put (f : Idl → Idl) : Prog Idl Fault Unit := Prog.read fun idl => ((), f idl)

def parseUpdate (version : Version) (update : Value) : Prog Idl Fault Unit := fun idl =>
  let r := Tables.parseUpdate true version cfg.tables update idl.data
  (r.1, { idl with data := r.2 })

/-- `__parse_update` with `tables=self.server_tables`; without any, the update goes to the tables of
the database. -/
def parseServerUpdate (version : Version) (update : Value) : Prog Idl Fault Unit := fun idl =>
  match idl.serverTable with
  | none => parseUpdate cfg version update idl
  | some table =>
    let r := Tables.parseUpdate false version [table] update
      { noTables with rows := fun name => if name = table.name then idl.serverRows else Dict.empty }
    (r.1, { idl with serverRows := r.2.rows table.name })

/-- `__check_server_db`. -/
def check : Prog Idl Fault Bool := fun idl =>
  match idl.serverTable with
  | none => (.raised .raised, idl)
  | some table =>
    match cfg.databases table idl.serverRows with
    | .error fault => (.raised fault, idl)
    | .ok rows =>
      match checkServerDb cfg rows idl.minIndex with
      | none => (.ok false, idl)
      | some minIndex => (.ok true, { idl with minIndex := minIndex })

/-- `force_reconnect`. The session drops the connection in its next `run`. -/
def forceReconnect (idl : Idl) : Idl := { idl with forced := true }

/-- The counter of changes, as it was before the message. -/
def restoreSeqno (n : ℕ) (idl : Idl) : Idl := { idl with data := { idl.data with changeSeqno := n } }

/-- Where `run` breaks out of its loop, or goes on to the next message. -/
inductive Control where
  | next
  | stop
  deriving DecidableEq

/-- What is done with the end of a `try`. -/
def settle (handler : Prog Idl Fault Control) : Except Unit Control → Prog Idl Fault Control
  | .ok control => pure control
  | .error _ => handler

/-- `except error.Error` in `run`. -/
def orElse (m : Prog Idl Fault Control) (handler : Prog Idl Fault Control) : Prog Idl Fault Control :=
  attempt Tables.Fault.caught m >>= settle handler

/-- What both replies about `_Server` do when they cannot be read. -/
def fallBack (previous : ℕ) : Prog Idl Fault Control := do
  if cfg.clusterId ≠ [] then
    put forceReconnect
    pure .stop
  else
    put (restoreSeqno previous)
    put (sendMonitorRequest cfg .update3)
    pure .next

def serverUpdate (previous : ℕ) (version : Version) (update : Value) : Prog Idl Fault Bool := do
  parseServerUpdate cfg version update
  put (restoreSeqno previous)
  check cfg

/-- A monitor was canceled: the other one goes too, and everything starts again. -/
def cancel (other : Text) (idl : Idl) : Idl :=
  restartFsm cfg
    { idl.sendRequest (codes "monitor_cancel") (.arr [.str other]) with
      monitorCancelRequestId := some idl.nextId }

/-- `handle_monitor_canceled`, and the notifications that are passed over. -/
def processCanceled (method : Text) (args : List Value) : Prog Idl Fault Control := fun idl =>
  if method = codes "monitor_canceled" then
    match args with
    | [] => (.raised .raised, idl)
    | id :: _ =>
      if id.isText cfg.uuid then (.ok .stop, cancel cfg cfg.serverMonitorUuid idl)
      else if id.isText cfg.serverMonitorUuid then (.ok .stop, cancel cfg cfg.uuid idl)
      else (.ok .next, idl)
  else (.ok .next, idl)

def processNotify (msg : Message) : Prog Idl Fault Control := fun idl =>
  let previous := idl.data.changeSeqno
  match msg.method, msg.args with
  | some method, [_, lastId, update] =>
    if method = codes "update3" then (do
      parseUpdate cfg .update3 update
      put fun idl => { idl with lastId := lastId }
      pure .next : Prog Idl Fault Control) idl
    else processCanceled cfg method msg.args idl
  | some method, [id, update] =>
    if method = codes "update" ∨ method = codes "update2" then
      let version := if method = codes "update" then Version.update else .update2
      if id.isText cfg.serverMonitorUuid then (do
        if ← serverUpdate cfg previous version update then pure .next
        else
          put forceReconnect
          pure .stop : Prog Idl Fault Control) idl
      else (do
        parseUpdate cfg version update
        pure .next : Prog Idl Fault Control) idl
    else processCanceled cfg method msg.args idl
  | some method, args => processCanceled cfg method args idl
  | none, _ => (.ok .next, idl)

def clear (idl : Idl) : Idl := { idl with data := idl.data.clear cfg.tables }

/-- The rows since the transaction that the client named, or all rows if they are not found. -/
def loadSince (result : Value) : Prog Idl Fault Unit := do
  let found ← ofExcept (result.item 0)
  put fun idl => if found.truthy then idl else clear cfg idl
  let update ← ofExcept (result.item 2)
  parseUpdate cfg .update3 update
  let lastId ← ofExcept (result.item 1)
  put fun idl => { idl with lastId := lastId }

def loadAll (version : Version) (result : Value) : Prog Idl Fault Unit := do
  put (clear cfg)
  parseUpdate cfg version result

def load (state : Phase) (result : Value) : Prog Idl Fault Unit :=
  match state with
  | .dataMonitorCondSinceRequested => loadSince cfg result
  | .dataMonitorCondRequested => loadAll cfg .update2 result
  | .dataMonitorRequested => loadAll cfg .update result
  | _ => raise .raised

def processMonitorReply (result : Value) : Prog Idl Fault Control := fun idl =>
  (do
    put fun idl => { idl with
      data := { idl.data with changeSeqno := idl.data.changeSeqno + 1 }
      monitorRequestId := none }
    load cfg idl.state result
    put fun idl => { idl with state := .monitoring }
    pure Control.next : Prog Idl Fault Control) idl

/-- The reply with the schema of `_Server`. -/
def processSchemaReply (result : Value) : Prog Idl Fault Control := fun idl =>
  orElse (do
    put fun idl => { idl with serverSchemaRequestId := none }
    let table ← ofExcept (cfg.readSchema result)
    put fun idl => { idl with serverTable := some table, serverRows := Dict.empty }
    put (sendServerMonitorRequest cfg table)
    pure .next) (fallBack cfg idl.data.changeSeqno) idl

/-- The reply with the contents of `_Server`. -/
def processServerMonitorReply (result : Value) : Prog Idl Fault Control := fun idl =>
  orElse (do
    put fun idl => { idl with serverMonitorRequestId := none }
    if ← serverUpdate cfg idl.data.changeSeqno .update2 result then
      put (sendMonitorRequest cfg .update3)
      put sendDbChangeAware
      pure .next
    else
      put forceReconnect
      pure .stop) (fallBack cfg idl.data.changeSeqno) idl

def processReply (msg : Message) : Prog Idl Fault Control := fun idl =>
  if msg.id.isId idl.monitorCancelRequestId then (.ok .stop, { idl with monitorCancelRequestId := none })
  else if msg.id.isId idl.monitorRequestId then
    orElse (processMonitorReply cfg msg.result) (do
      put forceReconnect
      pure .next) idl
  else if msg.id.isId idl.serverSchemaRequestId then processSchemaReply cfg msg.result idl
  else if msg.id.isId idl.serverMonitorRequestId then processServerMonitorReply cfg msg.result idl
  else if msg.id.isId idl.dbChangeAwareRequestId then (.ok .next, { idl with dbChangeAwareRequestId := none })
  else (.ok .next, idl)

def processError (msg : Message) : Prog Idl Fault Control := fun idl =>
  if idl.state = .serverMonitorRequested ∧ msg.id.isId idl.serverMonitorRequestId then
    (.ok .next, sendMonitorRequest cfg .update3 { idl with serverMonitorRequestId := none })
  else if idl.state = .dataMonitorCondSinceRequested ∧ msg.id.isId idl.monitorRequestId then
    (.ok .next, if msg.error.isText (codes "unknown method") then sendMonitorRequest cfg .update2 idl else idl)
  else if idl.state = .dataMonitorCondRequested ∧ msg.id.isId idl.monitorRequestId then
    (.ok .next, if msg.error.isText (codes "unknown method") then sendMonitorRequest cfg .update idl else idl)
  else if msg.id.isId idl.serverSchemaRequestId then
    let idl' := { idl with serverSchemaRequestId := none }
    if cfg.clusterId ≠ [] then (.ok .stop, forceReconnect idl')
    else (.ok .next, sendMonitorRequest cfg .update3 idl')
  else (.ok .next, idl)

/-- One turn of the loop of `run`, for the message that was received. -/
def process (msg : Message) : Prog Idl Fault Control :=
  match msg.type with
  | .notify => processNotify cfg msg
  | .reply => processReply cfg msg
  | .error => processError cfg msg
  | .request => pure .next

/-! ### What a message does -/

/-- Nothing changes but what concerns `_Server`; requests that were waited for may be forgotten. -/
structure Aside (idl idl' : Idl) : Prop where
  state : idl'.state = idl.state
  data : idl'.data = idl.data
  lastId : idl'.lastId = idl.lastId
  serverTable : idl.serverTable.isSome → idl'.serverTable.isSome
  monitorRequestId : idl'.monitorRequestId = idl.monitorRequestId
  serverSchemaRequestId : idl'.serverSchemaRequestId = idl.serverSchemaRequestId ∨
    idl'.serverSchemaRequestId = none
  serverMonitorRequestId : idl'.serverMonitorRequestId = idl.serverMonitorRequestId ∨
    idl'.serverMonitorRequestId = none
  dbChangeAwareRequestId : idl'.dbChangeAwareRequestId = idl.dbChangeAwareRequestId ∨
    idl'.dbChangeAwareRequestId = none
  monitorCancelRequestId : idl'.monitorCancelRequestId = idl.monitorCancelRequestId
  nextId : idl'.nextId = idl.nextId
  sent : idl'.sent = idl.sent

/-- The state in which the reply to a request of a version is waited for. -/
def askedState : Version → Phase
  | .update => .dataMonitorRequested
  | .update2 => .dataMonitorCondRequested
  | .update3 => .dataMonitorCondSinceRequested

section Messages

variable (cfg : Config) {idl : Idl} {n : ℕ} {msg : Message}

theorem Aside.refl (idl : Idl) : Aside idl idl :=
  ⟨rfl, rfl, rfl, id, rfl, .inl rfl, .inl rfl, .inl rfl, rfl, rfl, rfl⟩

theorem Aside.trans {idl₁ idl₂ idl₃ : Idl} (h : Aside idl₁ idl₂) (h' : Aside idl₂ idl₃) :
    Aside idl₁ idl₃ where
  state := h'.state.trans h.state
  data := h'.data.trans h.data
  lastId := h'.lastId.trans h.lastId
  serverTable hs := h'.serverTable (h.serverTable hs)
  monitorRequestId := h'.monitorRequestId.trans h.monitorRequestId
  serverSchemaRequestId := by
    rcases h'.serverSchemaRequestId with heq | hnone
    · rw [heq]
      exact h.serverSchemaRequestId
    · exact .inr hnone
  serverMonitorRequestId := by
    rcases h'.serverMonitorRequestId with heq | hnone
    · rw [heq]
      exact h.serverMonitorRequestId
    · exact .inr hnone
  dbChangeAwareRequestId := by
    rcases h'.dbChangeAwareRequestId with heq | hnone
    · rw [heq]
      exact h.dbChangeAwareRequestId
    · exact .inr hnone
  monitorCancelRequestId := h'.monitorCancelRequestId.trans h.monitorCancelRequestId
  nextId := h'.nextId.trans h.nextId
  sent := h'.sent.trans h.sent

theorem isId_int {o : Option ℕ} : (Value.int n).isId o = true ↔ o = some n := by
  cases o with
  | none => simp [Value.isId]
  | some m => simp [Value.isId, eq_comm]

theorem aside_forceReconnect (idl : Idl) : Aside idl (forceReconnect idl) :=
  ⟨rfl, rfl, rfl, id, rfl, .inl rfl, .inl rfl, .inl rfl, rfl, rfl, rfl⟩

theorem aside_restoreSeqno {idl' : Idl} (h : idl'.data = idl.data) :
    Aside idl' (restoreSeqno idl.data.changeSeqno idl') := by
  refine ⟨rfl, ?_, rfl, id, rfl, .inl rfl, .inl rfl, .inl rfl, rfl, rfl, rfl⟩
  change { idl'.data with changeSeqno := idl.data.changeSeqno } = idl'.data
  rw [← h]

theorem aside_parseServerUpdate (hserver : idl.serverTable.isSome) (version : Version) (update : Value) :
    Aside idl (parseServerUpdate cfg version update idl).2 := by
  obtain ⟨table, htable⟩ := Option.isSome_iff_exists.mp hserver
  unfold parseServerUpdate
  rw [htable]
  exact ⟨rfl, rfl, rfl, fun _ => rfl, rfl, .inl rfl, .inl rfl, .inl rfl, rfl, rfl, rfl⟩

theorem aside_check (idl : Idl) : Aside idl (check cfg idl).2 := by
  unfold check
  cases idl.serverTable with
  | none => exact .refl idl
  | some table =>
    dsimp only
    cases cfg.databases table idl.serverRows with
    | error fault => exact .refl idl
    | ok rows =>
      dsimp only
      cases checkServerDb cfg rows idl.minIndex with
      | none => exact .refl idl
      | some minIndex => exact ⟨rfl, rfl, rfl, fun _ => rfl, rfl, .inl rfl, .inl rfl, .inl rfl, rfl, rfl, rfl⟩

/-- Whatever an update of `_Server` holds, it changes nothing else. -/
theorem aside_serverUpdate (hserver : idl.serverTable.isSome) (version : Version) (update : Value) :
    Aside idl (serverUpdate cfg idl.data.changeSeqno version update idl).2 := by
  have hkeeps : Keeps (fun idl' => Aside idl idl' ∧ idl'.serverTable.isSome)
      (serverUpdate cfg idl.data.changeSeqno version update) := by
    refine Safe.bind (.of_world ?_) fun _ => Safe.bind (.of_world ?_) fun _ => .of_world ?_
    · rintro idl' ⟨haside, hserver'⟩
      have hparse := aside_parseServerUpdate cfg hserver' version update
      exact ⟨haside.trans hparse, hparse.serverTable hserver'⟩
    · rintro idl' ⟨haside, hserver'⟩
      exact ⟨haside.trans (aside_restoreSeqno haside.data), hserver'⟩
    · rintro idl' ⟨haside, hserver'⟩
      have hcheck := aside_check cfg idl'
      exact ⟨haside.trans hcheck, hcheck.serverTable hserver'⟩
  exact (hkeeps idl ⟨.refl idl, hserver⟩).1.1

/-- A notification about `_Server`. -/
theorem aside_process_serverUpdate (hserver : idl.serverTable.isSome) (update : Value) :
    Aside idl (process cfg (Message.createNotify (codes "update2")
      (.arr [.str cfg.serverMonitorUuid, update])) idl).2 := by
  have hupdate : codes "update2" ≠ codes "update" := by decide
  have haside := aside_serverUpdate cfg hserver .update2 update
  have hrun : process cfg (Message.createNotify (codes "update2")
      (.arr [.str cfg.serverMonitorUuid, update])) idl =
      (serverUpdate cfg idl.data.changeSeqno .update2 update >>= fun fine =>
        if fine then pure .next
        else do
          put forceReconnect
          pure Control.stop) idl := by
    unfold process processNotify
    simp [Message.createNotify, Message.args, hupdate, Value.isText]
  rw [hrun]
  rcases hupd : serverUpdate cfg idl.data.changeSeqno .update2 update idl with ⟨fine | e | _, idl'⟩ <;>
    rw [hupd] at haside
  · rw [bind_of_ok hupd]
    cases fine with
    | true => exact haside
    | false => exact haside.trans (aside_forceReconnect idl')
  · rw [bind_of_raised hupd]
    exact haside
  · change Aside idl (Prog.bind _ _ idl).2
    rw [Prog.bind, hupd]
    exact haside

/-- What a reply or an error that is not the contents of the database leads to: nothing, or a request. -/
inductive Responds (cfg : Config) (idl : Idl) : Idl → Prop where
  | rests {idl' : Idl} : Aside idl idl' → Responds cfg idl idl'
  | asksServer {idl' : Idl} (table : TableSchema) : Aside idl idl' → idl'.serverTable = some table →
      Responds cfg idl (sendServerMonitorRequest cfg table idl')
  | asksData {idl' : Idl} (version : Version) : Aside idl idl' →
      (idl.state = .serverMonitorRequested → version = .update3) →
      Responds cfg idl (sendMonitorRequest cfg version idl')
  | asksDataAware {idl' : Idl} : Aside idl idl' →
      Responds cfg idl (sendDbChangeAware (sendMonitorRequest cfg .update3 idl'))

/-- What both replies about `_Server` do when they cannot be read. -/
theorem responds_fallBack {idl' : Idl} (h : Aside idl idl') :
    Responds cfg idl (fallBack cfg idl.data.changeSeqno idl').2 := by
  unfold fallBack
  split
  · exact .rests (h.trans (aside_forceReconnect idl'))
  · exact .asksData .update3 (h.trans (aside_restoreSeqno h.data)) fun _ => rfl

theorem processSchemaReply_ok {result : Value} {table : TableSchema} (h : cfg.readSchema result = .ok table) :
    processSchemaReply cfg result idl = (.ok .next, sendServerMonitorRequest cfg table
      { idl with serverSchemaRequestId := none, serverTable := some table, serverRows := Dict.empty }) := by
  unfold processSchemaReply
  rw [h]
  rfl

theorem responds_processSchemaReply (result : Value) :
    Responds cfg idl (processSchemaReply cfg result idl).2 := by
  have hforget : Aside idl { idl with serverSchemaRequestId := none } :=
    ⟨rfl, rfl, rfl, id, rfl, .inr rfl, .inl rfl, .inl rfl, rfl, rfl, rfl⟩
  cases hread : cfg.readSchema result with
  | ok table =>
    rw [processSchemaReply_ok cfg hread]
    refine .asksServer table (hforget.trans ?_) rfl
    exact ⟨rfl, rfl, rfl, fun _ => rfl, rfl, .inl rfl, .inl rfl, .inl rfl, rfl, rfl, rfl⟩
  | error fault =>
    cases fault with
    | error =>
      have hrun : processSchemaReply cfg result idl =
          fallBack cfg idl.data.changeSeqno { idl with serverSchemaRequestId := none } := by
        unfold processSchemaReply
        rw [hread]
        rfl
      rw [hrun]
      exact responds_fallBack cfg hforget
    | raised =>
      have hrun : processSchemaReply cfg result idl =
          (.raised .raised, { idl with serverSchemaRequestId := none }) := by
        unfold processSchemaReply
        rw [hread]
        rfl
      rw [hrun]
      exact .rests hforget

theorem processServerMonitorReply_eq (result : Value) : processServerMonitorReply cfg result idl =
    Prog.bind (attempt Tables.Fault.caught (Prog.bind (serverUpdate cfg idl.data.changeSeqno .update2 result)
      fun fine => if fine then (do
        put (sendMonitorRequest cfg .update3)
        put sendDbChangeAware
        pure .next) else (do
        put forceReconnect
        pure .stop)))
      (settle (fallBack cfg idl.data.changeSeqno)) { idl with serverMonitorRequestId := none } := rfl

theorem processServerMonitorReply_ok {result : Value} {idl' : Idl}
    (h : serverUpdate cfg idl.data.changeSeqno .update2 result { idl with serverMonitorRequestId := none } =
      (.ok true, idl')) :
    (processServerMonitorReply cfg result idl).2 = sendDbChangeAware (sendMonitorRequest cfg .update3 idl') := by
  rw [processServerMonitorReply_eq, Prog.bind, attempt, Prog.bind, h]
  rfl

theorem responds_processServerMonitorReply (hserver : idl.serverTable.isSome) (result : Value) :
    Responds cfg idl (processServerMonitorReply cfg result idl).2 := by
  have hforget : Aside idl { idl with serverMonitorRequestId := none } :=
    ⟨rfl, rfl, rfl, id, rfl, .inl rfl, .inr rfl, .inl rfl, rfl, rfl, rfl⟩
  have hserver' : ({ idl with serverMonitorRequestId := none } : Idl).serverTable.isSome := hserver
  have haside := hforget.trans (aside_serverUpdate cfg hserver' .update2 result)
  rw [processServerMonitorReply_eq, Prog.bind, attempt, Prog.bind]
  rcases hupd : serverUpdate cfg idl.data.changeSeqno .update2 result
    { idl with serverMonitorRequestId := none } with ⟨fine | e | _, idl'⟩ <;> rw [hupd] at haside
  · cases fine with
    | true => exact .asksDataAware haside
    | false => exact .rests (haside.trans (aside_forceReconnect idl'))
  · cases e with
    | error => exact responds_fallBack cfg haside
    | raised => exact .rests haside
  · exact .rests haside

/-- A reply to one of the requests about `_Server` or a refusal, or one that nobody waits for. -/
theorem responds_process (hid : msg.id = .int n) (htype : msg.type = .reply ∨ msg.type = .error)
    (hcancel : idl.monitorCancelRequestId = none)
    (hdata : msg.type = .reply → idl.monitorRequestId ≠ some n)
    (hserver : idl.serverMonitorRequestId.isSome → idl.serverTable.isSome) :
    Responds cfg idl (process cfg msg idl).2 := by
  have hcancel' : ¬ (Value.int n).isId idl.monitorCancelRequestId = true := by simp [isId_int, hcancel]
  unfold process
  rcases htype with htype | htype
  · rw [htype]
    dsimp only [processReply]
    rw [hid, if_neg hcancel', if_neg (by rw [isId_int]; exact hdata htype)]
    split
    · exact responds_processSchemaReply cfg _
    · split
      case isTrue hmonitor =>
        refine responds_processServerMonitorReply cfg (hserver ?_) _
        rw [isId_int.mp hmonitor]
        rfl
      case isFalse =>
        split
        · exact .rests ⟨rfl, rfl, rfl, id, rfl, .inl rfl, .inl rfl, .inr rfl, rfl, rfl, rfl⟩
        · exact .rests (.refl idl)
  · rw [htype]
    dsimp only [processError]
    split
    · exact .asksData .update3 ⟨rfl, rfl, rfl, id, rfl, .inl rfl, .inr rfl, .inl rfl, rfl, rfl, rfl⟩
        fun _ => rfl
    · split
      case isTrue hstate =>
        dsimp only
        split
        · refine .asksData .update2 (.refl idl) fun h => ?_
          rw [hstate.1] at h
          cases h
        · exact .rests (.refl idl)
      case isFalse =>
        split
        case isTrue hstate =>
          dsimp only
          split
          · refine .asksData .update (.refl idl) fun h => ?_
            rw [hstate.1] at h
            cases h
          · exact .rests (.refl idl)
        case isFalse =>
          have hforget : Aside idl { idl with serverSchemaRequestId := none } :=
            ⟨rfl, rfl, rfl, id, rfl, .inr rfl, .inl rfl, .inl rfl, rfl, rfl, rfl⟩
          split
          · split
            · exact .rests (hforget.trans (aside_forceReconnect _))
            · exact .asksData .update3 hforget fun _ => rfl
          · exact .rests (.refl idl)

/-- A reply or an error that nobody waits for but the request to be told of changes. -/
theorem aside_process (hid : msg.id = .int n) (htype : msg.type = .reply ∨ msg.type = .error)
    (hcancel : idl.monitorCancelRequestId = none) (hdata : idl.monitorRequestId ≠ some n)
    (hschema : idl.serverSchemaRequestId ≠ some n) (hmonitor : idl.serverMonitorRequestId ≠ some n) :
    Aside idl (process cfg msg idl).2 := by
  have hcancel' : ¬ (Value.int n).isId idl.monitorCancelRequestId = true := by simp [isId_int, hcancel]
  have hdata' : ¬ (Value.int n).isId idl.monitorRequestId = true := by rwa [isId_int]
  have hschema' : ¬ (Value.int n).isId idl.serverSchemaRequestId = true := by rwa [isId_int]
  have hmonitor' : ¬ (Value.int n).isId idl.serverMonitorRequestId = true := by rwa [isId_int]
  unfold process
  rcases htype with htype | htype
  · rw [htype]
    dsimp only [processReply]
    rw [hid, if_neg hcancel', if_neg hdata', if_neg hschema', if_neg hmonitor']
    split
    · exact ⟨rfl, rfl, rfl, id, rfl, .inl rfl, .inl rfl, .inr rfl, rfl, rfl, rfl⟩
    · exact .refl idl
  · rw [htype]
    dsimp only [processError]
    rw [hid, if_neg fun h => hmonitor' h.2, if_neg fun h => hdata' h.2, if_neg fun h => hdata' h.2,
      if_neg hschema']
    exact .refl idl

end Messages

end Idl

end OvnApi.Ovs
