import OvnApi.Lib.Transition
import OvnApi.Ovs.Idl
import OvnApi.Ovs.Replica
import Mathlib.Data.List.Dedup

/-! The client and the servers of a cluster. Transactions are committed in one order, and each
server applies them in that order, at its own pace; it keeps the latest of them to answer a
client that comes back. The client is connected to one server at a time, over a link that
delivers messages in order until it breaks. In between, anything may happen: other servers,
updates on their way when the link breaks, replies about the database `_Server` that hold
anything, refusals. What the client has is always the database as it was after some of the
transactions. The database is not removed from a server while the client is connected, all the
servers grant the same version of the protocol, and the columns are such that every difference
and every default of the server gets through to the client. -/

namespace OvnApi.Ovs

open OvnApi.Lib OvnApi.Lib.Prog OvnApi.Core

/-! ### The transactions -/

namespace Server

/-- The database after the first `n` transactions. -/
def stateAt (txn : ℕ → Txn) : ℕ → Database
  | 0 => fun _ _ => none
  | n + 1 => (txn n).changes.foldl write (stateAt txn n)

/-- What is not written stays. -/
theorem foldl_write_of_notMem {rs : List RowChange} {db : Database} {name : Text} {uuid : Uuid}
    (h : uuid ∉ rs.map RowChange.uuid) : rs.foldl write db name uuid = db name uuid := by
  induction rs generalizing db with
  | nil => rfl
  | cons r rs ih =>
    rw [List.map_cons, List.mem_cons, not_or] at h
    rw [List.foldl_cons, ih h.2]
    unfold write
    by_cases hname : name = r.table
    · rw [hname, Function.update_self, Function.update_of_ne h.1]
    · rw [Function.update_of_ne hname]

def segment (txn : ℕ → Txn) (first length : ℕ) : List Txn := (List.range' first length).map txn

end Server

/-- All the transactions of a database: each starts from what the ones before it left and has an
identifier of its own, and the database is in order after each of them. -/
structure Timeline (tables : List TableSchema) where
  length : ℕ
  txn : ℕ → Server.Txn
  id_ne_zero : ∀ n < length, (txn n).id ≠ .uniform 0
  id_injective : ∀ m < length, ∀ n < length, (txn m).id = (txn n).id → m = n
  chains : ∀ n < length, Server.Chains (Server.stateAt txn n) (txn n).changes
  conforms : ∀ n ≤ length, Server.DatabaseConforms tables (Server.stateAt txn n)

namespace Timeline

variable {tables : List TableSchema} (t : Timeline tables)

/-- What a client can see of the database after the first `n` transactions. -/
def snapshot (n : ℕ) : Server.Database := Server.view tables (Server.stateAt t.txn n)

/-- An identifier that a server gives for the first `n` transactions: that of the last of them, or
zero if it has forgotten it. -/
def IsId (n : ℕ) (id : Uuid) : Prop := id = .uniform 0 ∨ ∃ m, n = m + 1 ∧ (t.txn m).id = id

theorem segment_succ (first length : ℕ) : Server.segment t.txn first (length + 1) =
    Server.segment t.txn first length ++ [t.txn (first + length)] := by
  rw [Server.segment, List.range'_concat, List.map_append, Nat.one_mul]
  rfl

theorem conforms_snapshot (hnodup : (tables.map TableSchema.name).Nodup) {n : ℕ} (hn : n ≤ t.length) :
    Server.DatabaseConforms tables (t.snapshot n) := by
  intro table htable uuid r hr c hc
  unfold snapshot Server.view at hr
  rw [find?_eq_some_of_mem hnodup htable] at hr
  obtain ⟨row, hrow, rfl⟩ := Option.map_eq_some_iff.mp hr
  unfold Server.cloneRow
  rw [if_pos (List.mem_map_of_mem hc)]
  exact t.conforms n hn table htable uuid row hrow c hc

/-- The next transaction, recorded as it happens. -/
theorem tracks_succ {changes : Server.ChangeSet} {base : Server.Database} {n : ℕ} (hn : n < t.length)
    (h : Server.Tracks changes base (t.snapshot n)) :
    Server.Tracks (Server.track tables changes (t.txn n)) base (t.snapshot (n + 1)) :=
  Server.tracks_foldl h (t.chains n hn)

theorem tracks_segment {changes : Server.ChangeSet} {base : Server.Database} {n length : ℕ}
    (hn : n + length ≤ t.length) (h : Server.Tracks changes base (t.snapshot n)) :
    Server.Tracks ((Server.segment t.txn n length).foldl (Server.track tables) changes) base
      (t.snapshot (n + length)) := by
  induction length with
  | zero => exact h
  | succ length ih =>
    rw [t.segment_succ, List.foldl_append]
    exact t.tracks_succ hn (ih (Nat.le_of_succ_le hn))

def uuids (n : ℕ) : List Uuid := (List.range n).flatMap fun m => (t.txn m).changes.map Server.RowChange.uuid

theorem mem_uuids {name : Text} {uuid : Uuid} {n : ℕ} (h : (t.snapshot n name uuid).isSome) :
    uuid ∈ t.uuids n := by
  have hstate : (Server.stateAt t.txn n name uuid).isSome := by
    unfold snapshot Server.view at h
    cases hfind : tables.find? fun table => table.name = name with
    | none =>
      rw [hfind] at h
      cases h
    | some table =>
      rw [hfind] at h
      exact Option.isSome_map.symm.trans h
  clear h
  induction n with
  | zero => cases hstate
  | succ n ih =>
    rw [uuids, List.range_succ, List.flatMap_append, List.mem_append]
    by_contra hne
    rw [not_or] at hne
    refine hne.1 (ih ?_)
    have hlast : uuid ∉ (t.txn n).changes.map Server.RowChange.uuid := by simpa using hne.2
    rwa [Server.stateAt, Server.foldl_write_of_notMem hlast] at hstate

/-- An order that visits whatever there can be to send after `n` transactions. -/
def order (n : ℕ) : Server.Order where
  tables := tables
  rows _ := (t.uuids n).dedup
  columns name := ((tables.find? fun table => table.name = name).map TableSchema.monitored).getD []

theorem visits_order (hnodup : (tables.map TableSchema.name).Nodup) {changes : Server.ChangeSet}
    {base : Server.Database} {n : ℕ} (hbase : ∀ name uuid, (base name uuid).isSome → uuid ∈ t.uuids n)
    (h : Server.Tracks changes base (t.snapshot n)) : (t.order n).Visits tables changes where
  perm_tables := List.Perm.refl _
  nodup_rows _ _ := List.nodup_dedup _
  mem_rows table _ uuid hsome := by
    have hsays := h table.name uuid
    obtain ⟨change, hchange⟩ := Option.isSome_iff_exists.mp hsome
    rw [hchange] at hsays
    refine List.mem_dedup.mpr ?_
    rcases hsays.2.2 with hbefore | hnow
    · exact hbase table.name uuid hbefore
    · exact t.mem_uuids hnow
  perm_columns table htable := by
    unfold order
    dsimp only
    rw [find?_eq_some_of_mem hnodup htable]
    exact List.Perm.refl _

theorem uuids_subset {i n : ℕ} (h : i ≤ n) : t.uuids i ⊆ t.uuids n := by
  intro uuid huuid
  obtain ⟨m, hm, hmem⟩ := List.mem_flatMap.mp huuid
  exact List.mem_flatMap.mpr ⟨m, List.mem_range.mpr ((List.mem_range.mp hm).trans_le h), hmem⟩

theorem lastTxnid_segment (first length : ℕ) :
    Server.lastTxnid (Server.segment t.txn first (length + 1)) = (t.txn (first + length)).id := by
  rw [Server.lastTxnid, t.segment_succ, List.getLast?_concat]
  rfl

theorem isId_lastTxnid (first length : ℕ) :
    t.IsId (first + length) (Server.lastTxnid (Server.segment t.txn first length)) := by
  cases length with
  | zero => exact .inl rfl
  | succ length =>
    rw [t.lastTxnid_segment]
    exact .inr ⟨first + length, rfl, rfl⟩

/-- What a server finds in its history starts right after the transaction that is named. -/
theorem changesAfter_segment {id : Uuid} {changes : Server.ChangeSet} {first length : ℕ}
    (hlength : first + length ≤ t.length)
    (h : Server.changesAfter tables (Server.segment t.txn first length) id = some changes) :
    ∃ m, (t.txn m).id = id ∧ m < first + length ∧
      Server.Tracks changes (t.snapshot (m + 1)) (t.snapshot (first + length)) := by
  unfold Server.changesAfter at h
  induction length generalizing first with
  | zero => cases h
  | succ length ih =>
    have hcons : Server.segment t.txn first (length + 1) =
        t.txn first :: Server.segment t.txn (first + 1) length := rfl
    rw [hcons] at h
    by_cases hid : (t.txn first).id = id
    · rw [List.dropWhile_cons_of_neg (by simpa using hid)] at h
      obtain rfl := Option.some.inj h
      refine ⟨first, hid, by omega, ?_⟩
      have hnext : first + 1 + length = first + (length + 1) := by omega
      have htracks := t.tracks_segment (hnext ▸ hlength) (Server.tracks_refl (t.snapshot (first + 1)))
      rwa [hnext] at htracks
    · rw [List.dropWhile_cons_of_pos (by simpa using hid)] at h
      obtain ⟨m, hm, hlt, htracks⟩ := ih (by omega) h
      rw [show first + 1 + length = first + (length + 1) by omega] at hlt htracks
      exact ⟨m, hm, hlt, htracks⟩

end Timeline

/-! ### The system -/

/-- What does not change: the client's configuration, the transactions, and the version that the
servers grant, to which the columns fit. A standalone server keeps no history. -/
structure Cluster where
  cfg : Config
  timeline : Timeline cfg.tables
  version : Version
  needHistory : Bool
  nodup : (cfg.tables.map TableSchema.name).Nodup
  replicable : ∀ table ∈ cfg.tables, table.Replicable version
  dbName_ne : cfg.dbName ≠ codes "_Server"
  uuid_ne : cfg.uuid ≠ cfg.serverMonitorUuid
  str_text : ∀ s, cfg.str (.str s) = s

/-- The client, the server that it is connected to, and the link. The monitor of the database has the
name that the client gave it and the changes that have not been sent. -/
structure System where
  committed : ℕ
  pos : ℕ
  history : List Server.Txn
  monitor : Option (Value × Server.ChangeSet)
  serverMonitored : Bool
  toServer : List Message
  toClient : List Message
  client : Idl

namespace Cluster

/-- A step of the system: a transaction, the server that applies one, forgets one, sends what has
changed, or answers a request; a change of `_Server`; the client that takes a message; a new
connection, to a server with a position and a history of its own. A client that wants another
connection takes no message until it has one, unless data passes on the one it has and makes
its session active again. -/
inductive Move where
  | commit
  | apply
  | trim
  | flush (order : Server.Order)
  | serve (order : Server.Order) (answer : Option Message)
  | notify (update : Value)
  | receive
  | activity
  | reconnect (pos oldest : ℕ)

def isServerMonitor (cfg : Config) (request : Message) : Bool :=
  request.method = some (codes "monitor_cond") && (Server.versionOf cfg.dbName request).isNone

def serverNotification (cfg : Config) (update : Value) : Message :=
  Message.createNotify (codes "update2") (.arr [.str cfg.serverMonitorUuid, update])

variable (c : Cluster)

def start : System where
  committed := 0
  pos := 0
  history := []
  monitor := none
  serverMonitored := false
  toServer := []
  toClient := []
  client := Idl.new

/-- What a request to monitor the database starts with, if it is granted. -/
def granted (s : System) (request : Message) : Option (Value × Bool × Server.ChangeSet) :=
  if Server.versionOf c.cfg.dbName request = some c.version ∧ s.monitor.isNone then
    Server.firstChanges c.cfg.tables s.history (Server.stateAt c.timeline.txn s.pos) c.version request.params
  else none

def grant (s : System) (order : Server.Order) (request : Message) (initial : Bool)
    (changes : Server.ChangeSet) : Message :=
  Message.createReply (Server.monitorResult c.version initial (Server.lastTxnid s.history)
    ((Server.composeUpdate c.version order initial changes).getD (.obj []))) request.id

/-- The client has a new connection, to a server with the transactions before `pos`, which knows the ones
since `oldest`. What was on its way is lost. -/
def reconnected (s : System) (pos oldest : ℕ) : System :=
  { s with
    pos := pos
    history := if c.needHistory then Server.segment c.timeline.txn oldest (pos - oldest) else []
    monitor := none
    serverMonitored := false
    client := { Idl.restartFsm c.cfg s.client with sent := [], forced := false }
    toServer := (Idl.restartFsm c.cfg s.client).sent
    toClient := [] }

def step (s : System) : Move → Option System
  | .commit =>
    if s.committed < c.timeline.length then some { s with committed := s.committed + 1 } else none
  | .apply =>
    if s.pos < s.committed then
      some { s with
        pos := s.pos + 1
        history := if c.needHistory then s.history ++ [c.timeline.txn s.pos] else s.history
        monitor := s.monitor.map fun m => (m.1, Server.track c.cfg.tables m.2 (c.timeline.txn s.pos)) }
    else none
  | .trim => if 1 < s.history.length then some { s with history := s.history.tail } else none
  | .flush order => s.monitor.map fun m =>
    { s with
      monitor := some (m.1, fun _ _ => none)
      toClient := s.toClient ++ ((Server.composeUpdate c.version order false m.2).map
        (Server.createNotify c.version m.1 (Server.lastTxnid s.history))).toList }
  | .serve order answer =>
    match s.toServer with
    | [] => none
    | request :: rest =>
      match c.granted s request with
      | some (monitorId, initial, changes) =>
        some { s with
          monitor := some (monitorId, fun _ _ => none)
          toServer := rest
          toClient := s.toClient ++ [c.grant s order request initial changes] }
      | none =>
        some { s with
          serverMonitored := s.serverMonitored || isServerMonitor c.cfg request
          toServer := rest
          toClient := s.toClient ++ answer.toList }
  | .notify update =>
    if s.serverMonitored then some { s with toClient := s.toClient ++ [serverNotification c.cfg update] }
    else none
  | .receive =>
    if s.client.forced then none
    else
      match s.toClient with
      | [] => none
      | msg :: rest =>
        let client := (Idl.process c.cfg msg s.client).2
        some { s with
          client := { client with sent := [] }
          toServer := s.toServer ++ client.sent
          toClient := rest }
  | .activity => some { s with client := { s.client with forced := false } }
  | .reconnect pos oldest =>
    if oldest ≤ pos ∧ pos ≤ s.committed then some (c.reconnected s pos oldest) else none

/-- What is known of a step. An order visits everything that is to be sent. A request that is not
granted may stay without an answer, get any answer if it is about `_Server`, and is refused if it is
about the database. With `ahead`, a server that the client turns to has applied what the one before
had. -/
def Moves (ahead : Prop) (s : System) : Move → Prop
  | .flush order => ∀ m ∈ s.monitor, order.Visits c.cfg.tables m.2
  | .serve order answer => ∀ request ∈ s.toServer.head?,
    (∀ g ∈ c.granted s request, order.Visits c.cfg.tables g.2.2) ∧
      ∀ a ∈ answer, a.id = request.id ∧ (a.type = .reply ∨ a.type = .error) ∧
        ((Server.versionOf c.cfg.dbName request).isSome → a.type = .error)
  | .reconnect pos _ => ahead → s.pos ≤ pos
  | _ => True

end Cluster

/-! ### Messages about the database -/

/-- An update that leads from one state of the database to another. -/
def Carries (version : Version) (tables : List TableSchema) (initial : Bool) (base now : Server.Database)
    (json : Value) : Prop :=
  ∃ order changes, Sends version tables order initial changes base now ∧
    json = (Server.composeUpdate version order initial changes).getD (.obj [])

section Messages

variable {cfg : Config} {version : Version} {initial : Bool} {base now : Server.Database} {json : Value}
  {idl idl' : Idl} {n : ℕ}

/-- The identifier that the client keeps after a message. -/
def keptId (version : Version) (id : Uuid) (idl : Idl) : Value :=
  if version = .update3 then .str (codes id.text) else idl.lastId

theorem parseUpdate_carries (h : Carries version cfg.tables initial base now json)
    (hidl : idl.data.Mirrors cfg.tables base) :
    ∃ data, Idl.parseUpdate cfg version json idl = (.ok (), { idl with data := data }) ∧
      data.Mirrors cfg.tables now ∧ idl.data.changeSeqno ≤ data.changeSeqno := by
  obtain ⟨order, changes, hsends, rfl⟩ := h
  obtain ⟨data, hrun, hnow⟩ := hsends.parseUpdate true hidl
  refine ⟨data, ?_, hnow, ?_⟩
  · unfold Idl.parseUpdate
    dsimp only
    rw [hrun]
  · have hle := idl.data.le_changeSeqno_parseUpdate true version cfg.tables
      ((Server.composeUpdate version order initial changes).getD (.obj []))
    rw [hrun] at hle
    exact hle

/-- An update of the database. -/
theorem process_update (id : Uuid) (huuid : cfg.uuid ≠ cfg.serverMonitorUuid)
    (h : Carries version cfg.tables initial base now json) (hidl : idl.data.Mirrors cfg.tables base) :
    ∃ data, (Idl.process cfg (Server.createNotify version (.str cfg.uuid) id json) idl).2 =
        { idl with data := data, lastId := keptId version id idl } ∧
      data.Mirrors cfg.tables now ∧ idl.data.changeSeqno ≤ data.changeSeqno := by
  obtain ⟨data, hrun, hnow, hle⟩ := parseUpdate_carries h hidl
  refine ⟨data, ?_, hnow, hle⟩
  have hother : (Value.str cfg.uuid).isText cfg.serverMonitorUuid = false := decide_eq_false huuid
  cases version with
  | update =>
    have hprocess : Idl.process cfg (Server.createNotify .update (.str cfg.uuid) id json) idl =
        (Idl.parseUpdate cfg .update json >>= fun _ => pure .next) idl := by
      unfold Idl.process Idl.processNotify
      simp [Server.createNotify, Message.createNotify, Message.args, hother]
    rw [hprocess, bind_of_ok hrun]
    rfl
  | update2 =>
    have hname : codes "update2" ≠ codes "update" := by decide
    have hprocess : Idl.process cfg (Server.createNotify .update2 (.str cfg.uuid) id json) idl =
        (Idl.parseUpdate cfg .update2 json >>= fun _ => pure .next) idl := by
      unfold Idl.process Idl.processNotify
      simp [Server.createNotify, Message.createNotify, Message.args, hother, hname]
    rw [hprocess, bind_of_ok hrun]
    rfl
  | update3 =>
    have hprocess : Idl.process cfg (Server.createNotify .update3 (.str cfg.uuid) id json) idl =
        (Idl.parseUpdate cfg .update3 json >>= fun _ => (do
          Idl.put fun idl => { idl with lastId := .str (codes id.text) }
          pure .next)) idl := by
      unfold Idl.process Idl.processNotify
      simp [Server.createNotify, Message.createNotify, Message.args]
    rw [hprocess, bind_of_ok hrun]
    rfl

theorem orElse_ok {m handler : Prog Idl Fault Idl.Control} {control : Idl.Control}
    (h : m idl = (.ok control, idl')) : Idl.orElse m handler idl = (.ok control, idl') := by
  have hattempt : attempt Tables.Fault.caught m idl = (.ok (.ok control), idl') := by rw [attempt, h]
  exact bind_of_ok hattempt

/-- The reply to the request is read in the state in which it is waited for. -/
theorem load_carries (id : Uuid) (h : Carries version cfg.tables initial base now json)
    (hbase : initial = true ∨ version = .update3 ∧ idl.data.Mirrors cfg.tables base) :
    ∃ data, Idl.load cfg (Idl.askedState version) (Server.monitorResult version initial id json) idl =
        (.ok (), { idl with data := data, lastId := keptId version id idl }) ∧
      data.Mirrors cfg.tables now ∧ idl.data.changeSeqno ≤ data.changeSeqno := by
  have hclear : initial = true → (Idl.clear cfg idl).data.Mirrors cfg.tables base := by
    intro hinitial
    obtain ⟨order, changes, hsends, -⟩ := h
    rw [hsends.base_initial hinitial]
    exact idl.data.mirrors_clear cfg.tables
  have hle := idl.data.le_changeSeqno_clear cfg.tables
  have hall : ∀ version', version = version' → version' ≠ .update3 →
      ∃ data, Idl.loadAll cfg version' json idl = (.ok (), { idl with data := data }) ∧
        data.Mirrors cfg.tables now ∧ idl.data.changeSeqno ≤ data.changeSeqno := by
    rintro version' rfl hversion
    have hinitial := hbase.resolve_right fun hfound => hversion hfound.1
    obtain ⟨data, hrun, hnow, hcount⟩ := parseUpdate_carries h (hclear hinitial)
    exact ⟨data, hrun, hnow, hle.trans hcount⟩
  cases version with
  | update => exact hall .update rfl Version.noConfusion
  | update2 => exact hall .update2 rfl Version.noConfusion
  | update3 =>
    have hstart : (if (Value.bool !initial).truthy then idl else Idl.clear cfg idl).data.Mirrors cfg.tables base := by
      cases initial with
      | true => exact hclear rfl
      | false => exact (hbase.resolve_left Bool.noConfusion).2
    obtain ⟨data, hrun, hnow, hcount⟩ := parseUpdate_carries h hstart
    refine ⟨data, ?_, hnow, ?_⟩
    · have hload : Idl.loadSince cfg (.arr [.bool !initial, .str (codes id.text), json]) idl =
          (Idl.parseUpdate cfg .update3 json >>= fun _ => Idl.put fun idl =>
            { idl with lastId := .str (codes id.text) })
            (if (Value.bool !initial).truthy then idl else Idl.clear cfg idl) := rfl
      refine hload.trans ?_
      rw [bind_of_ok hrun]
      cases initial <;> rfl
    · cases initial with
      | true => exact hle.trans hcount
      | false => exact hcount

/-- The contents of the database. -/
theorem process_monitorReply (id : Uuid) (hcancel : idl.monitorCancelRequestId = none)
    (hid : idl.monitorRequestId = some n) (hstate : idl.state = Idl.askedState version)
    (h : Carries version cfg.tables initial base now json)
    (hbase : initial = true ∨ version = .update3 ∧ idl.data.Mirrors cfg.tables base) :
    ∃ data, (Idl.process cfg (Message.createReply (Server.monitorResult version initial id json) (.int n)) idl).2 =
        { idl with
          state := .monitoring
          monitorRequestId := none
          data := data
          lastId := keptId version id idl } ∧
      data.Mirrors cfg.tables now ∧ data.changeSeqno ≠ 0 := by
  -- the state of the client when the update is read
  have hbase' : initial = true ∨ version = .update3 ∧
      Tables.Mirrors cfg.tables { idl.data with changeSeqno := idl.data.changeSeqno + 1 } base := hbase
  have hload : ∃ data, Idl.load cfg (Idl.askedState version) (Server.monitorResult version initial id json)
        { idl with
          data := { idl.data with changeSeqno := idl.data.changeSeqno + 1 }
          monitorRequestId := none } =
        (.ok (), { idl with data := data, lastId := keptId version id idl, monitorRequestId := none }) ∧
      data.Mirrors cfg.tables now ∧ idl.data.changeSeqno + 1 ≤ data.changeSeqno :=
    load_carries id h hbase'
  obtain ⟨data, hrun, hnow, hcount⟩ := hload
  refine ⟨data, ?_, hnow, by omega⟩
  have hreply : Idl.processMonitorReply cfg (Server.monitorResult version initial id json) idl =
      (.ok .next, { idl with
        state := .monitoring
        monitorRequestId := none
        data := data
        lastId := keptId version id idl }) := by
    unfold Idl.processMonitorReply
    rw [hstate]
    exact bind_of_ok hrun
  have hprocess : Idl.process cfg (Message.createReply (Server.monitorResult version initial id json) (.int n)) idl =
      Idl.orElse (Idl.processMonitorReply cfg (Server.monitorResult version initial id json))
        (do
          Idl.put Idl.forceReconnect
          pure .next) idl := by
    change Idl.processReply cfg _ idl = _
    have hnot : ¬ (Value.int n).isId idl.monitorCancelRequestId = true := by simp [Idl.isId_int, hcancel]
    unfold Idl.processReply
    exact (if_neg hnot).trans (if_pos (Idl.isId_int.mpr hid))
  rw [hprocess, orElse_ok hreply]

end Messages

end OvnApi.Ovs
