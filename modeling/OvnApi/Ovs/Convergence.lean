import OvnApi.Ovs.Coherence

/-! What the client has in every run of the system: a snapshot of the database, the one that
the identifier it keeps names. With servers that never lag behind it does not go back to an
older one. From wherever it is, a connection to a server that it takes can bring it up to
date. -/

namespace OvnApi.Ovs

open OvnApi.Lib OvnApi.Lib.Prog OvnApi.Core

/-! ### A server that the client takes -/

/-- The schema and the contents of `_Server` that a server gives: the client can read them, and they
pass `__check_server_db`. -/
structure Suits (cfg : Config) (minIndex : ℤ) (schema contents : Value) (table : TableSchema) : Prop where
  schema : cfg.readSchema schema = .ok table
  contents : ∃ w rows index,
    Tables.parseUpdate false .update2 [table] contents Idl.noTables = (.ok (), w) ∧
    cfg.databases table (w.rows table.name) = .ok rows ∧ checkServerDb cfg rows minIndex = some index

/-- The client waits for the contents of `_Server`, of which it has nothing. -/
structure AwaitsServer (idl : Idl) (n : ℕ) (table : TableSchema) : Prop where
  state : idl.state = .serverMonitorRequested
  schemaRequest : idl.serverSchemaRequestId = none
  monitorRequest : idl.serverMonitorRequestId = some n
  table : idl.serverTable = some table
  rows : idl.serverRows = Dict.empty

section Answers

variable {cfg : Config} {idl : Idl} {n : ℕ} {schema contents : Value} {table : TableSchema}

theorem process_schemaReply (hcancel : idl.monitorCancelRequestId = none)
    (hdata : idl.monitorRequestId ≠ some n) (hn : idl.serverSchemaRequestId = some n)
    (hschema : cfg.readSchema schema = .ok table) :
    (Idl.process cfg (Message.createReply schema (.int n)) idl).2 = Idl.sendServerMonitorRequest cfg table
      { idl with serverSchemaRequestId := none, serverTable := some table, serverRows := Dict.empty } := by
  have hcancel' : ¬ (Value.int n).isId idl.monitorCancelRequestId = true := by simp [Idl.isId_int, hcancel]
  have hdata' : ¬ (Value.int n).isId idl.monitorRequestId = true := by rwa [Idl.isId_int]
  have hprocess : Idl.process cfg (Message.createReply schema (.int n)) idl =
      Idl.processSchemaReply cfg schema idl := by
    change Idl.processReply cfg _ idl = _
    unfold Idl.processReply
    exact (if_neg hcancel').trans ((if_neg hdata').trans (if_pos (Idl.isId_int.mpr hn)))
  rw [hprocess, Idl.processSchemaReply_ok cfg hschema]

theorem Suits.serverUpdate (h : Suits cfg idl.minIndex schema contents table)
    (htable : idl.serverTable = some table) (hrows : idl.serverRows = Dict.empty) :
    ∃ serverRows minIndex, Idl.serverUpdate cfg idl.data.changeSeqno .update2 contents idl =
      (.ok true, { idl with serverRows, minIndex }) := by
  obtain ⟨w, rows, index, hparse, hread, hcheck⟩ := h.contents
  have hempty : ({ Idl.noTables with rows := fun name =>
      if name = table.name then idl.serverRows else Dict.empty } : Tables) = Idl.noTables := by
    rw [hrows]
    simp only [ite_self]
    rfl
  have hserver : Idl.parseServerUpdate cfg .update2 contents idl =
      (.ok (), { idl with serverRows := w.rows table.name }) := by
    rw [Idl.parseServerUpdate, htable]
    dsimp only
    rw [hempty, hparse]
  refine ⟨w.rows table.name, index, ?_⟩
  rw [Idl.serverUpdate, bind_of_ok hserver]
  change Idl.check cfg { idl with serverRows := w.rows table.name } = _
  rw [Idl.check]
  dsimp only
  rw [htable]
  dsimp only
  rw [hread]
  dsimp only
  rw [hcheck]

/-- The client learns that the server will do, and asks for its database. -/
theorem process_serverMonitorReply (h : Suits cfg idl.minIndex schema contents table)
    (hidl : AwaitsServer idl n table) (hcancel : idl.monitorCancelRequestId = none)
    (hdata : idl.monitorRequestId ≠ some n) :
    ∃ serverRows minIndex, (Idl.process cfg (Message.createReply contents (.int n)) idl).2 =
      Idl.sendDbChangeAware (Idl.sendMonitorRequest cfg .update3
        { idl with serverMonitorRequestId := none, serverRows, minIndex }) := by
  have hcancel' : ¬ (Value.int n).isId idl.monitorCancelRequestId = true := by simp [Idl.isId_int, hcancel]
  have hdata' : ¬ (Value.int n).isId idl.monitorRequestId = true := by rwa [Idl.isId_int]
  have hschema' : ¬ (Value.int n).isId idl.serverSchemaRequestId = true := by
    simp [Idl.isId_int, hidl.schemaRequest]
  have hprocess : Idl.process cfg (Message.createReply contents (.int n)) idl =
      Idl.processServerMonitorReply cfg contents idl := by
    change Idl.processReply cfg _ idl = _
    unfold Idl.processReply
    exact (if_neg hcancel').trans ((if_neg hdata').trans ((if_neg hschema').trans
      (if_pos (Idl.isId_int.mpr hidl.monitorRequest))))
  have hsuits : Suits cfg ({ idl with serverMonitorRequestId := none } : Idl).minIndex schema contents table := h
  obtain ⟨serverRows, minIndex, hupdate⟩ := hsuits.serverUpdate hidl.table hidl.rows
  refine ⟨serverRows, minIndex, ?_⟩
  rw [hprocess]
  exact Idl.processServerMonitorReply_ok cfg hupdate

end Answers

namespace Cluster

/-! ### Starting again -/

section Recovery

variable {c : Cluster} {ahead : Prop} {shown : Option ℕ} {s : System}

/-- A request is the first on its way to the server, and nothing is on its way back. -/
structure Asking (s : System) (request : Message) (rest : List Message) : Prop where
  monitor : s.monitor = none
  toServer : s.toServer = request :: rest
  toClient : s.toClient = []
  forced : s.client.forced = false

/-- The state after a request was answered and the client has taken the answer. -/
def exchanged (c : Cluster) (s : System) (request answer : Message) : System :=
  { s with
    serverMonitored := s.serverMonitored || isServerMonitor c.cfg request
    client := { (Idl.process c.cfg answer s.client).2 with sent := [] }
    toServer := (Idl.process c.cfg answer s.client).2.sent
    toClient := [] }

theorem Asking.reach_exchanged {request answer : Message} (hs : Asking s request [])
    (hother : Server.versionOf c.cfg.dbName request = none) (hid : answer.id = request.id)
    (htype : answer.type = .reply) : Reach c.step (c.Moves ahead) s (exchanged c s request answer) := by
  have hnone : c.granted s request = none := granted_eq_none (by rw [hother]; exact (Option.some_ne_none _).symm)
  have hserve : c.step s (.serve (c.timeline.order s.pos) (some answer)) = some { s with
      serverMonitored := s.serverMonitored || isServerMonitor c.cfg request
      toServer := []
      toClient := [answer] } := by
    rw [Cluster.step, hs.toServer]
    simp only [hnone]
    rw [hs.toClient]
    rfl
  refine .next (.next .start (l := .serve (c.timeline.order s.pos) (some answer)) ?_ hserve) trivial
    (l := .receive) (if_neg (Bool.not_eq_true _ ▸ hs.forced))
  intro r hr
  rw [hs.toServer] at hr
  obtain rfl : request = r := Option.some.inj hr
  refine ⟨fun g hg => ?_, fun a ha => ?_⟩
  · rw [hnone] at hg
    cases hg
  · obtain rfl : answer = a := Option.some.inj ha
    exact ⟨hid, .inl htype, fun hsome => by rw [hother] at hsome; cases hsome⟩

/-- The client waits for the database while its request is on its way. -/
theorem Inv.asked_of_asking (h : c.Inv ahead shown s) {n : ℕ} {rest : List Message}
    (hs : Asking s (c.dataRequest n s.client.lastId) rest) :
    s.client.monitorRequestId = some n ∧ s.client.state = Idl.askedState c.version := by
  have hversion : Server.versionOf c.cfg.dbName (c.dataRequest n s.client.lastId) = some c.version :=
    versionOf_monitorRequest c.cfg c.version s.client.lastId (.int n)
  have hmem : c.dataRequest n s.client.lastId ∈ s.toServer := hs.toServer ▸ List.mem_cons_self
  cases h.stage with
  | before hmonitor hother => exact absurd hversion (hother _ hmem)
  | asked n' pre post hmonitor hask hidle hquiet hid hstate =>
    refine ⟨?_, hstate⟩
    rw [hask] at hmem
    rcases List.mem_append.mp hmem with hpre | hpost
    · exact absurd hversion (hidle _ (List.mem_append_left _ hpre)).1
    · rcases List.mem_cons.mp hpost with heq | hpost
      · obtain rfl : n = n' := Int.ofNat.inj (Value.int.inj (congrArg Message.id heq))
        exact hid
      · exact absurd hversion (hidle _ (List.mem_append_right _ hpost)).1
  | answered n' k changes hmonitor hidle => exact absurd hversion (hidle _ hmem).1
  | monitoring i k changes hmonitor hidle => exact absurd hversion (hidle _ hmem).1

/-- The request is granted, and the client takes the database. -/
theorem Inv.recovers_asking (h : c.Inv ahead shown s) {n : ℕ} {rest : List Message}
    (hs : Asking s (c.dataRequest n s.client.lastId) rest) :
    ∃ s', Reach c.step (c.Moves ahead) s s' ∧ s'.committed = s.committed ∧ s'.client.hasEverConnected = true ∧
      s'.client.data.Mirrors c.cfg.tables (c.timeline.snapshot s.pos) ∧
      s'.client.lastId = keptId c.version (Server.lastTxnid s.history) s.client := by
  obtain ⟨id, hid, -⟩ := h.lastId
  obtain ⟨initial, changes, hgranted, -⟩ := granted_dataRequest n hs.monitor hid
  have hvisits : (c.timeline.order s.pos).Visits c.cfg.tables changes := by
    obtain ⟨-, htracks⟩ | ⟨-, -, i, hi, -, htracks⟩ := h.tracks_granted hs.monitor hgranted
    · exact c.timeline.visits_order c.nodup (fun _ _ hsome => Bool.noConfusion hsome) htracks
    · exact c.timeline.visits_order c.nodup
        (fun _ _ hsome => c.timeline.uuids_subset hi (c.timeline.mem_uuids hsome)) htracks
  have hserve : c.step s (.serve (c.timeline.order s.pos) none) = some { s with
      monitor := some (.str c.cfg.uuid, fun _ _ => none)
      toServer := rest
      toClient := [c.grant s (c.timeline.order s.pos) (c.dataRequest n s.client.lastId) initial changes] } := by
    rw [Cluster.step, hs.toServer]
    simp only [hgranted]
    rw [hs.toClient]
    rfl
  have hmoves : c.Moves ahead s (.serve (c.timeline.order s.pos) none) := by
    intro r hr
    rw [hs.toServer] at hr
    obtain rfl := Option.some.inj hr
    refine ⟨fun g hg => ?_, fun a ha => absurd ha (Option.not_mem_none _)⟩
    rw [hgranted] at hg
    obtain rfl := Option.some.inj hg
    exact hvisits
  -- what the client does with the reply
  obtain ⟨hrequest, hstate⟩ := h.asked_of_asking hs
  obtain ⟨base, hcarries, hbase⟩ := h.carries_granted hs.monitor hgranted hvisits
  have hbase' : initial = true ∨ c.version = .update3 ∧ s.client.data.Mirrors c.cfg.tables base := by
    obtain ⟨rfl, -⟩ | ⟨-, hversion, i, -, hshown, rfl⟩ := hbase
    · exact .inl rfl
    · have hshows := h.shows
      rw [hshown] at hshows
      exact .inr ⟨hversion, hshows.2.1⟩
  obtain ⟨data, hrun, hnow, hcount⟩ := process_monitorReply (Server.lastTxnid s.history) h.ready.cancel
    hrequest hstate hcarries hbase'
  have hprocess : (Idl.process c.cfg
      (c.grant s (c.timeline.order s.pos) (c.dataRequest n s.client.lastId) initial changes) s.client).2 = _ := hrun
  refine ⟨_, .next (.next .start hmoves hserve) trivial (l := .receive)
    (if_neg (Bool.not_eq_true _ ▸ hs.forced)), rfl, ?_⟩
  rw [hprocess]
  exact ⟨decide_eq_true hcount, hnow, rfl⟩

theorem Inv.monitorRequestId_ne (h : c.Inv ahead shown s) {method : Text} {args : List Value} {n : ℕ}
    {rest : List Message}
    (hs : Asking s (Message.createRequest method (.arr (.str (codes "_Server") :: args)) (.int n)) rest) :
    s.client.monitorRequestId ≠ some n := by
  obtain ⟨-, n', -, hid, hother⟩ := h.asks _ (hs.toServer ▸ List.mem_cons_self)
  obtain rfl : n = n' := Int.ofNat.inj (Value.int.inj hid)
  exact hother (versionOf_server c)

/-- The client reads the schema of `_Server` and asks to monitor it. -/
theorem Inv.asks_server (h : c.Inv ahead shown s) {n : ℕ} {schema : Value} {table : TableSchema}
    (hs : Asking s (Message.createRequest (codes "get_schema")
      (.arr [.str (codes "_Server"), .str c.cfg.uuid]) (.int n)) [])
    (hn : s.client.serverSchemaRequestId = some n) (hschema : c.cfg.readSchema schema = .ok table) :
    ∃ s' args, ∃ n' : ℕ, Reach c.step (c.Moves ahead) s s' ∧ s'.committed = s.committed ∧ s'.pos = s.pos ∧
      s'.history = s.history ∧
      Asking s' (Message.createRequest (codes "monitor_cond") (.arr (.str (codes "_Server") :: args)) (.int n')) [] ∧
      AwaitsServer s'.client n' table ∧ s'.client.minIndex = s.client.minIndex := by
  have hprocess := process_schemaReply h.ready.cancel (h.monitorRequestId_ne hs) hn hschema
  obtain ⟨args, hsent⟩ : ∃ args, (Idl.process c.cfg (.createReply schema (.int n)) s.client).2.sent =
      [Message.createRequest (codes "monitor_cond") (.arr (.str (codes "_Server") :: args))
        (.int s.client.nextId)] := by
    rw [hprocess]
    exact sent_sendServerMonitorRequest table h.ready.sent
  refine ⟨exchanged c s _ (.createReply schema (.int n)), args, s.client.nextId, hs.reach_exchanged
    (versionOf_server c) rfl rfl, rfl, rfl, rfl, ⟨hs.monitor, hsent, rfl, ?_⟩, ?_, ?_⟩ <;> unfold exchanged <;>
    rw [hprocess]
  · exact hs.forced
  · exact ⟨rfl, rfl, rfl, rfl, rfl⟩
  · rfl

/-- It finds that the server will do and asks for its database. -/
theorem Inv.asks_data (h : c.Inv ahead shown s) (hversion : c.version = .update3) {args : List Value} {n : ℕ}
    (hs : Asking s (Message.createRequest (codes "monitor_cond") (.arr (.str (codes "_Server") :: args)) (.int n)) [])
    {schema contents : Value} {table : TableSchema} (hsuits : Suits c.cfg s.client.minIndex schema contents table)
    (hclient : AwaitsServer s.client n table) :
    ∃ s' rest, ∃ n' : ℕ, Reach c.step (c.Moves ahead) s s' ∧ s'.committed = s.committed ∧
      s'.pos = s.pos ∧ s'.history = s.history ∧ Asking s' (c.dataRequest n' s'.client.lastId) rest := by
  obtain ⟨serverRows, minIndex, hprocess⟩ := process_serverMonitorReply hsuits hclient
    h.ready.cancel (h.monitorRequestId_ne hs)
  obtain ⟨rest, hsent⟩ : ∃ rest, (Idl.process c.cfg (.createReply contents (.int n)) s.client).2.sent =
      c.dataRequest s.client.nextId s.client.lastId :: rest := by
    rw [hprocess]
    change ∃ rest, (s.client.sent ++ _) ++ _ = _
    rw [h.ready.sent, hclient.state, dataRequest, hversion]
    exact ⟨_, rfl⟩
  refine ⟨exchanged c s _ (.createReply contents (.int n)), rest, s.client.nextId, hs.reach_exchanged
    (versionOf_server c) rfl rfl, rfl, rfl, rfl, hs.monitor, ?_, rfl, ?_⟩ <;> unfold exchanged
  · rw [hsent, hprocess]
    rfl
  · rw [hprocess]
    exact hs.forced

/-- Whatever has happened, a connection to a server that has applied everything can bring the client
up to date. -/
theorem Inv.recovers (h : c.Inv ahead shown s) (hversion : c.version = .update3) {schema contents : Value}
    {table : TableSchema} (hsuits : Suits c.cfg s.client.minIndex schema contents table) {oldest : ℕ}
    (holdest : oldest ≤ s.committed) : ∃ s',
    Reach c.step (c.Moves ahead) s s' ∧ s'.committed = s.committed ∧ s'.client.hasEverConnected = true ∧
      s'.client.data.Mirrors c.cfg.tables (c.timeline.snapshot s.committed) ∧
      s'.client.lastId = .str (codes (Server.lastTxnid (c.reconnected s s.committed oldest).history).text) := by
  have hreach₁ : Reach c.step (c.Moves ahead) s (c.reconnected s s.committed oldest) :=
    .next .start (l := .reconnect s.committed oldest) (fun _ => h.pos_le) (if_pos ⟨holdest, Nat.le_refl _⟩)
  have hinv₁ := h.reconnect holdest (Nat.le_refl _) fun _ => h.pos_le
  obtain ⟨s₂, args, n₂, hreach₂, hcommitted₂, hpos₂, hhistory₂, hasking₂, hclient₂, hindex⟩ :=
    hinv₁.asks_server ⟨rfl, sent_restartFsm c.cfg h.ready, rfl, rfl⟩ rfl hsuits.schema
  obtain ⟨shown₂, -, hinv₂⟩ := hinv₁.reach hreach₂
  obtain ⟨s₃, rest, n₃, hreach₃, hcommitted₃, hpos₃, hhistory₃, hasking₃⟩ :=
    hinv₂.asks_data hversion hasking₂ (hindex ▸ hsuits) hclient₂
  obtain ⟨shown₃, -, hinv₃⟩ := hinv₂.reach hreach₃
  obtain ⟨s₄, hreach₄, hcommitted₄, hconnected, hmirrors, hlast⟩ := hinv₃.recovers_asking hasking₃
  rw [hpos₃.trans hpos₂] at hmirrors
  rw [hhistory₃.trans hhistory₂] at hlast
  exact ⟨s₄, ((hreach₁.trans hreach₂).trans hreach₃).trans hreach₄,
    hcommitted₄.trans (hcommitted₃.trans hcommitted₂), hconnected, hmirrors, hlast.trans (if_pos hversion)⟩

end Recovery

/-! ### Results -/

section Results

variable {c : Cluster} {ahead : Prop} {s s' : System}

/-- As `has_ever_connected` says it: the client has a snapshot of the database, which may be old, or
it is empty. -/
theorem snapshot_of_hasEverConnected (h : Reach c.step (c.Moves False) start s) :
    (s.client.hasEverConnected = true →
      ∃ n ≤ s.committed, s.client.data.Mirrors c.cfg.tables (c.timeline.snapshot n)) ∧
    (s.client.hasEverConnected = false → ∀ name, s.client.data.rows name = Dict.empty) := by
  obtain ⟨shown, hinv⟩ := exists_inv h
  have hshows := hinv.shows
  unfold Idl.hasEverConnected
  cases shown with
  | none =>
    rw [hshows.1]
    exact ⟨fun hne => absurd rfl (of_decide_eq_true hne), fun _ _ => rfl⟩
  | some n =>
    refine ⟨fun _ => ⟨n, hshows.1, hshows.2.1⟩, fun hzero => ?_⟩
    exact absurd hshows.2.2.1 (of_decide_eq_false hzero)

/-! A small cluster: a table with one row, a transaction that inserts it and one that changes it. -/

theorem ports_bounds : 1 ≤ 1 ∧ ∀ n ∈ some 1, 1 ≤ n :=
  ⟨Nat.le_refl 1, fun _ hn => (Option.some.inj hn).le⟩

def portsType : ColumnType where
  key := ⟨.integer, none, none, none, 0, 0⟩
  value := none
  nMin := 1
  nMax := some 1
  bounds := ports_bounds

def ports : Column := ⟨codes "ports", portsType, true, false⟩

def bridge : TableSchema := ⟨codes "Bridge", [ports], List.nodup_singleton _⟩

def bridgeRow (n : ℕ) : Server.Row := fun _ => [(.integer n, none)]

/-- The first transaction inserts a row, each later one changes it. -/
def bridgeTxn (n : ℕ) : Server.Txn where
  id := .uniform (if n = 0 then 1 else 2)
  changes := [⟨codes "Bridge", .uniform 7, if n = 0 then none else some (bridgeRow n), some (bridgeRow (n + 1))⟩]

theorem stateAt_bridgeTxn (n : ℕ) (name : Text) (uuid : Uuid) : Server.stateAt bridgeTxn n name uuid =
    if name = codes "Bridge" ∧ uuid = .uniform 7 ∧ n ≠ 0 then some (bridgeRow n) else none := by
  induction n with
  | zero => rw [if_neg fun h => h.2.2 rfl, Server.stateAt]
  | succ n ih =>
    rw [Server.stateAt, bridgeTxn]
    dsimp only [List.foldl_cons, List.foldl_nil, Server.write]
    by_cases hname : name = codes "Bridge"
    · subst hname
      rw [Function.update_self]
      by_cases huuid : uuid = .uniform 7
      · subst huuid
        rw [Function.update_self, if_pos ⟨rfl, rfl, Nat.succ_ne_zero n⟩]
      · rw [Function.update_of_ne huuid, if_neg fun h => huuid h.2.1, ih, if_neg fun h => huuid h.2.1]
    · rw [Function.update_of_ne hname, if_neg fun h => hname h.1, ih, if_neg fun h => hname h.1]

theorem conforms_bridgeRow (n : ℕ) : Server.Conforms portsType (bridgeRow n (codes "ports")) where
  sorted := List.pairwise_singleton _ _
  fits p hp := by
    rw [List.mem_singleton.mp hp]
    rfl
  spelled p hp := by
    rw [List.mem_singleton.mp hp]
    exact ⟨rfl, rfl⟩
  least := Nat.le_refl 1
  most := Nat.le_refl 1

theorem bridgeTxn_id_ne_zero (n : ℕ) : (bridgeTxn n).id ≠ .uniform 0 := by
  have hfirst : Uuid.uniform 1 ≠ .uniform 0 := by decide
  have hlater : Uuid.uniform 2 ≠ .uniform 0 := by decide
  change Uuid.uniform (if n = 0 then 1 else 2) ≠ _
  by_cases hn : n = 0
  · rwa [if_pos hn]
  · rwa [if_neg hn]

theorem bridgeTxn_id_injective (m : ℕ) (hm : m < 2) (n : ℕ) (hn : n < 2)
    (h : (bridgeTxn m).id = (bridgeTxn n).id) : m = n := by
  have hne : Uuid.uniform 1 ≠ .uniform 2 := by decide
  unfold bridgeTxn at h
  by_cases hm0 : m = 0 <;> by_cases hn0 : n = 0 <;> simp only [hm0, hn0, if_true, if_false] at h <;>
    first | omega | exact absurd h hne | exact absurd h.symm hne

theorem chains_bridgeTxn (n : ℕ) : Server.Chains (Server.stateAt bridgeTxn n) (bridgeTxn n).changes := by
  refine ⟨?_, .inr rfl, trivial⟩
  change (if n = 0 then none else some (bridgeRow n)) = Server.stateAt bridgeTxn n (codes "Bridge") (.uniform 7)
  rw [stateAt_bridgeTxn]
  by_cases hn : n = 0
  · rw [if_pos hn, if_neg fun h => h.2.2 hn]
  · rw [if_neg hn, if_pos ⟨rfl, rfl, hn⟩]

theorem conforms_bridgeTxn (n : ℕ) : Server.DatabaseConforms [bridge] (Server.stateAt bridgeTxn n) := by
  intro table htable uuid row hrow column hcolumn
  obtain rfl := List.mem_singleton.mp htable
  obtain rfl := List.mem_singleton.mp (List.mem_of_mem_filter hcolumn)
  rw [stateAt_bridgeTxn] at hrow
  obtain ⟨-, hrow⟩ := Option.ite_none_right_eq_some.mp hrow
  obtain rfl := Option.some.inj hrow
  exact conforms_bridgeRow n

def bridgeTimeline : Timeline [bridge] where
  length := 2
  txn := bridgeTxn
  id_ne_zero n _ := bridgeTxn_id_ne_zero n
  id_injective := bridgeTxn_id_injective
  chains n _ := chains_bridgeTxn n
  conforms n _ := conforms_bridgeTxn n

/-- The column of `_Server` with the names of the databases. -/
def databaseName : Column :=
  ⟨codes "name", ⟨⟨.string, none, none, none, 0, 32⟩, none, 1, some 1, ports_bounds⟩, true, false⟩

def database : TableSchema := ⟨codes "Database", [databaseName], List.nodup_singleton _⟩

def databaseContents : Value :=
  .obj [(database.name, .obj [(codes (Uuid.uniform 9).text,
    .obj [(codes "initial", .obj [(databaseName.name, .str (codes "Open_vSwitch"))])])])]

def databaseRow (row : Row) : DatabaseRow where
  name := match (Row.datum row databaseName).entries.head? with
    | some (.value (.string name), _) => name
    | _ => []
  model := codes "standalone"
  cid := []
  schema := []
  connected := true
  leader := true
  index := []

/-- The text of a value, as far as identifiers go. -/
def strOf : Value → Text
  | .str s => s
  | _ => []

def bridgeConfig : Config where
  tables := [bridge]
  dbName := codes "Open_vSwitch"
  uuid := codes "data"
  serverMonitorUuid := codes "server"
  clusterId := []
  leaderOnly := false
  readSchema _ := .ok database
  databases _ rows := .ok (rows.entries.filterMap fun e => e.2.getLast?.map databaseRow)
  str := strOf

theorem replicable_bridge : ∀ table ∈ [bridge], table.Replicable .update3 := by
  intro table htable
  obtain rfl := List.mem_singleton.mp htable
  refine ⟨Version.noConfusion, fun _ column hcolumn => ?_⟩
  obtain rfl := List.mem_singleton.mp (List.mem_of_mem_filter hcolumn)
  exact ⟨.inl rfl, .inr rfl⟩

theorem bridgeConfig_dbName : bridgeConfig.dbName ≠ codes "_Server" := by decide

theorem bridgeConfig_uuid : bridgeConfig.uuid ≠ bridgeConfig.serverMonitorUuid := by decide

def bridges : Cluster where
  cfg := bridgeConfig
  timeline := bridgeTimeline
  version := .update3
  needHistory := true
  nodup := List.nodup_singleton _
  replicable := replicable_bridge
  dbName_ne := bridgeConfig_dbName
  uuid_ne := bridgeConfig_uuid
  str_text _ := rfl

theorem suits_bridges (minIndex : ℤ) : Suits bridgeConfig minIndex .null databaseContents database where
  schema := rfl
  contents := ⟨_, _, minIndex, rfl, rfl, rfl⟩

/-- Another transaction, and the client on a new connection. -/
theorem bridges_advance {shown : Option ℕ} (h : bridges.Inv ahead shown s) (hlt : s.committed < 2) : ∃ s',
    Reach bridges.step (bridges.Moves ahead) s s' ∧ s'.committed = s.committed + 1 ∧
      s'.client.hasEverConnected = true ∧ s'.client.lastId = .str (codes (bridgeTxn s.committed).id.text) := by
  obtain ⟨s', hreach, hcommitted, hconnected, -, hlast⟩ :=
    (h.commit hlt).recovers rfl (suits_bridges _) (Nat.zero_le _)
  refine ⟨s', Reach.trans (.next .start trivial (l := .commit) (if_pos hlt)) hreach, hcommitted, hconnected,
    hlast.trans ?_⟩
  have hid := bridgeTimeline.lastTxnid_segment 0 s.committed
  rw [Nat.zero_add] at hid
  exact congrArg (fun id : Uuid => Value.str (codes id.text)) hid

theorem snapshot_of_hasEverConnected_bridges : ∃ s, Reach bridges.step (bridges.Moves False) start s ∧
    s.client.hasEverConnected = true ∧
    ∃ n ≤ s.committed, s.client.data.Mirrors [bridge] (bridgeTimeline.snapshot n) := by
  obtain ⟨s, hreach, -, hconnected, -⟩ := bridges_advance (inv_start bridges False) Nat.two_pos
  exact ⟨s, hreach, hconnected, (snapshot_of_hasEverConnected hreach).1 hconnected⟩

/-- What the client has is what the transaction that it names in its next request left. -/
theorem snapshot_of_lastId (h : Reach c.step (c.Moves False) start s) {m : ℕ} (hm : m < c.timeline.length)
    (hlast : s.client.lastId = .str (codes (c.timeline.txn m).id.text)) :
    s.client.data.Mirrors c.cfg.tables (c.timeline.snapshot (m + 1)) := by
  obtain ⟨shown, hinv⟩ := exists_inv h
  have hshows := hinv.shows
  rw [hinv.shown_of_lastId hm hlast] at hshows
  exact hshows.2.1

theorem snapshot_of_lastId_bridges : ∃ s, Reach bridges.step (bridges.Moves False) start s ∧
    s.client.lastId = .str (codes (bridgeTxn 0).id.text) ∧
    s.client.data.Mirrors [bridge] (bridgeTimeline.snapshot 1) := by
  obtain ⟨s, hreach, -, -, hlast⟩ := bridges_advance (inv_start bridges False) Nat.two_pos
  exact ⟨s, hreach, hlast, snapshot_of_lastId hreach (m := 0) Nat.two_pos hlast⟩

/-- With servers that have applied what the ones before them had, the client does not go back. -/
theorem lastId_le (h : Reach c.step (c.Moves True) start s) (h' : Reach c.step (c.Moves True) s s') {m m' : ℕ}
    (hm : m < c.timeline.length) (hm' : m' < c.timeline.length)
    (hlast : s.client.lastId = .str (codes (c.timeline.txn m).id.text))
    (hlast' : s'.client.lastId = .str (codes (c.timeline.txn m').id.text)) : m ≤ m' := by
  obtain ⟨shown, hinv⟩ := exists_inv h
  obtain ⟨shown', hforward, hinv'⟩ := hinv.reach h'
  obtain ⟨j, hj, hle⟩ := hforward trivial (m + 1) (hinv.shown_of_lastId hm hlast)
  rw [hinv'.shown_of_lastId hm' hlast'] at hj
  obtain rfl := Option.some.inj hj
  exact Nat.le_of_succ_le_succ hle

/-- Two transactions, and the client has followed both. -/
theorem lastId_le_bridges : ∃ s s' m m', Reach bridges.step (bridges.Moves True) start s ∧
    Reach bridges.step (bridges.Moves True) s s' ∧ s.client.lastId = .str (codes (bridgeTxn m).id.text) ∧
    s'.client.lastId = .str (codes (bridgeTxn m').id.text) ∧ m ≠ m' ∧ m ≤ m' := by
  obtain ⟨s, hreach, hcommitted, -, hlast⟩ := bridges_advance (inv_start bridges True) Nat.two_pos
  obtain ⟨shown, hinv⟩ := exists_inv hreach
  have hone : s.committed = 1 := hcommitted
  obtain ⟨s', hreach', -, -, hlast'⟩ := bridges_advance hinv (hone ▸ Nat.one_lt_two)
  rw [hone] at hlast'
  exact ⟨s, s', 0, 1, hreach, hreach', hlast, hlast', Nat.zero_ne_one,
    lastId_le hreach hreach' (c := bridges) Nat.two_pos Nat.one_lt_two hlast hlast'⟩

/-- From wherever the client is, there is a way for it to have all that is committed: by a server that
has applied it and that the client takes. -/
theorem exists_reach_current (h : Reach c.step (c.Moves ahead) start s) (hversion : c.version = .update3)
    {schema contents : Value} {table : TableSchema} (hsuits : Suits c.cfg s.client.minIndex schema contents table) :
    ∃ s', Reach c.step (c.Moves ahead) s s' ∧ s'.committed = s.committed ∧ s'.client.hasEverConnected = true ∧
      s'.client.data.Mirrors c.cfg.tables (c.timeline.snapshot s.committed) := by
  obtain ⟨shown, hinv⟩ := exists_inv h
  obtain ⟨s', hreach, hcommitted, hconnected, hmirrors, -⟩ :=
    hinv.recovers hversion hsuits (Nat.zero_le s.committed)
  exact ⟨s', hreach, hcommitted, hconnected, hmirrors⟩

/-- The client has the first transaction when the second is committed. -/
theorem exists_reach_current_bridges : ∃ s s', Reach bridges.step (bridges.Moves True) start s ∧
    s.client.lastId = .str (codes (bridgeTxn 0).id.text) ∧ s.committed = 2 ∧
    Reach bridges.step (bridges.Moves True) s s' ∧ s'.committed = 2 ∧ s'.client.hasEverConnected = true ∧
    s'.client.data.Mirrors [bridge] (bridgeTimeline.snapshot 2) := by
  obtain ⟨s, hreach, hcommitted, -, hlast⟩ := bridges_advance (inv_start bridges True) Nat.two_pos
  have hone : s.committed = 1 := hcommitted
  have hlt : s.committed < bridges.timeline.length := hone ▸ Nat.one_lt_two
  have htwo : s.committed + 1 = 2 := congrArg Nat.succ hone
  have hreach₂ : Reach bridges.step (bridges.Moves True) start { s with committed := s.committed + 1 } :=
    .next hreach trivial (l := .commit) (if_pos hlt)
  obtain ⟨s', hreach', hcommitted', hconnected, hmirrors⟩ :=
    exists_reach_current hreach₂ (c := bridges) rfl (suits_bridges _)
  rw [htwo] at hcommitted' hmirrors
  exact ⟨_, s', hreach₂, hlast, htwo, hreach', hcommitted', hconnected, hmirrors⟩

end Results

end Cluster

end OvnApi.Ovs
