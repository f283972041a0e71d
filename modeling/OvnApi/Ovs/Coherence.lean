import OvnApi.Ovs.Snapshot

/-! The steps of the client keep the invariant, and so does every run. -/

namespace OvnApi.Ovs

open OvnApi.Lib OvnApi.Lib.Prog OvnApi.Core

namespace Cluster

section ClientSteps

variable {c : Cluster} {ahead : Prop} {shown : Option ℕ} {s : System} {idl : Idl} {m : Message}
  {rest : List Message}

theorem Shows.congr {committed : ℕ} (h : c.Shows committed s.client shown) (hdata : idl.data = s.client.data)
    (hlast : idl.lastId = s.client.lastId) : c.Shows committed idl shown := by
  cases shown with
  | none =>
    rw [Shows, hdata, hlast]
    exact h
  | some i =>
    rw [Shows, hdata, hlast]
    exact h

theorem Idle.later {r : Message} (h : c.Idle s.client r) (hasks : Asks c.cfg s.client r)
    (hlater : s.client.Later idl) : c.Idle idl r := by
  refine ⟨h.1, Bool.eq_false_iff.mpr fun hne => ?_⟩
  have hwaits := waits_of_later hasks.id_cases hlater hne
  rw [h.2] at hwaits
  cases hwaits

/-- What the client still waits for was on its way before. -/
theorem busy_later {ms : List Message} (hlater : s.client.Later idl)
    (hids : ∀ m ∈ ms, m.id = .null ∨ ∃ n < s.client.nextId, m.id = .int n) : busy idl ms ≤ busy s.client ms :=
  List.countP_mono_left fun m hm => waits_of_later (hids m hm) hlater

theorem Stage.aside (h : c.Stage ahead shown s) (hasks : ∀ r ∈ s.toServer, Asks c.cfg s.client r)
    (haside : s.client.Aside idl) : c.Stage ahead shown { s with client := idl } := by
  have hlater := haside.later
  cases h with
  | before hmonitor hother hharmless hbusy =>
    refine .before hmonitor hother (fun m hm => (hharmless m hm).later hlater) ?_
    refine (busy_later hlater fun m hm => ?_).trans hbusy
    rcases List.mem_append.mp hm with hm | hm
    · exact (hasks m hm).id_cases
    · exact (hharmless m hm).id_cases
  | asked n pre post hmonitor hask hidle hquiet hid hstate =>
    refine .asked n pre post hmonitor ?_ (fun r hr => ?_) (fun m hm => (hquiet m hm).later hlater)
      (haside.monitorRequestId.trans hid) (haside.state.trans hstate)
    · rw [hask, ← haside.lastId]
    · refine (hidle r hr).later (hasks r ?_) hlater
      rw [hask]
      rcases List.mem_append.mp hr with hr | hr
      · exact List.mem_append_left _ hr
      · exact List.mem_append_right _ (List.mem_cons_of_mem _ hr)
  | answered n k changes hmonitor hidle hanswers htracks hk hid hstate =>
    exact .answered n k changes hmonitor (fun r hr => (hidle r hr).later (hasks r hr) hlater)
      (hanswers.mono fun m hm => hm.later hlater) htracks hk (haside.monitorRequestId.trans hid)
      (haside.state.trans hstate)
  | monitoring i k changes hmonitor hidle hshown hdelivers htracks hk =>
    exact .monitoring i k changes hmonitor (fun r hr => (hidle r hr).later (hasks r hr) hlater) hshown
      (hdelivers.mono fun m hm => hm.later hlater) htracks hk

/-- The first message, after changes that need none. -/
theorem Delivers.uncons {quiet : Message → Prop} {i k : ℕ} (h : c.Delivers quiet i (m :: rest) k) :
    quiet m ∧ c.Delivers quiet i rest k ∨
      ∃ j l id json, i ≤ j ∧ (∀ w : Tables, w.Mirrors c.cfg.tables (c.timeline.snapshot i) →
          w.Mirrors c.cfg.tables (c.timeline.snapshot j)) ∧ j ≤ l ∧
        Carries c.version c.cfg.tables false (c.timeline.snapshot j) (c.timeline.snapshot l) json ∧
        c.timeline.IsId l id ∧ m = Server.createNotify c.version (.str c.cfg.uuid) id json ∧
        c.Delivers quiet l rest k := by
  generalize hms : m :: rest = ms at h
  induction h with
  | done => cases hms
  | quiet hm hdelivers _ =>
    obtain ⟨rfl, rfl⟩ := List.cons.inj hms
    exact .inl ⟨hm, hdelivers⟩
  | silent hij hsame _ ih =>
    obtain ⟨hm, hdelivers⟩ | ⟨j, l, id, json, hjj, hsame', hrest⟩ := ih hms
    · exact .inl ⟨hm, .silent hij hsame hdelivers⟩
    · exact .inr ⟨j, l, id, json, hij.trans hjj, fun w hw => hsame' w (hsame w hw), hrest⟩
  | update hij hcarries hid hdelivers _ =>
    obtain ⟨rfl, rfl⟩ := List.cons.inj hms
    exact .inr ⟨_, _, _, _, Nat.le_refl _, fun w hw => hw, hij, hcarries, hid, rfl, hdelivers⟩

/-- An update of the database is not a notification about `_Server`. -/
theorem not_quiet_update (id : Uuid) (json : Value) :
    ¬ Quiet c.cfg idl (Server.createNotify c.version (.str c.cfg.uuid) id json) := by
  have hne := c.uuid_ne
  rintro ⟨⟨-, update, heq⟩ | ⟨htype, -⟩, -⟩
  · have hparams := congrArg Message.params heq
    cases hversion : c.version <;> rw [hversion] at hparams <;>
      simp [Server.createNotify, serverNotification, Message.createNotify, hne] at hparams
  · cases hversion : c.version <;> rw [hversion] at htype <;>
      simp [Server.createNotify, Message.createNotify] at htype

/-- A message that is nothing to the client is taken off. -/
theorem Stage.drop_quiet (h : c.Stage ahead shown s) (hclient : s.toClient = m :: rest)
    (hm : Quiet c.cfg s.client m) : c.Stage ahead shown { s with toClient := rest } := by
  cases h with
  | before hmonitor hother hharmless hbusy =>
    rw [hclient] at hharmless hbusy
    refine .before hmonitor hother (fun m hm => hharmless m (List.mem_cons_of_mem _ hm)) ?_
    rw [← List.singleton_append, busy_append, busy_append] at hbusy
    change busy s.client (s.toServer ++ rest) ≤ 1
    rw [busy_append]
    omega
  | asked n pre post hmonitor hask hidle hquiet hid hstate =>
    rw [hclient] at hquiet
    exact .asked n pre post hmonitor hask hidle (fun m hm => hquiet m (List.mem_cons_of_mem _ hm)) hid hstate
  | answered n k changes hmonitor hidle hanswers htracks hk hid hstate =>
    rw [hclient] at hanswers
    have hwaits : s.client.waits (.int n) = true := Idl.waits_int.mpr (.inl hid)
    cases hanswers with
    | quiet _ hrest => exact .answered n k changes hmonitor hidle hrest htracks hk hid hstate
    | all => exact absurd (hm.2.symm.trans hwaits) Bool.false_ne_true
    | since => exact absurd (hm.2.symm.trans hwaits) Bool.false_ne_true
  | monitoring i k changes hmonitor hidle hshown hdelivers htracks hk =>
    rw [hclient] at hdelivers
    obtain ⟨-, hrest⟩ | ⟨_, _, id, json, -, -, -, -, -, rfl, -⟩ := hdelivers.uncons
    · exact .monitoring i k changes hmonitor hidle hshown hrest htracks hk
    · exact absurd hm (not_quiet_update id json)

theorem Inv.aside (h : c.Inv ahead shown s) (haside : s.client.Aside idl) :
    c.Inv ahead shown { s with client := idl } where
  ready := haside.ready h.ready
  monitored hmonitored := haside.serverTable (h.monitored hmonitored)
  asks r hr := (h.asks r hr).later haside.later
  history := h.history
  pos_le := h.pos_le
  committed_le := h.committed_le
  shows := h.shows.congr haside.data haside.lastId
  ahead_pos := h.ahead_pos
  stage := h.stage.aside h.asks haside

theorem Inv.receive_quiet (h : c.Inv ahead shown s) (hclient : s.toClient = m :: rest)
    (hm : Quiet c.cfg s.client m) (haside : s.client.Aside idl) :
    c.Inv ahead shown { s with
      client := { idl with sent := [] }
      toServer := s.toServer ++ idl.sent
      toClient := rest } := by
  have hsent : idl.sent = [] := haside.sent.trans h.ready.sent
  have hsame : ({ idl with sent := [] } : Idl) = idl := by rw [← hsent]
  have hdropped : c.Inv ahead shown { s with toClient := rest } :=
    { h with stage := h.stage.drop_quiet hclient hm }
  rw [hsame, hsent, List.append_nil]
  exact hdropped.aside haside

/-- The client as a message about the database leaves it. -/
structure Loaded (idl idl' : Idl) : Prop where
  nextId : idl'.nextId = idl.nextId
  sent : idl'.sent = idl.sent
  serverTable : idl'.serverTable = idl.serverTable
  monitorCancelRequestId : idl'.monitorCancelRequestId = idl.monitorCancelRequestId
  monitorRequestId : idl'.monitorRequestId = idl.monitorRequestId ∨ idl'.monitorRequestId = none
  serverSchemaRequestId : idl'.serverSchemaRequestId = idl.serverSchemaRequestId
  serverMonitorRequestId : idl'.serverMonitorRequestId = idl.serverMonitorRequestId

theorem Loaded.later (h : Loaded s.client idl) : s.client.Later idl where
  nextId := h.nextId.ge
  serverTable hs := h.serverTable ▸ hs
  monitorRequestId _ _ hn := Idl.eq_some_of_forget h.monitorRequestId hn
  waits n _ hn := by
    rw [Idl.waits_int, h.serverSchemaRequestId, h.serverMonitorRequestId] at hn
    rw [Idl.waits_int]
    exact hn.imp (Idl.eq_some_of_forget h.monitorRequestId) id

theorem Loaded.ready (h : Loaded s.client idl) (hready : s.client.Ready) : idl.Ready where
  cancel := h.monitorCancelRequestId.trans hready.cancel
  sent := h.sent.trans hready.sent
  serverTable := by
    rw [h.serverMonitorRequestId, h.serverTable]
    exact hready.serverTable
  ids n hn := by
    rw [h.nextId]
    refine hready.ids n ?_
    rw [Idl.waits_int, h.serverSchemaRequestId, h.serverMonitorRequestId] at hn
    rw [Idl.waits_int]
    exact hn.imp (Idl.eq_some_of_forget h.monitorRequestId) id

/-- A message about the database takes the client to a snapshot that the rest of the messages start
from. -/
theorem Inv.receive_loaded (h : c.Inv ahead shown s) {j k : ℕ} {changes : Server.ChangeSet}
    (hmonitor : s.monitor = some (.str c.cfg.uuid, changes)) (hidle : ∀ r ∈ s.toServer, c.Idle s.client r)
    (htracks : Server.Tracks changes (c.timeline.snapshot k) (c.timeline.snapshot s.pos)) (hk : k ≤ s.pos)
    (hloaded : Loaded s.client idl) (hshows : j ≤ s.committed → c.Shows s.committed idl (some j))
    (hdelivers : c.Delivers (Quiet c.cfg s.client) j rest k) :
    c.Inv ahead (some j) { s with
      client := { idl with sent := [] }
      toServer := s.toServer ++ idl.sent
      toClient := rest } := by
  have hsent : idl.sent = [] := hloaded.sent.trans h.ready.sent
  have hsame : ({ idl with sent := [] } : Idl) = idl := by rw [← hsent]
  rw [hsame, hsent, List.append_nil]
  have hlater := hloaded.later
  have hj : j ≤ s.pos := hdelivers.le.trans hk
  exact {
    ready := hloaded.ready h.ready
    monitored := fun hmonitored => hlater.serverTable (h.monitored hmonitored)
    asks := fun r hr => (h.asks r hr).later hlater
    history := h.history
    pos_le := h.pos_le
    committed_le := h.committed_le
    shows := hshows (hj.trans h.pos_le)
    ahead_pos := fun _ i hi => Option.some.inj hi ▸ hj
    stage := .monitoring j k changes hmonitor (fun r hr => (hidle r hr).later (h.asks r hr) hlater) rfl
      (hdelivers.mono fun m hm => hm.later hlater) htracks hk }

/-- The identifier that the client keeps goes with its snapshot. -/
theorem exists_keptId {id : Uuid} {j : ℕ} (hid : c.timeline.IsId j id)
    (hlast : c.version ≠ .update3 → s.client.lastId = .str (codes (Uuid.uniform 0).text)) :
    ∃ id', c.timeline.IsId j id' ∧ keptId c.version id s.client = .str (codes id'.text) ∧
      (c.version ≠ .update3 → id' = .uniform 0) := by
  unfold keptId
  by_cases hversion : c.version = .update3
  · exact ⟨id, hid, if_pos hversion, fun hne => absurd hversion hne⟩
  · exact ⟨.uniform 0, .inl rfl, (if_neg hversion).trans (hlast hversion), fun _ => rfl⟩

theorem Inv.lastId_of_ne (h : c.Inv ahead shown s) (hversion : c.version ≠ .update3) :
    s.client.lastId = .str (codes (Uuid.uniform 0).text) := by
  have hshows := h.shows
  cases shown with
  | none => exact hshows.2
  | some i =>
    obtain ⟨-, -, -, id, -, hlast, hzero⟩ := hshows
    rw [hlast, hzero hversion]

theorem Inv.receive_update (h : c.Inv ahead shown s) {i k : ℕ} {changes : Server.ChangeSet}
    (hclient : s.toClient = m :: rest) (hquiet : ¬ Quiet c.cfg s.client m)
    (hmonitor : s.monitor = some (.str c.cfg.uuid, changes)) (hidle : ∀ r ∈ s.toServer, c.Idle s.client r)
    (hshown : shown = some i) (hdelivers : c.Delivers (Quiet c.cfg s.client) i s.toClient k)
    (htracks : Server.Tracks changes (c.timeline.snapshot k) (c.timeline.snapshot s.pos)) (hk : k ≤ s.pos) :
    ∃ j, i ≤ j ∧ c.Inv ahead (some j) { s with
      client := { (Idl.process c.cfg m s.client).2 with sent := [] }
      toServer := s.toServer ++ (Idl.process c.cfg m s.client).2.sent
      toClient := rest } := by
  rw [hclient] at hdelivers
  obtain ⟨hm, -⟩ | ⟨j, l, id, json, hij, hsame, hjl, hcarries, hid, rfl, hrest⟩ := hdelivers.uncons
  · exact absurd hm hquiet
  · have hshows := h.shows
    rw [hshown] at hshows
    obtain ⟨-, hmirrors, hcount, -⟩ := hshows
    obtain ⟨data, hrun, hnow, hle⟩ := process_update id c.uuid_ne hcarries (hsame _ hmirrors)
    refine ⟨l, hij.trans hjl, ?_⟩
    rw [hrun]
    refine h.receive_loaded hmonitor hidle htracks hk
      ⟨rfl, rfl, rfl, rfl, .inl rfl, rfl, rfl⟩ (fun hcommitted => ?_) hrest
    exact ⟨hcommitted, hnow, Nat.ne_of_gt ((Nat.pos_of_ne_zero hcount).trans_le hle),
      exists_keptId hid h.lastId_of_ne⟩

theorem Inv.receive_reply (h : c.Inv ahead shown s) {n k : ℕ} {changes : Server.ChangeSet}
    (hclient : s.toClient = m :: rest) (hquiet : ¬ Quiet c.cfg s.client m)
    (hmonitor : s.monitor = some (.str c.cfg.uuid, changes)) (hidle : ∀ r ∈ s.toServer, c.Idle s.client r)
    (hanswers : c.Answers (Quiet c.cfg s.client) ahead n shown s.toClient k)
    (htracks : Server.Tracks changes (c.timeline.snapshot k) (c.timeline.snapshot s.pos)) (hk : k ≤ s.pos)
    (hn : s.client.monitorRequestId = some n) (hstate : s.client.state = Idl.askedState c.version) :
    ∃ j, (ahead → ∀ i ∈ shown, i ≤ j) ∧ c.Inv ahead (some j) { s with
      client := { (Idl.process c.cfg m s.client).2 with sent := [] }
      toServer := s.toServer ++ (Idl.process c.cfg m s.client).2.sent
      toClient := rest } := by
  rw [hclient] at hanswers
  cases hanswers with
  | quiet hm _ => exact absurd hm hquiet
  | @all _ j _ id json hcarries hid hahead hrest =>
    obtain ⟨data, hrun, hnow, hcount⟩ :=
      process_monitorReply id h.ready.cancel hn hstate hcarries (.inl rfl)
    refine ⟨j, hahead, ?_⟩
    rw [hrun]
    refine h.receive_loaded hmonitor hidle htracks hk
      ⟨rfl, rfl, rfl, rfl, .inr rfl, rfl, rfl⟩ (fun hcommitted => ?_) hrest
    exact ⟨hcommitted, hnow, hcount, exists_keptId hid h.lastId_of_ne⟩
  | @since _ i j _ id json hversion hshown hij hcarries hid hrest =>
    have hshows := h.shows
    rw [hshown] at hshows
    obtain ⟨data, hrun, hnow, hcount⟩ :=
      process_monitorReply id h.ready.cancel hn hstate hcarries (.inr ⟨hversion, hshows.2.1⟩)
    refine ⟨j, fun _ i' hi' => ?_, ?_⟩
    · rw [hshown] at hi'
      exact Option.some.inj hi' ▸ hij
    · rw [hrun]
      refine h.receive_loaded hmonitor hidle htracks hk
        ⟨rfl, rfl, rfl, rfl, .inr rfl, rfl, rfl⟩ (fun hcommitted => ?_) hrest
      exact ⟨hcommitted, hnow, hcount, exists_keptId hid h.lastId_of_ne⟩

/-- In the beginning one message at most is waited for: when it comes, no other is on its way. -/
theorem quiet_of_busy (hclient : s.toClient = m :: rest) (hbusy : busy s.client (s.toServer ++ s.toClient) ≤ 1)
    (hm : s.client.waits m.id = true) :
    (∀ r ∈ s.toServer, s.client.waits r.id = false) ∧ ∀ m ∈ rest, s.client.waits m.id = false := by
  have hone : busy s.client [m] = 1 := by
    rw [busy, List.countP_singleton, if_pos hm]
  rw [hclient, ← List.singleton_append, busy_append, busy_append, hone] at hbusy
  exact ⟨busy_eq_zero.mp (by omega), busy_eq_zero.mp (by omega)⟩

/-- A request about `_Server`. -/
theorem versionOf_server {method : Text} {args : List Value} {id : Value} (c : Cluster) :
    Server.versionOf c.cfg.dbName
      (Message.createRequest method (.arr (.str (codes "_Server") :: args)) id) = none :=
  if_pos (Ne.symm c.dbName_ne)

/-- The requests that a client adds, and what it then waits for. -/
theorem Inv.receive_requests (h : c.Inv ahead shown s) {requests : List Message}
    (hlater : s.client.Later idl) (hready : idl.Ready) (hdata : idl.data = s.client.data)
    (hlast : idl.lastId = s.client.lastId) (hasks : ∀ r ∈ requests, Asks c.cfg idl r)
    (hstage : c.Stage ahead shown { s with
      client := idl, toServer := s.toServer ++ requests, toClient := rest }) :
    c.Inv ahead shown { s with
      client := idl, toServer := s.toServer ++ requests, toClient := rest } where
  ready := hready
  monitored hmonitored := hlater.serverTable (h.monitored hmonitored)
  asks r hr := by
    rcases List.mem_append.mp hr with hr | hr
    · exact (h.asks r hr).later hlater
    · exact hasks r hr
  history := h.history
  pos_le := h.pos_le
  committed_le := h.committed_le
  shows := h.shows.congr hdata hlast
  ahead_pos := h.ahead_pos
  stage := hstage

/-- The client is still before its request for the database. -/
theorem Inv.stage_before (h : c.Inv ahead shown s) {requests : List Message}
    (hlater : s.client.Later idl) (hmonitor : s.monitor = none)
    (hother : ∀ r ∈ s.toServer, Server.versionOf c.cfg.dbName r ≠ some c.version)
    (hrest : ∀ m ∈ rest, Quiet c.cfg s.client m) (hserver : ∀ r ∈ s.toServer, s.client.waits r.id = false)
    (hrequests : ∀ r ∈ requests, Server.versionOf c.cfg.dbName r ≠ some c.version)
    (hbusy : busy idl requests ≤ 1) :
    c.Stage ahead shown { s with
      client := idl, toServer := s.toServer ++ requests, toClient := rest } := by
  refine .before hmonitor (fun r hr => ?_) (fun m hm => ((hrest m hm).later hlater).1) ?_
  · rcases List.mem_append.mp hr with hr | hr
    · exact hother r hr
    · exact hrequests r hr
  · have hfirst : busy idl s.toServer ≤ busy s.client s.toServer :=
      busy_later hlater fun m hm => (h.asks m hm).id_cases
    have hlast : busy idl rest ≤ busy s.client rest :=
      busy_later hlater fun m hm => (hrest m hm).1.id_cases
    rw [busy_eq_zero.mpr hserver] at hfirst
    rw [busy_eq_zero.mpr fun m hm => (hrest m hm).2] at hlast
    change busy idl (s.toServer ++ requests ++ rest) ≤ 1
    rw [busy_append, busy_append]
    omega

/-- The client has asked for the database; a version that is not spoken will be refused. -/
theorem Inv.stage_data (h : c.Inv ahead shown s) {n : ℕ} {version : Version} {extra : List Message}
    (hlater : s.client.Later idl) (hmonitor : s.monitor = none)
    (hother : ∀ r ∈ s.toServer, Server.versionOf c.cfg.dbName r ≠ some c.version)
    (hrest : ∀ m ∈ rest, Quiet c.cfg s.client m) (hserver : ∀ r ∈ s.toServer, s.client.waits r.id = false)
    (hn : idl.monitorRequestId = some n) (hstate : idl.state = Idl.askedState version)
    (hextra : ∀ r ∈ extra, c.Idle idl r) :
    c.Stage ahead shown { s with
      client := idl
      toServer := s.toServer ++ Message.createRequest (Idl.methodOf version)
        (Idl.monitorParams c.cfg version idl.lastId) (.int n) :: extra
      toClient := rest } := by
  by_cases hversion : version = c.version
  · subst hversion
    refine .asked n s.toServer extra hmonitor rfl (fun r hr => ?_) (fun m hm => (hrest m hm).later hlater)
      hn hstate
    rcases List.mem_append.mp hr with hr | hr
    · have hidle : c.Idle s.client r := ⟨hother r hr, hserver r hr⟩
      exact hidle.later (h.asks r hr) hlater
    · exact hextra r hr
  · refine h.stage_before hlater hmonitor hother hrest hserver (List.forall_mem_cons.mpr ⟨?_, ?_⟩) ?_
    · rw [versionOf_monitorRequest]
      exact fun heq => hversion (Option.some.inj heq)
    · exact fun r hr => (hextra r hr).1
    · rw [← List.singleton_append, busy_append, busy_eq_zero.mpr fun r hr => (hextra r hr).2]
      exact List.countP_le_length

theorem monitorChoice_asked {state : Phase} {version : Version}
    (h : state = .serverMonitorRequested → version = .update3) :
    (Idl.monitorChoice state version).1 = Idl.askedState (Idl.monitorChoice state version).2 := by
  cases state with
  | serverMonitorRequested =>
    rw [h rfl]
    rfl
  | _ => rfl

theorem asks_monitorRequest {idl : Idl} {version : Version} {lastId : Value} {n : ℕ}
    (hn : n < idl.nextId) : Asks c.cfg idl (Message.createRequest (Idl.methodOf version)
      (Idl.monitorParams c.cfg version lastId) (.int n)) := by
  have hversion := versionOf_monitorRequest c.cfg version lastId (.int n)
  refine ⟨fun hserver => ?_, n, hn, rfl, fun hnone => ?_⟩
  · rw [isServerMonitor, hversion] at hserver
    simp at hserver
  · rw [hversion] at hnone
    cases hnone

theorem sent_sendServerMonitorRequest {idl : Idl} (table : TableSchema) (h : idl.sent = []) :
    ∃ args, (Idl.sendServerMonitorRequest c.cfg table idl).sent =
      [Message.createRequest (codes "monitor_cond") (.arr (.str (codes "_Server") :: args))
        (.int idl.nextId)] := by
  change ∃ args, idl.sent ++ _ = _
  rw [h]
  exact ⟨_, rfl⟩

theorem sent_sendMonitorRequest {idl : Idl} (version : Version) (h : idl.sent = []) :
    (Idl.sendMonitorRequest c.cfg version idl).sent =
      [Message.createRequest (Idl.methodOf (Idl.monitorChoice idl.state version).2)
        (Idl.monitorParams c.cfg (Idl.monitorChoice idl.state version).2 idl.lastId) (.int idl.nextId)] := by
  change idl.sent ++ _ = _
  rw [h]
  rfl

/-- A reply about `_Server`, or a refusal, that the client waits for. -/
theorem Inv.receive_respond (h : c.Inv ahead shown s) (hclient : s.toClient = m :: rest)
    (hmonitor : s.monitor = none)
    (hother : ∀ r ∈ s.toServer, Server.versionOf c.cfg.dbName r ≠ some c.version)
    (hharmless : ∀ m ∈ s.toClient, Harmless c.cfg s.client m)
    (hbusy : busy s.client (s.toServer ++ s.toClient) ≤ 1) (hm : s.client.waits m.id = true)
    (hresponds : Idl.Responds c.cfg s.client idl) :
    c.Inv ahead shown { s with
      client := { idl with sent := [] }
      toServer := s.toServer ++ idl.sent
      toClient := rest } := by
  obtain ⟨hserver, hwaits⟩ := quiet_of_busy hclient hbusy hm
  have hrest : ∀ m ∈ rest, Quiet c.cfg s.client m := fun m hm =>
    ⟨hharmless m (hclient ▸ List.mem_cons_of_mem _ hm), hwaits m hm⟩
  have hlater := hresponds.later.emptied
  have hready := hresponds.ready h.ready
  cases hresponds with
  | rests haside =>
    have hnone : ∀ r ∈ ([] : List Message), Asks c.cfg { idl with sent := [] } r := by simp
    have hnone' : ∀ r ∈ ([] : List Message), Server.versionOf c.cfg.dbName r ≠ some c.version := by simp
    rw [haside.sent, h.ready.sent]
    exact h.receive_requests hlater hready haside.data haside.lastId hnone
      (h.stage_before hlater hmonitor hother hrest hserver hnone' (Nat.zero_le 1))
  | @asksServer idl' table haside htable =>
    have hids := haside.ready h.ready
    obtain ⟨args, hsent⟩ := sent_sendServerMonitorRequest (c := c) table hids.sent
    rw [hsent]
    refine h.receive_requests hlater hready haside.data haside.lastId ?_
      (h.stage_before hlater hmonitor hother hrest hserver ?_ List.countP_le_length)
    · intro r hr
      rw [List.mem_singleton.mp hr]
      refine ⟨fun _ => Option.isSome_iff_exists.mpr ⟨table, htable⟩, idl'.nextId, Nat.lt_succ_self _, rfl, ?_⟩
      intro _ hsome
      exact absurd (hids.ids _ (Idl.waits_int.mpr (.inl hsome))) (Nat.lt_irrefl _)
    · intro r hr
      rw [List.mem_singleton.mp hr, versionOf_server]
      exact (Option.some_ne_none _).symm
  | @asksData idl' version haside hstate =>
    have hids := haside.ready h.ready
    have hstate' : idl'.state = .serverMonitorRequested → version = .update3 := fun hs =>
      hstate (haside.state ▸ hs)
    rw [sent_sendMonitorRequest version hids.sent]
    refine h.receive_requests hlater hready haside.data haside.lastId ?_
      (h.stage_data hlater hmonitor hother hrest hserver rfl (monitorChoice_asked hstate') (by simp))
    intro r hr
    rw [List.mem_singleton.mp hr]
    exact asks_monitorRequest (Nat.lt_succ_self _)
  | @asksDataAware idl' haside =>
    have hids := haside.ready h.ready
    have hsent : (Idl.sendDbChangeAware (Idl.sendMonitorRequest c.cfg .update3 idl')).sent =
        (Idl.sendMonitorRequest c.cfg .update3 idl').sent ++
          [Message.createRequest (codes "set_db_change_aware") (.arr [.bool true])
            (.int (idl'.nextId + 1 : ℕ))] := rfl
    rw [hsent, sent_sendMonitorRequest .update3 hids.sent, List.singleton_append]
    refine h.receive_requests hlater hready haside.data haside.lastId ?_
      (h.stage_data hlater hmonitor hother hrest hserver rfl (monitorChoice_asked fun _ => rfl) ?_)
    · refine List.forall_mem_cons.mpr ⟨asks_monitorRequest (Nat.lt_succ_of_lt (Nat.lt_succ_self _)), ?_⟩
      intro r hr
      rw [List.mem_singleton.mp hr]
      refine ⟨fun hmethod => ?_, idl'.nextId + 1, Nat.lt_succ_self _, rfl, fun _ hsome => ?_⟩
      · have hne : codes "set_db_change_aware" ≠ codes "monitor_cond" := by decide
        simp [isServerMonitor, Message.createRequest, hne] at hmethod
      · exact absurd (Option.some.inj hsome) (Nat.lt_succ_self _).ne
    · intro r hr
      rw [List.mem_singleton.mp hr]
      refine ⟨(Option.some_ne_none _).symm, Bool.eq_false_iff.mpr fun hw => ?_⟩
      -- the identifier is new, and it is the other request that is waited for
      rcases Idl.waits_int.mp hw with hfirst | hw
      · exact absurd (Option.some.inj hfirst) (Nat.lt_succ_self _).ne
      · exact absurd (hids.ids _ (Idl.waits_int.mpr (.inr hw))) (Nat.not_succ_lt_self)

/-- The client takes the next message. -/
theorem Inv.receive (h : c.Inv ahead shown s) (hclient : s.toClient = m :: rest) :
    ∃ shown', (ahead → Forward shown shown') ∧ c.Inv ahead shown' { s with
      client := { (Idl.process c.cfg m s.client).2 with sent := [] }
      toServer := s.toServer ++ (Idl.process c.cfg m s.client).2.sent
      toClient := rest } := by
  by_cases hquiet : Quiet c.cfg s.client m
  · exact ⟨shown, fun _ => forward_refl shown, h.receive_quiet hclient hquiet (hquiet.aside h.ready)⟩
  cases h.stage with
  | before hmonitor hother hharmless hbusy =>
    have hm := hharmless m (hclient ▸ List.mem_cons_self)
    have hwaits : s.client.waits m.id = true := by
      by_contra hne
      exact hquiet ⟨hm, Bool.eq_false_iff.mpr hne⟩
    exact ⟨shown, fun _ => forward_refl shown,
      h.receive_respond hclient hmonitor hother hharmless hbusy hwaits (hm.responds h.ready)⟩
  | asked n pre post hmonitor hask hidle hall => exact absurd (hall m (hclient ▸ List.mem_cons_self)) hquiet
  | answered n k changes hmonitor hidle hanswers htracks hk hid hstate =>
    obtain ⟨j, hforward, hinv⟩ :=
      h.receive_reply hclient hquiet hmonitor hidle hanswers htracks hk hid hstate
    exact ⟨some j, fun ha i hi => ⟨j, rfl, hforward ha i hi⟩, hinv⟩
  | monitoring i k changes hmonitor hidle hshown hdelivers htracks hk =>
    obtain ⟨j, hij, hinv⟩ := h.receive_update hclient hquiet hmonitor hidle hshown hdelivers htracks hk
    refine ⟨some j, fun _ i' hi' => ⟨j, rfl, ?_⟩, hinv⟩
    rw [hshown] at hi'
    exact Option.some.inj hi' ▸ hij

theorem sent_restartFsm (cfg : Config) (h : s.client.Ready) :
    (Idl.restartFsm cfg s.client).sent = [Message.createRequest (codes "get_schema")
      (.arr [.str (codes "_Server"), .str cfg.uuid]) (.int s.client.nextId)] := by
  change s.client.sent ++ _ = _
  rw [h.sent]
  rfl

theorem ready_restartFsm (cfg : Config) (h : s.client.Ready) :
    Idl.Ready { Idl.restartFsm cfg s.client with sent := [], forced := false } where
  cancel := h.cancel
  sent := rfl
  serverTable := h.serverTable
  ids n hn := by
    rw [Idl.waits_int] at hn
    rcases hn with hn | hn | hn
    · exact Nat.lt_succ_of_lt (h.ids n (Idl.waits_int.mpr (.inl hn)))
    · exact (Option.some.inj hn).symm ▸ Nat.lt_succ_self _
    · exact Nat.lt_succ_of_lt (h.ids n (Idl.waits_int.mpr (.inr (.inr hn))))

theorem Inv.reconnect (h : c.Inv ahead shown s) {pos oldest : ℕ} (hpos : oldest ≤ pos)
    (hcommitted : pos ≤ s.committed) (hahead : ahead → s.pos ≤ pos) :
    c.Inv ahead shown (c.reconnected s pos oldest) := by
  have hsent := sent_restartFsm c.cfg h.ready
  unfold reconnected
  rw [hsent]
  exact {
    ready := ready_restartFsm c.cfg h.ready
    monitored := fun hmonitored => Bool.noConfusion hmonitored
    asks := by
      intro r hr
      rw [List.mem_singleton.mp hr]
      refine ⟨fun hmethod => ?_, s.client.nextId, Nat.lt_succ_self _, rfl, fun _ hsome => ?_⟩
      · have hne : codes "get_schema" ≠ codes "monitor_cond" := by decide
        simp [isServerMonitor, Message.createRequest, hne] at hmethod
      · exact absurd (h.ready.ids _ (Idl.waits_int.mpr (.inl hsome))) (Nat.lt_irrefl _)
    history := by
      cases hneed : c.needHistory with
      | true => exact ⟨oldest, pos - oldest, Nat.add_sub_cancel' hpos, rfl, Bool.noConfusion⟩
      | false => exact ⟨pos, 0, rfl, rfl, fun _ => rfl⟩
    pos_le := hcommitted
    committed_le := h.committed_le
    shows := by
      have hshows := h.shows
      cases shown with
      | none => exact hshows
      | some i => exact hshows
    ahead_pos := fun ha i hi => (h.ahead_pos ha i hi).trans (hahead ha)
    stage := by
      refine .before rfl (fun r hr => ?_) (fun m hm => absurd hm List.not_mem_nil) List.countP_le_length
      rw [List.mem_singleton.mp hr, versionOf_server]
      exact (Option.some_ne_none _).symm }

theorem inv_start (c : Cluster) (ahead : Prop) : c.Inv ahead none start where
  ready := {
    cancel := rfl
    sent := rfl
    serverTable := fun h => absurd h Bool.false_ne_true
    ids := fun n hn => by
      rcases Idl.waits_int.mp hn with h | h | h <;> cases h }
  monitored h := Bool.noConfusion h
  asks _ hr := absurd hr List.not_mem_nil
  history := ⟨0, 0, rfl, rfl, fun _ => rfl⟩
  pos_le := Nat.le_refl 0
  committed_le := Nat.zero_le _
  shows := ⟨rfl, rfl⟩
  ahead_pos _ _ hi := absurd hi (Option.not_mem_none _)
  stage := .before rfl (fun _ hr => absurd hr List.not_mem_nil) (fun _ hm => absurd hm List.not_mem_nil)
    (Nat.zero_le 1)

end ClientSteps

/-! ### Runs -/

section Runs

variable {c : Cluster} {ahead : Prop} {shown : Option ℕ} {s s' : System}

/-- Every step keeps what is known of the system. -/
theorem Inv.step {move : Move} (h : c.Inv ahead shown s) (hmoves : c.Moves ahead s move)
    (hstep : c.step s move = some s') : ∃ shown', (ahead → Forward shown shown') ∧ c.Inv ahead shown' s' := by
  have hsame : ∀ {s'}, c.Inv ahead shown s' → ∃ shown', (ahead → Forward shown shown') ∧ c.Inv ahead shown' s' :=
    fun hinv => ⟨shown, fun _ => forward_refl shown, hinv⟩
  cases move with
  | commit =>
    obtain ⟨hlt, hs⟩ := Option.ite_none_right_eq_some.mp hstep
    exact hsame (Option.some.inj hs ▸ h.commit hlt)
  | apply =>
    obtain ⟨hlt, hs⟩ := Option.ite_none_right_eq_some.mp hstep
    exact hsame (Option.some.inj hs ▸ h.apply hlt)
  | trim =>
    obtain ⟨hlt, hs⟩ := Option.ite_none_right_eq_some.mp hstep
    exact hsame (Option.some.inj hs ▸ h.trim hlt)
  | flush order =>
    obtain ⟨m, hm, rfl⟩ := Option.map_eq_some_iff.mp hstep
    exact hsame (h.flush hm (hmoves m hm))
  | serve order answer =>
    cases hserver : s.toServer with
    | nil =>
      rw [Cluster.step, hserver] at hstep
      cases hstep
    | cons request rest =>
      obtain ⟨hvisits, hanswer⟩ := hmoves request (by rw [hserver]; rfl)
      rw [Cluster.step, hserver] at hstep
      cases hgranted : c.granted s request with
      | none =>
        simp only [hgranted] at hstep
        exact hsame (Option.some.inj hstep ▸ h.serve_other hserver hgranted hanswer)
      | some g =>
        simp only [hgranted] at hstep
        exact hsame (Option.some.inj hstep ▸ h.serve_grant hserver hgranted (hvisits g hgranted))
  | notify update =>
    obtain ⟨hmonitored, hs⟩ := Option.ite_none_right_eq_some.mp hstep
    exact hsame (Option.some.inj hs ▸ h.notify hmonitored update)
  | receive =>
    obtain ⟨-, hstep⟩ := Option.ite_none_left_eq_some.mp hstep
    cases hclient : s.toClient with
    | nil =>
      rw [hclient] at hstep
      cases hstep
    | cons m rest =>
      rw [hclient] at hstep
      exact Option.some.inj hstep ▸ h.receive hclient
  | activity =>
    have haside : s.client.Aside { s.client with forced := false } :=
      ⟨rfl, rfl, rfl, id, rfl, .inl rfl, .inl rfl, .inl rfl, rfl, rfl, rfl⟩
    exact hsame (Option.some.inj hstep ▸ h.aside haside)
  | reconnect pos oldest =>
    obtain ⟨⟨hpos, hcommitted⟩, hs⟩ := Option.ite_none_right_eq_some.mp hstep
    exact hsame (Option.some.inj hs ▸ h.reconnect hpos hcommitted hmoves)

/-- What is known at some time is known later, of a snapshot that is not older. -/
theorem Inv.reach (h : c.Inv ahead shown s) (hreach : Reach c.step (c.Moves ahead) s s') :
    ∃ shown', (ahead → Forward shown shown') ∧ c.Inv ahead shown' s' := by
  refine hreach.invariant (I := fun s' => ∃ shown', (ahead → Forward shown shown') ∧ c.Inv ahead shown' s')
    ⟨shown, fun _ => forward_refl shown, h⟩ ?_
  rintro s₁ move s₂ ⟨shown₁, hforward₁, hinv₁⟩ hmoves hstep
  obtain ⟨shown₂, hforward₂, hinv₂⟩ := hinv₁.step hmoves hstep
  refine ⟨shown₂, fun ha i hi => ?_, hinv₂⟩
  obtain ⟨j, hj, hij⟩ := hforward₁ ha i hi
  obtain ⟨k, hk, hjk⟩ := hforward₂ ha j hj
  exact ⟨k, hk, hij.trans hjk⟩

theorem exists_inv (h : Reach c.step (c.Moves ahead) start s) : ∃ shown, c.Inv ahead shown s := by
  obtain ⟨shown, -, hinv⟩ := (inv_start c ahead).reach h
  exact ⟨shown, hinv⟩

/-- The identifier that the client keeps names its snapshot. -/
theorem Inv.shown_of_lastId (h : c.Inv ahead shown s) {m : ℕ} (hm : m < c.timeline.length)
    (hlast : s.client.lastId = .str (codes (c.timeline.txn m).id.text)) : shown = some (m + 1) := by
  obtain ⟨id, hid, hshown⟩ := h.lastId
  obtain rfl : id = (c.timeline.txn m).id :=
    Server.text_injective (Value.str.inj (hid.symm.trans hlast))
  obtain ⟨m', hcommitted, hshown, hid'⟩ := hshown (c.timeline.id_ne_zero m hm)
  rw [hshown, c.timeline.id_injective m' (hcommitted.trans_le h.committed_le) m hm hid']

end Runs

end Cluster

end OvnApi.Ovs
