import OvnApi.Ovs.Synchrony

/-! What the client has is a snapshot of the database. The proof follows the client through a
connection: before it has asked to monitor the database, between its request and the reply,
and afterwards. At any time the messages about the database that are on their way lead from
what the client has to what the server last sent, and the changes that the server has
recorded lead from there to what it has. Everything else that is on its way leaves the
tables of the client alone. -/

namespace OvnApi.Ovs

open OvnApi.Lib OvnApi.Lib.Prog OvnApi.Core

/-! ### What the client waits for -/

namespace Idl

/-- A reply with this identifier can make the client send a request, or bring the database. -/
def waits (idl : Idl) (id : Value) : Bool :=
  id.isId idl.monitorRequestId || id.isId idl.serverSchemaRequestId || id.isId idl.serverMonitorRequestId

/-- The client between two messages. -/
structure Ready (idl : Idl) : Prop where
  cancel : idl.monitorCancelRequestId = none
  sent : idl.sent = []
  serverTable : idl.serverMonitorRequestId.isSome → idl.serverTable.isSome
  ids : ∀ n : ℕ, idl.waits (.int n) = true → n < idl.nextId

/-- The client some time later: of the requests made until now, it waits for no other replies. -/
structure Later (idl idl' : Idl) : Prop where
  nextId : idl.nextId ≤ idl'.nextId
  serverTable : idl.serverTable.isSome → idl'.serverTable.isSome
  monitorRequestId : ∀ n < idl.nextId, idl'.monitorRequestId = some n → idl.monitorRequestId = some n
  waits : ∀ n : ℕ, n < idl.nextId → idl'.waits (.int n) = true → idl.waits (.int n) = true

section Waiting

variable {cfg : Config} {idl idl' : Idl} {n : ℕ}

theorem waits_int : idl.waits (.int n) = true ↔ idl.monitorRequestId = some n ∨
    idl.serverSchemaRequestId = some n ∨ idl.serverMonitorRequestId = some n := by
  simp only [waits, Bool.or_eq_true, isId_int, or_assoc]

theorem waits_null (idl : Idl) : idl.waits .null = false := by
  unfold waits Value.isId
  cases idl.monitorRequestId <;> cases idl.serverSchemaRequestId <;> cases idl.serverMonitorRequestId <;> rfl

theorem eq_some_of_forget {o o' : Option ℕ} (h : o' = o ∨ o' = none) (hn : o' = some n) : o = some n := by
  rcases h with rfl | rfl
  · exact hn
  · cases hn

theorem Aside.waits (h : Aside idl idl') (hn : idl'.waits (.int n) = true) : idl.waits (.int n) = true := by
  rw [waits_int] at hn ⊢
  rcases hn with hn | hn | hn
  · exact .inl (h.monitorRequestId ▸ hn)
  · exact .inr (.inl (eq_some_of_forget h.serverSchemaRequestId hn))
  · exact .inr (.inr (eq_some_of_forget h.serverMonitorRequestId hn))

theorem Aside.later (h : Aside idl idl') : Later idl idl' where
  nextId := h.nextId.ge
  serverTable := h.serverTable
  monitorRequestId _ _ hn := h.monitorRequestId ▸ hn
  waits _ _ hn := h.waits hn

theorem Aside.ready (h : Aside idl idl') (hidl : Ready idl) : Ready idl' where
  cancel := h.monitorCancelRequestId.trans hidl.cancel
  sent := h.sent.trans hidl.sent
  serverTable hsome := by
    obtain ⟨n, hn⟩ := Option.isSome_iff_exists.mp hsome
    refine h.serverTable (hidl.serverTable ?_)
    rw [eq_some_of_forget h.serverMonitorRequestId hn]
    rfl
  ids n hn := by
    rw [h.nextId]
    exact hidl.ids n (h.waits hn)

theorem Later.trans {idl'' : Idl} (h : Later idl idl') (h' : Later idl' idl'') : Later idl idl'' where
  nextId := h.nextId.trans h'.nextId
  serverTable hs := h'.serverTable (h.serverTable hs)
  monitorRequestId n hn hsome :=
    h.monitorRequestId n hn (h'.monitorRequestId n (hn.trans_le h.nextId) hsome)
  waits n hn hw := h.waits n hn (h'.waits n (hn.trans_le h.nextId) hw)

theorem Later.emptied (h : Later idl idl') : Later idl { idl' with sent := [] } :=
  ⟨h.nextId, h.serverTable, h.monitorRequestId, h.waits⟩

theorem later_sendServerMonitorRequest (table : TableSchema) (idl : Idl) :
    Later idl (sendServerMonitorRequest cfg table idl) where
  nextId := Nat.le_succ _
  serverTable := id
  monitorRequestId _ _ hn := hn
  waits n hlt hn := by
    rw [waits_int] at hn ⊢
    rcases hn with hn | hn | hn
    · exact .inl hn
    · exact .inr (.inl hn)
    · exact absurd (Option.some.inj hn) hlt.ne'

theorem later_sendMonitorRequest (version : Version) (idl : Idl) :
    Later idl (sendMonitorRequest cfg version idl) where
  nextId := Nat.le_succ _
  serverTable := id
  monitorRequestId n hlt hn := absurd (Option.some.inj hn) hlt.ne'
  waits n hlt hn := by
    rw [waits_int] at hn ⊢
    rcases hn with hn | hn
    · exact absurd (Option.some.inj hn) hlt.ne'
    · exact .inr hn

theorem later_sendDbChangeAware (idl : Idl) : Later idl (sendDbChangeAware idl) :=
  ⟨Nat.le_succ _, id, fun _ _ hn => hn, fun _ _ hn => hn⟩

theorem Responds.later (h : Responds cfg idl idl') : Later idl idl' := by
  cases h with
  | rests haside => exact haside.later
  | asksServer table haside _ => exact haside.later.trans (later_sendServerMonitorRequest table _)
  | asksData version haside _ => exact haside.later.trans (later_sendMonitorRequest version _)
  | asksDataAware haside =>
    exact (haside.later.trans (later_sendMonitorRequest .update3 _)).trans (later_sendDbChangeAware _)

/-- Of the requests that are new, the client waits only for the ones that it has just made. -/
theorem ready_sendMonitorRequest (cfg : Config) (hidl : Ready idl) (version : Version) :
    Ready { sendMonitorRequest cfg version idl with sent := [] } where
  cancel := hidl.cancel
  sent := rfl
  serverTable := hidl.serverTable
  ids n hn := by
    rw [waits_int] at hn
    rcases hn with hn | hn
    · exact (Option.some.inj hn).symm ▸ Nat.lt_succ_self _
    · exact Nat.lt_succ_of_lt (hidl.ids n (waits_int.mpr (.inr hn)))

theorem Responds.ready (h : Responds cfg idl idl') (hidl : Ready idl) : Ready { idl' with sent := [] } := by
  cases h with
  | rests haside =>
    have hready := haside.ready hidl
    exact ⟨hready.cancel, rfl, hready.serverTable, hready.ids⟩
  | asksServer table haside htable =>
    have hready := haside.ready hidl
    refine ⟨hready.cancel, rfl, fun _ => Option.isSome_iff_exists.mpr ⟨table, htable⟩, fun n hn => ?_⟩
    rw [waits_int] at hn
    rcases hn with hn | hn | hn
    · exact Nat.lt_succ_of_lt (hready.ids n (waits_int.mpr (.inl hn)))
    · exact Nat.lt_succ_of_lt (hready.ids n (waits_int.mpr (.inr (.inl hn))))
    · exact (Option.some.inj hn).symm ▸ Nat.lt_succ_self _
  | asksData version haside _ => exact ready_sendMonitorRequest cfg (haside.ready hidl) version
  | asksDataAware haside =>
    have hready := ready_sendMonitorRequest cfg (haside.ready hidl) .update3
    exact ⟨hready.cancel, rfl, hready.serverTable, fun n hn => Nat.lt_succ_of_lt (hready.ids n hn)⟩

end Waiting

end Idl

/-! ### Messages on their way -/

section OnTheWay

variable (cfg : Config) (idl : Idl)

/-- A message to the client that does not bring the database. -/
def Harmless (m : Message) : Prop :=
  idl.serverTable.isSome ∧ (∃ update, m = Cluster.serverNotification cfg update) ∨
    (m.type = .reply ∨ m.type = .error) ∧ ∃ n < idl.nextId, m.id = .int n ∧
      (m.type = .reply → idl.monitorRequestId ≠ some n)

/-- A message to the client that changes nothing that counts here. -/
def Quiet (m : Message) : Prop := Harmless cfg idl m ∧ idl.waits m.id = false

def Asks (r : Message) : Prop :=
  (Cluster.isServerMonitor cfg r = true → idl.serverTable.isSome) ∧ ∃ n < idl.nextId, r.id = .int n ∧
    (Server.versionOf cfg.dbName r = none → idl.monitorRequestId ≠ some n)

variable {cfg idl} {idl' : Idl} {m : Message}

theorem Harmless.later (h : Harmless cfg idl m) (hlater : idl.Later idl') : Harmless cfg idl' m := by
  rcases h with ⟨hserver, hm⟩ | ⟨htype, n, hn, hid, hreply⟩
  · exact .inl ⟨hlater.serverTable hserver, hm⟩
  · exact .inr ⟨htype, n, hn.trans_le hlater.nextId, hid,
      fun h hsome => hreply h (hlater.monitorRequestId n hn hsome)⟩

theorem Asks.later (h : Asks cfg idl m) (hlater : idl.Later idl') : Asks cfg idl' m := by
  obtain ⟨hserver, n, hn, hid, hother⟩ := h
  exact ⟨fun h => hlater.serverTable (hserver h), n, hn.trans_le hlater.nextId, hid,
    fun h hsome => hother h (hlater.monitorRequestId n hn hsome)⟩

/-- A message with an identifier that was given before is waited for later only if it is now. -/
theorem waits_of_later (hid : m.id = .null ∨ ∃ n < idl.nextId, m.id = .int n) (hlater : idl.Later idl')
    (h : idl'.waits m.id = true) : idl.waits m.id = true := by
  rcases hid with hid | ⟨n, hn, hid⟩
  · rw [hid, Idl.waits_null] at h
    cases h
  · rw [hid] at h ⊢
    exact hlater.waits n hn h

theorem Harmless.id_cases (h : Harmless cfg idl m) : m.id = .null ∨ ∃ n < idl.nextId, m.id = .int n := by
  rcases h with ⟨-, update, rfl⟩ | ⟨-, n, hn, hid, -⟩
  · exact .inl rfl
  · exact .inr ⟨n, hn, hid⟩

theorem Asks.id_cases (h : Asks cfg idl m) : m.id = .null ∨ ∃ n < idl.nextId, m.id = .int n := by
  obtain ⟨-, n, hn, hid, -⟩ := h
  exact .inr ⟨n, hn, hid⟩

theorem Quiet.later (h : Quiet cfg idl m) (hlater : idl.Later idl') : Quiet cfg idl' m := by
  obtain ⟨hharmless, hwaits⟩ := h
  refine ⟨hharmless.later hlater, Bool.eq_false_iff.mpr fun hne => ?_⟩
  rw [waits_of_later hharmless.id_cases hlater hne] at hwaits
  cases hwaits

/-- The client takes a message that does not concern the database. -/
theorem Quiet.aside (h : Quiet cfg idl m) (hidl : idl.Ready) : idl.Aside (Idl.process cfg m idl).2 := by
  obtain ⟨hharmless, hwaits⟩ := h
  rcases hharmless with ⟨hserver, update, rfl⟩ | ⟨htype, n, -, hid, -⟩
  · exact Idl.aside_process_serverUpdate cfg hserver update
  · rw [hid, ← Bool.not_eq_true, Idl.waits_int, not_or, not_or] at hwaits
    exact Idl.aside_process cfg hid htype hidl.cancel hwaits.1 hwaits.2.1 hwaits.2.2

/-- The client takes a message that does not bring the database. -/
theorem Harmless.responds (h : Harmless cfg idl m) (hidl : idl.Ready) :
    Idl.Responds cfg idl (Idl.process cfg m idl).2 := by
  rcases h with ⟨hserver, update, rfl⟩ | ⟨htype, n, -, hid, hreply⟩
  · exact .rests (Idl.aside_process_serverUpdate cfg hserver update)
  · exact Idl.responds_process cfg hid htype hidl.cancel hreply hidl.serverTable

end OnTheWay

namespace Cluster

variable (c : Cluster)

/-- The messages lead a client that has one snapshot to another, which it may have already. -/
inductive Delivers (quiet : Message → Prop) : ℕ → List Message → ℕ → Prop where
  | done (i : ℕ) : Delivers quiet i [] i
  | quiet {m : Message} {ms : List Message} {i k : ℕ} : quiet m → Delivers quiet i ms k →
      Delivers quiet i (m :: ms) k
  | silent {ms : List Message} {i j k : ℕ} : i ≤ j →
      (∀ w : Tables, w.Mirrors c.cfg.tables (c.timeline.snapshot i) →
        w.Mirrors c.cfg.tables (c.timeline.snapshot j)) →
      Delivers quiet j ms k → Delivers quiet i ms k
  | update {ms : List Message} {i j k : ℕ} {id : Uuid} {json : Value} : i ≤ j →
      Carries c.version c.cfg.tables false (c.timeline.snapshot i) (c.timeline.snapshot j) json →
      c.timeline.IsId j id → Delivers quiet j ms k →
      Delivers quiet i (Server.createNotify c.version (.str c.cfg.uuid) id json :: ms) k

/-- The same with the reply that the client waits for: it brings all of the database, or the changes
since the snapshot that the client has. -/
inductive Answers (quiet : Message → Prop) (ahead : Prop) (n : ℕ) (shown : Option ℕ) :
    List Message → ℕ → Prop where
  | quiet {m : Message} {ms : List Message} {k : ℕ} : quiet m → Answers quiet ahead n shown ms k →
      Answers quiet ahead n shown (m :: ms) k
  | all {ms : List Message} {j k : ℕ} {id : Uuid} {json : Value} :
      Carries c.version c.cfg.tables true (fun _ _ => none) (c.timeline.snapshot j) json →
      c.timeline.IsId j id → (ahead → ∀ i ∈ shown, i ≤ j) → Delivers c quiet j ms k →
      Answers quiet ahead n shown
        (Message.createReply (Server.monitorResult c.version true id json) (.int n) :: ms) k
  | since {ms : List Message} {i j k : ℕ} {id : Uuid} {json : Value} : c.version = .update3 →
      shown = some i → i ≤ j →
      Carries c.version c.cfg.tables false (c.timeline.snapshot i) (c.timeline.snapshot j) json →
      c.timeline.IsId j id → Delivers c quiet j ms k →
      Answers quiet ahead n shown
        (Message.createReply (Server.monitorResult c.version false id json) (.int n) :: ms) k

section Delivery

variable {c} {quiet quiet' : Message → Prop} {ahead : Prop} {n i j k : ℕ} {shown : Option ℕ}
  {ms more : List Message}

theorem Delivers.le (h : c.Delivers quiet i ms k) : i ≤ k := by
  induction h with
  | done => exact Nat.le_refl _
  | quiet _ _ ih => exact ih
  | silent hij _ _ ih => exact hij.trans ih
  | update hij _ _ _ ih => exact hij.trans ih

theorem Delivers.mono (hquiet : ∀ m, quiet m → quiet' m) (h : c.Delivers quiet i ms k) :
    c.Delivers quiet' i ms k := by
  induction h with
  | done => exact .done _
  | quiet hm _ ih => exact .quiet (hquiet _ hm) ih
  | silent hij hsame _ ih => exact .silent hij hsame ih
  | update hij hcarries hid _ ih => exact .update hij hcarries hid ih

theorem Delivers.append (h : c.Delivers quiet i ms k) (hmore : c.Delivers quiet k more j) :
    c.Delivers quiet i (ms ++ more) j := by
  induction h with
  | done => exact hmore
  | quiet hm _ ih => exact .quiet hm (ih hmore)
  | silent hij hsame _ ih => exact .silent hij hsame (ih hmore)
  | update hij hcarries hid _ ih => exact .update hij hcarries hid (ih hmore)

theorem Delivers.of_quiet (h : ∀ m ∈ ms, quiet m) : c.Delivers quiet i ms i := by
  induction ms with
  | nil => exact .done i
  | cons m ms ih =>
    obtain ⟨hm, hms⟩ := List.forall_mem_cons.mp h
    exact .quiet hm (ih hms)

theorem Answers.mono (hquiet : ∀ m, quiet m → quiet' m) (h : c.Answers quiet ahead n shown ms k) :
    c.Answers quiet' ahead n shown ms k := by
  induction h with
  | quiet hm _ ih => exact .quiet (hquiet _ hm) ih
  | all hcarries hid hahead hms => exact .all hcarries hid hahead (hms.mono hquiet)
  | since hversion hshown hij hcarries hid hms => exact .since hversion hshown hij hcarries hid (hms.mono hquiet)

theorem Answers.append (h : c.Answers quiet ahead n shown ms k) (hmore : c.Delivers quiet k more j) :
    c.Answers quiet ahead n shown (ms ++ more) j := by
  induction h with
  | quiet hm _ ih => exact .quiet hm (ih hmore)
  | all hcarries hid hahead hms => exact .all hcarries hid hahead (hms.append hmore)
  | since hversion hshown hij hcarries hid hms =>
    exact .since hversion hshown hij hcarries hid (hms.append hmore)

theorem Answers.after_quiet (hms : ∀ m ∈ ms, quiet m) (h : c.Answers quiet ahead n shown more k) :
    c.Answers quiet ahead n shown (ms ++ more) k := by
  induction ms with
  | nil => exact h
  | cons m ms ih =>
    obtain ⟨hm, hms⟩ := List.forall_mem_cons.mp hms
    exact .quiet hm (ih hms)

end Delivery

/-! ### The invariant -/

/-- The client has a snapshot, and the identifier that goes with it, or it has nothing yet. -/
def Shows (committed : ℕ) (idl : Idl) : Option ℕ → Prop
  | none => idl.data = Idl.noTables ∧ idl.lastId = .str (codes (Uuid.uniform 0).text)
  | some i => i ≤ committed ∧ idl.data.Mirrors c.cfg.tables (c.timeline.snapshot i) ∧
    idl.data.changeSeqno ≠ 0 ∧ ∃ id, c.timeline.IsId i id ∧ idl.lastId = .str (codes id.text) ∧
      (c.version ≠ .update3 → id = .uniform 0)

def dataRequest (n : ℕ) (lastId : Value) : Message :=
  Message.createRequest (Idl.methodOf c.version) (Idl.monitorParams c.cfg c.version lastId) (.int n)

/-- How many messages there are that the client waits for. -/
def busy (idl : Idl) (ms : List Message) : ℕ := ms.countP fun m => idl.waits m.id

theorem busy_append (idl : Idl) (ms ms' : List Message) :
    busy idl (ms ++ ms') = busy idl ms + busy idl ms' := List.countP_append

theorem busy_eq_zero {idl : Idl} {ms : List Message} :
    busy idl ms = 0 ↔ ∀ m ∈ ms, idl.waits m.id = false := by
  simp only [busy, List.countP_eq_zero, Bool.not_eq_true]

/-- A request that does not ask for the database and that the client does not wait for. -/
def Idle (idl : Idl) (r : Message) : Prop :=
  Server.versionOf c.cfg.dbName r ≠ some c.version ∧ idl.waits r.id = false

/-- How far the client has come since it was connected. -/
inductive Stage (ahead : Prop) (shown : Option ℕ) (s : System) : Prop where
  | before : s.monitor = none →
      (∀ r ∈ s.toServer, Server.versionOf c.cfg.dbName r ≠ some c.version) →
      (∀ m ∈ s.toClient, Harmless c.cfg s.client m) → busy s.client (s.toServer ++ s.toClient) ≤ 1 →
      Stage ahead shown s
  | asked (n : ℕ) (pre post : List Message) : s.monitor = none →
      s.toServer = pre ++ c.dataRequest n s.client.lastId :: post → (∀ r ∈ pre ++ post, c.Idle s.client r) →
      (∀ m ∈ s.toClient, Quiet c.cfg s.client m) → s.client.monitorRequestId = some n →
      s.client.state = Idl.askedState c.version → Stage ahead shown s
  | answered (n k : ℕ) (changes : Server.ChangeSet) : s.monitor = some (.str c.cfg.uuid, changes) →
      (∀ r ∈ s.toServer, c.Idle s.client r) →
      c.Answers (Quiet c.cfg s.client) ahead n shown s.toClient k →
      Server.Tracks changes (c.timeline.snapshot k) (c.timeline.snapshot s.pos) → k ≤ s.pos →
      s.client.monitorRequestId = some n → s.client.state = Idl.askedState c.version → Stage ahead shown s
  | monitoring (i k : ℕ) (changes : Server.ChangeSet) : s.monitor = some (.str c.cfg.uuid, changes) →
      (∀ r ∈ s.toServer, c.Idle s.client r) → shown = some i →
      c.Delivers (Quiet c.cfg s.client) i s.toClient k →
      Server.Tracks changes (c.timeline.snapshot k) (c.timeline.snapshot s.pos) → k ≤ s.pos →
      Stage ahead shown s

structure Inv (ahead : Prop) (shown : Option ℕ) (s : System) : Prop where
  ready : s.client.Ready
  monitored : s.serverMonitored = true → s.client.serverTable.isSome
  asks : ∀ r ∈ s.toServer, Asks c.cfg s.client r
  history : ∃ first length, first + length = s.pos ∧
    s.history = Server.segment c.timeline.txn first length ∧ (c.needHistory = false → length = 0)
  pos_le : s.pos ≤ s.committed
  committed_le : s.committed ≤ c.timeline.length
  shows : c.Shows s.committed s.client shown
  ahead_pos : ahead → ∀ i ∈ shown, i ≤ s.pos
  stage : c.Stage ahead shown s

/-- The snapshot of the client does not go back. -/
def Forward (shown shown' : Option ℕ) : Prop := ∀ i ∈ shown, ∃ j ∈ shown', i ≤ j

theorem forward_refl (shown : Option ℕ) : Forward shown shown := fun i hi => ⟨i, hi, Nat.le_refl i⟩

section ServerSteps

variable {c} {ahead : Prop} {shown : Option ℕ} {s s' : System}

/-- Messages that the client takes note of without more are added to what is on its way. -/
theorem Stage.append_quiet {msgs : List Message} (h : c.Stage ahead shown s)
    (hmsgs : ∀ m ∈ msgs, Quiet c.cfg s.client m) :
    c.Stage ahead shown { s with toClient := s.toClient ++ msgs } := by
  cases h with
  | before hmonitor hother hharmless hbusy =>
    refine .before hmonitor hother ?_ ?_
    · intro m hm
      rcases List.mem_append.mp hm with hm | hm
      · exact hharmless m hm
      · exact (hmsgs m hm).1
    · have hzero : busy s.client msgs = 0 := busy_eq_zero.mpr fun m hm => (hmsgs m hm).2
      change busy s.client (s.toServer ++ (s.toClient ++ msgs)) ≤ 1
      rw [← List.append_assoc, busy_append]
      omega
  | asked n pre post hmonitor hserver hidle hquiet hid hstate =>
    refine .asked n pre post hmonitor hserver hidle ?_ hid hstate
    intro m hm
    rcases List.mem_append.mp hm with hm | hm
    · exact hquiet m hm
    · exact hmsgs m hm
  | answered n k changes hmonitor hidle hanswers htracks hk hid hstate =>
    exact .answered n k changes hmonitor hidle (hanswers.append (.of_quiet hmsgs)) htracks hk hid hstate
  | monitoring i k changes hmonitor hidle hshown hdelivers htracks hk =>
    exact .monitoring i k changes hmonitor hidle hshown (hdelivers.append (.of_quiet hmsgs)) htracks hk

/-- The stage has nothing to do with what the server keeps of the past. -/
theorem Stage.setLog (h : c.Stage ahead shown s) (committed : ℕ) (history : List Server.Txn)
    (serverMonitored : Bool) :
    c.Stage ahead shown { s with
      committed := committed
      history := history
      serverMonitored := serverMonitored } := by
  cases h with
  | before hmonitor hother hharmless hbusy => exact .before hmonitor hother hharmless hbusy
  | asked n pre post hmonitor hserver hidle hquiet hid hstate =>
    exact .asked n pre post hmonitor hserver hidle hquiet hid hstate
  | answered n k changes hmonitor hidle hanswers htracks hk hid hstate =>
    exact .answered n k changes hmonitor hidle hanswers htracks hk hid hstate
  | monitoring i k changes hmonitor hidle hshown hdelivers htracks hk =>
    exact .monitoring i k changes hmonitor hidle hshown hdelivers htracks hk

theorem Inv.pos_le_length (h : c.Inv ahead shown s) : s.pos ≤ c.timeline.length :=
  h.pos_le.trans h.committed_le

theorem Inv.commit (h : c.Inv ahead shown s) (hlt : s.committed < c.timeline.length) :
    c.Inv ahead shown { s with committed := s.committed + 1 } where
  ready := h.ready
  monitored := h.monitored
  asks := h.asks
  history := h.history
  pos_le := Nat.le_succ_of_le h.pos_le
  committed_le := hlt
  shows := by
    have hshows := h.shows
    cases shown with
    | none => exact hshows
    | some i => exact ⟨Nat.le_succ_of_le hshows.1, hshows.2⟩
  ahead_pos := h.ahead_pos
  stage := h.stage.setLog (s.committed + 1) s.history s.serverMonitored

theorem Inv.apply (h : c.Inv ahead shown s) (hlt : s.pos < s.committed) :
    c.Inv ahead shown { s with
      pos := s.pos + 1
      history := if c.needHistory then s.history ++ [c.timeline.txn s.pos] else s.history
      monitor := s.monitor.map fun m => (m.1, Server.track c.cfg.tables m.2 (c.timeline.txn s.pos)) } where
  ready := h.ready
  monitored := h.monitored
  asks := h.asks
  history := by
    obtain ⟨first, length, hpos, hhistory, hneed⟩ := h.history
    cases hn : c.needHistory with
    | true =>
      refine ⟨first, length + 1, by dsimp only; omega, ?_, fun hfalse => ?_⟩
      · dsimp only
        rw [if_pos rfl, hhistory, c.timeline.segment_succ, hpos]
      · cases hfalse
    | false =>
      have hzero := hneed hn
      subst hzero
      refine ⟨s.pos + 1, 0, rfl, ?_, fun _ => rfl⟩
      dsimp only
      rw [if_neg Bool.false_ne_true, hhistory]
      rfl
  pos_le := hlt
  committed_le := h.committed_le
  shows := h.shows
  ahead_pos ha i hi := Nat.le_succ_of_le (h.ahead_pos ha i hi)
  stage := by
    have hlength := hlt.trans_le h.committed_le
    cases h.stage with
    | before hmonitor hother hharmless hbusy =>
      exact .before (by dsimp only; rw [hmonitor]; rfl) hother hharmless hbusy
    | asked n pre post hmonitor hserver hidle hquiet hid hstate =>
      exact .asked n pre post (by dsimp only; rw [hmonitor]; rfl) hserver hidle hquiet hid hstate
    | answered n k changes hmonitor hidle hanswers htracks hk hid hstate =>
      exact .answered n k _ (by dsimp only; rw [hmonitor]; rfl) hidle hanswers
        (c.timeline.tracks_succ hlength htracks) (Nat.le_succ_of_le hk) hid hstate
    | monitoring i k changes hmonitor hidle hshown hdelivers htracks hk =>
      exact .monitoring i k _ (by dsimp only; rw [hmonitor]; rfl) hidle hshown hdelivers
        (c.timeline.tracks_succ hlength htracks) (Nat.le_succ_of_le hk)

theorem Inv.trim (h : c.Inv ahead shown s) (hlength : 1 < s.history.length) :
    c.Inv ahead shown { s with history := s.history.tail } where
  ready := h.ready
  monitored := h.monitored
  asks := h.asks
  history := by
    obtain ⟨first, length, hpos, hhistory, hneed⟩ := h.history
    cases length with
    | zero =>
      rw [hhistory] at hlength
      cases hlength
    | succ length =>
      refine ⟨first + 1, length, by dsimp only; omega, ?_, fun hn => ?_⟩
      · dsimp only
        rw [hhistory]
        rfl
      · cases hneed hn
  pos_le := h.pos_le
  committed_le := h.committed_le
  shows := h.shows
  ahead_pos := h.ahead_pos
  stage := h.stage.setLog s.committed s.history.tail s.serverMonitored

theorem Inv.notify (h : c.Inv ahead shown s) (hmonitored : s.serverMonitored = true) (update : Value) :
    c.Inv ahead shown { s with toClient := s.toClient ++ [serverNotification c.cfg update] } where
  ready := h.ready
  monitored := h.monitored
  asks := h.asks
  history := h.history
  pos_le := h.pos_le
  committed_le := h.committed_le
  shows := h.shows
  ahead_pos := h.ahead_pos
  stage := by
    refine h.stage.append_quiet fun m hm => ?_
    rw [List.mem_singleton.mp hm]
    exact ⟨.inl ⟨h.monitored hmonitored, update, rfl⟩, s.client.waits_null⟩

/-- What the server has recorded can be sent. -/
theorem Inv.sends_flush (h : c.Inv ahead shown s) {k : ℕ} {changes : Server.ChangeSet} {order : Server.Order}
    (hk : k ≤ s.pos)
    (htracks : Server.Tracks changes (c.timeline.snapshot k) (c.timeline.snapshot s.pos))
    (hvisits : order.Visits c.cfg.tables changes) :
    Sends c.version c.cfg.tables order false changes (c.timeline.snapshot k) (c.timeline.snapshot s.pos) where
  nodup := c.nodup
  replicable := c.replicable
  conforms_base := c.timeline.conforms_snapshot c.nodup (hk.trans h.pos_le_length)
  conforms_now := c.timeline.conforms_snapshot c.nodup h.pos_le_length
  tracks := htracks
  base_initial h := Bool.noConfusion h
  visits := hvisits

theorem Inv.isId_lastTxnid (h : c.Inv ahead shown s) :
    c.timeline.IsId s.pos (Server.lastTxnid s.history) := by
  obtain ⟨first, length, hpos, hhistory, -⟩ := h.history
  rw [hhistory, ← hpos]
  exact c.timeline.isId_lastTxnid first length

/-- The changes that are sent, or left out because no column is concerned. -/
theorem Inv.delivers_flush (h : c.Inv ahead shown s) {quiet : Message → Prop} {k : ℕ}
    {changes : Server.ChangeSet} {order : Server.Order} (hk : k ≤ s.pos)
    (htracks : Server.Tracks changes (c.timeline.snapshot k) (c.timeline.snapshot s.pos))
    (hvisits : order.Visits c.cfg.tables changes) :
    c.Delivers quiet k ((Server.composeUpdate c.version order false changes).map
      (Server.createNotify c.version (.str c.cfg.uuid) (Server.lastTxnid s.history))).toList s.pos := by
  have hsends := h.sends_flush hk htracks hvisits
  cases hupdate : Server.composeUpdate c.version order false changes with
  | none => exact .silent hk (fun w hw => hsends.mirrors_of_none hupdate hw) (.done s.pos)
  | some json =>
    refine .update hk ⟨order, changes, hsends, ?_⟩ h.isId_lastTxnid (.done s.pos)
    rw [hupdate]
    rfl

theorem Inv.flush (h : c.Inv ahead shown s) {m : Value × Server.ChangeSet} {order : Server.Order}
    (hm : s.monitor = some m) (hvisits : order.Visits c.cfg.tables m.2) :
    c.Inv ahead shown { s with
      monitor := some (m.1, fun _ _ => none)
      toClient := s.toClient ++ ((Server.composeUpdate c.version order false m.2).map
        (Server.createNotify c.version m.1 (Server.lastTxnid s.history))).toList } where
  ready := h.ready
  monitored := h.monitored
  asks := h.asks
  history := h.history
  pos_le := h.pos_le
  committed_le := h.committed_le
  shows := h.shows
  ahead_pos := h.ahead_pos
  stage := by
    cases h.stage with
    | before hmonitor =>
      rw [hm] at hmonitor
      cases hmonitor
    | asked n pre post hmonitor =>
      rw [hm] at hmonitor
      cases hmonitor
    | answered n k changes hmonitor hidle hanswers htracks hk hid hstate =>
      obtain rfl := Option.some.inj (hm.symm.trans hmonitor)
      exact .answered n s.pos _ rfl hidle (hanswers.append (h.delivers_flush hk htracks hvisits))
        (Server.tracks_refl _) (Nat.le_refl _) hid hstate
    | monitoring i k changes hmonitor hidle hshown hdelivers htracks hk =>
      obtain rfl := Option.some.inj (hm.symm.trans hmonitor)
      exact .monitoring i s.pos _ rfl hidle hshown (hdelivers.append (h.delivers_flush hk htracks hvisits))
        (Server.tracks_refl _) (Nat.le_refl _)

theorem versionOf_monitorRequest (cfg : Config) (version : Version) (lastId id : Value) :
    Server.versionOf cfg.dbName (Message.createRequest (Idl.methodOf version)
      (Idl.monitorParams cfg version lastId) id) = some version := by
  have hcond : codes "monitor_cond" ≠ codes "monitor" := by decide
  have hsince : codes "monitor_cond_since" ≠ codes "monitor" := by decide
  have hsince' : codes "monitor_cond_since" ≠ codes "monitor_cond" := by decide
  cases version <;> simp [Server.versionOf, Message.createRequest, Idl.monitorParams, Idl.methodOf, *]

/-- The request of the client is granted, with everything or with what the client lacks. -/
theorem granted_dataRequest (n : ℕ) {lastId : Value} {id : Uuid} (hmonitor : s.monitor = none)
    (hid : lastId = .str (codes id.text)) :
    ∃ initial changes, c.granted s (c.dataRequest n lastId) = some (.str c.cfg.uuid, initial, changes) ∧
      (initial = true ∧
          changes = Server.initialChanges c.cfg.tables (Server.stateAt c.timeline.txn s.pos) ∨
        initial = false ∧ c.version = .update3 ∧ id ≠ .uniform 0 ∧
          Server.changesAfter c.cfg.tables s.history id = some changes) := by
  have hgranted : c.granted s (c.dataRequest n lastId) = Server.firstChanges c.cfg.tables s.history
      (Server.stateAt c.timeline.txn s.pos) c.version (Idl.monitorParams c.cfg c.version lastId) := by
    unfold granted dataRequest
    rw [versionOf_monitorRequest, hmonitor]
    exact if_pos ⟨rfl, rfl⟩
  rw [hgranted]
  cases hversion : c.version with
  | update => exact ⟨true, _, rfl, .inl ⟨rfl, rfl⟩⟩
  | update2 => exact ⟨true, _, rfl, .inl ⟨rfl, rfl⟩⟩
  | update3 =>
    have hfirst : Server.firstChanges c.cfg.tables s.history (Server.stateAt c.timeline.txn s.pos) .update3
        (Idl.monitorParams c.cfg .update3 lastId) = some (.str c.cfg.uuid,
          Server.changesSince c.cfg.tables s.history (Server.stateAt c.timeline.txn s.pos) id) := by
      unfold Idl.monitorParams Server.firstChanges
      rw [hid, c.str_text, if_pos rfl]
      dsimp only [List.cons_append, List.nil_append]
      rw [stringOf_codes, Uuid.fromString_text]
      rfl
    rw [hfirst]
    obtain hall | ⟨hne, changes, hafter, hsince⟩ :=
      Server.changesSince_cases c.cfg.tables s.history (Server.stateAt c.timeline.txn s.pos) id
    · rw [hall]
      exact ⟨true, _, rfl, .inl ⟨rfl, rfl⟩⟩
    · rw [hsince]
      exact ⟨false, changes, rfl, .inr ⟨rfl, rfl, hne, hafter⟩⟩

/-- The identifier that the client keeps is that of its snapshot, or zero. -/
theorem Inv.lastId (h : c.Inv ahead shown s) :
    ∃ id : Uuid, s.client.lastId = .str (codes id.text) ∧
      (id ≠ .uniform 0 → ∃ m < s.committed, shown = some (m + 1) ∧ (c.timeline.txn m).id = id) := by
  have hshows := h.shows
  cases shown with
  | none => exact ⟨_, hshows.2, fun hne => absurd rfl hne⟩
  | some i =>
    obtain ⟨hi, -, -, id, hid, hlast, -⟩ := hshows
    refine ⟨id, hlast, fun hne => ?_⟩
    obtain ⟨m, rfl, hm⟩ := hid.resolve_left hne
    exact ⟨m, hi, rfl, hm⟩

/-- What is granted leads from nothing, or from what the client has, to what the server has. -/
theorem Inv.tracks_granted (h : c.Inv ahead shown s) {n : ℕ} {initial : Bool} {changes : Server.ChangeSet}
    (hmonitor : s.monitor = none)
    (hgranted : c.granted s (c.dataRequest n s.client.lastId) = some (.str c.cfg.uuid, initial, changes)) :
    initial = true ∧ Server.Tracks changes (fun _ _ => none) (c.timeline.snapshot s.pos) ∨
      initial = false ∧ c.version = .update3 ∧ ∃ i ≤ s.pos, shown = some i ∧
        Server.Tracks changes (c.timeline.snapshot i) (c.timeline.snapshot s.pos) := by
  obtain ⟨id, hid, hshown⟩ := h.lastId
  obtain ⟨initial', changes', hgranted', hcases⟩ := granted_dataRequest n hmonitor hid
  rw [hgranted'] at hgranted
  obtain ⟨rfl, rfl⟩ : initial' = initial ∧ changes' = changes := by
    simpa using Option.some.inj hgranted
  obtain ⟨rfl, rfl⟩ | ⟨rfl, hversion, hne, hafter⟩ := hcases
  · exact .inl ⟨rfl, Server.tracks_initialChanges c.cfg.tables _⟩
  · obtain ⟨m, hcommitted, hm, hmid⟩ := hshown hne
    obtain ⟨first, length, hpos, hhistory, -⟩ := h.history
    rw [hhistory] at hafter
    obtain ⟨m', hmid', hlt, htracks⟩ := c.timeline.changesAfter_segment (hpos ▸ h.pos_le_length) hafter
    rw [hpos] at hlt htracks
    obtain rfl : m' = m := c.timeline.id_injective m' (hlt.trans_le h.pos_le_length) m
      (hcommitted.trans_le h.committed_le) (hmid'.trans hmid.symm)
    exact .inr ⟨rfl, hversion, m' + 1, hlt, hm, htracks⟩

theorem Inv.carries_granted (h : c.Inv ahead shown s) {n : ℕ} {order : Server.Order} {initial : Bool}
    {changes : Server.ChangeSet} (hmonitor : s.monitor = none)
    (hgranted : c.granted s (c.dataRequest n s.client.lastId) = some (.str c.cfg.uuid, initial, changes))
    (hvisits : order.Visits c.cfg.tables changes) : ∃ base,
    Carries c.version c.cfg.tables initial base (c.timeline.snapshot s.pos)
      ((Server.composeUpdate c.version order initial changes).getD (.obj [])) ∧
    (initial = true ∧ base = (fun _ _ => none) ∨
      initial = false ∧ c.version = .update3 ∧ ∃ i ≤ s.pos, shown = some i ∧ base = c.timeline.snapshot i) := by
  obtain ⟨rfl, htracks⟩ | ⟨rfl, hversion, i, hi, hshown, htracks⟩ := h.tracks_granted hmonitor hgranted
  · refine ⟨_, ⟨order, changes, ?_, rfl⟩, .inl ⟨rfl, rfl⟩⟩
    exact {
      nodup := c.nodup
      replicable := c.replicable
      conforms_base := fun _ _ _ _ hr => absurd hr (Option.not_mem_none _)
      conforms_now := c.timeline.conforms_snapshot c.nodup h.pos_le_length
      tracks := htracks
      base_initial := fun _ => rfl
      visits := hvisits }
  · exact ⟨_, ⟨order, changes, h.sends_flush hi htracks hvisits, rfl⟩, .inr ⟨rfl, hversion, i, hi, hshown, rfl⟩⟩

/-- The reply to the request takes the client to what the server has. -/
theorem Inv.answers_grant (h : c.Inv ahead shown s) {quiet : Message → Prop} {n : ℕ}
    {order : Server.Order} {initial : Bool} {changes : Server.ChangeSet} (hmonitor : s.monitor = none)
    (hgranted : c.granted s (c.dataRequest n s.client.lastId) = some (.str c.cfg.uuid, initial, changes))
    (hvisits : order.Visits c.cfg.tables changes) :
    c.Answers quiet ahead n shown
      [c.grant s order (c.dataRequest n s.client.lastId) initial changes] s.pos := by
  obtain ⟨base, hcarries, ⟨rfl, rfl⟩ | ⟨rfl, hversion, i, hi, hshown, rfl⟩⟩ :=
    h.carries_granted hmonitor hgranted hvisits
  · exact .all hcarries h.isId_lastTxnid (fun ha => h.ahead_pos ha) (.done s.pos)
  · exact .since hversion hshown hi hcarries h.isId_lastTxnid (.done s.pos)

/-- An answer to a request that is not granted. -/
theorem harmless_answer {request a : Message} (hasks : Asks c.cfg s.client request)
    (hid : a.id = request.id) (htype : a.type = .reply ∨ a.type = .error)
    (herror : (Server.versionOf c.cfg.dbName request).isSome → a.type = .error) :
    Harmless c.cfg s.client a := by
  obtain ⟨-, n, hn, hrequest, hother⟩ := hasks
  refine .inr ⟨htype, n, hn, hid.trans hrequest, fun hreply => hother ?_⟩
  cases hversion : Server.versionOf c.cfg.dbName request with
  | none => rfl
  | some version =>
    rw [hversion, hreply] at herror
    cases herror rfl

theorem granted_eq_none {request : Message}
    (h : Server.versionOf c.cfg.dbName request ≠ some c.version) : c.granted s request = none :=
  if_neg fun hgranted => h hgranted.1

theorem Stage.serve (h : c.Inv ahead shown s) {request : Message} {rest : List Message}
    {answer : Option Message} (hserver : s.toServer = request :: rest) (hgranted : c.granted s request = none)
    (hanswer : ∀ a ∈ answer, a.id = request.id ∧ Harmless c.cfg s.client a) :
    c.Stage ahead shown { s with toServer := rest, toClient := s.toClient ++ answer.toList } := by
  have hquiet : c.Idle s.client request → ∀ a ∈ answer.toList, Quiet c.cfg s.client a := by
    intro hidle a ha
    obtain ⟨hid, hharmless⟩ := hanswer a (Option.mem_toList.mp ha)
    refine ⟨hharmless, ?_⟩
    rw [hid]
    exact hidle.2
  -- what is left once the request is gone
  have hrest : ∀ toServer, toServer = rest → c.Stage ahead shown { s with toServer := toServer } →
      (∀ a ∈ answer.toList, Quiet c.cfg s.client a) →
      c.Stage ahead shown { s with toServer := rest, toClient := s.toClient ++ answer.toList } := by
    rintro _ rfl hstage hmsgs
    exact hstage.append_quiet hmsgs
  cases h.stage with
  | before hmonitor hother hharmless hbusy =>
    rw [hserver] at hother hbusy
    refine .before hmonitor (fun r hr => hother r (List.mem_cons_of_mem _ hr)) ?_ ?_
    · intro m hm
      rcases List.mem_append.mp hm with hm | hm
      · exact hharmless m hm
      · exact (hanswer m (Option.mem_toList.mp hm)).2
    · -- the answer takes the place of the request
      have hcount : busy s.client answer.toList ≤ busy s.client [request] := by
        cases answer with
        | none => exact Nat.zero_le _
        | some a =>
          unfold busy
          rw [Option.toList_some, List.countP_singleton, List.countP_singleton, (hanswer a rfl).1]
      rw [List.cons_append, ← List.singleton_append, busy_append, busy_append] at hbusy
      change busy s.client (rest ++ (s.toClient ++ answer.toList)) ≤ 1
      rw [busy_append, busy_append]
      omega
  | asked n pre post hmonitor hask hidle hquiet' hid hstate =>
    cases pre with
    | nil =>
      -- the request for the database is granted
      obtain ⟨rfl, -⟩ := List.cons.inj (hserver.symm.trans hask)
      obtain ⟨id, hlast, -⟩ := h.lastId
      obtain ⟨initial, changes, hsome, -⟩ := granted_dataRequest n hmonitor hlast
      rw [hgranted] at hsome
      cases hsome
    | cons r pre =>
      obtain ⟨rfl, hpost⟩ := List.cons.inj (hserver.symm.trans hask)
      refine hrest _ hpost.symm (.asked n pre post hmonitor rfl (fun r hr => ?_) hquiet' hid hstate)
        (hquiet (hidle _ List.mem_cons_self))
      exact hidle r (List.mem_cons_of_mem _ hr)
  | answered n k changes hmonitor hidle hanswers htracks hk hid hstate =>
    rw [hserver] at hidle
    obtain ⟨hfirst, hidle⟩ := List.forall_mem_cons.mp hidle
    exact hrest _ rfl (.answered n k changes hmonitor hidle hanswers htracks hk hid hstate) (hquiet hfirst)
  | monitoring i k changes hmonitor hidle hshown hdelivers htracks hk =>
    rw [hserver] at hidle
    obtain ⟨hfirst, hidle⟩ := List.forall_mem_cons.mp hidle
    exact hrest _ rfl (.monitoring i k changes hmonitor hidle hshown hdelivers htracks hk) (hquiet hfirst)

theorem Inv.serve_other (h : c.Inv ahead shown s) {request : Message} {rest : List Message}
    {answer : Option Message} (hserver : s.toServer = request :: rest) (hgranted : c.granted s request = none)
    (hanswer : ∀ a ∈ answer, a.id = request.id ∧ (a.type = .reply ∨ a.type = .error) ∧
      ((Server.versionOf c.cfg.dbName request).isSome → a.type = .error)) :
    c.Inv ahead shown { s with
      serverMonitored := s.serverMonitored || isServerMonitor c.cfg request
      toServer := rest
      toClient := s.toClient ++ answer.toList } := by
  have hasks := h.asks
  rw [hserver] at hasks
  obtain ⟨hrequest, hasks⟩ := List.forall_mem_cons.mp hasks
  have hstage := Stage.serve h hserver hgranted fun a ha =>
    ⟨(hanswer a ha).1, harmless_answer hrequest (hanswer a ha).1 (hanswer a ha).2.1 (hanswer a ha).2.2⟩
  refine ⟨h.ready, fun hmonitored => ?_, hasks, h.history, h.pos_le, h.committed_le, h.shows, h.ahead_pos, ?_⟩
  · rcases Bool.or_eq_true_iff.mp hmonitored with hmonitored | hmonitored
    · exact h.monitored hmonitored
    · exact hrequest.1 hmonitored
  · exact hstage.setLog s.committed s.history _

theorem Inv.serve_grant (h : c.Inv ahead shown s) {request : Message} {rest : List Message}
    {order : Server.Order} {monitorId : Value} {initial : Bool} {changes : Server.ChangeSet}
    (hserver : s.toServer = request :: rest)
    (hgranted : c.granted s request = some (monitorId, initial, changes))
    (hvisits : order.Visits c.cfg.tables changes) :
    c.Inv ahead shown { s with
      monitor := some (monitorId, fun _ _ => none)
      toServer := rest
      toClient := s.toClient ++ [c.grant s order request initial changes] } := by
  have hasks := h.asks
  rw [hserver] at hasks
  refine ⟨h.ready, h.monitored, fun r hr => hasks r (List.mem_cons_of_mem _ hr), h.history, h.pos_le,
    h.committed_le, h.shows, h.ahead_pos, ?_⟩
  have hversion : Server.versionOf c.cfg.dbName request = some c.version := by
    by_contra hne
    rw [granted_eq_none hne] at hgranted
    cases hgranted
  cases h.stage with
  | before hmonitor hother hharmless hbusy =>
    exact absurd hversion (hother request (hserver ▸ List.mem_cons_self))
  | asked n pre post hmonitor hask hidle hquiet hid hstate =>
    cases pre with
    | nil =>
      obtain ⟨rfl, rfl⟩ := List.cons.inj (hserver.symm.trans hask)
      obtain ⟨id, hlast, -⟩ := h.lastId
      obtain ⟨initial', changes', hsome, -⟩ := granted_dataRequest n hmonitor hlast
      obtain rfl : Value.str c.cfg.uuid = monitorId := by
        rw [hgranted] at hsome
        exact (congrArg Prod.fst (Option.some.inj hsome)).symm
      exact .answered n s.pos _ rfl hidle
        (.after_quiet hquiet (h.answers_grant hmonitor hgranted hvisits)) (Server.tracks_refl _)
        (Nat.le_refl _) hid hstate
    | cons r pre =>
      obtain ⟨rfl, -⟩ := List.cons.inj (hserver.symm.trans hask)
      exact absurd hversion (hidle _ List.mem_cons_self).1
  | answered n k changes hmonitor hidle =>
    exact absurd hversion (hidle request (hserver ▸ List.mem_cons_self)).1
  | monitoring i k changes hmonitor hidle =>
    exact absurd hversion (hidle request (hserver ▸ List.mem_cons_self)).1

end ServerSteps

end Cluster

end OvnApi.Ovs
