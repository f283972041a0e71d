import OvnApi.Northbound.Footprint
import OvnApi.Northbound.Jobs

/-! What the transactions of a job do. The creation hangs one row that the cleanup
command of the job would take; that command takes exactly such rows; and every
transaction stays within the footprint of its job. -/

namespace OvnApi.Northbound

open OvnApi.Core Lib Traces

variable {lib : AddressLib} {probeId : Uuid}

/-- The rows the cleanup command of an item takes. -/
def Item.matching (lib : AddressLib) (probeId : Uuid) : Item → Columns → Bool
  | .acl => aclDelMatching "to-lport" 2001 (aclMatchText probeId)
  | .nat => natDelMatching lib "snat" (some (natLogicalIp probeId)) none
  | .switchPort => fun columns => columns.portName .switch = some (portName probeId .switch)
  | .routerPort => fun columns => columns.portName .router = some (portName probeId .router)

structure Unused (probeId : Uuid) (c : Content) : Prop where
  datapath : ∀ d ∈ c.datapaths.rows, ∀ kind,
    d.name ≠ targetName probeId kind ∧ d.name ≠ rootName probeId kind
  port : ∀ leaf ∈ c.leaves.rows, ∀ kind,
    leaf.columns.portName kind ≠ some (portName probeId kind) ∧
      leaf.columns.portName kind ≠ some (anchorName probeId kind)

/-! ### Addresses -/

theorem probeOctets_lt (probeId : Uuid) :
    (probeOctets probeId).a < 256 ∧ (probeOctets probeId).b < 256 ∧
      (probeOctets probeId).c < 256 := by
  simp only [probeOctets]
  omega

theorem normalizeNet_natLogicalIp (lib : AddressLib) (probeId : Uuid) :
    lib.normalizeIpv4Net (natLogicalIp probeId) = some (natLogicalIp probeId) := by
  obtain ⟨ha, hb, -⟩ := probeOctets_lt probeId
  have hquad : natLogicalIp probeId =
      quad 198 19 (probeOctets probeId).a (probeOctets probeId).b := by
    simp only [natLogicalIp, quad]
    rfl
  rw [hquad]
  exact lib.ipv4Net_quad _ _ _ _ (by omega) (by omega) ha hb

theorem normalizeAddr_natExternalIp (lib : AddressLib) (probeId : Uuid) :
    lib.normalizeIpv4Addr (natExternalIp probeId) = some (natExternalIp probeId) := by
  obtain ⟨-, -, hc⟩ := probeOctets_lt probeId
  have hquad : natExternalIp probeId = quad 203 0 113 (probeOctets probeId).c := by
    simp only [natExternalIp, quad]
    rfl
  rw [hquad]
  exact lib.ipv4Addr_quad _ _ _ _ (by omega) (by omega) (by omega) hc

theorem normalizeNet_of_ipv4 {lib : AddressLib} {s t : String}
    (h : lib.normalizeIpv4Net s = some t) : lib.normalizeNet s = some t := by
  rw [AddressLib.normalizeNet, h]

/-! ### Creation -/

section Create

variable {t t' : Txn} {item : Item} {target : Option Uuid}

/-- The creation of an item hangs one matching row on the datapath its reference
resolves to. -/
structure Hung (lib : AddressLib) (probeId : Uuid) (item : Item) (target : Option Uuid)
    (t t' : Txn) : Prop where
  hung : ∃ d u columns,
    findDatapath item.kind t.content (targetRef probeId item.kind target) = .ok (some d) ∧
    t.supply = u :: t'.supply ∧ Attached t.content t'.content d.uuid item.column ⟨u, columns⟩ ∧
    item.matching lib probeId columns = true

theorem Hung.of_insert {d : Datapath} {columns : Columns}
    (hfind : findDatapath item.kind t.content (targetRef probeId item.kind target) = .ok (some d))
    (hinsert : t.insertLeaf d.uuid item.column columns = .ok t')
    (hmatching : item.matching lib probeId columns = true) : Hung lib probeId item target t t' := by
  obtain ⟨u, hsupply, hattached⟩ := insertLeaf_ok hinsert
  exact ⟨d, u, columns, hfind, hsupply, hattached, hmatching⟩

def Item.written (probeId : Uuid) : Item → Columns
  | .acl => .acl ⟨some (aclName probeId), "to-lport", 2001, aclMatchText probeId, "drop", true, 0,
      false⟩
  | .nat => .nat ⟨"snat", natExternalIp probeId, natLogicalIp probeId, none, some "false"⟩
  | .switchPort => .switchPort (portName probeId .switch)
  | .routerPort => .routerPort ⟨portName probeId .router, probeMac probeId, [routerNetwork probeId],
      false⟩

theorem insert_of_create (h : (Job.create probeId (.hang item target)).foldlM (exec lib) t = .ok t') :
    ∃ d, findDatapath item.kind t.content (targetRef probeId item.kind target) = .ok (some d) ∧
      t.insertLeaf d.uuid item.column (item.written probeId) = .ok t' := by
  cases item with
  | acl =>
    simp only [Job.create, List.foldlM_cons, List.foldlM_nil, bind_pure] at h
    obtain ⟨d, direction, priority, hfind, hdirection, hpriority, hinsert⟩ := nbctlAclAdd_ok h
    obtain rfl : direction = "to-lport" := (Except.ok.inj hdirection).symm
    obtain rfl : priority = 2001 := (Except.ok.inj hpriority).symm
    exact ⟨d, hfind, hinsert⟩
  | nat =>
    simp only [Job.create, List.foldlM_cons, List.foldlM_nil, bind_pure] at h
    exact nbctlLrNatAdd_ok (normalizeAddr_natExternalIp lib probeId)
      (normalizeNet_natLogicalIp lib probeId) h
  | switchPort =>
    simp only [Job.create, List.foldlM_cons, List.foldlM_nil, bind_pure] at h
    exact nbctlLspAdd_ok h
  | routerPort =>
    simp only [Job.create, List.foldlM_cons, List.foldlM_nil, bind_pure] at h
    exact nbctlLrpAdd_ok h

/-- The cleanup command of an item takes the row its create command writes. -/
theorem matching_written (lib : AddressLib) (probeId : Uuid) (item : Item) :
    item.matching lib probeId (item.written probeId) = true := by
  cases item with
  | acl => simp [Item.matching, Item.written, aclDelMatching, Columns.isAcl]
  | nat =>
    have hlogical := normalizeNet_of_ipv4 (normalizeNet_natLogicalIp lib probeId)
    simp [Item.matching, Item.written, natDelMatching, Columns.isNat, hlogical]
  | switchPort => simp [Item.matching, Item.written, Columns.portName]
  | routerPort => simp [Item.matching, Item.written, Columns.portName]

theorem hung_of_create (h : (Job.create probeId (.hang item target)).foldlM (exec lib) t = .ok t') :
    Hung lib probeId item target t t' := by
  obtain ⟨d, hfind, hinsert⟩ := insert_of_create h
  exact .of_insert hfind hinsert (matching_written lib probeId item)

/-- The creation of a datapath of its own hangs the anchor port on it. -/
theorem root_create_ok {kind : DatapathKind}
    (h : (Job.create probeId (.root kind)).foldlM (exec lib) t = .ok t') :
    ∃ u v c columns, u ∈ t.supply ∧ v ∈ t.supply ∧
      (∀ d ∈ t.content.datapaths.rows, d.kind = kind → d.name ≠ rootName probeId kind) ∧
      Added t.content c { uuid := u, kind, name := rootName probeId kind } ∧
      Attached c t'.content u .ports ⟨v, columns⟩ ∧
      columns.portName kind = some (anchorName probeId kind) := by
  suffices hcommands : ∃ t₁ columns, datapathAdd kind t (rootName probeId kind) = .ok t₁ ∧
      (∃ d, findDatapath kind t₁.content (rootName probeId kind) = .ok (some d) ∧
        t₁.insertLeaf d.uuid .ports columns = .ok t') ∧
      columns.portName kind = some (anchorName probeId kind) by
    obtain ⟨t₁, columns, hadd, ⟨d, hfind, hinsert⟩, hname⟩ := hcommands
    obtain ⟨hfree, u, hsupply, hadded⟩ := datapathAdd_ok hadd
    obtain ⟨v, hsupply₁, hattached⟩ := insertLeaf_ok hinsert
    -- the only datapath of that name is the new one
    obtain ⟨hmem, hkind, hfound⟩ := findDatapath_some hfind
    have hdname : d.name = rootName probeId kind := by
      rcases hfound with huuid | hname
      · rw [(canary_rootName probeId kind).fromString] at huuid
        cases huuid
      · exact hname
    rw [hadded.datapaths] at hmem
    obtain rfl : d.uuid = u := by
      rcases List.mem_append.mp hmem with hold | hone
      · exact absurd hdname (hfree d hold hkind)
      · rw [List.mem_singleton.mp hone]
    refine ⟨_, v, _, _, ?_, ?_, hfree, hadded, hattached, hname⟩
    · rw [hsupply]
      exact List.mem_cons_self
    · rw [hsupply, hsupply₁]
      exact List.mem_cons_of_mem _ List.mem_cons_self
  cases kind with
  | switch =>
    simp only [Job.create, List.foldlM_cons, List.foldlM_nil, bind_pure] at h
    obtain ⟨t₁, hadd, hport⟩ := bind_eq_ok h
    exact ⟨t₁, _, hadd, nbctlLspAdd_ok hport, rfl⟩
  | router =>
    simp only [Job.create, List.foldlM_cons, List.foldlM_nil, bind_pure] at h
    obtain ⟨t₁, hadd, hport⟩ := bind_eq_ok h
    exact ⟨t₁, _, hadd, nbctlLrpAdd_ok hport, rfl⟩

end Create

/-! ### Cleanup -/

section Remove

variable {item : Item} {target : Option Uuid}

/-- The cleanup command of an item drops exactly the references to matching rows,
from the datapath its reference resolves to or that holds such a row. -/
inductive Removed (lib : AddressLib) (probeId : Uuid) (item : Item) (target : Option Uuid)
    (c : Content) : Content → Prop where
  | nothing (h : ∀ leaf ∈ c.leaves.rows, item.matching lib probeId leaf.columns = false) :
      Removed lib probeId item target c c
  | dropped (d : Datapath) (p : Uuid → Bool) (hd : d ∈ c.datapaths.rows)
      (hlocated : findDatapath item.kind c (targetRef probeId item.kind target) = .ok (some d) ∨
        item.column = .ports ∧ ∃ leaf ∈ c.leaves.rows, leaf.uuid ∈ d.column item.column ∧
          leaf.columns.portName item.kind = some (portName probeId item.kind))
      (hsound : ∀ u, p u = false → ∃ leaf ∈ c.leaves.rows, leaf.uuid = u ∧
        item.matching lib probeId leaf.columns = true)
      (hcomplete : ∀ leaf ∈ c.leaves.rows, item.matching lib probeId leaf.columns = true →
        p leaf.uuid = false) :
      Removed lib probeId item target c (c.modify d.uuid item.column (·.filter p))

theorem anyLeaf_singleton {c : Content} {u : Uuid} {p : Columns → Bool} :
    c.anyLeaf [u] p = true ↔ ∃ leaf ∈ c.leaves.rows, leaf.uuid = u ∧ p leaf.columns = true := by
  simp only [Content.anyLeaf, List.any_cons, List.any_nil, Bool.or_false]
  cases hfind : c.leaves.find u with
  | none =>
    simp only [Bool.false_eq_true, false_iff, not_exists, not_and]
    intro leaf hleaf huuid
    rw [← huuid, KeyedTable.find_of_mem hleaf] at hfind
    cases hfind
  | some leaf =>
    obtain ⟨hleaf, huuid⟩ := KeyedTable.find_eq_some_iff.mp hfind
    constructor
    · exact fun hp => ⟨leaf, hleaf, huuid, hp⟩
    · rintro ⟨leaf', hleaf', huuid', hp⟩
      have hsame := KeyedTable.find_of_mem hleaf'
      rw [huuid', hfind] at hsame
      rwa [Option.some.inj hsame]

/-- The rules a filter keeps are those that do not match. -/
theorem Removed.of_keepLeaves {c : Content} {d : Datapath} (hcolumn : item.column = .rules)
    (hfind : findDatapath item.kind c (targetRef probeId item.kind target) = .ok (some d)) :
    Removed lib probeId item target c
      (c.modify d.uuid .rules (c.keepLeaves (item.matching lib probeId))) := by
  rw [← hcolumn]
  apply Removed.dropped d (fun u => !c.anyLeaf [u] (item.matching lib probeId))
    (findDatapath_some hfind).1 (.inl hfind)
  · intro u hu
    rw [Bool.not_eq_false'] at hu
    exact anyLeaf_singleton.mp hu
  · intro leaf hleaf hmatching
    rw [Bool.not_eq_false']
    exact anyLeaf_singleton.mpr ⟨leaf, hleaf, rfl, hmatching⟩

theorem Removed.of_portDel (item : Item) {db : NbDb} {supply : List Uuid} {t' : Txn}
    (hcolumn : item.column = .ports)
    (hmatching : ∀ columns, item.matching lib probeId columns =
      decide (columns.portName item.kind = some (portName probeId item.kind)))
    (h : portDel item.kind ⟨db.content, supply⟩ true (portName probeId item.kind) = .ok t') :
    Removed lib probeId item target db.content t'.content := by
  have hiff : ∀ columns, item.matching lib probeId columns = true ↔
      columns.portName item.kind = some (portName probeId item.kind) := by
    intro columns
    rw [hmatching, decide_eq_true_eq]
  rcases portDel_ok h with ⟨hnone, rfl⟩ | ⟨leaf, d, hport, howner, rfl⟩
  · apply Removed.nothing
    intro leaf hleaf
    rw [hmatching, decide_eq_false_iff_not]
    exact findPort_none hnone hleaf
  · obtain ⟨hleaf, hfound⟩ := findPort_some hport
    have hname : leaf.columns.portName item.kind = some (portName probeId item.kind) := by
      rcases hfound with huuid | hname
      · rw [(canary_portName probeId item.kind).fromString] at huuid
        cases huuid
      · exact hname
    rw [hname] at howner
    obtain ⟨hd, -, leaf', hleaf', hin, hname'⟩ := findOwner_some howner
    rw [← hcolumn]
    apply Removed.dropped d _ hd (.inr ⟨hcolumn, leaf', hleaf', by rwa [hcolumn], hname'⟩)
    · intro u hu
      refine ⟨leaf, hleaf, ?_, (hiff _).mpr hname⟩
      simpa using (show u = leaf.uuid by simpa using hu).symm
    · intro other hother hmatch
      have hsame := db.port_unique hother hleaf ((hiff _).mp hmatch) hname
      simp [hsame]

theorem removed_of_exec {db : NbDb} {supply : List Uuid} {t' : Txn}
    (h : exec lib ⟨db.content, supply⟩ (item.remove probeId target) = .ok t') :
    Removed lib probeId item target db.content t'.content := by
  cases item with
  | acl =>
    obtain ⟨d, direction, priority, hfind, hdirection, hpriority, rfl⟩ := nbctlAclDel_ok h
    obtain rfl : direction = "to-lport" := (Except.ok.inj hdirection).symm
    obtain rfl : priority = 2001 := (Except.ok.inj hpriority).symm
    exact .of_keepLeaves rfl hfind
  | nat =>
    have hip := normalizeNet_of_ipv4 (normalizeNet_natLogicalIp lib probeId)
    obtain ⟨d, hfind, rfl⟩ := nbctlLrNatDel_ok hip h
    exact .of_keepLeaves rfl hfind
  | switchPort =>
    rw [Item.remove, exec, nbctlLspDel] at h
    exact Removed.of_portDel .switchPort rfl (fun _ => rfl) h
  | routerPort =>
    rw [Item.remove, exec, nbctlLrpDel] at h
    exact Removed.of_portDel .routerPort rfl (fun _ => rfl) h

end Remove

/-! ### Transactions -/

theorem transact_ok {db db' : NbDb} {supply : List Uuid} {commands : List Command}
    (h : transact lib db supply commands = .ok db') :
    ∃ t', commands.foldlM (exec lib) ⟨db.content, supply⟩ = .ok t' ∧
      db'.content = t'.content.collect := by
  obtain ⟨t', ht', hcommit⟩ := bind_eq_ok h
  exact ⟨t', ht', commit_ok hcommit⟩

theorem nbctl_ok {db db' : NbDb} {supply : List Uuid} {argv : List String}
    {commands : List Command} (hparse : parse argv = some commands)
    (h : nbctl lib db supply argv = .ok db') : transact lib db supply commands = .ok db' := by
  unfold nbctl at h
  rw [hparse] at h
  exact h

/-- What a job may add, given the datapath it works on. -/
def Job.footprint (lib : AddressLib) (probeId home : Uuid) : Job → Footprint
  | .root kind => {
      datapath := fun k name => k = kind ∧ name = rootName probeId kind
      home
      column := .ports
      leaf := fun columns => columns.portName kind = some (anchorName probeId kind) }
  | .hang item target => {
      datapath := fun k name => target = none ∧ k = item.kind ∧ name = targetName probeId item.kind
      home
      column := item.column
      leaf := fun columns => item.matching lib probeId columns = true }

/-- The UUIDs a transaction can give to its rows. -/
def Issued (supply : List Uuid) (c : Content) (u : Uuid) : Prop := u ∈ supply ∧ u ∉ c.uuids

theorem Issued.of_head {supply rest : List Uuid} {c : Content} {u : Uuid}
    (h : supply = u :: rest) (hfresh : u ∉ c.uuids) : Issued supply c u := by
  rw [h]
  exact ⟨List.mem_cons_self, hfresh⟩

structure Creates (lib : AddressLib) (probeId : Uuid) (job : Job) (home : Uuid)
    (supply : List Uuid) (c c' : Content) : Prop where
  grows : Grows (job.footprint lib probeId home) (Issued supply c) c c'
  intact : Intact (fun _ => False) (Issued supply c) c c'

theorem Creates.collect {db : NbDb} {job : Job} {home : Uuid} {supply : List Uuid} {c' : Content}
    (h : Creates lib probeId job home supply db.content c') :
    Creates lib probeId job home supply db.content c'.collect where
  grows := h.grows.collect
  intact := by
    apply h.intact.collect
    · exact fun _ _ ho => ho.elim
    · intro leaf hleaf hissued
      exact absurd (mem_uuids.mpr (.inr (List.mem_map_of_mem hleaf))) hissued.2

section Transactions

variable {db db' : NbDb} {supply : List Uuid} {item : Item} {target : Option Uuid}

/-- The setup command makes the temporary target. -/
theorem setup_creates
    (h : transact lib db supply [addDatapath (targetName probeId item.kind) item.kind] = .ok db') :
    (∀ d ∈ db.content.datapaths.rows, d.kind = item.kind → d.name ≠ targetName probeId item.kind) ∧
    ∃ home, Issued supply db.content home ∧
      Creates lib probeId (.hang item none) home supply db.content db'.content := by
  obtain ⟨t', hexec, hcontent⟩ := transact_ok h
  simp only [List.foldlM_cons, List.foldlM_nil, bind_pure] at hexec
  have hadd : datapathAdd item.kind ⟨db.content, supply⟩ (targetName probeId item.kind) = .ok t' := by
    cases hkind : item.kind with
    | switch =>
      rw [hkind] at hexec
      exact hexec
    | router =>
      rw [hkind] at hexec
      exact hexec
  obtain ⟨hfree, u, hsupply, hadded⟩ := datapathAdd_ok hadd
  have hissued : Issued supply db.content u := .of_head hsupply hadded.fresh
  refine ⟨hfree, u, hissued, ?_⟩
  rw [hcontent]
  apply Creates.collect
  exact ⟨.of_added hadded hissued rfl ⟨rfl, rfl, rfl⟩ rfl, .of_added hadded⟩

/-- The creation of a datapath of its own. -/
theorem root_creates {kind : DatapathKind}
    (h : transact lib db supply (Job.create probeId (.root kind)) = .ok db') :
    (∀ d ∈ db.content.datapaths.rows, d.kind = kind → d.name ≠ rootName probeId kind) ∧
    ∃ home, Issued supply db.content home ∧
      Creates lib probeId (.root kind) home supply db.content db'.content := by
  obtain ⟨t', hexec, hcontent⟩ := transact_ok h
  obtain ⟨u, v, c, columns, hu, hv, hfree, hadded, hattached, hname⟩ := root_create_ok hexec
  have hissued : Issued supply db.content u := ⟨hu, hadded.fresh⟩
  have hissued' : Issued supply db.content v := by
    refine ⟨hv, fun hin => hattached.fresh ?_⟩
    rw [mem_uuids, hadded.datapaths, hadded.leaves, List.map_append, List.mem_append]
    rcases mem_uuids.mp hin with hd | hl
    · exact .inl (.inl hd)
    · exact .inr hl
  refine ⟨hfree, u, hissued, ?_⟩
  rw [hcontent]
  apply Creates.collect
  constructor
  · refine Grows.trans ?_ (.of_attached hattached rfl hissued' rfl hname)
    exact .of_added hadded hissued rfl ⟨rfl, rfl⟩ rfl
  · exact Intact.trans (fun _ hi => hi) (.of_added hadded) (.of_attached hattached hissued')

/-- The creation of an item hangs it on the datapath its reference resolves to. -/
theorem hang_creates (h : transact lib db supply (Job.create probeId (.hang item target)) = .ok db') :
    ∃ d, findDatapath item.kind db.content (targetRef probeId item.kind target) = .ok (some d) ∧
      Creates lib probeId (.hang item target) d.uuid supply db.content db'.content := by
  obtain ⟨t', hexec, hcontent⟩ := transact_ok h
  obtain ⟨d, u, columns, hfind, hsupply, hattached, hmatching⟩ := (hung_of_create hexec).hung
  have hissued : Issued supply db.content u := .of_head hsupply hattached.fresh
  refine ⟨d, hfind, ?_⟩
  rw [hcontent]
  apply Creates.collect
  exact ⟨.of_attached hattached rfl hissued rfl hmatching, .of_attached hattached hissued⟩

theorem item_removes (h : transact lib db supply [item.remove probeId target] = .ok db') :
    ∃ c', Removed lib probeId item target db.content c' ∧ db'.content = c'.collect := by
  obtain ⟨t', hexec, hcontent⟩ := transact_ok h
  simp only [List.foldlM_cons, List.foldlM_nil, bind_pure] at hexec
  exact ⟨t'.content, removed_of_exec hexec, hcontent⟩

/-- A datapath is deleted by its name, and the name was that of no other one. -/
theorem datapath_removes {name : String} {kind : DatapathKind} (hname : Canary name)
    (h : transact lib db supply [removeDatapath name kind] = .ok db') :
    (∀ d ∈ db.content.datapaths.rows, d.kind = kind → d.name ≠ name) ∧
        db'.content = db.content.collect ∨
      ∃ d ∈ db.content.datapaths.rows, d.kind = kind ∧ d.name = name ∧
        (∀ e ∈ db.content.datapaths.rows, e.kind = kind → e.name = name → e = d) ∧
        db'.content = (db.content.removeDatapath d.uuid).collect := by
  obtain ⟨t', hexec, hcontent⟩ := transact_ok h
  simp only [List.foldlM_cons, List.foldlM_nil, bind_pure] at hexec
  have hdel : datapathDel kind ⟨db.content, supply⟩ true name = .ok t' := by
    cases kind <;> exact hexec
  have hid : (Uuid.fromString name).bind
      (fun u => (db.content.datapaths.find u).filter (·.kind = kind)) = none := by
    rw [hname.fromString]
    rfl
  rcases datapathDel_ok hdel with ⟨hnone, rfl⟩ | ⟨d, hsome, rfl⟩
  · left
    refine ⟨fun d hd hkind hdname => ?_, hcontent⟩
    cases findDatapath_of_name hnone hid hd hkind hdname
  · right
    obtain ⟨hd, hkind, hfound⟩ := findDatapath_some hsome
    have hdname : d.name = name := by
      rcases hfound with huuid | hdname
      · rw [hname.fromString] at huuid
        cases huuid
      · exact hdname
    refine ⟨d, hd, hkind, hdname, fun e he hekind hename => ?_, hcontent⟩
    exact (Option.some.inj (findDatapath_of_name hsome hid he hekind hename)).symm

end Transactions

end OvnApi.Northbound
