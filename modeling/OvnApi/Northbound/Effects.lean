import OvnApi.Northbound.Nbctl

/-! What a command that succeeds has done to the rows. Every command adds a
datapath, attaches a new row to a datapath, drops references from one column of
one datapath, or removes a datapath. -/

namespace OvnApi.Northbound

open OvnApi.Core Lib

/-! ### Columns of a changed datapath -/

section Modify

variable {d : Datapath} {col col' : Column} {f : List Uuid → List Uuid} {u : Uuid}

@[simp] theorem Datapath.modify_uuid : (d.modify col f).uuid = d.uuid := by cases col <;> rfl

@[simp] theorem Datapath.modify_kind : (d.modify col f).kind = d.kind := by cases col <;> rfl

@[simp] theorem Datapath.modify_name : (d.modify col f).name = d.name := by cases col <;> rfl

theorem Datapath.column_modify_self : (d.modify col f).column col = f (d.column col) := by
  cases col <;> rfl

theorem Datapath.column_modify_of_ne (h : col' ≠ col) :
    (d.modify col f).column col' = d.column col' := by
  cases col <;> cases col' <;> first | rfl | exact absurd rfl h

theorem Datapath.mem_refs : u ∈ d.refs ↔ ∃ col, u ∈ d.column col := by
  constructor
  · intro h
    rcases List.mem_append.mp h with hp | hr
    · exact ⟨.ports, hp⟩
    · exact ⟨.rules, hr⟩
  · rintro ⟨col, h⟩
    cases col with
    | ports => exact List.mem_append_left _ h
    | rules => exact List.mem_append_right _ h

theorem Content.mem_modify {c : Content} {d' : Datapath} :
    d' ∈ (c.modify u col f).datapaths.rows ↔
      ∃ d ∈ c.datapaths.rows, (if d.uuid = u then d.modify col f else d) = d' :=
  List.mem_map

theorem Content.mem_removeDatapath {c : Content} {d : Datapath} :
    d ∈ (c.removeDatapath u).datapaths.rows ↔ d ∈ c.datapaths.rows ∧ d.uuid ≠ u := by
  simp [Content.removeDatapath, KeyedTable.filter]

end Modify

/-! ### New rows -/

theorem mem_uuids {c : Content} {u : Uuid} :
    u ∈ c.uuids ↔ u ∈ c.datapaths.rows.map Datapath.uuid ∨ u ∈ c.leaves.rows.map Leaf.uuid :=
  List.mem_append

theorem forall_uuids {c : Content} {P : Uuid → Prop} (hd : ∀ d ∈ c.datapaths.rows, P d.uuid)
    (hl : ∀ leaf ∈ c.leaves.rows, P leaf.uuid) (u : Uuid) (hu : u ∈ c.uuids) : P u := by
  rcases mem_uuids.mp hu with hu | hu
  · obtain ⟨d, hmem, rfl⟩ := List.mem_map.mp hu
    exact hd d hmem
  · obtain ⟨leaf, hmem, rfl⟩ := List.mem_map.mp hu
    exact hl leaf hmem

theorem NbDb.uuid_of_ref (db : NbDb) {u : Uuid} (hu : u ∈ db.content.references) :
    u ∈ db.content.uuids :=
  mem_uuids.mpr (.inr (db.closed u hu))

theorem NbDb.uuid_of_column (db : NbDb) {d : Datapath} (hd : d ∈ db.content.datapaths.rows)
    {col : Column} {u : Uuid} (hu : u ∈ d.column col) : u ∈ db.content.uuids :=
  db.uuid_of_ref (Content.mem_references.mpr (.inl ⟨d, hd, Datapath.mem_refs.mpr ⟨col, hu⟩⟩))

theorem uuid_of_datapath {c : Content} {d : Datapath} (hd : d ∈ c.datapaths.rows) :
    d.uuid ∈ c.uuids :=
  mem_uuids.mpr (.inl (List.mem_map_of_mem hd))

theorem uuid_of_leaf {c : Content} {leaf : Leaf} (hleaf : leaf ∈ c.leaves.rows) :
    leaf.uuid ∈ c.uuids :=
  mem_uuids.mpr (.inr (List.mem_map_of_mem hleaf))

/-- `c'` is `c` with one more datapath. -/
structure Added (c c' : Content) (d : Datapath) : Prop where
  fresh : d.uuid ∉ c.uuids
  datapaths : c'.datapaths.rows = c.datapaths.rows ++ [d]
  leaves : c'.leaves = c.leaves
  holders : c'.holders = c.holders

/-- `c'` is `c` with one more row, referred to from a column of `parent`. -/
structure Attached (c c' : Content) (parent : Uuid) (col : Column) (leaf : Leaf) : Prop where
  fresh : leaf.uuid ∉ c.uuids
  datapaths : c'.datapaths = (c.modify parent col (· ++ [leaf.uuid])).datapaths
  leaves : c'.leaves.rows = c.leaves.rows ++ [leaf]
  holders : c'.holders = c.holders

theorem insertDatapath_ok {t t' : Txn} {kind : DatapathKind} {name : String}
    (h : t.insertDatapath kind name = .ok t') :
    ∃ u, t.supply = u :: t'.supply ∧ Added t.content t'.content { uuid := u, kind, name } := by
  unfold Txn.insertDatapath at h
  cases hsupply : t.supply with
  | nil => simp [hsupply] at h
  | cons u supply =>
    simp only [hsupply] at h
    split_ifs at h with hleaf
    cases hinsert : t.content.datapaths.insert { uuid := u, kind, name } with
    | none => simp [hinsert] at h
    | some datapaths =>
      obtain rfl : _ = t' := by simpa [hinsert] using h
      obtain ⟨hnew, hrows⟩ := KeyedTable.rows_insert hinsert
      exact ⟨u, rfl, fun hin => (mem_uuids.mp hin).elim hnew hleaf, hrows, rfl, rfl⟩

theorem insertLeaf_ok {t t' : Txn} {parent : Uuid} {col : Column} {columns : Columns}
    (h : t.insertLeaf parent col columns = .ok t') :
    ∃ u, t.supply = u :: t'.supply ∧
      Attached t.content t'.content parent col { uuid := u, columns } := by
  unfold Txn.insertLeaf at h
  cases hsupply : t.supply with
  | nil => simp [hsupply] at h
  | cons u supply =>
    simp only [hsupply] at h
    split_ifs at h with hdatapath
    cases hinsert : t.content.leaves.insert { uuid := u, columns } with
    | none => simp [hinsert] at h
    | some leaves =>
      obtain rfl : _ = t' := by simpa [hinsert] using h
      obtain ⟨hnew, hrows⟩ := KeyedTable.rows_insert hinsert
      exact ⟨u, rfl, fun hin => (mem_uuids.mp hin).elim hdatapath hnew, rfl, hrows, rfl⟩

/-! ### Lookups -/

section Lookup

variable {kind : DatapathKind} {c c' : Content} {id : String} {d d' : Datapath}

/-- A row found by its UUID. -/
theorem filter_find_eq_some {u : Uuid} :
    (c.datapaths.find u).filter (·.kind = kind) = some d ↔
      d ∈ c.datapaths.rows ∧ d.uuid = u ∧ d.kind = kind := by
  rw [Option.filter_eq_some_iff, KeyedTable.find_eq_some_iff, decide_eq_true_eq, and_assoc]

theorem findDatapath_some (h : findDatapath kind c id = .ok (some d)) :
    d ∈ c.datapaths.rows ∧ d.kind = kind ∧ (Uuid.fromString id = some d.uuid ∨ d.name = id) := by
  unfold findDatapath at h
  split at h
  · rename_i e hfound
    obtain rfl : e = d := by simpa using h
    obtain ⟨u, hu, hfind⟩ := Option.bind_eq_some_iff.mp hfound
    obtain ⟨hmem, huuid, hkind⟩ := filter_find_eq_some.mp hfind
    exact ⟨hmem, hkind, .inl (by rw [hu, huuid])⟩
  · split at h
    · cases h
    · rename_i e hfilter
      obtain rfl : e = d := by simpa using h
      have hmem : e ∈ c.datapaths.rows.filter fun d => d.kind = kind ∧ d.name = id := by
        rw [hfilter]
        exact List.mem_singleton_self e
      simp only [List.mem_filter, decide_eq_true_eq] at hmem
      exact ⟨hmem.1, hmem.2.1, .inr hmem.2.2⟩
    · cases h

/-- A UUID of the right table is found whatever names there are. -/
theorem findDatapath_of_uuid (hid : Uuid.fromString id = some d.uuid)
    (hmem : d ∈ c.datapaths.rows) (hkind : d.kind = kind) :
    findDatapath kind c id = .ok (some d) := by
  have hfound : ((Uuid.fromString id).bind fun u => (c.datapaths.find u).filter (·.kind = kind)) =
      some d := by
    rw [hid]
    exact filter_find_eq_some.mpr ⟨hmem, rfl, hkind⟩
  unfold findDatapath
  rw [hfound]

/-- A lookup that succeeds finds the only datapath of that name, if the name is not
the UUID of another one. -/
theorem findDatapath_of_name {o : Option Datapath} (h : findDatapath kind c id = .ok o)
    (hid : (Uuid.fromString id).bind (fun u => (c.datapaths.find u).filter (·.kind = kind)) = none)
    (hmem : d ∈ c.datapaths.rows) (hkind : d.kind = kind) (hname : d.name = id) : o = some d := by
  have hin : d ∈ c.datapaths.rows.filter fun d => d.kind = kind ∧ d.name = id := by
    simp [hmem, hkind, hname]
  unfold findDatapath at h
  rw [hid] at h
  dsimp only at h
  split at h
  · rename_i hfilter
    rw [hfilter] at hin
    cases hin
  · rename_i e hfilter
    rw [hfilter, List.mem_singleton] at hin
    rw [hin]
    exact (Except.ok.inj h).symm
  · cases h

/-- Two contents with the same datapaths, up to their references. -/
def SameNames (c c' : Content) : Prop :=
  ∀ u kind name, (∃ d ∈ c.datapaths.rows, d.uuid = u ∧ d.kind = kind ∧ d.name = name) ↔
    ∃ d ∈ c'.datapaths.rows, d.uuid = u ∧ d.kind = kind ∧ d.name = name

/-- A lookup depends only on UUIDs, kinds and names. -/
theorem findDatapath_congr (hsame : SameNames c c') (h : findDatapath kind c id = .ok (some d))
    (h' : findDatapath kind c' id = .ok (some d')) : d'.uuid = d.uuid := by
  obtain ⟨hmem, hkind, hfound⟩ := findDatapath_some h
  obtain ⟨hmem', hkind', hfound'⟩ := findDatapath_some h'
  obtain ⟨e', he', heuuid, hekind, hename⟩ := (hsame _ _ _).mp ⟨d, hmem, rfl, rfl, rfl⟩
  obtain ⟨e, he, heuuid₂, hekind₂, -⟩ := (hsame _ _ _).mpr ⟨d', hmem', rfl, rfl, rfl⟩
  cases hid : (Uuid.fromString id).bind fun u => (c'.datapaths.find u).filter (·.kind = kind) with
  | some x =>
    -- found by UUID in the second content, hence in the first one as well
    obtain ⟨u, hu, hfind⟩ := Option.bind_eq_some_iff.mp hid
    obtain ⟨hx, hxuuid, hxkind⟩ := filter_find_eq_some.mp hfind
    have hx' := findDatapath_of_uuid (by rw [hu, hxuuid]) hx hxkind
    obtain rfl : x = d' := by simpa using hx'.symm.trans h'
    have he₂ := findDatapath_of_uuid (by rw [hu, heuuid₂, hxuuid]) he (hekind₂.trans hkind')
    obtain rfl : e = d := by simpa using he₂.symm.trans h
    exact heuuid₂.symm
  | none =>
    have hname : d.name = id := by
      rcases hfound with hu | hname
      · rw [hu] at hid
        have : e' ∈ c'.datapaths.rows ∧ e'.uuid = d.uuid ∧ e'.kind = kind :=
          ⟨he', heuuid, hekind.trans hkind⟩
        rw [Option.bind_some, filter_find_eq_some.mpr this] at hid
        cases hid
      · exact hname
    have := findDatapath_of_name h' hid he' (hekind.trans hkind) (hename.trans hname)
    rw [Option.some.inj this]
    exact heuuid

theorem requireDatapath_ok (h : requireDatapath kind c id = .ok d) :
    findDatapath kind c id = .ok (some d) := by
  obtain ⟨o, ho, hd⟩ := bind_eq_ok h
  cases o with
  | none => cases hd
  | some e =>
    obtain rfl := Except.ok.inj hd
    exact ho

theorem findPort_some {leaf : Leaf} (h : findPort kind c id = some leaf) :
    leaf ∈ c.leaves.rows ∧
      (Uuid.fromString id = some leaf.uuid ∨ leaf.columns.portName kind = some id) := by
  unfold findPort at h
  split at h
  · rename_i e hfound
    obtain rfl := Option.some.inj h
    obtain ⟨u, hu, hfind⟩ := Option.bind_eq_some_iff.mp hfound
    obtain ⟨hfind, -⟩ := Option.filter_eq_some_iff.mp hfind
    obtain ⟨hmem, huuid⟩ := KeyedTable.find_eq_some_iff.mp hfind
    exact ⟨hmem, .inl (by rw [hu, huuid])⟩
  · exact ⟨List.mem_of_find?_eq_some h, .inr (by simpa using List.find?_some h)⟩

theorem findPort_none {leaf : Leaf} (h : findPort kind c id = none)
    (hmem : leaf ∈ c.leaves.rows) : leaf.columns.portName kind ≠ some id := by
  unfold findPort at h
  split at h
  · cases h
  · simpa using List.find?_eq_none.mp h leaf hmem

theorem findOwner_some {name : String} (h : findOwner kind c name = some d) :
    d ∈ c.datapaths.rows ∧ d.kind = kind ∧
      ∃ leaf ∈ c.leaves.rows, leaf.uuid ∈ d.ports ∧ leaf.columns.portName kind = some name := by
  have hmem := List.mem_of_find?_eq_some h
  obtain ⟨hkind, hport⟩ : d.kind = kind ∧ d.ports.any (fun u =>
      (c.leaves.find u).bind (fun leaf => leaf.columns.portName kind) = some name) = true := by
    simpa using List.find?_some h
  obtain ⟨u, hu, hleaf⟩ := List.any_eq_true.mp hport
  obtain ⟨leaf, hfind, hname⟩ := Option.bind_eq_some_iff.mp (of_decide_eq_true hleaf)
  obtain ⟨hin, rfl⟩ := KeyedTable.find_eq_some_iff.mp hfind
  exact ⟨hmem, hkind, leaf, hin, hu, hname⟩

end Lookup

/-! ### The commands -/

section Commands

variable {lib : AddressLib} {kind : DatapathKind} {t t' : Txn}

theorem datapathAdd_ok {name : String} (h : datapathAdd kind t name = .ok t') :
    (∀ d ∈ t.content.datapaths.rows, d.kind = kind → d.name ≠ name) ∧
      ∃ u, t.supply = u :: t'.supply ∧ Added t.content t'.content { uuid := u, kind, name } := by
  unfold datapathAdd at h
  split_ifs at h with htaken
  refine ⟨fun d hd hkind hname => htaken ?_, insertDatapath_ok h⟩
  exact List.any_eq_true.mpr ⟨d, hd, by simp [hkind, hname]⟩

theorem datapathDel_ok {ifExists : Bool} {id : String} (h : datapathDel kind t ifExists id = .ok t') :
    findDatapath kind t.content id = .ok none ∧ t' = t ∨
      ∃ d, findDatapath kind t.content id = .ok (some d) ∧
        t' = ⟨t.content.removeDatapath d.uuid, t.supply⟩ := by
  obtain ⟨o, ho, ht⟩ := bind_eq_ok h
  cases o with
  | none =>
    left
    cases ifExists with
    | false => cases ht
    | true => exact ⟨ho, (Except.ok.inj ht).symm⟩
  | some d => exact .inr ⟨d, ho, (Except.ok.inj ht).symm⟩

theorem portDel_ok {ifExists : Bool} {id : String} (h : portDel kind t ifExists id = .ok t') :
    findPort kind t.content id = none ∧ t' = t ∨
      ∃ leaf d, findPort kind t.content id = some leaf ∧
        findOwner kind t.content ((leaf.columns.portName kind).getD "") = some d ∧
        t' = ⟨t.content.modify d.uuid .ports (·.filter (· ≠ leaf.uuid)), t.supply⟩ := by
  unfold portDel at h
  cases hport : findPort kind t.content id with
  | none =>
    rw [hport] at h
    cases ifExists with
    | false => cases h
    | true => exact .inl ⟨rfl, (Except.ok.inj h).symm⟩
  | some leaf =>
    rw [hport] at h
    dsimp only at h
    cases howner : findOwner kind t.content ((leaf.columns.portName kind).getD "") with
    | none => simp [howner] at h
    | some d =>
      rw [howner] at h
      exact .inr ⟨leaf, d, rfl, howner, (Except.ok.inj h).symm⟩

theorem nbctlLspAdd_ok {ls name : String} (h : nbctlLspAdd t ls name = .ok t') :
    ∃ d, findDatapath .switch t.content ls = .ok (some d) ∧
      t.insertLeaf d.uuid .ports (.switchPort name) = .ok t' := by
  obtain ⟨d, hd, ht⟩ := bind_eq_ok h
  split_ifs at ht
  exact ⟨d, requireDatapath_ok hd, ht⟩

theorem nbctlLrpAdd_ok {lr name mac : String} {networks : List String}
    (h : nbctlLrpAdd lib t lr name mac networks = .ok t') :
    ∃ d, findDatapath .router t.content lr = .ok (some d) ∧
      t.insertLeaf d.uuid .ports (.routerPort { name, mac, networks }) = .ok t' := by
  obtain ⟨d, hd, ht⟩ := bind_eq_ok h
  split_ifs at ht
  split at ht
  · cases ht
  · exact ⟨d, requireDatapath_ok hd, ht⟩

theorem nbctlAclAdd_ok {name : Option String} {ls dir prio matchText action : String}
    (h : nbctlAclAdd t name ls dir prio matchText action = .ok t') :
    ∃ d direction priority, findDatapath .switch t.content ls = .ok (some d) ∧
      parseDirection dir = .ok direction ∧ parsePriority prio = .ok priority ∧
      t.insertLeaf d.uuid .rules
        (.acl ⟨name, direction, priority, matchText, action, name.isSome, 0, false⟩) = .ok t' := by
  obtain ⟨d, hd, h⟩ := bind_eq_ok h
  obtain ⟨direction, hdirection, h⟩ := bind_eq_ok h
  obtain ⟨priority, hpriority, h⟩ := bind_eq_ok h
  dsimp only at h
  split_ifs at h
  exact ⟨d, direction, priority, requireDatapath_ok hd, hdirection, hpriority, h⟩

theorem nbctlAclDel_ok {ls dir prio matchText : String}
    (h : nbctlAclDel t ls dir prio matchText = .ok t') :
    ∃ d direction priority, findDatapath .switch t.content ls = .ok (some d) ∧
      parseDirection dir = .ok direction ∧ parsePriority prio = .ok priority ∧
      t' = ⟨t.content.modify d.uuid .rules
        (t.content.keepLeaves (aclDelMatching direction priority matchText)), t.supply⟩ := by
  obtain ⟨d, hd, h⟩ := bind_eq_ok h
  obtain ⟨direction, hdirection, h⟩ := bind_eq_ok h
  obtain ⟨priority, hpriority, h⟩ := bind_eq_ok h
  exact ⟨d, direction, priority, requireDatapath_ok hd, hdirection, hpriority,
    (Except.ok.inj h).symm⟩

/-- A source NAT rule between IPv4 addresses. -/
theorem nbctlLrNatAdd_ok {lr externalIp logicalIp newExternalIp newLogicalIp : String}
    (hexternal : lib.normalizeIpv4Addr externalIp = some newExternalIp)
    (hlogical : lib.normalizeIpv4Net logicalIp = some newLogicalIp)
    (h : nbctlLrNatAdd lib t lr "snat" externalIp logicalIp = .ok t') :
    ∃ d, findDatapath .router t.content lr = .ok (some d) ∧
      t.insertLeaf d.uuid .rules
        (.nat ⟨"snat", externalIp, newLogicalIp, none, some "false"⟩) = .ok t' := by
  obtain ⟨d, hd, h⟩ := bind_eq_ok h
  simp only [natTypes, List.mem_cons, List.not_mem_nil, or_false, hexternal] at h
  simp only [String.reduceEq, or_true, or_false, not_true_eq_false, ↓reduceIte, pure_bind,
    Bool.false_eq_true, hlogical] at h
  split_ifs at h
  split at h
  · cases h
  · exact ⟨d, requireDatapath_ok hd, h⟩

theorem nbctlLrNatDel_ok {lr ip newIp : String} (hip : lib.normalizeNet ip = some newIp)
    (h : nbctlLrNatDel lib t lr "snat" ip = .ok t') :
    ∃ d, findDatapath .router t.content lr = .ok (some d) ∧
      t' = ⟨t.content.modify d.uuid .rules
        (t.content.keepLeaves (natDelMatching lib "snat" (some newIp) none)), t.supply⟩ := by
  obtain ⟨d, hd, h⟩ := bind_eq_ok h
  simp only [natTypes, List.mem_cons, List.not_mem_nil, or_false, hip] at h
  simp only [String.reduceEq, or_true, or_false, not_true_eq_false, ↓reduceIte, pure_bind] at h
  exact ⟨d, requireDatapath_ok hd, (Except.ok.inj h).symm⟩

end Commands

end OvnApi.Northbound
