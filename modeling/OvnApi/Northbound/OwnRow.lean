import OvnApi.Northbound.Residue
import OvnApi.Traces.Evidence

/-! Whether the row a probe observes is the one it created. The finder of each kind
compares a few columns and never the switch or the router, and takes the first row
in the order of the IDL. It returns the probe's own row under every order exactly
if no other row of the table agrees with it in those columns. Two NAT rules of two
probes agree in them when the octets drawn from the probe ids coincide. -/

namespace OvnApi.Northbound

open OvnApi.Core Lib Traces

/-! ### Rows that the finder cannot tell apart -/

/-- The rows agree in the columns by which the finder of their kind looks. -/
def Alike : NbRow → NbRow → Bool
  | .acl row, .acl row' => row'.matchText = row.matchText && row'.direction = row.direction &&
      row'.priority = row.priority
  | .nat row, .nat row' => row'.type = row.type && row'.externalIp = row.externalIp &&
      row'.logicalIp = row.logicalIp
  | .logicalSwitch row, .logicalSwitch row' => row'.name = row.name
  | .logicalRouter row, .logicalRouter row' => row'.name = row.name
  | .logicalSwitchPort row, .logicalSwitchPort row' => row'.name = row.name
  | .logicalRouterPort row, .logicalRouterPort row' => row'.name = row.name
  | _, _ => false

theorem alike_self (row : NbRow) : Alike row row = true := by
  cases row <;> simp [Alike]

/-! ### The row of the create command -/

/-- The create command of the probe made this row of the table it looks into, on
some database. -/
def Created (lib : AddressLib) (prepared : PreparedProbe) (own : NbRow) : Prop :=
  ∃ before after supply old new,
    nbctl lib before supply prepared.createCommand = .ok after ∧
    before.view.rows prepared.nbTable = .ok old ∧ after.view.rows prepared.nbTable = .ok new ∧
    own ∈ new ∧ own.uuid ∉ old.map NbRow.uuid

/-- The row has the columns that the create command of this kind writes. -/
def Written (probeId : Uuid) : ResolvedType → NbRow → Prop
  | .acl, .acl row => row.matchText = aclMatchText probeId ∧ row.direction = "to-lport" ∧
      row.priority = 2001
  | .nat, .nat row => row.type = "snat" ∧ row.externalIp = natExternalIp probeId ∧
      row.logicalIp = natLogicalIp probeId
  | .logicalSwitch, .logicalSwitch row => row.name = rootName probeId .switch
  | .logicalRouter, .logicalRouter row => row.name = rootName probeId .router
  | .logicalSwitchPort, .logicalSwitchPort row => row.name = portName probeId .switch
  | .logicalRouterPort, .logicalRouterPort row => row.name = portName probeId .router
  | _, _ => False

section Transactions

variable {lib : AddressLib} {probeId : Uuid} {before after : NbDb} {supply : List Uuid}

/-- A row that came with the creation of an item has the columns of the item. -/
theorem columns_of_create {item : Item} {target : Option Uuid} {leaf : Leaf}
    (h : transact lib before supply (Job.create probeId (.hang item target)) = .ok after)
    (hleaf : leaf ∈ after.content.leaves.rows) (hnew : leaf ∉ before.content.leaves.rows) :
    leaf.columns = item.written probeId := by
  obtain ⟨t', hcommands, hcollect⟩ := transact_ok h
  obtain ⟨d, -, hinsert⟩ := insert_of_create hcommands
  obtain ⟨u, -, hattached⟩ := insertLeaf_ok hinsert
  rw [hcollect] at hleaf
  have hstored := (Content.mem_collect.mp hleaf).1
  rw [hattached.leaves] at hstored
  rcases List.mem_append.mp hstored with hold | hone
  · exact absurd hold hnew
  · rw [List.mem_singleton.mp hone]

/-- A datapath that came with the creation of a root has the name of the root. -/
theorem name_of_create {kind : DatapathKind} {d : Datapath}
    (h : transact lib before supply (Job.create probeId (.root kind)) = .ok after)
    (hd : d ∈ after.content.datapaths.rows)
    (hnew : ∀ d' ∈ before.content.datapaths.rows, d'.kind = d.kind → d'.uuid ≠ d.uuid) :
    d.name = rootName probeId kind := by
  obtain ⟨t', hcommands, hcollect⟩ := transact_ok h
  obtain ⟨u, v, c, columns, -, -, -, hadded, hattached, -⟩ := root_create_ok hcommands
  rw [hcollect] at hd
  change d ∈ t'.content.datapaths.rows at hd
  rw [hattached.datapaths] at hd
  obtain ⟨d', hd', rfl⟩ := Content.mem_modify.mp hd
  -- the command may have hung a port on it, which leaves UUID, kind and name
  have huuid : (if d'.uuid = u then d'.modify .ports (· ++ [v]) else d').uuid = d'.uuid := by
    split_ifs <;> simp
  have hkind : (if d'.uuid = u then d'.modify .ports (· ++ [v]) else d').kind = d'.kind := by
    split_ifs <;> simp
  have hname : (if d'.uuid = u then d'.modify .ports (· ++ [v]) else d').name = d'.name := by
    split_ifs <;> simp
  rw [hadded.datapaths] at hd'
  rcases List.mem_append.mp hd' with hold | hone
  · exact absurd huuid.symm (hnew d' hold hkind.symm)
  · rw [hname, List.mem_singleton.mp hone]

end Transactions

/-! ### What the finder returns -/

theorem uuid_switchRow (d : Datapath) :
    d.switchRow.map (fun row => (NbRow.logicalSwitch row).uuid) =
      if d.kind = .switch then some d.uuid else none := by
  cases hkind : d.kind <;> simp [Datapath.switchRow, hkind, NbRow.uuid]

theorem uuid_routerRow (d : Datapath) :
    d.routerRow.map (fun row => (NbRow.logicalRouter row).uuid) =
      if d.kind = .router then some d.uuid else none := by
  cases hkind : d.kind <;> simp [Datapath.routerRow, hkind, NbRow.uuid]

theorem name_switchRow {d : Datapath} {row : LogicalSwitchRow} (h : d.switchRow = some row) :
    row.name = d.name := by
  cases hkind : d.kind <;> simp only [Datapath.switchRow, hkind, reduceCtorEq] at h
  rw [← Option.some.inj h]

theorem name_routerRow {d : Datapath} {row : LogicalRouterRow} (h : d.routerRow = some row) :
    row.name = d.name := by
  cases hkind : d.kind <;> simp only [Datapath.routerRow, hkind, reduceCtorEq] at h
  rw [← Option.some.inj h]

section Found

variable {lib : AddressLib} {nb : Except Exc NbIdl} {probeId : Uuid}
  {request : CanaryProbeRequest} {prepared : PreparedProbe} {own : NbRow}

/-- A row that the creation of an item adds to a table shows the columns of the item. -/
theorem leaf_of_create {α : Type} {f : Leaf → Option α} {shown : α → NbRow} {before after : NbDb}
    {supply : List Uuid} {item : Item} {target : Option Uuid}
    {old new : List NbRow}
    (h : transact lib before supply (Job.create probeId (.hang item target)) = .ok after)
    (hold : (.ok ((before.content.leaves.rows.filterMap f).map shown) : Except Exc _) = .ok old)
    (hnew : (.ok ((after.content.leaves.rows.filterMap f).map shown) : Except Exc _) = .ok new)
    (hmem : own ∈ new) (hown : own ∉ old) :
    ∃ u row, f ⟨u, item.written probeId⟩ = some row ∧ own = shown row := by
  obtain rfl := Except.ok.inj hold
  obtain rfl := Except.ok.inj hnew
  obtain ⟨row, hrow, rfl⟩ := List.mem_map.mp hmem
  obtain ⟨leaf, hleaf, hshown⟩ := List.mem_filterMap.mp hrow
  have hfresh : leaf ∉ before.content.leaves.rows := fun hold =>
    hown (List.mem_map_of_mem (List.mem_filterMap.mpr ⟨leaf, hold, hshown⟩))
  have hcolumns := columns_of_create h hleaf hfresh
  refine ⟨leaf.uuid, row, ?_, rfl⟩
  rw [← hcolumns]
  exact hshown

/-- A row that the creation of a root adds to its table shows a datapath with the
name of the root. -/
theorem datapath_of_create {α : Type} {f : Datapath → Option α} {shown : α → NbRow}
    {before after : NbDb} {supply : List Uuid} {kind : DatapathKind} {old new : List NbRow}
    (h : transact lib before supply (Job.create probeId (.root kind)) = .ok after)
    (hf : ∀ d, (f d).map (fun row => (shown row).uuid) = if d.kind = kind then some d.uuid else none)
    (hold : (.ok ((before.content.datapaths.rows.filterMap f).map shown) : Except Exc _) = .ok old)
    (hnew : (.ok ((after.content.datapaths.rows.filterMap f).map shown) : Except Exc _) = .ok new)
    (hmem : own ∈ new) (hown : own.uuid ∉ old.map NbRow.uuid) :
    ∃ d row, f d = some row ∧ own = shown row ∧ d.name = rootName probeId kind := by
  obtain rfl := Except.ok.inj hold
  obtain rfl := Except.ok.inj hnew
  obtain ⟨row, hrow, rfl⟩ := List.mem_map.mp hmem
  obtain ⟨d, hd, hshown⟩ := List.mem_filterMap.mp hrow
  have hfd := hf d
  rw [hshown, Option.map_some] at hfd
  split_ifs at hfd with hkind
  refine ⟨d, row, hshown, rfl, name_of_create h hd fun d' hd' hsame huuid => hown ?_⟩
  -- a datapath of the kind that was there before would show its UUID
  have hfd' := hf d'
  rw [if_pos (hsame.trans hkind)] at hfd'
  obtain ⟨row', hrow', huuid'⟩ := Option.map_eq_some_iff.mp hfd'
  rw [Option.some.inj hfd, ← huuid, ← huuid']
  exact List.mem_map_of_mem (List.mem_map_of_mem (List.mem_filterMap.mpr ⟨d', hd', hrow'⟩))

theorem written_of_created (hbuild : buildProbe nb probeId request = .ok prepared)
    (hcreated : Created lib prepared own) :
    Written probeId prepared.resolvedResourceType own := by
  obtain ⟨before, after, supply, old, new, hnbctl, hold, hnew, hmem, huuid⟩ := hcreated
  obtain ⟨resolved, plan, hplanned, hresolved, rfl⟩ := buildProbe_planned hbuild
  obtain ⟨job, rfl, hruns, -⟩ := planned_job hplanned
  have htransact := nbctl_ok hruns.create hnbctl
  have hfresh : own ∉ old := fun h => huuid (List.mem_map_of_mem h)
  rw [hresolved]
  cases job with
  | root kind =>
    cases kind with
    | switch =>
      cases hplanned
      obtain ⟨d, row, hrow, rfl, hname⟩ :=
        datapath_of_create htransact uuid_switchRow hold hnew hmem huuid
      exact (name_switchRow hrow).trans hname
    | router =>
      cases hplanned
      obtain ⟨d, row, hrow, rfl, hname⟩ :=
        datapath_of_create htransact uuid_routerRow hold hnew hmem huuid
      exact (name_routerRow hrow).trans hname
  | hang item target =>
    cases item with
    | acl =>
      cases hplanned
      obtain ⟨u, row, hrow, rfl⟩ := leaf_of_create htransact hold hnew hmem hfresh
      obtain rfl := Option.some.inj hrow
      exact ⟨rfl, rfl, rfl⟩
    | nat =>
      cases hplanned
      obtain ⟨u, row, hrow, rfl⟩ := leaf_of_create htransact hold hnew hmem hfresh
      obtain rfl := Option.some.inj hrow
      exact ⟨rfl, rfl, rfl⟩
    | switchPort =>
      cases hplanned
      obtain ⟨u, row, hrow, rfl⟩ := leaf_of_create htransact hold hnew hmem hfresh
      obtain rfl := Option.some.inj hrow
      rfl
    | routerPort =>
      cases hplanned
      obtain ⟨u, row, hrow, rfl⟩ := leaf_of_create htransact hold hnew hmem hfresh
      obtain rfl := Option.some.inj hrow
      rfl

theorem find?_map_congr {α β : Type} {f : α → β} {p q : β → Bool} (h : ∀ a, p (f a) = q (f a))
    (xs : List α) : (xs.map f).find? p = (xs.map f).find? q := by
  rw [List.find?_map, List.find?_map, show p ∘ f = q ∘ f from funext h]

theorem beq_str (s t : String) : (some (PyValue.str s) == some (.str t)) = decide (s = t) := by
  rw [Bool.eq_iff_iff]
  simp

theorem beq_int (m n : ℤ) : (some (PyValue.int m) == some (.int n)) = decide (m = n) := by
  rw [Bool.eq_iff_iff]
  simp

/-- The name of an ACL is a list, which no string equals. -/
theorem beq_strs (xs : List String) (s : String) :
    (some (PyValue.strs xs) == some (.str s)) = false := by
  simp

/-- The finder looks for a row that agrees with the one the probe created. -/
theorem findNbRow_eq (hbuild : buildProbe nb probeId request = .ok prepared)
    (hown : Written probeId prepared.resolvedResourceType own) (idl : NbIdl) :
    ∃ rows, idl.rows prepared.nbTable = .ok rows ∧
      findNbRow prepared idl = .ok (rows.find? (Alike own)) := by
  obtain ⟨resolved, plan, hplanned, hresolved, rfl⟩ := buildProbe_planned hbuild
  rw [hresolved] at hown
  unfold findNbRow
  rw [hresolved]
  cases hplanned with
  | acl target _ =>
    cases own with
    | acl row =>
      obtain ⟨hmatch, hdirection, hpriority⟩ := hown
      refine ⟨_, rfl, congrArg Except.ok (find?_map_congr (fun r => ?_) _)⟩
      rw [Alike, hmatch, hdirection, hpriority]
      simp only [NbRow.getattr, beq_strs, beq_str, beq_int, Bool.false_or]
      rfl
    | _ => exact hown.elim
  | nat target _ =>
    cases own with
    | nat row =>
      obtain ⟨htype, hexternal, hlogical⟩ := hown
      refine ⟨_, rfl, congrArg Except.ok (find?_map_congr (fun r => ?_) _)⟩
      rw [Alike, htype, hexternal, hlogical]
      simp only [NbRow.getattr, beq_str]
    | _ => exact hown.elim
  | logicalSwitch =>
    cases own with
    | logicalSwitch row =>
      refine ⟨_, rfl, congrArg Except.ok (find?_map_congr (fun r => ?_) _)⟩
      rw [Alike, show row.name = rootName probeId .switch from hown]
      exact beq_str r.name _
    | _ => exact hown.elim
  | logicalRouter =>
    cases own with
    | logicalRouter row =>
      refine ⟨_, rfl, congrArg Except.ok (find?_map_congr (fun r => ?_) _)⟩
      rw [Alike, show row.name = rootName probeId .router from hown]
      exact beq_str r.name _
    | _ => exact hown.elim
  | logicalSwitchPort target _ =>
    cases own with
    | logicalSwitchPort row =>
      refine ⟨_, rfl, congrArg Except.ok (find?_map_congr (fun r => ?_) _)⟩
      rw [Alike, show row.name = portName probeId .switch from hown]
      exact beq_str r.name _
    | _ => exact hown.elim
  | logicalRouterPort target _ =>
    cases own with
    | logicalRouterPort row =>
      refine ⟨_, rfl, congrArg Except.ok (find?_map_congr (fun r => ?_) _)⟩
      rw [Alike, show row.name = portName probeId .router from hown]
      exact beq_str r.name _
    | _ => exact hown.elim

end Found

/-! ### Orders of the rows -/

section Orders

variable {α : Type} {shown : α → NbRow} {xs ys : List α} {rows rows' : List NbRow} {row : NbRow}

theorem shown_perm (h : xs.Perm ys)
    (hrows : (.ok (xs.map shown) : Except Exc (List NbRow)) = .ok rows)
    (hrows' : (.ok (ys.map shown) : Except Exc (List NbRow)) = .ok rows') : rows.Perm rows' := by
  obtain rfl := Except.ok.inj hrows
  obtain rfl := Except.ok.inj hrows'
  exact h.map shown

theorem exists_first [DecidableEq α]
    (hrows : (.ok (xs.map shown) : Except Exc (List NbRow)) = .ok rows) (hrow : row ∈ rows) :
    ∃ r, row = shown r ∧ xs.Perm (r :: xs.erase r) := by
  obtain rfl := Except.ok.inj hrows
  obtain ⟨r, hr, rfl⟩ := List.mem_map.mp hrow
  exact ⟨r, rfl, List.perm_cons_erase hr⟩

/-- A reordering shows the same rows of each table. -/
theorem reordered_rows {idl idl' : NbIdl} (h : idl.Reordered idl') {table : String}
    (hrows : idl.rows table = .ok rows) (hrows' : idl'.rows table = .ok rows') :
    rows.Perm rows' := by
  unfold NbIdl.rows at hrows
  split at hrows
  · exact shown_perm h.acl hrows hrows'
  · exact shown_perm h.nat hrows hrows'
  · exact shown_perm h.logicalSwitch hrows hrows'
  · exact shown_perm h.logicalRouter hrows hrows'
  · exact shown_perm h.logicalSwitchPort hrows hrows'
  · exact shown_perm h.logicalRouterPort hrows hrows'
  · cases hrows

/-- Any row of a table can be its first one. -/
theorem exists_reordered {idl : NbIdl} {table : String} (hrows : idl.rows table = .ok rows)
    (hrow : row ∈ rows) :
    ∃ idl' rest, idl.Reordered idl' ∧ idl'.rows table = .ok (row :: rest) := by
  have hrefl := NbIdl.Reordered.refl idl
  unfold NbIdl.rows at hrows
  split at hrows
  · obtain ⟨r, rfl, hfirst⟩ := exists_first hrows hrow
    exact ⟨{ idl with acl := r :: _ }, _, { hrefl with acl := hfirst }, rfl⟩
  · obtain ⟨r, rfl, hfirst⟩ := exists_first hrows hrow
    exact ⟨{ idl with nat := r :: _ }, _, { hrefl with nat := hfirst }, rfl⟩
  · obtain ⟨r, rfl, hfirst⟩ := exists_first hrows hrow
    exact ⟨{ idl with logicalSwitch := r :: _ }, _, { hrefl with logicalSwitch := hfirst }, rfl⟩
  · obtain ⟨r, rfl, hfirst⟩ := exists_first hrows hrow
    exact ⟨{ idl with logicalRouter := r :: _ }, _, { hrefl with logicalRouter := hfirst }, rfl⟩
  · obtain ⟨r, rfl, hfirst⟩ := exists_first hrows hrow
    exact ⟨{ idl with logicalSwitchPort := r :: _ }, _,
      { hrefl with logicalSwitchPort := hfirst }, rfl⟩
  · obtain ⟨r, rfl, hfirst⟩ := exists_first hrows hrow
    exact ⟨{ idl with logicalRouterPort := r :: _ }, _,
      { hrefl with logicalRouterPort := hfirst }, rfl⟩
  · cases hrows

end Orders

/-- The probe finds the row it created, in whatever order the IDL yields the rows,
exactly if no other row of the table agrees with it in the columns compared. -/
theorem observed_own_iff {lib : AddressLib} {nb : Except Exc NbIdl} {probeId : Uuid}
    {request : CanaryProbeRequest} {prepared : PreparedProbe} {own : NbRow} {idl : NbIdl}
    {rows : List NbRow} (hbuild : buildProbe nb probeId request = .ok prepared)
    (hcreated : Created lib prepared own) (hrows : idl.rows prepared.nbTable = .ok rows)
    (hown : own ∈ rows) :
    (∀ idl', idl.Reordered idl' → findNbRow prepared idl' = .ok (some own)) ↔
      ∀ row ∈ rows, Alike own row = true → row = own := by
  have hfind := findNbRow_eq hbuild (written_of_created hbuild hcreated)
  constructor
  · intro hall row hrow halike
    -- yield that row first
    obtain ⟨idl', rest, hreordered, hrows'⟩ := exists_reordered hrows hrow
    obtain ⟨rows', hrows'', hfound⟩ := hfind idl'
    obtain rfl := Except.ok.inj (hrows'.symm.trans hrows'')
    rw [hall idl' hreordered, List.find?_cons_of_pos halike] at hfound
    exact (Option.some.inj (Except.ok.inj hfound)).symm
  · intro honly idl' hreordered
    obtain ⟨rows', hrows', hfound⟩ := hfind idl'
    have hperm := reordered_rows hreordered hrows hrows'
    obtain ⟨row, hrow⟩ := Option.isSome_iff_exists.mp
      (List.find?_isSome.mpr ⟨own, hperm.mem_iff.mp hown, alike_self own⟩)
    have hsame : row = own := honly row (hperm.mem_iff.mpr (List.mem_of_find?_eq_some hrow))
      (List.find?_some hrow)
    rw [hfound, hrow, hsame]

/-! ### Two probes with the same octets -/

def twoRouters : NbDb where
  content := {
    datapaths := ⟨[{ uuid := .uniform 1, kind := .router, name := "blue" },
      { uuid := .uniform 2, kind := .router, name := "green" }], by decide⟩
    leaves := ⟨[], List.nodup_nil⟩
    holders := [] }
  closed := by decide
  collected := by decide
  indexed := by decide

def natRequest (target : String) : CanaryProbeRequest where
  resourceType := .nat
  targetName := some target
  timeout_pos := defaultTimeout_pos
  poll_ge := defaultPoll_ge

/-- Two probe ids that differ by a multiple of 254 above the bits of the octets. -/
def firstId : Uuid := ⟨"00000000-0000-4000-8000-000000000000", by decide⟩

def secondId : Uuid := ⟨"000000fe-0000-4000-8000-000000000000", by decide⟩

def blueProbe : PreparedProbe :=
  assemble firstId (natRequest "blue") (natPlan firstId { ref := (Uuid.uniform 1).text })

def blueRule : NatRow := ⟨.uniform 3, "snat", natExternalIp firstId, natLogicalIp firstId⟩

/-- A third id, with other octets. -/
def thirdId : Uuid := ⟨"00000001-0000-4000-8000-000000000000", by decide⟩

def greenProbe : PreparedProbe :=
  assemble thirdId (natRequest "green") (natPlan thirdId { ref := (Uuid.uniform 2).text })

def greenRule : NatRow := ⟨.uniform 4, "snat", natExternalIp thirdId, natLogicalIp thirdId⟩

/-- Beside a NAT rule with other addresses, the rule of a probe is found. -/
theorem observed_own_iff_blue : ∃ db db',
    nbctl plainAddresses twoRouters [.uniform 4] greenProbe.createCommand = .ok db ∧
    buildProbe (.ok db.view) firstId (natRequest "blue") = .ok blueProbe ∧
    nbctl plainAddresses db [.uniform 3] blueProbe.createCommand = .ok db' ∧
    db'.view.nat = [greenRule, blueRule] ∧
    ∀ idl', db'.view.Reordered idl' → findNbRow blueProbe idl' = .ok (some (.nat blueRule)) := by
  have hbuild : buildProbe (.ok twoRouters.view) firstId (natRequest "blue") = .ok blueProbe := rfl
  refine ⟨_, _, rfl, rfl, rfl, rfl, ?_⟩
  have hcreated : Created plainAddresses blueProbe (.nat blueRule) :=
    ⟨twoRouters, _, [.uniform 3], [], [.nat blueRule], rfl, rfl, rfl, List.mem_cons_self,
      List.not_mem_nil⟩
  refine (observed_own_iff hbuild hcreated rfl (List.mem_cons_of_mem _ List.mem_cons_self)).mpr ?_
  intro row hrow halike
  rcases List.mem_cons.mp hrow with rfl | hrow
  · exact absurd halike (by decide)
  · exact List.mem_singleton.mp hrow

/-- A second probe sees the NAT rule that an earlier one left on another router. -/
theorem observed_other : ∃ first second db db' own other,
    buildProbe (.ok twoRouters.view) firstId (natRequest "blue") = .ok first ∧
    nbctl plainAddresses twoRouters [.uniform 3] first.createCommand = .ok db ∧
    buildProbe (.ok db.view) secondId (natRequest "green") = .ok second ∧
    nbctl plainAddresses db [.uniform 4] second.createCommand = .ok db' ∧
    db'.view.nat = [other, own] ∧ other.uuid = .uniform 3 ∧ own.uuid = .uniform 4 ∧
    findNbRow second db'.view = .ok (some (.nat other)) := by
  refine ⟨_, _, _, _, _, _, rfl, rfl, rfl, rfl, rfl, rfl, rfl, rfl⟩

end OvnApi.Northbound
