import Mathlib.Data.Prod.Lex
import Mathlib.Data.String.Basic
import OvnApi.Flows.Origin
import OvnApi.Lib.Counter
import OvnApi.Lib.Lists

/-! `list_logical_flows` and `get_logical_flow_origin_summary`. Both walk the table of
logical flows and classify every row; the first keeps the rows that pass its filters and
sorts them, the second counts. The list under a filter is the part of the whole list that
passes it, the order of the rows in the IDL does not matter, and every count of the summary
is the length of a list. -/

namespace OvnApi.Flows

open OvnApi.Core Lib Traces

/-! ### The list -/

inductive LogicalFlowOriginFilter where
  | acl | aclExact | aclStageGeneric | nat | natExact | natStageGeneric | other
  deriving DecidableEq, Repr

structure LogicalFlow where
  uuid : String
  logicalDatapath : Option String
  tableId : Option ℤ
  priority : Option ℤ
  matchText : String
  actions : String
  stageName : Option String
  stageHint : Option String
  source : Option String
  originType : LogicalFlowOriginType
  originUuid : Option String
  externalIds : Dict
  deriving DecidableEq

def matchesOriginFilter (originType : LogicalFlowOriginType) :
    Option LogicalFlowOriginFilter → Bool
  | none => true
  | some .acl => originType = .aclExact || originType = .aclStageGeneric
  | some .nat => originType = .natExact || originType = .natStageGeneric
  | some .aclExact => originType = .aclExact
  | some .aclStageGeneric => originType = .aclStageGeneric
  | some .natExact => originType = .natExact
  | some .natStageGeneric => originType = .natStageGeneric
  | some .other => originType = .other

def classifyRow (indexes : OriginIndexes) (row : LogicalFlowRow) : Classification :=
  classifyOrigin (row.externalIds.lookup "stage-name") row.externalIds indexes

def toLogicalFlow (indexes : OriginIndexes) (row : LogicalFlowRow) : LogicalFlow :=
  let c := classifyRow indexes row
  { uuid := row.uuid.text
    logicalDatapath := row.logicalDatapath.head?.map Uuid.text
    tableId := some row.tableId
    priority := some row.priority
    matchText := row.matchText
    actions := row.actions
    stageName := row.externalIds.lookup "stage-name"
    stageHint := c.stageHint
    source := row.externalIds.lookup "source"
    originType := c.originType
    originUuid := c.originUuid
    externalIds := row.externalIds }

def orMinusOne : Option ℤ → ℤ
  | none => -1
  | some n => if n = 0 then -1 else n

def sortKey (flow : LogicalFlow) : ℤ ×ₗ ℤ ×ₗ String :=
  toLex (orMinusOne flow.tableId, toLex (-orMinusOne flow.priority, flow.uuid))

def sortFlows (flows : List LogicalFlow) : List LogicalFlow :=
  sortOn sortKey flows

def listLogicalFlows (nb : NbIdl) (sb : SbIdl) (tableId : Option ℤ)
    (origin : Option LogicalFlowOriginFilter) (originUuid : Option String) : List LogicalFlow :=
  let indexes := originIndexes nb
  let normalizedOriginUuid := normalizeUuid originUuid
  sortFlows (sb.logicalFlow.filterMap fun row =>
    if tableId ≠ none ∧ some row.tableId ≠ tableId then none
    else
      let c := classifyRow indexes row
      if !matchesOriginFilter c.originType origin then none
      else if normalizedOriginUuid ≠ none ∧ c.originUuid ≠ normalizedOriginUuid then none
      else some (toLogicalFlow indexes row))

/-! ### The summary -/

structure LogicalFlowOriginSummary where
  logicalFlowCount : ℕ
  aclLogicalFlowCount : ℕ
  aclExactLogicalFlowCount : ℕ
  aclStageGenericLogicalFlowCount : ℕ
  natLogicalFlowCount : ℕ
  natExactLogicalFlowCount : ℕ
  natStageGenericLogicalFlowCount : ℕ
  otherLogicalFlowCount : ℕ
  aclCount : ℕ
  natCount : ℕ
  aclWithLogicalFlowsCount : ℕ
  natWithLogicalFlowsCount : ℕ
  deriving DecidableEq

structure Tally where
  totalCount : ℕ := 0
  flowCounts : Counter LogicalFlowOriginType := .empty
  aclFlowCounts : Counter String := .empty
  natFlowCounts : Counter String := .empty

def Tally.count (t : Tally) (c : Classification) : Tally :=
  let t := { t with totalCount := t.totalCount + 1, flowCounts := t.flowCounts.bump c.originType }
  match c.originType, c.originUuid with
  | .aclExact, some uuid => { t with aclFlowCounts := t.aclFlowCounts.bump uuid }
  | .natExact, some uuid => { t with natFlowCounts := t.natFlowCounts.bump uuid }
  | _, _ => t

def getLogicalFlowOriginSummary (nb : NbIdl) (sb : SbIdl) : LogicalFlowOriginSummary :=
  let indexes := originIndexes nb
  let t := sb.logicalFlow.foldl (fun (t : Tally) row => t.count (classifyRow indexes row)) {}
  { logicalFlowCount := t.totalCount
    aclLogicalFlowCount := t.flowCounts.get .aclExact + t.flowCounts.get .aclStageGeneric
    aclExactLogicalFlowCount := t.flowCounts.get .aclExact
    aclStageGenericLogicalFlowCount := t.flowCounts.get .aclStageGeneric
    natLogicalFlowCount := t.flowCounts.get .natExact + t.flowCounts.get .natStageGeneric
    natExactLogicalFlowCount := t.flowCounts.get .natExact
    natStageGenericLogicalFlowCount := t.flowCounts.get .natStageGeneric
    otherLogicalFlowCount := t.flowCounts.get .other
    aclCount := indexes.aclFullIds.length
    natCount := indexes.natFullIds.length
    aclWithLogicalFlowsCount := t.aclFlowCounts.rows.length
    natWithLogicalFlowsCount := t.natFlowCounts.rows.length }

/-! ### A listed flow passes the filters -/

/-- The flow passes all the filters that are given. -/
def Satisfies (tableId : Option ℤ) (origin : Option LogicalFlowOriginFilter)
    (originUuid : Option String) (flow : LogicalFlow) : Bool :=
  (tableId = none || flow.tableId = tableId) && matchesOriginFilter flow.originType origin &&
    (normalizeUuid originUuid = none || flow.originUuid = normalizeUuid originUuid)

/-- The order of the list: table ascending, priority descending, UUID ascending. -/
def Precedes (f g : LogicalFlow) : Prop :=
  f.tableId < g.tableId ∨ f.tableId = g.tableId ∧
    (g.priority < f.priority ∨ f.priority = g.priority ∧ f.uuid < g.uuid)

section List

variable {nb nb' : NbIdl} {sb sb' : SbIdl} {tableId : Option ℤ}
  {origin : Option LogicalFlowOriginFilter} {originUuid : Option String}

theorem satisfies_iff {flow : LogicalFlow} :
    Satisfies tableId origin originUuid flow = true ↔
      (tableId = none ∨ flow.tableId = tableId) ∧ matchesOriginFilter flow.originType origin ∧
        (normalizeUuid originUuid = none ∨ flow.originUuid = normalizeUuid originUuid) := by
  simp only [Satisfies, Bool.and_eq_true, Bool.or_eq_true, decide_eq_true_eq, and_assoc]

theorem satisfies_none (flow : LogicalFlow) : Satisfies none none none flow = true :=
  satisfies_iff.mpr ⟨.inl rfl, rfl, .inl rfl⟩

def allFlows (nb : NbIdl) (sb : SbIdl) : List LogicalFlow :=
  sb.logicalFlow.map (toLogicalFlow (originIndexes nb))

theorem listLogicalFlows_eq (nb : NbIdl) (sb : SbIdl) (tableId : Option ℤ)
    (origin : Option LogicalFlowOriginFilter) (originUuid : Option String) :
    listLogicalFlows nb sb tableId origin originUuid =
      sortFlows ((allFlows nb sb).filter (Satisfies tableId origin originUuid)) := by
  have hbody : ∀ row : LogicalFlowRow,
      (if tableId ≠ none ∧ some row.tableId ≠ tableId then none
        else if !matchesOriginFilter (classifyRow (originIndexes nb) row).originType origin then none
        else if normalizeUuid originUuid ≠ none ∧
          (classifyRow (originIndexes nb) row).originUuid ≠ normalizeUuid originUuid then none
        else some (toLogicalFlow (originIndexes nb) row)) =
      if Satisfies tableId origin originUuid (toLogicalFlow (originIndexes nb) row) then
        some (toLogicalFlow (originIndexes nb) row) else none := by
    intro row
    have hiff : Satisfies tableId origin originUuid (toLogicalFlow (originIndexes nb) row) = true ↔
        (tableId = none ∨ some row.tableId = tableId) ∧
          matchesOriginFilter (classifyRow (originIndexes nb) row).originType origin ∧
          (normalizeUuid originUuid = none ∨
            (classifyRow (originIndexes nb) row).originUuid = normalizeUuid originUuid) :=
      satisfies_iff
    by_cases htable : tableId ≠ none ∧ some row.tableId ≠ tableId
    · rw [if_pos htable, if_neg (by rw [hiff]; tauto)]
    by_cases horigin : matchesOriginFilter (classifyRow (originIndexes nb) row).originType origin
    · by_cases huuid : normalizeUuid originUuid ≠ none ∧
          (classifyRow (originIndexes nb) row).originUuid ≠ normalizeUuid originUuid
      · rw [if_neg htable, if_neg (by simpa using horigin), if_pos huuid,
          if_neg (by rw [hiff]; tauto)]
      · rw [if_neg htable, if_neg (by simpa using horigin), if_neg huuid,
          if_pos (by rw [hiff]; tauto)]
    · rw [if_neg htable, if_pos (by simpa using horigin), if_neg (by rw [hiff]; tauto)]
  unfold listLogicalFlows allFlows
  dsimp only
  simp only [hbody]
  congr 1
  induction sb.logicalFlow with
  | nil => rfl
  | cons row rows ih =>
    rw [List.filterMap_cons, List.map_cons, List.filter_cons, ih]
    split_ifs <;> rfl

/-! ### Sorting -/

theorem sortFlows_perm (fs : List LogicalFlow) : (sortFlows fs).Perm fs := perm_sortOn _ fs

theorem sortFlows_sorted (fs : List LogicalFlow) :
    (sortFlows fs).Pairwise fun f g => sortKey f ≤ sortKey g := pairwise_sortOn _ fs

/-- A sorted list of flows with distinct UUIDs is the sorted list of its flows. -/
theorem sortFlows_unique {fs gs : List LogicalFlow} (h : (fs.map LogicalFlow.uuid).Nodup)
    (hp : gs.Perm fs) (hs : gs.Pairwise fun f g => sortKey f ≤ sortKey g) : sortFlows fs = gs := by
  have hperm : (sortFlows fs).Perm fs := sortFlows_perm fs
  apply (hperm.trans hp.symm).eq_of_pairwise _ (sortFlows_sorted fs) hs
  intro f g hf hg hfg hgf
  have hkey : sortKey f = sortKey g := le_antisymm hfg hgf
  have huuid : f.uuid = g.uuid := by
    simp only [sortKey, EmbeddingLike.apply_eq_iff_eq, Prod.mk.injEq] at hkey
    exact hkey.2.2
  exact List.inj_on_of_nodup_map h (hperm.mem_iff.mp hf) (hp.mem_iff.mp hg) huuid

theorem orMinusOne_lt_iff {m n : ℤ} (hm : 0 ≤ m) (hn : 0 ≤ n) :
    orMinusOne (some m) < orMinusOne (some n) ↔ m < n := by
  simp only [orMinusOne]
  split_ifs <;> omega

theorem orMinusOne_inj_iff {m n : ℤ} (hm : 0 ≤ m) (hn : 0 ≤ n) :
    orMinusOne (some m) = orMinusOne (some n) ↔ m = n := by
  simp only [orMinusOne]
  split_ifs <;> omega

/-- The key keeps the order of tables and priorities, zero included. -/
theorem precedes_of_key_le {indexes : OriginIndexes} {row row' : LogicalFlowRow}
    (h : 0 ≤ row.tableId ∧ 0 ≤ row.priority) (h' : 0 ≤ row'.tableId ∧ 0 ≤ row'.priority)
    (hle : sortKey (toLogicalFlow indexes row) ≤ sortKey (toLogicalFlow indexes row'))
    (hne : row.uuid.text ≠ row'.uuid.text) :
    Precedes (toLogicalFlow indexes row) (toLogicalFlow indexes row') := by
  simp only [sortKey, toLogicalFlow, Prod.Lex.toLex_le_toLex, orMinusOne_lt_iff h.1 h'.1,
    orMinusOne_inj_iff h.1 h'.1, neg_lt_neg_iff, neg_inj, orMinusOne_lt_iff h'.2 h.2,
    orMinusOne_inj_iff h.2 h'.2] at hle
  simp only [Precedes, toLogicalFlow, Option.some_lt_some, Option.some.injEq]
  rcases hle with hlt | ⟨heq, hlt | ⟨heq', hle⟩⟩
  · exact .inl hlt
  · exact .inr ⟨heq, .inl hlt⟩
  · exact .inr ⟨heq, .inr ⟨heq', lt_of_le_of_ne hle hne⟩⟩

/-! ### The list does not depend on the order of the rows -/

theorem nodup_allFlows (h : (sb.logicalFlow.map LogicalFlowRow.uuid).Nodup) :
    ((allFlows nb sb).map LogicalFlow.uuid).Nodup := by
  have hmap : (allFlows nb sb).map LogicalFlow.uuid =
      (sb.logicalFlow.map LogicalFlowRow.uuid).map Uuid.text := by
    simp only [allFlows, List.map_map]
    rfl
  rw [hmap]
  exact h.map fun _ _ => Uuid.ext_text

theorem nodup_filter_allFlows (h : (sb.logicalFlow.map LogicalFlowRow.uuid).Nodup)
    {p : LogicalFlow → Bool} : (((allFlows nb sb).filter p).map LogicalFlow.uuid).Nodup :=
  (nodup_allFlows h).sublist (List.filter_sublist.map _)

theorem listLogicalFlows_filter (h : (sb.logicalFlow.map LogicalFlowRow.uuid).Nodup) :
    listLogicalFlows nb sb tableId origin originUuid =
      (listLogicalFlows nb sb none none none).filter (Satisfies tableId origin originUuid) := by
  have hall : (allFlows nb sb).filter (Satisfies none none none) = allFlows nb sb :=
    List.filter_eq_self.mpr fun flow _ => satisfies_none flow
  rw [listLogicalFlows_eq, listLogicalFlows_eq, hall]
  exact sortFlows_unique (nodup_filter_allFlows h) ((sortFlows_perm _).filter _) ((sortFlows_sorted _).filter _)

theorem listLogicalFlows_sorted (h : (sb.logicalFlow.map LogicalFlowRow.uuid).Nodup)
    (hschema : ∀ row ∈ sb.logicalFlow, 0 ≤ row.tableId ∧ 0 ≤ row.priority) :
    (listLogicalFlows nb sb tableId origin originUuid).Pairwise Precedes := by
  rw [listLogicalFlows_eq]
  have hperm := sortFlows_perm ((allFlows nb sb).filter (Satisfies tableId origin originUuid))
  have hsorted := sortFlows_sorted ((allFlows nb sb).filter (Satisfies tableId origin originUuid))
  have hne : (sortFlows ((allFlows nb sb).filter (Satisfies tableId origin originUuid))).Pairwise
      fun f g => f.uuid ≠ g.uuid :=
    List.pairwise_map.mp ((hperm.map LogicalFlow.uuid).nodup_iff.mpr (nodup_filter_allFlows h))
  apply (hsorted.and hne).imp_of_mem
  intro f g hf hg hfg
  have hrow : ∀ flow ∈ sortFlows ((allFlows nb sb).filter (Satisfies tableId origin originUuid)),
      ∃ row ∈ sb.logicalFlow, toLogicalFlow (originIndexes nb) row = flow := by
    intro flow hflow
    exact List.mem_map.mp (List.mem_of_mem_filter (hperm.mem_iff.mp hflow))
  obtain ⟨row, hmem, rfl⟩ := hrow f hf
  obtain ⟨row', hmem', rfl⟩ := hrow g hg
  exact precedes_of_key_le (hschema row hmem) (hschema row' hmem') hfg.1 hfg.2

theorem listLogicalFlows_perm (h : (sb.logicalFlow.map LogicalFlowRow.uuid).Nodup)
    (hacl : (nb.acl.map AclRow.uuid).Nodup) (hnat : (nb.nat.map NatRow.uuid).Nodup)
    (pacl : nb.acl.Perm nb'.acl) (pnat : nb.nat.Perm nb'.nat)
    (pflow : sb.logicalFlow.Perm sb'.logicalFlow) :
    listLogicalFlows nb sb tableId origin originUuid =
      listLogicalFlows nb' sb' tableId origin originUuid := by
  have hclass : ∀ row, toLogicalFlow (originIndexes nb) row = toLogicalFlow (originIndexes nb') row := by
    intro row
    have hsame : classifyRow (originIndexes nb) row = classifyRow (originIndexes nb') row :=
      classifyOrigin_perm hacl hnat pacl pnat
    simp only [toLogicalFlow, hsame]
  have hflows : (allFlows nb sb).Perm (allFlows nb' sb') := by
    unfold allFlows
    rw [List.map_congr_left fun row _ => hclass row]
    exact pflow.map _
  rw [listLogicalFlows_eq, listLogicalFlows_eq]
  exact sortFlows_unique (nodup_filter_allFlows h) ((sortFlows_perm _).trans (hflows.filter _).symm)
    (sortFlows_sorted _)

end List

/-! ### The counts of the summary -/

section Summary

variable {nb : NbIdl} {sb : SbIdl}

def Classification.aclOrigin (c : Classification) : Option String :=
  if c.originType = .aclExact then c.originUuid else none

def Classification.natOrigin (c : Classification) : Option String :=
  if c.originType = .natExact then c.originUuid else none

theorem foldl_count (cs : List Classification) (t : Tally) :
    cs.foldl Tally.count t =
      { totalCount := t.totalCount + cs.length
        flowCounts := (cs.map Classification.originType).foldl Counter.bump t.flowCounts
        aclFlowCounts := (cs.filterMap Classification.aclOrigin).foldl Counter.bump t.aclFlowCounts
        natFlowCounts :=
          (cs.filterMap Classification.natOrigin).foldl Counter.bump t.natFlowCounts } := by
  induction cs generalizing t with
  | nil => rfl
  | cons c cs ih =>
    rw [List.foldl_cons, ih]
    obtain ⟨stageHint, originType, originUuid⟩ := c
    cases originType <;> cases originUuid <;>
      simp [Tally.count, Classification.aclOrigin, Classification.natOrigin, Nat.add_assoc,
        Nat.add_comm 1]

def classifications (nb : NbIdl) (sb : SbIdl) : List Classification :=
  sb.logicalFlow.map (classifyRow (originIndexes nb))

def finalTally (nb : NbIdl) (sb : SbIdl) : Tally := (classifications nb sb).foldl Tally.count {}

theorem length_listLogicalFlows (origin : Option LogicalFlowOriginFilter) :
    (listLogicalFlows nb sb none origin none).length =
      (classifications nb sb).countP fun c => matchesOriginFilter c.originType origin := by
  rw [listLogicalFlows_eq, (sortFlows_perm _).length_eq, ← List.countP_eq_length_filter, allFlows,
    classifications, List.countP_map, List.countP_map]
  apply List.countP_congr
  intro row _
  rw [Function.comp_apply, satisfies_iff]
  constructor
  · exact fun h => h.2.1
  · exact fun h => ⟨.inl rfl, h, .inl rfl⟩

theorem get_flowCounts (originType : LogicalFlowOriginType) :
    (finalTally nb sb).flowCounts.get originType =
      (classifications nb sb).countP fun c => c.originType = originType := by
  rw [finalTally, foldl_count, Counter.get_foldl_bump, Counter.get_empty, Nat.zero_add, List.count,
    List.countP_map]
  rfl

/-- Every flow has one origin type. -/
theorem countP_originType (cs : List Classification) :
    (cs.countP fun c => matchesOriginFilter c.originType (some .acl)) =
        (cs.countP fun c => c.originType = .aclExact) +
          cs.countP (fun c => c.originType = .aclStageGeneric) ∧
      (cs.countP fun c => matchesOriginFilter c.originType (some .nat)) =
        (cs.countP fun c => c.originType = .natExact) +
          cs.countP (fun c => c.originType = .natStageGeneric) ∧
      (cs.countP fun c => c.originType = .aclExact) +
          cs.countP (fun c => c.originType = .aclStageGeneric) +
          (cs.countP (fun c => c.originType = .natExact) +
            cs.countP fun c => c.originType = .natStageGeneric) +
          cs.countP (fun c => c.originType = .other) = cs.length := by
  induction cs with
  | nil => exact ⟨rfl, rfl, rfl⟩
  | cons c cs ih =>
    obtain ⟨hacl, hnat, hall⟩ := ih
    simp only [List.countP_cons, List.length_cons]
    cases h : c.originType <;> simp [matchesOriginFilter] at hacl hnat ⊢ <;> omega

theorem origin_mem (hacl : (nb.acl.map AclRow.uuid).Nodup) (hnat : (nb.nat.map NatRow.uuid).Nodup)
    {c : Classification} (hc : c ∈ classifications nb sb) {k : String} (hk : c.originUuid = some k) :
    (c.originType = .aclExact ∧ ∃ row ∈ nb.acl, row.uuid.text = k) ∨
      c.originType = .natExact ∧ ∃ row ∈ nb.nat, row.uuid.text = k := by
  obtain ⟨flow, -, rfl⟩ := List.mem_map.mp hc
  have hmem : ∀ {us : List Uuid} {hint : Option String} {u : Uuid}, fitting hint us = [u] → u ∈ us := by
    intro us hint u h
    have hu : u ∈ fitting hint us := by rw [h]; exact List.mem_singleton_self u
    exact List.mem_of_mem_filter hu
  rcases classifyOrigin_cases _ _ hacl hnat with ⟨u, hfit, htype, huuid⟩ | ⟨u, -, hfit, htype, huuid⟩ |
    ⟨-, -, -, hnone⟩
  · obtain ⟨row, hrow, rfl⟩ := List.mem_map.mp (hmem hfit)
    exact .inl ⟨htype, row, hrow, Option.some.inj (huuid.symm.trans hk)⟩
  · obtain ⟨row, hrow, rfl⟩ := List.mem_map.mp (hmem hfit)
    exact .inr ⟨htype, row, hrow, Option.some.inj (huuid.symm.trans hk)⟩
  · exact absurd (hnone.symm.trans hk) (by simp)

/-- The list under a UUID has a flow if some flow is attributed to that row. -/
theorem listLogicalFlows_ne_nil_iff (u : Uuid) :
    listLogicalFlows nb sb none none (some u.text) ≠ [] ↔
      ∃ c ∈ classifications nb sb, c.originUuid = some u.text := by
  rw [listLogicalFlows_eq, Ne, ← List.length_eq_zero_iff, (sortFlows_perm _).length_eq,
    List.length_eq_zero_iff, List.filter_eq_nil_iff]
  simp only [satisfies_iff, normalizeUuid_text, allFlows, classifications, List.mem_map,
    not_forall, not_not]
  constructor
  · rintro ⟨flow, ⟨row, hrow, rfl⟩, -, -, huuid⟩
    exact ⟨_, ⟨row, hrow, rfl⟩, huuid.resolve_left (by simp)⟩
  · rintro ⟨c, ⟨row, hrow, rfl⟩, huuid⟩
    exact ⟨_, ⟨row, hrow, rfl⟩, .inl trivial, rfl, .inr huuid⟩

/-- A dictionary of counts has as many keys as there are rows with a flow, if its keys are
the UUIDs of such rows. -/
theorem length_rows_eq {ρ : Type} {counts : Counter String} {rows : List ρ} {uuid : ρ → Uuid}
    {p : ρ → Bool} (hrows : (rows.map uuid).Nodup)
    (hkeys : ∀ k, k ∈ counts.keys ↔ ∃ row ∈ rows, p row = true ∧ (uuid row).text = k) :
    counts.rows.length = (rows.filter p).length := by
  have hnodup : ((rows.filter p).map fun row => (uuid row).text).Nodup := by
    have hsub : ((rows.filter p).map uuid).Nodup := hrows.sublist (List.filter_sublist.map _)
    have hmap := hsub.map (f := Uuid.text) fun _ _ => Uuid.ext_text
    rwa [List.map_map] at hmap
  have hperm : counts.keys.Perm ((rows.filter p).map fun row => (uuid row).text) := by
    apply (List.perm_ext_iff_of_nodup counts.nodup hnodup).mpr
    intro k
    change k ∈ counts.keys ↔ _
    rw [hkeys, List.mem_map]
    simp only [List.mem_filter, and_assoc]
  have hlen := hperm.length_eq
  rwa [Counter.keys, List.length_map, List.length_map] at hlen

end Summary

/-! ### Agreement -/

/-- The list and the summary show the same flows. -/
structure FlowsAgree (nb : NbIdl) (sb : SbIdl) : Prop where
  /-- Without a filter every flow is listed. -/
  complete : (listLogicalFlows nb sb none none none).Perm (allFlows nb sb)
  filtered : ∀ tableId origin originUuid, listLogicalFlows nb sb tableId origin originUuid =
    (listLogicalFlows nb sb none none none).filter (Satisfies tableId origin originUuid)
  sorted : ∀ tableId origin originUuid,
    (listLogicalFlows nb sb tableId origin originUuid).Pairwise Precedes
  anyOrder : ∀ nb' sb', nb.acl.Perm nb'.acl → nb.nat.Perm nb'.nat →
    sb.logicalFlow.Perm sb'.logicalFlow → ∀ tableId origin originUuid,
      listLogicalFlows nb sb tableId origin originUuid =
        listLogicalFlows nb' sb' tableId origin originUuid
  total : (getLogicalFlowOriginSummary nb sb).logicalFlowCount =
    (listLogicalFlows nb sb none none none).length
  aclExact : (getLogicalFlowOriginSummary nb sb).aclExactLogicalFlowCount =
    (listLogicalFlows nb sb none (some .aclExact) none).length
  aclStageGeneric : (getLogicalFlowOriginSummary nb sb).aclStageGenericLogicalFlowCount =
    (listLogicalFlows nb sb none (some .aclStageGeneric) none).length
  natExact : (getLogicalFlowOriginSummary nb sb).natExactLogicalFlowCount =
    (listLogicalFlows nb sb none (some .natExact) none).length
  natStageGeneric : (getLogicalFlowOriginSummary nb sb).natStageGenericLogicalFlowCount =
    (listLogicalFlows nb sb none (some .natStageGeneric) none).length
  other : (getLogicalFlowOriginSummary nb sb).otherLogicalFlowCount =
    (listLogicalFlows nb sb none (some .other) none).length
  acl : (getLogicalFlowOriginSummary nb sb).aclLogicalFlowCount =
    (listLogicalFlows nb sb none (some .acl) none).length
  nat : (getLogicalFlowOriginSummary nb sb).natLogicalFlowCount =
    (listLogicalFlows nb sb none (some .nat) none).length
  partition : (getLogicalFlowOriginSummary nb sb).aclLogicalFlowCount +
      (getLogicalFlowOriginSummary nb sb).natLogicalFlowCount +
      (getLogicalFlowOriginSummary nb sb).otherLogicalFlowCount =
    (getLogicalFlowOriginSummary nb sb).logicalFlowCount
  aclWithFlows : (getLogicalFlowOriginSummary nb sb).aclWithLogicalFlowsCount =
    (nb.acl.filter fun row =>
      listLogicalFlows nb sb none none (some row.uuid.text) ≠ []).length
  natWithFlows : (getLogicalFlowOriginSummary nb sb).natWithLogicalFlowsCount =
    (nb.nat.filter fun row =>
      listLogicalFlows nb sb none none (some row.uuid.text) ≠ []).length

theorem getLogicalFlowOriginSummary_tally (nb : NbIdl) (sb : SbIdl) :
    sb.logicalFlow.foldl (fun (t : Tally) row => t.count (classifyRow (originIndexes nb) row)) {} =
      finalTally nb sb :=
  List.foldl_map.symm

section Agreement

variable {nb : NbIdl} {sb : SbIdl}

/-- If an attribution names the rows of a table that are origins, the keys of its counts are
the rows under which some flow is listed. -/
theorem keys_of_origin {ρ : Type} {rows : List ρ} {uuid : ρ → Uuid}
    {origin : Classification → Option String}
    (horigin : ∀ c ∈ classifications nb sb, ∀ k, origin c = some k ↔
      c.originUuid = some k ∧ ∃ row ∈ rows, (uuid row).text = k) (k : String) :
    k ∈ (((classifications nb sb).filterMap origin).foldl Counter.bump .empty).keys ↔
      ∃ row ∈ rows, decide (listLogicalFlows nb sb none none (some (uuid row).text) ≠ []) = true ∧
        (uuid row).text = k := by
  rw [Counter.mem_keys_foldl_bump]
  simp only [Counter.keys_empty, List.not_mem_nil, false_or, List.mem_filterMap, decide_eq_true_eq,
    listLogicalFlows_ne_nil_iff]
  constructor
  · rintro ⟨c, hc, hk⟩
    obtain ⟨huuid, row, hrow, rfl⟩ := (horigin c hc k).mp hk
    exact ⟨row, hrow, ⟨c, hc, huuid⟩, rfl⟩
  · rintro ⟨row, hrow, ⟨c, hc, huuid⟩, rfl⟩
    exact ⟨c, hc, (horigin c hc _).mpr ⟨huuid, row, hrow, rfl⟩⟩

variable (hnb : (nb.acl.map AclRow.uuid ++ nb.nat.map NatRow.uuid).Nodup)

include hnb

theorem aclOrigin_eq_some_iff {c : Classification} (hc : c ∈ classifications nb sb) (k : String) :
    c.aclOrigin = some k ↔ c.originUuid = some k ∧ ∃ row ∈ nb.acl, row.uuid.text = k := by
  obtain ⟨hacl, hnat, hdisj⟩ := List.nodup_append.mp hnb
  unfold Classification.aclOrigin
  constructor
  · intro h
    split_ifs at h with htype
    rcases origin_mem hacl hnat hc h with ⟨-, hrow⟩ | ⟨hother, -⟩
    · exact ⟨h, hrow⟩
    · exact absurd (htype.symm.trans hother) (by decide)
  · rintro ⟨huuid, row, hrow, rfl⟩
    rcases origin_mem hacl hnat hc huuid with ⟨htype, -⟩ | ⟨-, row', hrow', htext⟩
    · rw [if_pos htype, huuid]
    · exact absurd (Uuid.ext_text htext).symm
        (hdisj _ (List.mem_map_of_mem hrow) _ (List.mem_map_of_mem hrow'))

theorem natOrigin_eq_some_iff {c : Classification} (hc : c ∈ classifications nb sb) (k : String) :
    c.natOrigin = some k ↔ c.originUuid = some k ∧ ∃ row ∈ nb.nat, row.uuid.text = k := by
  obtain ⟨hacl, hnat, hdisj⟩ := List.nodup_append.mp hnb
  unfold Classification.natOrigin
  constructor
  · intro h
    split_ifs at h with htype
    rcases origin_mem hacl hnat hc h with ⟨hother, -⟩ | ⟨-, hrow⟩
    · exact absurd (htype.symm.trans hother) (by decide)
    · exact ⟨h, hrow⟩
  · rintro ⟨huuid, row, hrow, rfl⟩
    rcases origin_mem hacl hnat hc huuid with ⟨-, row', hrow', htext⟩ | ⟨htype, -⟩
    · exact absurd (Uuid.ext_text htext)
        (hdisj _ (List.mem_map_of_mem hrow') _ (List.mem_map_of_mem hrow))
    · rw [if_pos htype, huuid]

end Agreement

/-- For any content of the two databases with distinct UUIDs, and tables and priorities as
the schema has them. -/
theorem flows_agree (nb : NbIdl) (sb : SbIdl)
    (hnb : (nb.acl.map AclRow.uuid ++ nb.nat.map NatRow.uuid).Nodup)
    (hsb : (sb.logicalFlow.map LogicalFlowRow.uuid).Nodup)
    (hschema : ∀ row ∈ sb.logicalFlow, 0 ≤ row.tableId ∧ 0 ≤ row.priority) : FlowsAgree nb sb := by
  obtain ⟨hacl, hnat, -⟩ := List.nodup_append.mp hnb
  have htally := getLogicalFlowOriginSummary_tally nb sb
  obtain ⟨hsumacl, hsumnat, hsum⟩ := countP_originType (classifications nb sb)
  have htotal : (finalTally nb sb).totalCount = (classifications nb sb).length := by
    rw [finalTally, foldl_count]
    exact Nat.zero_add _
  constructor
  case complete =>
    rw [listLogicalFlows_eq]
    apply (sortFlows_perm _).trans
    rw [List.filter_eq_self.mpr fun flow _ => satisfies_none flow]
  case filtered => exact fun _ _ _ => listLogicalFlows_filter hsb
  case sorted => exact fun _ _ _ => listLogicalFlows_sorted hsb hschema
  case anyOrder =>
    exact fun _ _ pacl pnat pflow _ _ _ => listLogicalFlows_perm hsb hacl hnat pacl pnat pflow
  case aclWithFlows =>
    simp only [getLogicalFlowOriginSummary, htally]
    rw [finalTally, foldl_count]
    exact length_rows_eq hacl (keys_of_origin fun c hc => aclOrigin_eq_some_iff hnb hc)
  case natWithFlows =>
    simp only [getLogicalFlowOriginSummary, htally]
    rw [finalTally, foldl_count]
    exact length_rows_eq hnat (keys_of_origin fun c hc => natOrigin_eq_some_iff hnb hc)
  case total =>
    simp only [getLogicalFlowOriginSummary, htally, htotal, length_listLogicalFlows]
    simp [matchesOriginFilter]
  case partition =>
    simp only [getLogicalFlowOriginSummary, htally, get_flowCounts, htotal]
    exact hsum
  case acl =>
    simp only [getLogicalFlowOriginSummary, htally, get_flowCounts, length_listLogicalFlows]
    exact hsumacl.symm
  case nat =>
    simp only [getLogicalFlowOriginSummary, htally, get_flowCounts, length_listLogicalFlows]
    exact hsumnat.symm
  all_goals
    simp only [getLogicalFlowOriginSummary, htally, get_flowCounts, length_listLogicalFlows,
      matchesOriginFilter]

/-- A content with a flow of each exact kind, one without an origin, and a NAT without flows. -/
def sampleNb : NbIdl where
  acl := [aclOf (.uniform 1)]
  nat := [natOf (.uniform 2), natOf (.uniform 3)]

def sampleSb : SbIdl where
  logicalFlow :=
    [⟨.uniform 4, [], 0, 100, "ip4", "drop;", [("stage-hint", "11111111")]⟩,
      ⟨.uniform 5, [], 0, 0, "ip4", "ct_snat;", [("stage-hint", "22222222")]⟩,
      ⟨.uniform 6, [], 0, 100, "1", "next;", []⟩]

theorem flows_agree_sample : FlowsAgree sampleNb sampleSb :=
  flows_agree sampleNb sampleSb (by decide +kernel) (by decide +kernel) (by decide +kernel)

end OvnApi.Flows
