import Mathlib.Data.List.Dedup
import OvnApi.Lib.UniqueIndex
import OvnApi.Traces.Evidence

/-! The origin of a logical flow. The stage hint of a flow is a UUID or the first segment
of one. It is looked up among the ACLs and then among the NATs, in an index of full UUIDs
and in one of the segments that only one row of the table has; a flow whose hint leads
nowhere is classified by the name of its stage. -/

namespace OvnApi.Flows

open OvnApi.Core Lib Traces

/-! ### Classification -/

inductive LogicalFlowOriginType where
  | aclExact | aclStageGeneric | natExact | natStageGeneric | other
  deriving DecidableEq, Repr

def aclStageNames : List String :=
  ["ls_in_pre_acl", "ls_out_pre_acl", "ls_in_acl_hint", "ls_out_acl_hint", "ls_in_acl_eval",
    "ls_out_acl_eval", "ls_in_acl_sample", "ls_out_acl_sample", "ls_in_acl_action",
    "ls_out_acl_action", "ls_in_acl_after_lb_eval", "ls_in_acl_after_lb_sample",
    "ls_in_acl_after_lb_action"]

def natStageNames : List String :=
  ["ls_in_nat_hairpin", "lr_in_unsnat", "lr_in_post_unsnat", "lr_in_dnat", "lr_out_undnat",
    "lr_out_post_undnat", "lr_out_snat", "lr_out_post_snat"]

def buildUniquePrefixIndex (uuidValues : List String) : Dict := uniqueIndex uuidPrefix uuidValues

/-- The four dictionaries of `_origin_indexes`. -/
structure OriginIndexes where
  aclFullIds : Dict
  aclPrefixIds : Dict
  natFullIds : Dict
  natPrefixIds : Dict

def originIds (uuids : List Uuid) : List String :=
  (uuids.filterMap fun u => normalizeUuid (some u.text)).dedup

/-- `{uuid: uuid for uuid in ids}`. -/
def fullIds (ids : List String) : Dict := ids.map fun u => (u, u)

def originIndexes (idl : NbIdl) : OriginIndexes :=
  let aclIds := originIds (idl.acl.map AclRow.uuid)
  let natIds := originIds (idl.nat.map NatRow.uuid)
  { aclFullIds := fullIds aclIds
    aclPrefixIds := buildUniquePrefixIndex aclIds
    natFullIds := fullIds natIds
    natPrefixIds := buildUniquePrefixIndex natIds }

def resolveOriginUuid (stageHint : Option String) (full prefixes : Dict) : Option String :=
  stageHint.bind fun hint => (full.lookup hint).or (prefixes.lookup hint)

def isAclStage (stageName : Option String) : Bool := stageName.any fun name => name ∈ aclStageNames

def isNatStage (stageName : Option String) : Bool := stageName.any fun name => name ∈ natStageNames

structure Classification where
  stageHint : Option String
  originType : LogicalFlowOriginType
  originUuid : Option String
  deriving DecidableEq

def classifyOrigin (stageName : Option String) (externalIds : Dict) (indexes : OriginIndexes) :
    Classification :=
  let stageHint := normalizeUuid (externalIds.lookup "stage-hint")
  match resolveOriginUuid stageHint indexes.aclFullIds indexes.aclPrefixIds with
  | some uuid => ⟨stageHint, .aclExact, some uuid⟩
  | none =>
    match resolveOriginUuid stageHint indexes.natFullIds indexes.natPrefixIds with
    | some uuid => ⟨stageHint, .natExact, some uuid⟩
    | none =>
      if isAclStage stageName then ⟨stageHint, .aclStageGeneric, none⟩
      else if isNatStage stageName then ⟨stageHint, .natStageGeneric, none⟩
      else ⟨stageHint, .other, none⟩

/-! ### The rows a hint fits -/

/-- The hint is the UUID or its first segment. -/
def Fits (stageHint : Option String) (u : Uuid) : Prop :=
  stageHint = some u.text ∨ stageHint = some u.firstSegment

instance Fits.decidable (stageHint : Option String) (u : Uuid) : Decidable (Fits stageHint u) :=
  inferInstanceAs (Decidable (_ ∨ _))

def fitting (stageHint : Option String) (uuids : List Uuid) : List Uuid :=
  uuids.filter fun u => Fits stageHint u

theorem normalizeUuid_text (u : Uuid) : normalizeUuid (some u.text) = some u.text := by
  have hne : u.text ≠ "" := by
    intro h
    have hlen := length_text u
    rw [h] at hlen
    exact absurd hlen (by decide)
  simp [normalizeUuid, u.strip_text, u.lower_text, hne]

theorem originIds_eq {uuids : List Uuid} (h : uuids.Nodup) :
    originIds uuids = uuids.map Uuid.text := by
  have hmap : (uuids.filterMap fun u => normalizeUuid (some u.text)) = uuids.map Uuid.text := by
    simp only [normalizeUuid_text]
    rw [List.filterMap_eq_map']
  rw [originIds, hmap]
  exact (h.map fun _ _ => Uuid.ext_text).dedup

/-- A segment is shorter than a UUID. -/
theorem text_ne_firstSegment (u v : Uuid) : u.text ≠ v.firstSegment := by
  intro h
  have hlen := length_text u
  rw [h, length_firstSegment] at hlen
  exact absurd hlen (by decide)

theorem lookup_fullIds (ids : List String) (k : String) :
    (fullIds ids).lookup k = ids.find? (· = k) :=
  lookup_map_key id ids k

/-- A hint resolves in a table to the only row it fits. -/
theorem resolveOriginUuid_eq {uuids : List Uuid} (h : uuids.Nodup) (stageHint : Option String) :
    resolveOriginUuid stageHint (fullIds (originIds uuids))
        (buildUniquePrefixIndex (originIds uuids)) =
      (sole (fitting stageHint uuids)).map Uuid.text := by
  rw [originIds_eq h]
  cases stageHint with
  | none => simp [resolveOriginUuid, fitting, Fits]
  | some hint =>
    rw [resolveOriginUuid, Option.bind_some, lookup_fullIds, buildUniquePrefixIndex,
      lookup_uniqueIndex, List.filter_map, sole_map, List.find?_map]
    by_cases hfull : ∃ v ∈ uuids, v.text = hint
    · obtain ⟨v, hv, rfl⟩ := hfull
      -- a full UUID fits its own row only
      have hfits : fitting (some v.text) uuids = uuids.filter (· = v) := by
        apply List.filter_congr
        intro u _
        have hseg := text_ne_firstSegment v u
        have htext : v.text = u.text ↔ u = v :=
          ⟨fun he => (Uuid.ext_text he).symm, fun he => he ▸ rfl⟩
        simp [Fits, hseg, htext]
      have hone : uuids.filter (· = v) = [v] := by
        rw [List.filter_eq, h.count, if_pos hv]
        rfl
      have hfind : uuids.find? ((fun u => decide (u = v.text)) ∘ Uuid.text) = some v := by
        have hsame : ((fun u => decide (u = v.text)) ∘ Uuid.text) = fun u => decide (u = v) := by
          funext u
          have : u.text = v.text ↔ u = v := ⟨Uuid.ext_text, fun he => he ▸ rfl⟩
          simp [this]
        rw [hsame, ← List.head?_filter, hone]
        rfl
      rw [hfind, hfits, hone]
      rfl
    · have hfind : uuids.find? ((fun u => decide (u = hint)) ∘ Uuid.text) = none := by
        rw [List.find?_eq_none]
        intro u hu
        simpa using fun he => hfull ⟨u, hu, he⟩
      have hfits : fitting (some hint) uuids =
          uuids.filter ((fun u => decide (uuidPrefix u = hint)) ∘ Uuid.text) := by
        apply List.filter_congr
        intro u hu
        have hne : hint ≠ u.text := fun he => hfull ⟨u, hu, he.symm⟩
        have hsegment : uuidPrefix u.text = u.firstSegment := rfl
        simp [Fits, hne, hsegment, eq_comm]
      rw [hfind, hfits]
      rfl

section Classified

variable {idl : NbIdl} {stageName : Option String} {externalIds : Dict}

def fittingAcls (idl : NbIdl) (externalIds : Dict) : List Uuid :=
  fitting (normalizeUuid (externalIds.lookup "stage-hint")) (idl.acl.map AclRow.uuid)

def fittingNats (idl : NbIdl) (externalIds : Dict) : List Uuid :=
  fitting (normalizeUuid (externalIds.lookup "stage-hint")) (idl.nat.map NatRow.uuid)

/-- What the classification says of a flow: the only fitting ACL, else the only fitting
NAT, else no origin. -/
theorem classifyOrigin_cases (stageName : Option String) (externalIds : Dict) (hacl : (idl.acl.map AclRow.uuid).Nodup)
    (hnat : (idl.nat.map NatRow.uuid).Nodup) :
    (∃ u, fittingAcls idl externalIds = [u] ∧
        (classifyOrigin stageName externalIds (originIndexes idl)).originType = .aclExact ∧
        (classifyOrigin stageName externalIds (originIndexes idl)).originUuid = some u.text) ∨
      (∃ u, (fittingAcls idl externalIds).length ≠ 1 ∧ fittingNats idl externalIds = [u] ∧
        (classifyOrigin stageName externalIds (originIndexes idl)).originType = .natExact ∧
        (classifyOrigin stageName externalIds (originIndexes idl)).originUuid = some u.text) ∨
      ((fittingAcls idl externalIds).length ≠ 1 ∧ (fittingNats idl externalIds).length ≠ 1 ∧
        (classifyOrigin stageName externalIds (originIndexes idl)).originType ∉
          [LogicalFlowOriginType.aclExact, .natExact] ∧
        (classifyOrigin stageName externalIds (originIndexes idl)).originUuid = none) := by
  have hlen : ∀ us : List Uuid, sole us = none → us.length ≠ 1 := by
    intro us hnone hone
    obtain ⟨u, rfl⟩ := List.length_eq_one_iff.mp hone
    cases hnone
  simp only [classifyOrigin, originIndexes, resolveOriginUuid_eq hacl, resolveOriginUuid_eq hnat]
  change (∃ u, _ ∧ _) ∨ _
  cases ha : sole (fittingAcls idl externalIds) with
  | some u =>
    left
    unfold fittingAcls at ha
    exact ⟨u, sole_eq_some_iff.mp ha, by rw [ha]; rfl, by rw [ha]; rfl⟩
  | none =>
    right
    have hla := hlen _ ha
    unfold fittingAcls at ha
    cases hn : sole (fittingNats idl externalIds) with
    | some u =>
      left
      unfold fittingNats at hn
      exact ⟨u, hla, sole_eq_some_iff.mp hn, by rw [ha, hn]; rfl, by rw [ha, hn]; rfl⟩
    | none =>
      right
      refine ⟨hla, hlen _ hn, ?_⟩
      unfold fittingNats at hn
      rw [ha, hn]
      dsimp only [Option.map_none]
      split_ifs <;> simp

/-- The order of the rows in the tables does not matter. -/
theorem classifyOrigin_perm {idl' : NbIdl} (hacl : (idl.acl.map AclRow.uuid).Nodup)
    (hnat : (idl.nat.map NatRow.uuid).Nodup) (pacl : idl.acl.Perm idl'.acl)
    (pnat : idl.nat.Perm idl'.nat) :
    classifyOrigin stageName externalIds (originIndexes idl) =
      classifyOrigin stageName externalIds (originIndexes idl') := by
  have hacl' : (idl'.acl.map AclRow.uuid).Nodup := (pacl.map _).nodup_iff.mp hacl
  have hnat' : (idl'.nat.map NatRow.uuid).Nodup := (pnat.map _).nodup_iff.mp hnat
  have hsole : ∀ {us vs : List Uuid} (hint : Option String), us.Perm vs →
      sole (fitting hint us) = sole (fitting hint vs) :=
    fun _ p => sole_perm (p.filter _)
  simp only [classifyOrigin, originIndexes, resolveOriginUuid_eq hacl, resolveOriginUuid_eq hnat,
    resolveOriginUuid_eq hacl', resolveOriginUuid_eq hnat', hsole _ (pacl.map AclRow.uuid),
    hsole _ (pnat.map NatRow.uuid)]

end Classified

/-! ### Exact attribution -/

def Classification.IsExact (c : Classification) (u : Uuid) : Prop :=
  (c.originType = .aclExact ∨ c.originType = .natExact) ∧ c.originUuid = some u.text

/-- A flow is attributed to a row exactly if the row is the only one of all ACLs and NATs
that its hint fits, and not at all exactly if two or more do. -/
def Unambiguous (idl : NbIdl) (stageName : Option String) (externalIds : Dict) : Prop :=
  (∀ u, (classifyOrigin stageName externalIds (originIndexes idl)).IsExact u ↔
    fittingAcls idl externalIds ++ fittingNats idl externalIds = [u]) ∧
  (2 ≤ (fittingAcls idl externalIds ++ fittingNats idl externalIds).length →
    (classifyOrigin stageName externalIds (originIndexes idl)).originType ∉
      [LogicalFlowOriginType.aclExact, .natExact])

/-- Attribution is unambiguous except where the hint fits one row of one table and some
row of the other, for the tables are searched one after the other. -/
theorem unambiguous_iff (idl : NbIdl) (stageName : Option String) (externalIds : Dict)
    (hacl : (idl.acl.map AclRow.uuid).Nodup) (hnat : (idl.nat.map NatRow.uuid).Nodup) :
    Unambiguous idl stageName externalIds ↔
      ((fittingAcls idl externalIds).length = 1 → fittingNats idl externalIds = []) ∧
      ((fittingNats idl externalIds).length = 1 → fittingAcls idl externalIds = []) := by
  unfold Unambiguous
  generalize hc : classifyOrigin stageName externalIds (originIndexes idl) = c
  have hcases := classifyOrigin_cases stageName externalIds hacl hnat
  rw [hc] at hcases
  generalize fittingAcls idl externalIds = acls at hcases ⊢
  generalize fittingNats idl externalIds = nats at hcases ⊢
  rcases hcases with ⟨u, rfl, htype, huuid⟩ | ⟨u, hacls, rfl, htype, huuid⟩ |
    ⟨hacls, hnats, htype, huuid⟩
  · have hexact : ∀ v, c.IsExact v ↔ u = v := by
      intro v
      simp only [Classification.IsExact, htype, huuid, true_or, true_and, Option.some.injEq]
      exact ⟨Uuid.ext_text, fun h => h ▸ rfl⟩
    simp only [hexact, htype]
    constructor
    · intro h
      have hone : [u] ++ nats = [u] := (h.1 u).mp rfl
      have hnone : nats = [] := by simpa using hone
      simp [hnone]
    · intro h
      have hnone : nats = [] := h.1 rfl
      simp [hnone]
  · have hexact : ∀ v, c.IsExact v ↔ u = v := by
      intro v
      simp only [Classification.IsExact, htype, huuid, or_true, true_and, Option.some.injEq]
      exact ⟨Uuid.ext_text, fun h => h ▸ rfl⟩
    simp only [hexact, htype]
    constructor
    · intro h
      have hone : acls ++ [u] = [u] := (h.1 u).mp rfl
      have hnone : acls = [] := by simpa using hone
      simp [hnone]
    · intro h
      have hnone : acls = [] := h.2 rfl
      simp [hnone]
  · have hexact : ∀ v, ¬c.IsExact v := by
      intro v h
      rw [Classification.IsExact, huuid] at h
      exact absurd h.2 (by simp)
    refine iff_of_true ⟨fun v => ⟨fun h => absurd h (hexact v), fun h => ?_⟩, fun _ => htype⟩
      ⟨fun h => absurd h hacls, fun h => absurd h hnats⟩
    have hlen : acls.length + nats.length = 1 := by rw [← List.length_append, h]; rfl
    omega

/-- A UUID with the first segment of `Uuid.uniform 0`. -/
def zeroSibling : Uuid := ⟨"00000000-0000-0000-0000-000000000001", by decide⟩

def aclOf (u : Uuid) : AclRow := ⟨u, [], "to-lport", 1001, "ip4"⟩

def natOf (u : Uuid) : NatRow := ⟨u, "snat", "203.0.113.1", "198.19.1.1"⟩

def pairedIdl : NbIdl where
  acl := [aclOf (.uniform 0), aclOf zeroSibling]
  nat := [natOf (.uniform 0), natOf zeroSibling]

def crossedIdl : NbIdl where
  acl := [aclOf (.uniform 0)]
  nat := [natOf zeroSibling]

def zeroHint : Dict := [("stage-hint", "00000000")]

theorem unambiguous_paired : Unambiguous pairedIdl (some "lr_out_snat") zeroHint :=
  (unambiguous_iff _ _ _ (by decide +kernel) (by decide +kernel)).mpr
    ⟨fun h => absurd h (by decide +kernel), fun h => absurd h (by decide +kernel)⟩

/-- The flow is attributed to the ACL, although its hint fits the NAT as well. -/
theorem ambiguous_crossed :
    (classifyOrigin (some "lr_out_snat") zeroHint (originIndexes crossedIdl)).IsExact
        (.uniform 0) ∧
      ¬Unambiguous crossedIdl (some "lr_out_snat") zeroHint := by
  refine ⟨⟨.inl (by decide +kernel), by decide +kernel⟩, fun h => ?_⟩
  exact h.2 (by decide +kernel) (by decide +kernel)

end OvnApi.Flows
