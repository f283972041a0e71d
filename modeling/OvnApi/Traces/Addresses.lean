import OvnApi.Lib.Occurrence
import OvnApi.Traces.Build
import OvnApi.Traces.Evidence

/-! Flows as evidence by address. The finders search the text of a flow for the
addresses of the probe as substrings. A flow mentions an address if it holds it as
a complete dotted number, and embeds it if it holds it inside a longer one, as
198.18.193.10 holds 198.18.193.1. The finders take both for evidence, so they are
sound for the flows that mention nothing of the probe exactly if none of them
embeds one of its addresses. -/

namespace OvnApi.Traces

open OvnApi.Core Lib

/-! ### Complete and embedded addresses -/

def isDecimal (c : Char) : Bool := '0' ≤ c && c ≤ '9'

/-- A dotted number goes on with this text: with a digit, or with a dot and a digit. -/
def goesOn : List Char → Bool
  | [] => false
  | [c] => isDecimal c
  | c :: d :: _ => isDecimal c || (c = '.' && isDecimal d)

/-- The address is part of a longer dotted number at this place. -/
def inner (place : List Char × List Char) : Bool := goesOn place.1 || goesOn place.2

/-- The text holds the address as a complete dotted number. -/
def mentions (address text : String) : Bool :=
  (occurrences address.toList text.toList).any fun place => !inner place

/-- The text holds the address as a proper part of a longer dotted number. -/
def embeds (address text : String) : Bool :=
  (occurrences address.toList text.toList).any inner

theorem contains_eq (address text : String) :
    contains address text = (mentions address text || embeds address text) := by
  rw [Bool.eq_iff_iff]
  simp only [contains, decide_eq_true_eq, infix_iff_occurs, mentions, embeds, Bool.or_eq_true,
    List.any_eq_true]
  constructor
  · rintro ⟨place, hplace⟩
    cases hinner : inner place with
    | false => exact .inl ⟨place, hplace, by simp [hinner]⟩
    | true => exact .inr ⟨place, hplace, hinner⟩
  · rintro (⟨place, hplace, -⟩ | ⟨place, hplace, -⟩) <;> exact ⟨place, hplace⟩

/-! ### The texts that are searched -/

/-- The addresses of the probe, by which its flows are searched. -/
def ownAddresses (probeId : Uuid) : ResolvedType → List String
  | .acl => [aclProbeIp probeId]
  | .nat => [natExternalIp probeId, natLogicalIp probeId]
  | _ => []

def dumpedFlows (raw : String) : List String :=
  (splitLines raw).filter fun line => strip line != "" && !startsWith "NXST_FLOW reply" line

def flowTexts (raw : String) (idl : SbIdl) : List String :=
  dumpedFlows raw ++ idl.logicalFlow.map LogicalFlowRow.haystack

/-- No flow mentions one of the addresses, and no stage hint names the row. -/
structure Unmentioned (addresses : List String) (nbUuid raw : String) (idl : SbIdl) : Prop where
  address : ∀ text ∈ flowTexts raw idl, ∀ address ∈ addresses, mentions address text = false
  hint : ∀ row ∈ idl.logicalFlow, row.hints nbUuid = false

/-! ### What the finders return -/

theorem openflowLines_eq_nil {raw : String} {tokens : List String} :
    openflowLines raw tokens = [] ↔
      ∀ text ∈ dumpedFlows raw, ∀ token ∈ tokens, contains token text = false := by
  simp only [openflowLines, dumpedFlows, List.map_eq_nil_iff, List.filter_eq_nil_iff,
    List.mem_filter, Bool.and_eq_true, not_and, List.any_eq_true, not_exists, Bool.not_eq_true,
    and_imp]

theorem findLogicalFlowEvidence_eq_nil {idl : SbIdl} {nbUuid : String} {tokens : List String}
    (htokens : ∀ token ∈ tokens, token ≠ "") (hhint : ∀ row ∈ idl.logicalFlow,
      row.hints nbUuid = false) :
    findLogicalFlowEvidence idl nbUuid tokens = [] ↔
      ∀ row ∈ idl.logicalFlow, ∀ token ∈ tokens, contains token row.haystack = false := by
  have hexact : idl.logicalFlow.filter (fun row => row.hints nbUuid) = [] := by
    rw [List.filter_eq_nil_iff]
    intro row hrow
    rw [hhint row hrow]
    exact Bool.false_ne_true
  simp only [findLogicalFlowEvidence, hexact, List.isEmpty_nil, ↓reduceIte, List.map_eq_nil_iff,
    List.filter_eq_nil_iff]
  refine forall₂_congr fun row hrow => ?_
  simp only [hhint row hrow, Bool.not_false, Bool.true_and, List.any_eq_true, not_exists, not_and,
    Bool.and_eq_true, bne_iff_ne]
  exact forall₂_congr fun token htoken => by simp [htokens token htoken]

theorem ownAddresses_ne_empty {probeId : Uuid} {kind : ResolvedType} {address : String}
    (h : address ∈ ownAddresses probeId kind) : address ≠ "" := by
  cases kind with
  | acl =>
    obtain rfl := List.mem_singleton.mp h
    simp [aclProbeIp]
  | nat =>
    simp only [ownAddresses, List.mem_cons, List.not_mem_nil, or_false] at h
    rcases h with rfl | rfl
    · simp [natExternalIp]
    · simp [natLogicalIp]
  | _ => exact absurd h List.not_mem_nil

section Built

variable {nb : Except Exc NbIdl} {probeId : Uuid} {request : CanaryProbeRequest}
  {prepared : PreparedProbe}

theorem findOpenflowEvidence_eq (h : buildProbe nb probeId request = .ok prepared) (raw : String) :
    findOpenflowEvidence prepared raw =
      .ok (openflowLines raw (ownAddresses probeId prepared.resolvedResourceType)) := by
  have hnone : openflowLines raw [] = [] := openflowLines_eq_nil.mpr (by simp)
  obtain ⟨resolved, plan, hplanned, hresolved, rfl⟩ := buildProbe_planned h
  rw [findOpenflowEvidence, hresolved]
  cases hplanned with
  | acl target _ => rfl
  | nat target _ => rfl
  | logicalSwitch => exact congrArg Except.ok hnone.symm
  | logicalRouter => exact congrArg Except.ok hnone.symm
  | logicalSwitchPort target _ => exact congrArg Except.ok hnone.symm
  | logicalRouterPort target _ => exact congrArg Except.ok hnone.symm

/-- The Southbound evidence of an ACL and of a NAT rule are flows with its addresses. -/
theorem findSbEvidence_eq (h : buildProbe nb probeId request = .ok prepared)
    (hflows : openflowCapable prepared.resolvedResourceType = true) (idl : SbIdl)
    (nbUuid : String) :
    findSbEvidence prepared idl nbUuid =
      .ok (findLogicalFlowEvidence idl nbUuid
        (ownAddresses probeId prepared.resolvedResourceType)) := by
  obtain ⟨resolved, plan, hplanned, hresolved, rfl⟩ := buildProbe_planned h
  rw [hresolved] at hflows
  rw [findSbEvidence, hresolved]
  cases hplanned with
  | acl target _ => rfl
  | nat target _ => rfl
  | _ => cases hflows

/-- The probe finds nothing that it could take for its own flows. -/
structure NoEvidence (probeId : Uuid) (prepared : PreparedProbe) (nbUuid raw : String)
    (idl : SbIdl) : Prop where
  openflow : findOpenflowEvidence prepared raw = .ok []
  logicalFlow : findLogicalFlowEvidence idl nbUuid
    (ownAddresses probeId prepared.resolvedResourceType) = []
  southbound : openflowCapable prepared.resolvedResourceType = true →
    findSbEvidence prepared idl nbUuid = .ok []

theorem noEvidence_iff (h : buildProbe nb probeId request = .ok prepared) {nbUuid raw : String}
    {idl : SbIdl} (hhint : ∀ row ∈ idl.logicalFlow, row.hints nbUuid = false) :
    NoEvidence probeId prepared nbUuid raw idl ↔
      ∀ text ∈ flowTexts raw idl, ∀ address ∈ ownAddresses probeId prepared.resolvedResourceType,
        contains address text = false := by
  have hopenflow : findOpenflowEvidence prepared raw = .ok [] ↔
      ∀ text ∈ dumpedFlows raw, ∀ address ∈ ownAddresses probeId prepared.resolvedResourceType,
        contains address text = false := by
    rw [findOpenflowEvidence_eq h, Except.ok.injEq, openflowLines_eq_nil]
  have htokens : ∀ token ∈ ownAddresses probeId prepared.resolvedResourceType, token ≠ "" :=
    fun token htoken => ownAddresses_ne_empty htoken
  have hlogical := findLogicalFlowEvidence_eq_nil htokens hhint
  simp only [flowTexts, List.forall_mem_append, List.forall_mem_map]
  constructor
  · intro hnone
    exact ⟨hopenflow.mp hnone.openflow, hlogical.mp hnone.logicalFlow⟩
  · rintro ⟨hdumped, hrows⟩
    have hnil := hlogical.mpr hrows
    refine ⟨hopenflow.mpr hdumped, hnil, fun hflows => ?_⟩
    rw [findSbEvidence_eq h hflows, hnil]

/-- Flows that mention nothing of the probe are never taken for evidence, exactly if
none of them embeds one of its addresses in a longer one. -/
theorem evidence_sound_iff (h : buildProbe nb probeId request = .ok prepared)
    (nbUuid raw : String) (idl : SbIdl) :
    (Unmentioned (ownAddresses probeId prepared.resolvedResourceType) nbUuid raw idl →
        NoEvidence probeId prepared nbUuid raw idl) ↔
      (Unmentioned (ownAddresses probeId prepared.resolvedResourceType) nbUuid raw idl →
        ∀ text ∈ flowTexts raw idl,
          ∀ address ∈ ownAddresses probeId prepared.resolvedResourceType,
            embeds address text = false) := by
  refine imp_congr_right fun hunmentioned => ?_
  rw [noEvidence_iff h hunmentioned.hint]
  refine forall₂_congr fun text htext => forall₂_congr fun address haddress => ?_
  rw [contains_eq, hunmentioned.address text htext address haddress, Bool.false_or]

end Built

/-! ### A neighbouring address -/

def lowId : Uuid := ⟨"00000000-0000-4000-8000-00000000007c", by decide⟩

def lowAcl : CanaryProbeRequest where
  resourceType := .acl
  timeout_pos := defaultTimeout_pos
  poll_ge := defaultPoll_ge

def lowProbe : PreparedProbe :=
  assemble lowId lowAcl (aclPlan lowId
    { ref := "canary-target-ls-00000000"
      note := some ("A temporary logical switch 'canary-target-ls-00000000' is created as the " ++
        "canary target.")
      setupCommands := [["ls-add", "canary-target-ls-00000000"]]
      cleanupCommands := [["--if-exists", "ls-del", "canary-target-ls-00000000"]] })

def dropFlow (address : String) : LogicalFlowRow where
  uuid := .uniform 5
  logicalDatapath := []
  tableId := 44
  priority := 3001
  matchText := "ip4.src==" ++ address
  actions := "drop;"
  externalIds := [("stage-hint", "99999999")]

def dropDump (address : String) : String :=
  " table=44,ip,nw_src=" ++ address ++ " actions=drop\n"

theorem ownAddresses_low : ownAddresses lowId lowProbe.resolvedResourceType = ["198.18.193.1"] := by
  decide +kernel

/-- An address of another subnet is taken for nothing. -/
theorem evidence_sound_iff_foreign :
    buildProbe (.error (.http 503 "OVN NB is not connected.")) lowId lowAcl = .ok lowProbe ∧
      NoEvidence lowId lowProbe (Uuid.uniform 3).text (dropDump "10.0.0.1")
        { logicalFlow := [dropFlow "10.0.0.1"] } := by
  have hbuild : buildProbe (.error (.http 503 "OVN NB is not connected.")) lowId lowAcl =
    .ok lowProbe := rfl
  refine ⟨hbuild, (evidence_sound_iff hbuild _ _ _).mpr (fun _ => ?_) ⟨?_, ?_⟩⟩
  · rw [ownAddresses_low]
    decide +kernel
  · rw [ownAddresses_low]
    decide +kernel
  · decide +kernel

/-- The address 198.18.193.10 of a neighbour is taken for 198.18.193.1, in the dump and
in the Southbound table. -/
theorem neighbour_taken :
    buildProbe (.error (.http 503 "OVN NB is not connected.")) lowId lowAcl = .ok lowProbe ∧
      ownAddresses lowId lowProbe.resolvedResourceType = ["198.18.193.1"] ∧
      Unmentioned ["198.18.193.1"] (Uuid.uniform 3).text (dropDump "198.18.193.10")
        { logicalFlow := [dropFlow "198.18.193.10"] } ∧
      findOpenflowEvidence lowProbe (dropDump "198.18.193.10") =
        .ok ["table=44,ip,nw_src=198.18.193.10 actions=drop"] ∧
      findSbEvidence lowProbe { logicalFlow := [dropFlow "198.18.193.10"] }
          (Uuid.uniform 3).text =
        .ok ["logical_flow=55555555-5555-5555-5555-555555555555 stage=None hint=99999999 " ++
          "match=ip4.src==198.18.193.10"] := by
  have hbuild : buildProbe (.error (.http 503 "OVN NB is not connected.")) lowId lowAcl =
    .ok lowProbe := rfl
  refine ⟨hbuild, ownAddresses_low, ⟨by decide +kernel, by decide +kernel⟩, ?_, ?_⟩
  · rw [findOpenflowEvidence_eq hbuild, ownAddresses_low]
    decide +kernel
  · rw [findSbEvidence_eq hbuild rfl, ownAddresses_low]
    decide +kernel

end OvnApi.Traces
