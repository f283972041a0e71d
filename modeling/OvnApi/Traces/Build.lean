import OvnApi.Traces.Evidence

/-! `_build_probe`: from a request and a drawn UUID to the prepared probe with its
commands, the context of its finders and its note. The Northbound database is
read only to resolve a target the request names. -/

namespace OvnApi.Traces

open OvnApi.Core

/-! ### Names and addresses derived from the probe id -/

structure Octets where
  a : ℕ
  b : ℕ
  c : ℕ
  d : ℕ

def probeOctets (probeId : Uuid) : Octets where
  a := probeId.toNat / 2 ^ 8 % 254 + 1
  b := probeId.toNat % 254 + 1
  c := probeId.toNat / 2 ^ 24 % 254 + 1
  d := probeId.toNat / 2 ^ 16 % 254 + 1

def probeMac (probeId : Uuid) : String :=
  let o := probeOctets probeId
  "aa:55:" ++ hexByte o.a ++ ":" ++ hexByte o.b ++ ":" ++ hexByte o.c ++ ":" ++ hexByte o.d

def aclProbeIp (probeId : Uuid) : String :=
  let o := probeOctets probeId
  "198.18." ++ toString o.a ++ "." ++ toString o.b

def natExternalIp (probeId : Uuid) : String :=
  "203.0.113." ++ toString (probeOctets probeId).c

def natLogicalIp (probeId : Uuid) : String :=
  let o := probeOctets probeId
  "198.19." ++ toString o.a ++ "." ++ toString o.b

def routerNetwork (probeId : Uuid) : String :=
  "100.64." ++ toString (probeOctets probeId).c ++ ".1/24"

/-- `resource_name_map`. -/
def resourceName (probeId : Uuid) : ResolvedType → String
  | .acl => "canary-acl-" ++ probeId.firstSegment
  | .nat => "nat:" ++ natExternalIp probeId ++ "->" ++ natLogicalIp probeId
  | .logicalSwitch => "canary-ls-" ++ probeId.firstSegment
  | .logicalRouter => "canary-lr-" ++ probeId.firstSegment
  | .logicalSwitchPort => "canary-lsp-" ++ probeId.firstSegment
  | .logicalRouterPort => "canary-lrp-" ++ probeId.firstSegment

/-! ### Resolution of the request -/

def resolveResourceType : ResourceType → ResolvedType × Option String
  | .acl => (.acl, none)
  | .logicalFlow =>
    (.acl, some ("Logical_Flow is generated in OVN SB, so this probe uses a canary ACL to force " ++
      "logical-flow creation."))
  | .nat => (.nat, none)
  | .natRule => (.nat, none)
  | .logicalSwitch => (.logicalSwitch, none)
  | .network => (.logicalSwitch, none)
  | .logicalRouter => (.logicalRouter, none)
  | .logicalSwitchPort => (.logicalSwitchPort, none)
  | .logicalPort => (.logicalSwitchPort, none)
  | .logicalRouterPort => (.logicalRouterPort, none)
  | .subnet => (.logicalRouterPort, none)

/-- `OPENFLOW_CAPABLE_RESOURCE_TYPES`. -/
def openflowCapable : ResolvedType → Bool
  | .acl | .nat => true
  | _ => false

def resolveOpenflowExpectation (resolved : ResolvedType) (targetName : Option String)
    (expectOpenflow : Option Bool) : Bool :=
  if openflowCapable resolved then expectOpenflow.getD targetName.isSome else false

/-- Where the canary is attached: a row that exists, or a temporary one. -/
structure Target where
  ref : String
  note : Option String := none
  setupCommands : List (List String) := []
  cleanupCommands : List (List String) := []
  setupWait : Option (String × String) := none
  deriving DecidableEq

def requireNbRow (idl : NbIdl) (tableName reference : String) : Except Exc NbRow := do
  match ← findNamedOrUuidRow idl tableName reference with
  | some row => pure row
  | none => .error (.http 404 (tableName ++ " " ++ pyRepr reference ++ " not found."))

/-- Both kinds of target; `nb` is what reading the Northbound database gives. -/
def resolveTarget (tableName noun addCommand delCommand : String) (nb : Except Exc NbIdl)
    (targetName : Option String) (temporary : String) : Except Exc Target :=
  match targetName with
  | some reference => do
    let row ← requireNbRow (← nb) tableName reference
    pure { ref := row.uuid.text }
  | none =>
    pure {
      ref := temporary
      note := some ("A temporary " ++ noun ++ " " ++ pyRepr temporary ++
        " is created as the canary target.")
      setupCommands := [[addCommand, temporary]]
      cleanupCommands := [["--if-exists", delCommand, temporary]] }

def resolveSwitchTarget (nb : Except Exc NbIdl) (targetName : Option String)
    (probeSuffix : String) : Except Exc Target :=
  resolveTarget "Logical_Switch" "logical switch" "ls-add" "ls-del" nb targetName
    ("canary-target-ls-" ++ probeSuffix)

def resolveRouterTarget (nb : Except Exc NbIdl) (targetName : Option String)
    (probeSuffix : String) : Except Exc Target :=
  resolveTarget "Logical_Router" "logical router" "lr-add" "lr-del" nb targetName
    ("canary-target-lr-" ++ probeSuffix)

/-! ### The six kinds of canary -/

/-- What a kind contributes to the probe: table, context, commands and notes. -/
structure Plan where
  nbTable : String
  context : Dict
  createCommand : List String
  setupCommands : List (List String) := []
  cleanupCommands : List (List String)
  setupWait : Option (String × String) := none
  notes : List String := []
  deriving DecidableEq

section Plans

variable (probeId : Uuid)

def aclPlan (target : Target) : Plan :=
  let name := resourceName probeId .acl
  let aclMatch := "ip4.src==" ++ aclProbeIp probeId
  { nbTable := "ACL"
    context := [("switch_ref", target.ref), ("acl_name", name), ("acl_match", aclMatch),
      ("acl_direction", "to-lport"), ("acl_priority", "2001"), ("probe_ip", aclProbeIp probeId)]
    createCommand := ["--type=switch", "--name=" ++ name, "acl-add", target.ref, "to-lport", "2001",
      aclMatch, "drop"]
    setupCommands := target.setupCommands
    cleanupCommands :=
      ["--type=switch", "acl-del", target.ref, "to-lport", "2001", aclMatch] ::
        target.cleanupCommands
    setupWait := target.setupWait
    notes := target.note.toList }

def natPlan (target : Target) : Plan where
  nbTable := "NAT"
  context := [("router_ref", target.ref), ("nat_type", "snat"),
    ("external_ip", natExternalIp probeId), ("logical_ip", natLogicalIp probeId)]
  createCommand := ["lr-nat-add", target.ref, "snat", natExternalIp probeId, natLogicalIp probeId]
  setupCommands := target.setupCommands
  cleanupCommands :=
    ["--if-exists", "lr-nat-del", target.ref, "snat", natLogicalIp probeId] ::
      target.cleanupCommands
  setupWait := target.setupWait
  notes := target.note.toList

def logicalSwitchPlan (requested : ResourceType) : Plan :=
  let name := resourceName probeId .logicalSwitch
  let companionPortName := "canary-ls-anchor-" ++ probeId.firstSegment
  { nbTable := "Logical_Switch"
    context := [("switch_name", name), ("companion_port_name", companionPortName)]
    createCommand := ["ls-add", name, "--", "lsp-add", name, companionPortName]
    cleanupCommands := [["--if-exists", "ls-del", name]]
    notes :=
      ("A temporary logical switch port is created together with the canary switch to force " ++
        "southbound datapath realization.") ::
      if requested = .network then
        ["In OVN, Neutron network maps most directly to Logical_Switch."]
      else [] }

def logicalRouterPlan : Plan :=
  let name := resourceName probeId .logicalRouter
  let companionPortName := "canary-lr-anchor-" ++ probeId.firstSegment
  { nbTable := "Logical_Router"
    context := [("router_name", name), ("companion_port_name", companionPortName),
      ("companion_port_mac", probeMac probeId), ("companion_port_network", routerNetwork probeId)]
    createCommand := ["lr-add", name, "--", "lrp-add", name, companionPortName, probeMac probeId,
      routerNetwork probeId]
    cleanupCommands := [["--if-exists", "lr-del", name]]
    notes := ["A temporary logical router port is created together with the canary router to force " ++
      "southbound datapath realization."] }

def logicalSwitchPortPlan (target : Target) : Plan :=
  let name := resourceName probeId .logicalSwitchPort
  { nbTable := "Logical_Switch_Port"
    context := [("switch_ref", target.ref), ("port_name", name)]
    createCommand := ["lsp-add", target.ref, name]
    setupCommands := target.setupCommands
    cleanupCommands := ["--if-exists", "lsp-del", name] :: target.cleanupCommands
    setupWait := target.setupWait
    notes := target.note.toList }

def logicalRouterPortPlan (requested : ResourceType) (target : Target) : Plan :=
  let name := resourceName probeId .logicalRouterPort
  { nbTable := "Logical_Router_Port"
    context := [("router_ref", target.ref), ("port_name", name), ("port_mac", probeMac probeId),
      ("port_network", routerNetwork probeId)]
    createCommand := ["lrp-add", target.ref, name, probeMac probeId, routerNetwork probeId]
    setupCommands := target.setupCommands
    cleanupCommands := ["--if-exists", "lrp-del", name] :: target.cleanupCommands
    setupWait := target.setupWait
    notes :=
      (if requested = .subnet then
        ["OVN has no first-class Subnet table, so the probe uses a Logical_Router_Port with CIDR " ++
          "as a subnet proxy."]
      else []) ++ target.note.toList }

/-- The branch of `_build_probe` for the resolved type. -/
def planOf (nb : Except Exc NbIdl) (request : CanaryProbeRequest) : ResolvedType → Except Exc Plan
  | .acl => do
    let target ← resolveSwitchTarget nb request.targetName probeId.firstSegment
    pure (aclPlan probeId target)
  | .nat => do
    let target ← resolveRouterTarget nb request.targetName probeId.firstSegment
    pure (natPlan probeId target)
  | .logicalSwitch => pure (logicalSwitchPlan probeId request.resourceType)
  | .logicalRouter => pure (logicalRouterPlan probeId)
  | .logicalSwitchPort => do
    let target ← resolveSwitchTarget nb request.targetName probeId.firstSegment
    pure (logicalSwitchPortPlan probeId target)
  | .logicalRouterPort => do
    let target ← resolveRouterTarget nb request.targetName probeId.firstSegment
    pure (logicalRouterPortPlan probeId request.resourceType target)

end Plans

/-! ### Notes -/

/-- The note on the local bridge, before the kind's own notes. -/
def bridgeNotes (request : CanaryProbeRequest) (openflowExpected : Bool) : List String :=
  if request.targetName.getD "" ≠ "" ∧ openflowExpected then
    ["OpenFlow detection assumes the target datapath is realized on local bridge " ++
      pyRepr request.bridge ++ "."]
  else []

/-- The note on a skipped or doubtful OpenFlow stage, after the kind's own notes. -/
def openflowNotes (request : CanaryProbeRequest) (resolved : ResolvedType)
    (openflowExpected : Bool) : List String :=
  if !openflowCapable resolved then
    if request.expectOpenflow = some true then
      ["OpenFlow stage is skipped for " ++ pyRepr resolved.name ++ " because it does not have a " ++
        "stable 1:1 canary mapping on br-int."]
    else []
  else if request.targetName = none ∧ openflowExpected then
    ["No target datapath was supplied, so OpenFlow detection may stay empty unless the temporary " ++
      "canary is realized on the local bridge."]
  else []

/-- `" ".join(note_parts) or None`. -/
def joinNotes (parts : List String) : Option String :=
  let note := join " " parts
  if note = "" then none else some note

def assemble (probeId : Uuid) (request : CanaryProbeRequest) (plan : Plan) : PreparedProbe :=
  let (resolved, aliasNote) := resolveResourceType request.resourceType
  let openflowExpected :=
    resolveOpenflowExpectation resolved request.targetName request.expectOpenflow
  { probeId := probeId.text
    requestedResourceType := request.resourceType
    resolvedResourceType := resolved
    resourceName := resourceName probeId resolved
    targetName := request.targetName
    bridge := request.bridge
    timeoutS := request.timeoutS
    pollIntervalS := request.pollIntervalMs / 1000
    openflowExpected := openflowExpected
    note := joinNotes (aliasNote.toList ++ bridgeNotes request openflowExpected ++ plan.notes ++
      openflowNotes request resolved openflowExpected)
    nbTable := plan.nbTable
    context := plan.context
    createCommand := plan.createCommand
    setupCommands := plan.setupCommands
    cleanupCommands := plan.cleanupCommands
    setupWait := plan.setupWait }

def buildProbe (nb : Except Exc NbIdl) (probeId : Uuid) (request : CanaryProbeRequest) :
    Except Exc PreparedProbe :=
  (planOf probeId nb request (resolveResourceType request.resourceType).1).map
    (assemble probeId request)

/-! ### What every built probe has -/

section Built

variable {nb : Except Exc NbIdl} {probeId : Uuid} {request : CanaryProbeRequest}
  {prepared : PreparedProbe}

theorem buildProbe_ok (h : buildProbe nb probeId request = .ok prepared) :
    ∃ plan, planOf probeId nb request (resolveResourceType request.resourceType).1 = .ok plan ∧
      prepared = assemble probeId request plan := by
  unfold buildProbe at h
  cases hplan : planOf probeId nb request (resolveResourceType request.resourceType).1 with
  | error e => simp [hplan, Except.map] at h
  | ok plan =>
    refine ⟨plan, rfl, ?_⟩
    simpa [hplan, Except.map] using h.symm

/-- A target is a row found by its reference, or a temporary one under the probe's name. -/
theorem resolveTarget_ok {tableName noun addCommand delCommand temporary : String}
    {targetName : Option String} {target : Target}
    (h : resolveTarget tableName noun addCommand delCommand nb targetName temporary = .ok target) :
    (∃ reference idl row, targetName = some reference ∧ nb = .ok idl ∧
        findNamedOrUuidRow idl tableName reference = .ok (some row) ∧
        target = { ref := row.uuid.text }) ∨
      targetName = none ∧ target.ref = temporary ∧
        target.setupCommands = [[addCommand, temporary]] ∧
        target.cleanupCommands = [["--if-exists", delCommand, temporary]] ∧
        target.setupWait = none := by
  cases targetName with
  | none =>
    obtain rfl := Except.ok.inj h
    exact .inr ⟨rfl, rfl, rfl, rfl, rfl⟩
  | some reference =>
    left
    cases nb with
    | error e => cases h
    | ok idl =>
      simp only [resolveTarget, requireNbRow] at h
      cases hfind : findNamedOrUuidRow idl tableName reference with
      | error e => simp [hfind, bind, Except.bind] at h
      | ok found =>
        cases found with
        | none => simp [hfind, bind, Except.bind] at h
        | some row =>
          refine ⟨reference, idl, row, rfl, rfl, hfind, ?_⟩
          simpa [hfind, bind, Except.bind, pure, Except.pure] using h.symm

theorem resolveTarget_setupWait {tableName noun addCommand delCommand temporary : String}
    {targetName : Option String} {target : Target}
    (h : resolveTarget tableName noun addCommand delCommand nb targetName temporary = .ok target) :
    target.setupWait = none := by
  rcases resolveTarget_ok h with ⟨_, _, _, _, _, _, rfl⟩ | ⟨_, _, _, _, hwait⟩
  · rfl
  · exact hwait

/-- The six plans, each with the target it was made for. -/
inductive Planned (nb : Except Exc NbIdl) (probeId : Uuid) (request : CanaryProbeRequest) :
    ResolvedType → Plan → Prop where
  | acl (target : Target)
      (h : resolveSwitchTarget nb request.targetName probeId.firstSegment = .ok target) :
      Planned nb probeId request .acl (aclPlan probeId target)
  | nat (target : Target)
      (h : resolveRouterTarget nb request.targetName probeId.firstSegment = .ok target) :
      Planned nb probeId request .nat (natPlan probeId target)
  | logicalSwitch :
      Planned nb probeId request .logicalSwitch (logicalSwitchPlan probeId request.resourceType)
  | logicalRouter : Planned nb probeId request .logicalRouter (logicalRouterPlan probeId)
  | logicalSwitchPort (target : Target)
      (h : resolveSwitchTarget nb request.targetName probeId.firstSegment = .ok target) :
      Planned nb probeId request .logicalSwitchPort (logicalSwitchPortPlan probeId target)
  | logicalRouterPort (target : Target)
      (h : resolveRouterTarget nb request.targetName probeId.firstSegment = .ok target) :
      Planned nb probeId request .logicalRouterPort
        (logicalRouterPortPlan probeId request.resourceType target)

theorem planOf_planned {resolved : ResolvedType} {plan : Plan}
    (h : planOf probeId nb request resolved = .ok plan) :
    Planned nb probeId request resolved plan := by
  cases resolved with
  | acl =>
    obtain ⟨target, htarget, hplan⟩ := bind_eq_ok h
    obtain rfl := Except.ok.inj hplan
    exact .acl target htarget
  | nat =>
    obtain ⟨target, htarget, hplan⟩ := bind_eq_ok h
    obtain rfl := Except.ok.inj hplan
    exact .nat target htarget
  | logicalSwitch =>
    obtain rfl := Except.ok.inj h
    exact .logicalSwitch
  | logicalRouter =>
    obtain rfl := Except.ok.inj h
    exact .logicalRouter
  | logicalSwitchPort =>
    obtain ⟨target, htarget, hplan⟩ := bind_eq_ok h
    obtain rfl := Except.ok.inj hplan
    exact .logicalSwitchPort target htarget
  | logicalRouterPort =>
    obtain ⟨target, htarget, hplan⟩ := bind_eq_ok h
    obtain rfl := Except.ok.inj hplan
    exact .logicalRouterPort target htarget

theorem buildProbe_planned (h : buildProbe nb probeId request = .ok prepared) :
    ∃ resolved plan, Planned nb probeId request resolved plan ∧
      prepared.resolvedResourceType = resolved ∧ prepared = assemble probeId request plan := by
  obtain ⟨plan, hplan, rfl⟩ := buildProbe_ok h
  exact ⟨_, plan, planOf_planned hplan, rfl, rfl⟩

/-- No built probe waits for its target. -/
theorem buildProbe_setupWait (h : buildProbe nb probeId request = .ok prepared) :
    prepared.setupWait = none := by
  obtain ⟨resolved, plan, hplanned, -, rfl⟩ := buildProbe_planned h
  change plan.setupWait = none
  cases hplanned with
  | acl target htarget => exact resolveTarget_setupWait htarget
  | nat target htarget => exact resolveTarget_setupWait htarget
  | logicalSwitch => rfl
  | logicalRouter => rfl
  | logicalSwitchPort target htarget => exact resolveTarget_setupWait htarget
  | logicalRouterPort target htarget => exact resolveTarget_setupWait htarget

end Built

end OvnApi.Traces
