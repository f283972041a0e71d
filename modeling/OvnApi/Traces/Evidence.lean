import OvnApi.Traces.Idl

/-! The finders of the trace service: which Northbound row, which Southbound rows
and which OpenFlow lines count as evidence that a canary resource has arrived.
Each is a function of the database content or of the dump it reads. -/

namespace OvnApi.Traces

open OvnApi.Core

def PreparedProbe.contextGet (prepared : PreparedProbe) (key : String) : Except Exc String :=
  match prepared.context.lookup key with
  | some value => .ok value
  | none => .error (.other "KeyError" (pyRepr key))

/-- `int(text)` on a decimal numeral. -/
def parseDigits (text : String) : Except Exc ℤ :=
  let cs := text.toList
  if !cs.isEmpty && cs.all (fun c => 48 ≤ c.toNat && c.toNat ≤ 57) then
    .ok (cs.foldl (fun n c => 10 * n + (c.toNat - 48 : ℕ)) (0 : ℤ))
  else .error (.other "ValueError" ("invalid literal for int() with base 10: " ++ pyRepr text))

def normalizeUuid (value : Option String) : Option String :=
  value.bind fun s => let t := lower (strip s); if t = "" then none else some t

def uuidPrefix (s : String) : String := String.ofList (s.toList.takeWhile (· ≠ '-'))

/-- `str` of the list that presents an optional UUID column. -/
def showUuids (us : List Uuid) : String :=
  "[" ++ join ", " (us.map fun u => "UUID('" ++ u.text ++ "')") ++ "]"

def limitedEvidence (lines : List String) : List String := lines.take 5

/-- `_find_named_or_uuid_row`: the first row with this UUID or this name. -/
def findNamedOrUuidRow (idl : NbIdl) (tableName reference : String) :
    Except Exc (Option NbRow) := do
  let rows ← idl.rows tableName
  pure (rows.find? fun row =>
    row.uuid.text == reference || row.getattr "name" == some (.str reference))

def findNamedNbRow (idl : NbIdl) (resourceType name : String) : Except Exc (Option NbRow) :=
  findNamedOrUuidRow idl
    (if resourceType = "logical_switch" then "Logical_Switch" else "Logical_Router") name

/-- `_find_nb_row`. An ACL is taken by its name or by its match, direction and
priority; the name column is optional, so it is a list and equals no string. -/
def findNbRow (prepared : PreparedProbe) (idl : NbIdl) : Except Exc (Option NbRow) := do
  let rows ← idl.rows prepared.nbTable
  let named (key : String) : Except Exc (Option NbRow) := do
    let name ← prepared.contextGet key
    pure (rows.find? fun row => row.getattr "name" == some (.str name))
  match prepared.resolvedResourceType with
  | .acl =>
    let aclName ← prepared.contextGet "acl_name"
    let aclMatch ← prepared.contextGet "acl_match"
    let aclDirection ← prepared.contextGet "acl_direction"
    let aclPriority ← parseDigits (← prepared.contextGet "acl_priority")
    pure (rows.find? fun row =>
      row.getattr "name" == some (.str aclName) ||
        (row.getattr "match" == some (.str aclMatch) &&
          row.getattr "direction" == some (.str aclDirection) &&
          row.getattr "priority" == some (.int aclPriority)))
  | .nat =>
    let natType ← prepared.contextGet "nat_type"
    let externalIp ← prepared.contextGet "external_ip"
    let logicalIp ← prepared.contextGet "logical_ip"
    pure (rows.find? fun row =>
      row.getattr "type" == some (.str natType) &&
        row.getattr "external_ip" == some (.str externalIp) &&
        row.getattr "logical_ip" == some (.str logicalIp))
  | .logicalSwitch => named "switch_name"
  | .logicalRouter => named "router_name"
  | .logicalSwitchPort => named "port_name"
  | .logicalRouterPort => named "port_name"

def findDatapathBindingEvidence (idl : SbIdl) (nbUuid expectedType : String) : List String :=
  (idl.datapathBinding.filter fun row =>
    row.type.head? == some expectedType &&
      (normalizeUuid (some (showUuids row.nbUuid)) == some nbUuid ||
        normalizeUuid (row.externalIds.lookup expectedType) == some nbUuid)).map fun row =>
    "datapath=" ++ row.uuid.text ++ " type=" ++ orNone row.type.head? ++ " tunnel_key=" ++
      toString row.tunnelKey ++ " name=" ++ orNone (row.externalIds.lookup "name")

def chassisName (refs : List ChassisRef) : Option String :=
  refs.head?.map fun ref => if ref.name = "" then ref.uuid.text else ref.name

def findPortBindingEvidence (idl : SbIdl) (portName : String) : List String :=
  (idl.portBinding.filter fun row => row.logicalPort == portName).map fun row =>
    "port_binding=" ++ row.uuid.text ++ " type=" ++ row.type ++ " datapath=" ++
      row.datapath.text ++ " chassis=" ++ orNone (chassisName row.chassis)

/-- The text in which the tokens of a probe are searched. -/
def LogicalFlowRow.haystack (row : LogicalFlowRow) : String :=
  join " " [row.matchText, row.actions,
    join " " (row.externalIds.map fun kv => kv.1 ++ "=" ++ kv.2)]

def LogicalFlowRow.evidence (row : LogicalFlowRow) : String :=
  "logical_flow=" ++ row.uuid.text ++ " stage=" ++ orNone (row.externalIds.lookup "stage-name") ++
    " hint=" ++ orNone (row.externalIds.lookup "stage-hint") ++ " match=" ++ row.matchText

/-- The stage hint of the flow names the row, in full or by its first segment. -/
def LogicalFlowRow.hints (row : LogicalFlowRow) (nbUuid : String) : Bool :=
  match normalizeUuid (row.externalIds.lookup "stage-hint") with
  | some hint => hint == nbUuid || hint == uuidPrefix nbUuid
  | none => false

/-- `_find_logical_flow_evidence`: the flows that name the row if there are any,
else the flows whose text contains one of the tokens. -/
def findLogicalFlowEvidence (idl : SbIdl) (nbUuid : String) (tokens : List String) :
    List String :=
  let exactMatches := idl.logicalFlow.filter fun row => row.hints nbUuid
  let tokenMatches := idl.logicalFlow.filter fun row =>
    !row.hints nbUuid && tokens.any fun token => token != "" && contains token row.haystack
  (if exactMatches.isEmpty then tokenMatches else exactMatches).map LogicalFlowRow.evidence

def findSbParentEvidence (idl : SbIdl) (resourceType nbUuid : String) : List String :=
  if resourceType = "logical_switch" then findDatapathBindingEvidence idl nbUuid "logical-switch"
  else if resourceType = "logical_router" then
    findDatapathBindingEvidence idl nbUuid "logical-router"
  else []

def findSbEvidence (prepared : PreparedProbe) (idl : SbIdl) (nbUuid : String) :
    Except Exc (List String) :=
  match prepared.resolvedResourceType with
  | .acl => do
    let probeIp ← prepared.contextGet "probe_ip"
    pure (findLogicalFlowEvidence idl nbUuid [probeIp])
  | .nat => do
    let externalIp ← prepared.contextGet "external_ip"
    let logicalIp ← prepared.contextGet "logical_ip"
    pure (findLogicalFlowEvidence idl nbUuid [externalIp, logicalIp])
  | .logicalSwitch => pure (findDatapathBindingEvidence idl nbUuid "logical-switch")
  | .logicalRouter => pure (findDatapathBindingEvidence idl nbUuid "logical-router")
  | .logicalSwitchPort | .logicalRouterPort => do
    let portName ← prepared.contextGet "port_name"
    pure (findPortBindingEvidence idl portName)

/-- The lines of a flow dump that contain one of the tokens, without the header. -/
def openflowLines (raw : String) (tokens : List String) : List String :=
  ((splitLines raw).filter fun line =>
    strip line != "" && !startsWith "NXST_FLOW reply" line &&
      tokens.any fun token => contains token line).map strip

/-- `_find_openflow_evidence` on the dump of the bridge. -/
def findOpenflowEvidence (prepared : PreparedProbe) (raw : String) :
    Except Exc (List String) :=
  match prepared.resolvedResourceType with
  | .acl => do
    let probeIp ← prepared.contextGet "probe_ip"
    pure (openflowLines raw [probeIp])
  | .nat => do
    let externalIp ← prepared.contextGet "external_ip"
    let logicalIp ← prepared.contextGet "logical_ip"
    pure (openflowLines raw [externalIp, logicalIp])
  | _ => pure []

end OvnApi.Traces
