import OvnApi.Lib.Json
import OvnApi.Traces.Idl

/-! The profiles of the scheduled trace service: where their configuration comes
from, which of their counters a reload carries over, and how the target of a probe
is chosen. Files, JSON text and the validation of a payload are read through
functions of the environment; what validation guarantees is carried by the result. -/

namespace OvnApi.Scheduled

open OvnApi.Core Lib Traces

structure ProfileConfig where
  name : String
  requestedResourceType : ResourceType
  bridge : String
  configuredTargetName : Option String
  intervalS : PyFloat
  timeoutS : PyFloat
  pollIntervalMs : ℤ
  enabled : Bool := true
  deriving DecidableEq

inductive TargetResolutionMode where
  | configured | auto | notRequired | unresolved
  deriving DecidableEq

/-- `_ProfileState`; a profile that has not run yet has no status. -/
structure ProfileState where
  config : ProfileConfig
  nextDueMonotonic : PyFloat := .fin 0
  resolvedTargetName : Option String := none
  targetResolutionMode : TargetResolutionMode := .notRequired
  lastStatus : Option TraceStatus := none
  lastError : Option String := none
  lastStartedAt : Option String := none
  lastFinishedAt : Option String := none
  lastSuccessAt : Option String := none
  runCount : ℕ := 0
  successCount : ℕ := 0
  partialSuccessCount : ℕ := 0
  timeoutCount : ℕ := 0
  failedCount : ℕ := 0
  lastResult : Option CanaryProbeResult := none
  deriving DecidableEq

structure ServiceSettings where
  enabled : Bool
  defaultBridge : String
  defaultSwitchTargetName : Option String
  defaultRouterTargetName : Option String
  defaultIntervalS : PyFloat
  defaultTimeoutS : PyFloat
  defaultPollIntervalMs : ℤ
  profilesJson : Option String
  profilesFile : Option String
  deriving DecidableEq

/-- `s or default` of a string. -/
def orDefault (s default : String) : String := if s = "" then default else s

/-- A string that is given and not empty. -/
def given (s : Option String) : Option String := s.filter (· ≠ "")

/-! ### Loading -/

/-- `ScheduledTraceProfileConfigInput`. -/
structure ProfileConfigInput where
  name : String
  resourceType : ResourceType
  targetName : Option String := none
  bridge : Option String := none
  intervalS : Option PyFloat := none
  timeoutS : Option PyFloat := none
  pollIntervalMs : Option ℤ := none
  enabled : Bool := true
  interval_pos : ∀ x ∈ intervalS, PyFloat.lt (.fin 0) x = true
  timeout_pos : ∀ x ∈ timeoutS, PyFloat.lt (.fin 0) x = true
  poll_ge : ∀ n ∈ pollIntervalMs, 50 ≤ n

/-- What loading reads: the text of a file, the value of a JSON text, and the models a
payload is validated against. -/
structure Sources where
  readText : String → Except Exc String
  loads : String → Except Exc Json
  validateInput : Json → Except Exc ProfileConfigInput
  validateFile : List (String × Json) → Except Exc (List ProfileConfigInput)

/-- An exception as `{type(exc).__name__}: {exc}` shows it. -/
def describe : Exc → String
  | .http statusCode detail => "HTTPException: " ++ toString statusCode ++ ": " ++ detail
  | .other kind message => kind ++ ": " ++ message

/-- The handlers around the read of the profiles file. -/
def fileError (file : String) : Exc → Exc
  | .other "FileNotFoundError" _ =>
    .http 500 ("Scheduled trace profiles file " ++ pyRepr file ++ " was not found.")
  | .other "JSONDecodeError" message =>
    .http 500 ("Scheduled trace profiles file " ++ pyRepr file ++ " is not valid JSON: " ++ message)
  | e => e

/-- The handler around the JSON of the environment variable. -/
def jsonError : Exc → Exc
  | .other "JSONDecodeError" message =>
    .http 500 ("SCHEDULED_TRACE_METRICS_PROFILES_JSON is not valid JSON: " ++ message)
  | e => e

/-- The profiles of a payload; the payload `null` has none. -/
def profilesOf (sources : Sources) (source : String) : Json → Except Exc (List ProfileConfigInput)
  | .null => .ok []
  | .obj fields => (sources.validateFile fields).mapError invalid
  | .arr items => (items.mapM sources.validateInput).mapError invalid
  | _ => .error (.http 500
      ("Scheduled trace profiles must be either a JSON list or an object with a 'profiles' field. " ++
        "source=" ++ source))
where
  invalid (e : Exc) : Exc :=
    .http 500 ("Failed to validate scheduled trace profiles from " ++ source ++ ": " ++ describe e)

/-- `_load_profile_inputs`: the profiles and whether a source was given. -/
def loadProfileInputs (sources : Sources) (settings : ServiceSettings) :
    Except Exc (List ProfileConfigInput × Bool) :=
  match given settings.profilesFile, given settings.profilesJson with
  | some file, _ => do
    let payload ← ((sources.readText file).bind sources.loads).mapError (fileError file)
    let inputs ← profilesOf sources ("file:" ++ file) payload
    pure (inputs, true)
  | none, some text => do
    let payload ← (sources.loads text).mapError jsonError
    let inputs ← profilesOf sources "env:SCHEDULED_TRACE_METRICS_PROFILES_JSON" payload
    pure (inputs, true)
  | none, none => pure ([], false)

/-- The configuration of one profile, with the defaults for what it leaves open. -/
def ProfileConfigInput.config (settings : ServiceSettings) (input : ProfileConfigInput) :
    ProfileConfig where
  name := input.name
  requestedResourceType := input.resourceType
  configuredTargetName := input.targetName
  bridge := (given input.bridge).getD settings.defaultBridge
  intervalS := input.intervalS.getD settings.defaultIntervalS
  timeoutS := input.timeoutS.getD settings.defaultTimeoutS
  pollIntervalMs := input.pollIntervalMs.getD settings.defaultPollIntervalMs
  enabled := input.enabled

/-- The loop of `_load_profile_configs`, with the names seen so far. -/
def configsOf (settings : ServiceSettings) :
    List String → List ProfileConfigInput → Except Exc (List ProfileConfig)
  | _, [] => pure []
  | names, input :: rest =>
    if input.name ∈ names then
      .error (.http 500 ("Duplicate scheduled trace profile name " ++ pyRepr input.name ++ "."))
    else do
      let configs ← configsOf settings (input.name :: names) rest
      pure (input.config settings :: configs)

def defaultProfileConfigs (settings : ServiceSettings) : List ProfileConfig :=
  let profile (name : String) (type : ResourceType) (target : Option String) : ProfileConfig := {
    name
    requestedResourceType := type
    configuredTargetName := target
    bridge := settings.defaultBridge
    intervalS := settings.defaultIntervalS
    timeoutS := settings.defaultTimeoutS
    pollIntervalMs := settings.defaultPollIntervalMs }
  [profile "logical_flow_default" .logicalFlow settings.defaultSwitchTargetName,
    profile "logical_switch_default" .logicalSwitch none,
    profile "logical_router_default" .logicalRouter none]

def loadProfileConfigs (sources : Sources) (settings : ServiceSettings) :
    Except Exc (List ProfileConfig) := do
  let (inputs, sourceWasProvided) ← loadProfileInputs sources settings
  if !sourceWasProvided && inputs.isEmpty then pure (defaultProfileConfigs settings)
  else configsOf settings [] inputs

/-! ### States -/

def canReuseState (old new : ProfileConfig) : Bool :=
  old.requestedResourceType = new.requestedResourceType && old.bridge = new.bridge &&
    old.configuredTargetName = new.configuredTargetName

def profileState (previous : Option ProfileState) (config : ProfileConfig) : ProfileState :=
  match previous with
  | some state =>
    if canReuseState state.config config then { state with config, nextDueMonotonic := .fin 0 }
    else { config }
  | none => { config }

def buildProfileStates (configs : List ProfileConfig) (previous : String → Option ProfileState) :
    List ProfileState :=
  configs.map fun config => profileState (previous config.name) config

/-- `_schedule_initial_runs`: the first runs are spread over one interval. -/
def scheduleInitialRuns (now : ℚ) (profiles : List ProfileState) : List ProfileState :=
  match profiles with
  | [] => []
  | first :: _ =>
    let staggerS := PyFloat.max (first.config.intervalS.divNat profiles.length) (.fin 1)
    profiles.mapIdx fun index profile =>
      { profile with nextDueMonotonic := PyFloat.add (.fin now) (staggerS.nsmul index) }

/-! ### Targets -/

/-- What the target resolution looks at of a switch or a router: its name and three
counts, in the order in which they matter. -/
structure Candidate where
  name : String
  portCount : ℕ
  second : ℕ
  third : ℕ
  deriving DecidableEq

/-- What the environment answers: the switches with their ACL and load balancer
counts, the routers with their NAT and static route counts, and the Southbound
database. -/
structure Reads where
  listSwitches : Except Exc (List Candidate)
  listRouters : Except Exc (List Candidate)
  sbIdl : Except Exc SbIdl

/-- `a < b` of the tuples that rank the candidates. -/
def Candidate.lt (a b : Candidate) : Bool :=
  a.portCount < b.portCount || a.portCount = b.portCount &&
    (a.second < b.second || a.second = b.second &&
      (a.third < b.third || a.third = b.third && a.name < b.name))

/-- `max` by rank: the first of the greatest. -/
def bestCandidate : List Candidate → Option Candidate
  | [] => none
  | first :: rest => some (rest.foldl (fun best c => if best.lt c then c else best) first)

/-- `str` of a list of strings. -/
def showStrings (texts : List String) : String := "[" ++ join ", " (texts.map pyRepr) ++ "]"

def realizedDatapathNames (sbIdl : Except Exc SbIdl) (expectedType : String) :
    Except Exc (List String) :=
  match sbIdl with
  | .error (.http _ _) => .ok []
  | .error e => .error e
  | .ok idl => .ok (idl.datapathBinding.filterMap fun row =>
      if showStrings row.type ≠ expectedType then none else given (row.externalIds.lookup "name"))

/-- `_auto_select_switch_target` and `_auto_select_router_target`. -/
def autoSelectTarget (rows : Except Exc (List Candidate)) (sbIdl : Except Exc SbIdl)
    (expectedType : String) : Except Exc (Option String) := do
  let rows ← rows
  if rows.isEmpty then pure none
  else
    let realized ← realizedDatapathNames sbIdl expectedType
    let named := rows.filter (·.name ≠ "")
    let candidates := named.filter fun c => c.name ∈ realized || realized.isEmpty
    let best := bestCandidate (if candidates.isEmpty then named else candidates)
    pure (best.map Candidate.name)

def autoSelectSwitchTarget (reads : Reads) : Except Exc (Option String) :=
  autoSelectTarget reads.listSwitches reads.sbIdl "logical-switch"

def autoSelectRouterTarget (reads : Reads) : Except Exc (Option String) :=
  autoSelectTarget reads.listRouters reads.sbIdl "logical-router"

/-- `_RESOURCE_TYPES_REQUIRING_SWITCH_TARGET`. -/
def requiresSwitchTarget (type : ResourceType) : Bool :=
  type ∈ [.acl, .logicalFlow, .logicalSwitchPort, .logicalPort]

/-- `_RESOURCE_TYPES_REQUIRING_ROUTER_TARGET`. -/
def requiresRouterTarget (type : ResourceType) : Bool :=
  type ∈ [.nat, .natRule, .logicalRouterPort, .subnet]

/-- `_OPENFLOW_ELIGIBLE_RESOURCE_TYPES`. -/
def openflowEligible (type : ResourceType) : Bool :=
  type ∈ [.acl, .logicalFlow, .nat, .natRule]

/-- What the resolution of a target finds: the target, how it was found, and an error. -/
structure Resolution where
  targetName : Option String
  mode : TargetResolutionMode
  error : Option String := none
  deriving DecidableEq

/-- The resolution for a profile that needs a target of this kind. -/
def resolveTarget (kind : String) (configured default : Option String)
    (autoSelect : Except Exc (Option String)) : Except Exc Resolution :=
  match given configured, given default with
  | some name, _ => pure { targetName := some name, mode := .configured }
  | none, some name => pure { targetName := some name, mode := .configured }
  | none, none => do
    match ← autoSelect with
    | some name => pure { targetName := some name, mode := .auto }
    | none => pure {
        targetName := none
        mode := .unresolved
        error := some ("No " ++ kind ++ " target could be auto-selected for the scheduled probe.") }

def resolveTargetName (settings : ServiceSettings) (reads : Reads) (config : ProfileConfig) :
    Except Exc Resolution :=
  if requiresSwitchTarget config.requestedResourceType then
    resolveTarget "logical switch" config.configuredTargetName settings.defaultSwitchTargetName
      (autoSelectSwitchTarget reads)
  else if requiresRouterTarget config.requestedResourceType then
    resolveTarget "logical router" config.configuredTargetName settings.defaultRouterTargetName
      (autoSelectRouterTarget reads)
  else pure { targetName := none, mode := .notRequired }

/-- The request of a scheduled probe, which the model of requests validates. -/
def probeRequest (config : ProfileConfig) (targetName : Option String) :
    Except Exc CanaryProbeRequest :=
  if h : PyFloat.lt (.fin 0) config.timeoutS = true ∧ 50 ≤ config.pollIntervalMs then
    .ok {
      resourceType := config.requestedResourceType
      targetName
      bridge := config.bridge
      timeoutS := config.timeoutS
      pollIntervalMs := config.pollIntervalMs
      expectOpenflow :=
        if targetName.isSome && openflowEligible config.requestedResourceType then some true
        else none
      timeout_pos := h.1
      poll_ge := h.2 }
  else .error (.other "ValidationError" "CanaryProbeRequest")

end OvnApi.Scheduled
