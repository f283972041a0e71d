import OvnApi.Core.Uuid
import OvnApi.Lib.Float

/-! The records of the canary traces: the request a client sends, the probe
prepared from it, and the result with its four pipeline stages. A request value
exists only if it passed the validation of its model. -/

namespace OvnApi.Traces

open OvnApi.Core Lib

/-- `CanaryResourceType`. -/
inductive ResourceType where
  | acl | logicalFlow | nat | natRule | logicalSwitch | network | logicalRouter
  | logicalSwitchPort | logicalPort | logicalRouterPort | subnet
  deriving DecidableEq, Repr

/-- The resource a probe really creates, once the aliases are resolved. -/
inductive ResolvedType where
  | acl | nat | logicalSwitch | logicalRouter | logicalSwitchPort | logicalRouterPort
  deriving DecidableEq, Repr

def ResourceType.name : ResourceType → String
  | .acl => "acl"
  | .logicalFlow => "logical_flow"
  | .nat => "nat"
  | .natRule => "nat_rule"
  | .logicalSwitch => "logical_switch"
  | .network => "network"
  | .logicalRouter => "logical_router"
  | .logicalSwitchPort => "logical_switch_port"
  | .logicalPort => "logical_port"
  | .logicalRouterPort => "logical_router_port"
  | .subnet => "subnet"

def ResolvedType.name : ResolvedType → String
  | .acl => "acl"
  | .nat => "nat"
  | .logicalSwitch => "logical_switch"
  | .logicalRouter => "logical_router"
  | .logicalSwitchPort => "logical_switch_port"
  | .logicalRouterPort => "logical_router_port"

/-- `CanaryTraceStatus`. -/
inductive TraceStatus where
  | success | partialSuccess | timeout | failed
  deriving DecidableEq, Repr

/-- `CanaryStageStatus`. -/
inductive StageStatus where
  | observed | timeout | skipped | failed
  deriving DecidableEq, Repr

/-- `CanaryRunStatus`. -/
inductive RunStatus where
  | queued | running | success | partialSuccess | timeout | failed
  deriving DecidableEq, Repr

def TraceStatus.toRun : TraceStatus → RunStatus
  | .success => .success
  | .partialSuccess => .partialSuccess
  | .timeout => .timeout
  | .failed => .failed

/-- A run in one of the other four statuses is over. -/
def RunStatus.isFinal : RunStatus → Bool
  | .queued | .running => false
  | _ => true

@[simp] theorem TraceStatus.toRun_isFinal (s : TraceStatus) : s.toRun.isFinal = true := by
  cases s <;> rfl

/-- `CanaryProbeRequest`, with the two constraints its fields declare. -/
structure CanaryProbeRequest where
  resourceType : ResourceType
  targetName : Option String := none
  bridge : String := "br-int"
  timeoutS : PyFloat := .fin 15
  pollIntervalMs : ℤ := 250
  expectOpenflow : Option Bool := none
  timeout_pos : PyFloat.lt (.fin 0) timeoutS = true
  poll_ge : 50 ≤ pollIntervalMs
  deriving DecidableEq

/-- The defaults are admitted. -/
theorem defaultTimeout_pos : PyFloat.lt (.fin 0) (.fin 15) = true := rfl

theorem defaultPoll_ge : (50 : ℤ) ≤ 250 := by decide

structure CanaryProbeStage where
  status : StageStatus
  observedAt : Option String := none
  latencyMs : Option ℚ := none
  detail : Option String := none
  evidence : List String := []
  deriving DecidableEq, Repr

structure CanaryProbeResult where
  probeId : String
  requestedResourceType : ResourceType
  resolvedResourceType : ResolvedType
  resourceName : String
  targetName : Option String := none
  startedAt : String
  finishedAt : Option String := none
  status : TraceStatus
  openflowExpected : Bool
  note : Option String := none
  nbUuid : Option String := none
  commandLatencyMs : ℚ
  nbCommitted : CanaryProbeStage
  sbRealized : CanaryProbeStage
  openflowRealized : CanaryProbeStage
  cleanup : CanaryProbeStage
  nbToSbLatencyMs : Option ℚ := none
  sbToOpenflowLatencyMs : Option ℚ := none
  totalLatencyMs : Option ℚ := none
  deriving DecidableEq, Repr

/-- `dict[str, str]`, in insertion order. -/
abbrev Dict := List (String × String)

structure PreparedProbe where
  probeId : String
  requestedResourceType : ResourceType
  resolvedResourceType : ResolvedType
  resourceName : String
  targetName : Option String
  bridge : String
  timeoutS : PyFloat
  pollIntervalS : ℚ
  openflowExpected : Bool
  note : Option String
  nbTable : String
  context : Dict := []
  createCommand : List String := []
  setupCommands : List (List String) := []
  cleanupCommands : List (List String) := []
  setupWait : Option (String × String) := none
  deriving DecidableEq, Repr

def elapsedMs (start stop : ℚ) : ℚ := roundMillis ((stop - start) * 1000)

end OvnApi.Traces
