import OvnApi.Scheduled.Service

/-! The records of live monitoring: the measurements of the three components, the
counters of the API itself, and the snapshot that puts them together. Times are taken as
exact; of the latency measurement, the fields that nothing here reads are left out. -/

namespace OvnApi.Monitor

open Lib

structure CapacityMetrics where
  logicalFlowCount : ℕ
  logicalSwitchCount : ℕ
  logicalSwitchPortCount : ℕ
  logicalRouterCount : ℕ
  logicalRouterPortCount : ℕ
  aclCount : ℕ
  natCount : ℕ
  loadBalancerCount : ℕ
  deriving DecidableEq

structure DatapathMetrics where
  datapathFlows : ℕ
  lookupsHit : ℕ
  lookupsMissed : ℕ
  lookupsLost : ℕ
  cacheHitRate : Option ℚ := none
  maskHitPerPkt : Option ℚ := none
  deriving DecidableEq

structure BfdLatencyMetrics where
  sessionCount : ℕ
  upCount : ℕ
  downCount : ℕ
  adminDownCount : ℕ
  initCount : ℕ
  minTxMinMs : Option ℤ := none
  minTxMaxMs : Option ℤ := none
  minRxMinMs : Option ℤ := none
  minRxMaxMs : Option ℤ := none
  deriving DecidableEq

structure OvsdbLatencyMetrics where
  nbTransactionLatencyMs : ℚ
  sbTransactionLatencyMs : ℚ
  nbIdlSyncLatencyMs : ℚ
  sbIdlSyncLatencyMs : ℚ
  deriving DecidableEq

structure LatencyMetrics where
  bfd : BfdLatencyMetrics
  ovsdb : OvsdbLatencyMetrics
  deriving DecidableEq

inductive MonitoringStatus where
  | ok | degraded
  deriving DecidableEq

structure ComponentStatus where
  available : Bool
  updatedAt : Option ℚ := none
  ageS : Option ℚ := none
  error : Option String := none
  deriving DecidableEq

structure TraceRuntimeMetrics where
  queueDepth : ℕ
  workerAlive : Bool
  maxRuns : ℕ
  deriving DecidableEq

structure ApiRuntimeMetrics where
  uptimeS : ℚ
  httpRequestsTotal : ℕ
  httpRequestsInFlight : ℕ
  httpRequestErrorsTotal : ℕ
  httpRequestDurationMsSum : ℚ
  httpRequestDurationMsCount : ℕ
  websocketClientsCurrent : ℕ
  websocketConnectionsTotal : ℕ
  websocketMessagesSentTotal : ℕ
  deriving DecidableEq

structure MonitoringSnapshot where
  sequence : ℕ
  generatedAt : ℚ
  status : MonitoringStatus
  intervalS : ℚ
  capacity : Option CapacityMetrics
  datapath : Option DatapathMetrics
  latency : Option LatencyMetrics
  capacityStatus : ComponentStatus
  datapathStatus : ComponentStatus
  latencyStatus : ComponentStatus
  traceRuntime : TraceRuntimeMetrics
  scheduledTraceMetrics : Option Scheduled.Snapshot
  apiRuntime : ApiRuntimeMetrics
  errors : List String

end OvnApi.Monitor
