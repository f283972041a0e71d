import OvnApi.Monitor.ApiMetrics
import OvnApi.Monitor.Exposition
import OvnApi.Scheduled.Names

/-! The Prometheus page of `ovn_api`: `LiveMonitoringService.render_prometheus_text` and
the part of it that `ScheduledTraceMetricsService.append_prometheus_metrics` writes, as
the list of the metrics in the order in which they are appended. -/

namespace OvnApi.Monitor

open OvnApi.Core Lib Exposition Traces Scheduled

/-- The value of a metric: `int | float`. -/
inductive Number where
  | int (n : ℤ)
  | float (x : ℚ)

def flag (b : Bool) : Number := .int (if b then 1 else 0)

def count (n : ℕ) : Number := .int n

/-! ### Label names -/

namespace Label

def component : LabelName := ⟨"component", isName_ofList (by decide)⟩
def result : LabelName := ⟨"result", isName_ofList (by decide)⟩
def db : LabelName := ⟨"db", isName_ofList (by decide)⟩
def status : LabelName := ⟨"status", isName_ofList (by decide)⟩
def aggregation : LabelName := ⟨"aggregation", isName_ofList (by decide)⟩
def requestedResourceType : LabelName := ⟨"requested_resource_type", isName_ofList (by decide)⟩
def profile : LabelName := ⟨"profile", isName_ofList (by decide)⟩
def bridge : LabelName := ⟨"bridge", isName_ofList (by decide)⟩
def targetName : LabelName := ⟨"target_name", isName_ofList (by decide)⟩
def targetResolutionMode : LabelName := ⟨"target_resolution_mode", isName_ofList (by decide)⟩
def phase : LabelName := ⟨"phase", isName_ofList (by decide)⟩
def method : LabelName := ⟨"method", isName_ofList (by decide)⟩
def statusClass : LabelName := ⟨"status_class", isName_ofList (by decide)⟩

end Label

def plain (name : String) (value : Number)
    (h : isName isNameStart isNameChar name.toList = true := by exact isName_ofList (by decide)) :
    Metric Number := { name := ⟨name, h⟩, value }

def labelled (name : String) (value : Number) (key : LabelName) (text : String)
    (h : isName isNameStart isNameChar name.toList = true := by exact isName_ofList (by decide)) :
    Metric Number where
  name := ⟨name, h⟩
  value
  labels := [(key, text)]
  distinct := List.nodup_singleton key

/-- `_append_optional_metric`. -/
def optional {α : Type} (value : Option α) (metric : α → Metric Number) : List (Metric Number) :=
  value.toList.map metric

/-! ### Scheduled probes -/

/-- `_RUN_STATUS_CODE`; a profile that has not run is idle. -/
def runStatusCode : Option TraceStatus → ℕ
  | some .success => 0
  | some .partialSuccess => 1
  | some .timeout => 2
  | some .failed => 3
  | none => 4

def stageStatusCode : StageStatus → ℕ
  | .observed => 0
  | .timeout => 1
  | .failed => 2
  | .skipped => 3

def resolutionModeText : TargetResolutionMode → String
  | .configured => "configured"
  | .auto => "auto"
  | .notRequired => "not_required"
  | .unresolved => "unresolved"

def phaseDurationMap (r : CanaryProbeResult) : List (String × Option ℚ) :=
  [("command", some r.commandLatencyMs),
    ("nb_committed", r.nbCommitted.latencyMs),
    ("sb_realized", r.sbRealized.latencyMs),
    ("openflow_realized", r.openflowRealized.latencyMs),
    ("nb_to_sb", r.nbToSbLatencyMs),
    ("sb_to_openflow", r.sbToOpenflowLatencyMs),
    ("total", r.totalLatencyMs)]

def phaseStateMap (r : CanaryProbeResult) : List (String × StageStatus) :=
  [("nb_committed", r.nbCommitted.status),
    ("sb_realized", r.sbRealized.status),
    ("openflow_realized", r.openflowRealized.status),
    ("cleanup", r.cleanup.status)]

def baseLabels (p : ProfileStatus) : List (LabelName × String) :=
  [(Label.requestedResourceType, p.state.config.requestedResourceType.name),
    (Label.profile, p.state.config.name)]

theorem baseLabels_distinct :
    [Label.requestedResourceType, Label.profile].Nodup := by decide

def profileMetric (p : ProfileStatus) (name : String) (value : Number)
    (h : isName isNameStart isNameChar name.toList = true := by exact isName_ofList (by decide)) :
    Metric Number where
  name := ⟨name, h⟩
  value
  labels := baseLabels p
  distinct := baseLabels_distinct

def profileMetricWith (p : ProfileStatus) (key : LabelName)
    (hkey : [Label.requestedResourceType, Label.profile, key].Nodup) (name : String)
    (value : Number) (text : String)
    (h : isName isNameStart isNameChar name.toList = true := by exact isName_ofList (by decide)) :
    Metric Number where
  name := ⟨name, h⟩
  value
  labels := baseLabels p ++ [(key, text)]
  distinct := hkey

def runsTotal (p : ProfileStatus) (n : ℕ) (text : String) : Metric Number :=
  profileMetricWith p Label.result (by decide) "ovn_api_scheduled_trace_runs_total" (count n) text

def profileInfo (p : ProfileStatus) : Metric Number where
  name := ⟨"ovn_api_scheduled_trace_profile_info", isName_ofList (by decide)⟩
  value := .int 1
  labels := baseLabels p ++ [(Label.bridge, p.state.config.bridge),
    (Label.targetName, p.state.resolvedTargetName.getD ""),
    (Label.targetResolutionMode, resolutionModeText p.state.targetResolutionMode)]
  distinct := show [Label.requestedResourceType, Label.profile, Label.bridge, Label.targetName,
    Label.targetResolutionMode].Nodup by decide

/-- What the page reads of the clock: the present time, and the time that a stamp denotes. -/
structure PageClock where
  time : ℚ
  fromIsoformat : String → Option ℚ

def PageClock.epochSeconds (clock : PageClock) (stamp : Option String) : Option ℚ :=
  (given stamp).bind clock.fromIsoformat

def phaseDuration (p : ProfileStatus) (phase : String) (ms : ℚ) : Metric Number :=
  profileMetricWith p Label.phase (by decide) "ovn_api_scheduled_trace_phase_duration_ms"
    (.float ms) phase

def phaseState (p : ProfileStatus) (phase : String) (status : StageStatus) : Metric Number :=
  profileMetricWith p Label.phase (by decide) "ovn_api_scheduled_trace_phase_state_code"
    (count (stageStatusCode status)) phase

def phaseMetrics (p : ProfileStatus) (result : CanaryProbeResult) : List (Metric Number) :=
  ((phaseDurationMap result).flatMap fun entry => optional entry.2 (phaseDuration p entry.1)) ++
  (phaseStateMap result).map fun entry => phaseState p entry.1 entry.2

def profileMetrics (clock : PageClock) (p : ProfileStatus) : List (Metric Number) :=
  [profileMetric p "ovn_api_scheduled_trace_profile_enabled" (flag p.enabled),
    profileMetric p "ovn_api_scheduled_trace_last_run_status_code"
      (count (runStatusCode p.state.lastStatus)),
    runsTotal p p.state.runCount "all",
    runsTotal p p.state.successCount "success",
    runsTotal p p.state.partialSuccessCount "partial_success",
    runsTotal p p.state.timeoutCount "timeout",
    runsTotal p p.state.failedCount "failed",
    profileInfo p] ++
  optional (clock.epochSeconds p.state.lastFinishedAt) (fun t => profileMetric p
    "ovn_api_scheduled_trace_last_run_timestamp_seconds" (.float t)) ++
  optional (clock.epochSeconds p.state.lastSuccessAt) (fun t => profileMetric p
    "ovn_api_scheduled_trace_last_success_timestamp_seconds" (.float t)) ++
  optional (clock.epochSeconds p.state.lastFinishedAt) (fun t => profileMetric p
    "ovn_api_scheduled_trace_last_run_age_seconds"
    (.float (roundMillis (max (clock.time - t) 0)))) ++
  p.state.lastResult.toList.flatMap (phaseMetrics p)

def schedulerMetrics (enabled workerAlive : Bool) : List (Metric Number) :=
  [plain "ovn_api_scheduled_trace_metrics_enabled" (flag enabled),
    plain "ovn_api_scheduled_trace_service_up" (flag workerAlive)]

/-- `append_prometheus_metrics`, on the snapshot it takes and the flag it reads after it. -/
def appendPrometheusMetrics (clock : PageClock) (snapshot : Scheduled.Snapshot) (enabled : Bool) :
    List (Metric Number) :=
  schedulerMetrics enabled snapshot.workerAlive ++ snapshot.profiles.flatMap (profileMetrics clock)

/-! ### The monitoring snapshot -/

def componentUp (text : String) (c : ComponentStatus) : Metric Number :=
  labelled "ovn_api_monitoring_component_up" (flag c.available) Label.component text

def componentAge (text : String) (c : ComponentStatus) : List (Metric Number) :=
  optional c.ageS fun age =>
    labelled "ovn_api_monitoring_component_age_seconds" (.float age) Label.component text

def capacityMetrics (c : CapacityMetrics) : List (Metric Number) :=
  [plain "ovn_api_capacity_logical_flows" (count c.logicalFlowCount),
    plain "ovn_api_capacity_logical_switches" (count c.logicalSwitchCount),
    plain "ovn_api_capacity_logical_switch_ports" (count c.logicalSwitchPortCount),
    plain "ovn_api_capacity_logical_routers" (count c.logicalRouterCount),
    plain "ovn_api_capacity_logical_router_ports" (count c.logicalRouterPortCount),
    plain "ovn_api_capacity_acls" (count c.aclCount),
    plain "ovn_api_capacity_nats" (count c.natCount),
    plain "ovn_api_capacity_load_balancers" (count c.loadBalancerCount)]

def lookupsTotal (n : ℕ) (text : String) : Metric Number :=
  labelled "ovn_api_datapath_lookups_total" (count n) Label.result text

def datapathMetrics (d : DatapathMetrics) : List (Metric Number) :=
  [plain "ovn_api_datapath_flows" (count d.datapathFlows),
    lookupsTotal d.lookupsHit "hit",
    lookupsTotal d.lookupsMissed "missed",
    lookupsTotal d.lookupsLost "lost"] ++
  optional d.cacheHitRate (fun x => plain "ovn_api_datapath_cache_hit_rate_percent" (.float x)) ++
  optional d.maskHitPerPkt (fun x => plain "ovn_api_datapath_mask_hit_per_pkt" (.float x))

def transactionLatency (ms : ℚ) (text : String) : Metric Number :=
  labelled "ovn_api_ovsdb_transaction_latency_ms" (.float ms) Label.db text

def idlSyncLatency (ms : ℚ) (text : String) : Metric Number :=
  labelled "ovn_api_ovsdb_idl_sync_latency_ms" (.float ms) Label.db text

def bfdSessions (n : ℕ) (text : String) : Metric Number :=
  labelled "ovn_api_bfd_sessions" (count n) Label.status text

def bfdMinTx (text : String) (ms : ℤ) : Metric Number :=
  labelled "ovn_api_bfd_min_tx_ms" (.int ms) Label.aggregation text

def bfdMinRx (text : String) (ms : ℤ) : Metric Number :=
  labelled "ovn_api_bfd_min_rx_ms" (.int ms) Label.aggregation text

def latencyMetrics (l : LatencyMetrics) : List (Metric Number) :=
  [transactionLatency l.ovsdb.nbTransactionLatencyMs "nb",
    transactionLatency l.ovsdb.sbTransactionLatencyMs "sb",
    idlSyncLatency l.ovsdb.nbIdlSyncLatencyMs "nb",
    idlSyncLatency l.ovsdb.sbIdlSyncLatencyMs "sb",
    bfdSessions l.bfd.sessionCount "total",
    bfdSessions l.bfd.upCount "up",
    bfdSessions l.bfd.downCount "down",
    bfdSessions l.bfd.adminDownCount "admin_down",
    bfdSessions l.bfd.initCount "init"] ++
  optional l.bfd.minTxMinMs (bfdMinTx "min") ++
  optional l.bfd.minTxMaxMs (bfdMinTx "max") ++
  optional l.bfd.minRxMinMs (bfdMinRx "min") ++
  optional l.bfd.minRxMaxMs (bfdMinRx "max")

def snapshotReady (ready : Bool) : Metric Number :=
  plain "ovn_api_monitoring_snapshot_ready" (flag ready)

/-- What the page takes from the snapshot alone. -/
def snapshotMetrics (s : MonitoringSnapshot) : List (Metric Number) :=
  [snapshotReady true,
    plain "ovn_api_monitoring_sequence" (count s.sequence),
    componentUp "capacity" s.capacityStatus,
    componentUp "datapath" s.datapathStatus,
    componentUp "latency" s.latencyStatus] ++
  componentAge "capacity" s.capacityStatus ++
  componentAge "datapath" s.datapathStatus ++
  componentAge "latency" s.latencyStatus ++
  s.capacity.toList.flatMap capacityMetrics ++
  s.datapath.toList.flatMap datapathMetrics ++
  s.latency.toList.flatMap latencyMetrics ++
  [plain "ovn_api_trace_queue_depth" (count s.traceRuntime.queueDepth),
    plain "ovn_api_trace_worker_up" (flag s.traceRuntime.workerAlive),
    plain "ovn_api_trace_max_runs" (count s.traceRuntime.maxRuns)]

/-! ### The page -/

def exporterMetrics (r : ApiRuntimeMetrics) : List (Metric Number) :=
  [plain "ovn_api_exporter_up" (.int 1), plain "ovn_api_uptime_seconds" (.float r.uptimeS)]

def apiMetrics (r : ApiRuntimeMetrics) : List (Metric Number) :=
  [plain "ovn_api_http_requests_total" (count r.httpRequestsTotal),
    plain "ovn_api_http_requests_in_flight" (count r.httpRequestsInFlight),
    plain "ovn_api_http_request_errors_total" (count r.httpRequestErrorsTotal),
    plain "ovn_api_http_request_duration_ms_sum" (.float r.httpRequestDurationMsSum),
    plain "ovn_api_http_request_duration_ms_count" (count r.httpRequestDurationMsCount),
    plain "ovn_api_websocket_clients" (count r.websocketClientsCurrent),
    plain "ovn_api_websocket_connections_total" (count r.websocketConnectionsTotal),
    plain "ovn_api_websocket_messages_sent_total" (count r.websocketMessagesSentTotal)]

def methodStatusMetric (row : MethodStatus × ℕ) : Metric Number where
  name := ⟨"ovn_api_http_requests_by_method_status_total", isName_ofList (by decide)⟩
  value := count row.2
  labels := [(Label.method, row.1.1), (Label.statusClass, row.1.2)]
  distinct := show [Label.method, Label.statusClass].Nodup by decide

/-- `sorted(http_breakdown.items())`; the keys are distinct, so they decide the order. -/
def sortedBreakdown (rows : List (MethodStatus × ℕ)) : List (MethodStatus × ℕ) :=
  rows.insertionSort fun a b => a.1.1 < b.1.1 ∨ a.1.1 = b.1.1 ∧ a.1.2 ≤ b.1.2

/-- What the page is made of. It is read piece by piece, while the services go on. -/
structure PageReads where
  snapshot : Option MonitoringSnapshot
  apiRuntime : ApiRuntimeMetrics
  httpBreakdown : List (MethodStatus × ℕ)
  scheduled : Scheduled.Snapshot
  enabled : Bool

/-- `render_prometheus_text`. The scheduled probes are read anew, whatever the snapshot
holds of them. -/
def renderPrometheusText (clock : PageClock) (r : PageReads) : List (Metric Number) :=
  exporterMetrics r.apiRuntime ++
  (match r.snapshot with
  | none => [snapshotReady false]
  | some snapshot => snapshotMetrics snapshot ++
    if snapshot.scheduledTraceMetrics.isSome then
      appendPrometheusMetrics clock r.scheduled r.enabled
    else []) ++
  apiMetrics r.apiRuntime ++
  (sortedBreakdown r.httpBreakdown).map methodStatusMetric

end OvnApi.Monitor
