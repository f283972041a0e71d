import OvnApi.Lib.Json
import OvnApi.Store.Table

/-! How a run is written to the SQL table and read back. The request and the
result are documents of the validation library, which writes a float that is not
finite as `null`; the prepared probe is a document of the standard library, which
keeps every float. A validation error carries the name of its model only. -/

namespace OvnApi.Store

open OvnApi.Core Lib Traces

/-! ### Documents -/

def resourceTypeCodec : Codec ResourceType :=
  .enum ResourceType.name [.acl, .logicalFlow, .nat, .natRule, .logicalSwitch, .network,
    .logicalRouter, .logicalSwitchPort, .logicalPort, .logicalRouterPort, .subnet]

def resolvedTypeCodec : Codec ResolvedType :=
  .enum ResolvedType.name [.acl, .nat, .logicalSwitch, .logicalRouter, .logicalSwitchPort,
    .logicalRouterPort]

def traceStatusName : TraceStatus → String
  | .success => "success"
  | .partialSuccess => "partial_success"
  | .timeout => "timeout"
  | .failed => "failed"

def stageStatusName : StageStatus → String
  | .observed => "observed"
  | .timeout => "timeout"
  | .skipped => "skipped"
  | .failed => "failed"

def traceStatusCodec : Codec TraceStatus :=
  .enum traceStatusName [.success, .partialSuccess, .timeout, .failed]

def stageStatusCodec : Codec StageStatus :=
  .enum stageStatusName [.observed, .timeout, .skipped, .failed]

/-- `CanaryProbeRequest.model_dump_json` and `model_validate_json`, which checks
the two bounds. -/
def requestCodec : Codec CanaryProbeRequest where
  encode request := .obj [
    ("resource_type", resourceTypeCodec.encode request.resourceType),
    ("target_name", Codec.string.optional.encode request.targetName),
    ("bridge", Codec.string.encode request.bridge),
    ("timeout_s", Codec.finiteFloat.encode request.timeoutS),
    ("poll_interval_ms", Codec.integer.encode request.pollIntervalMs),
    ("expect_openflow", Codec.boolean.optional.encode request.expectOpenflow)]
  decode j := do
    let resourceType ← j.field "resource_type" resourceTypeCodec
    let targetName ← j.fieldD "target_name" Codec.string.optional none
    let bridge ← j.fieldD "bridge" Codec.string "br-int"
    let timeoutS ← j.fieldD "timeout_s" Codec.finiteFloat (.fin 15)
    let pollIntervalMs ← j.fieldD "poll_interval_ms" Codec.integer 250
    let expectOpenflow ← j.fieldD "expect_openflow" Codec.boolean.optional none
    if timeout_pos : PyFloat.lt (.fin 0) timeoutS = true then
      if poll_ge : 50 ≤ pollIntervalMs then
        some { resourceType, targetName, bridge, timeoutS, pollIntervalMs, expectOpenflow,
               timeout_pos, poll_ge }
      else none
    else none

def stageCodec : Codec CanaryProbeStage where
  encode stage := .obj [
    ("status", stageStatusCodec.encode stage.status),
    ("observed_at", Codec.string.optional.encode stage.observedAt),
    ("latency_ms", Codec.rational.optional.encode stage.latencyMs),
    ("detail", Codec.string.optional.encode stage.detail),
    ("evidence", Codec.string.list.encode stage.evidence)]
  decode j := do
    let status ← j.field "status" stageStatusCodec
    let observedAt ← j.fieldD "observed_at" Codec.string.optional none
    let latencyMs ← j.fieldD "latency_ms" Codec.rational.optional none
    let detail ← j.fieldD "detail" Codec.string.optional none
    let evidence ← j.fieldD "evidence" Codec.string.list []
    return { status, observedAt, latencyMs, detail, evidence }

/-- `CanaryProbeResult.model_dump_json` and `model_validate_json`. Its floats are
differences of clock readings, all finite. -/
def resultCodec : Codec CanaryProbeResult where
  encode result := .obj [
    ("probe_id", Codec.string.encode result.probeId),
    ("requested_resource_type", resourceTypeCodec.encode result.requestedResourceType),
    ("resolved_resource_type", resolvedTypeCodec.encode result.resolvedResourceType),
    ("resource_name", Codec.string.encode result.resourceName),
    ("target_name", Codec.string.optional.encode result.targetName),
    ("started_at", Codec.string.encode result.startedAt),
    ("finished_at", Codec.string.optional.encode result.finishedAt),
    ("status", traceStatusCodec.encode result.status),
    ("openflow_expected", Codec.boolean.encode result.openflowExpected),
    ("note", Codec.string.optional.encode result.note),
    ("nb_uuid", Codec.string.optional.encode result.nbUuid),
    ("command_latency_ms", Codec.rational.encode result.commandLatencyMs),
    ("nb_committed", stageCodec.encode result.nbCommitted),
    ("sb_realized", stageCodec.encode result.sbRealized),
    ("openflow_realized", stageCodec.encode result.openflowRealized),
    ("cleanup", stageCodec.encode result.cleanup),
    ("nb_to_sb_latency_ms", Codec.rational.optional.encode result.nbToSbLatencyMs),
    ("sb_to_openflow_latency_ms", Codec.rational.optional.encode result.sbToOpenflowLatencyMs),
    ("total_latency_ms", Codec.rational.optional.encode result.totalLatencyMs)]
  decode j := do
    let probeId ← j.field "probe_id" Codec.string
    let requestedResourceType ← j.field "requested_resource_type" resourceTypeCodec
    let resolvedResourceType ← j.field "resolved_resource_type" resolvedTypeCodec
    let resourceName ← j.field "resource_name" Codec.string
    let targetName ← j.fieldD "target_name" Codec.string.optional none
    let startedAt ← j.field "started_at" Codec.string
    let finishedAt ← j.fieldD "finished_at" Codec.string.optional none
    let status ← j.field "status" traceStatusCodec
    let openflowExpected ← j.field "openflow_expected" Codec.boolean
    let note ← j.fieldD "note" Codec.string.optional none
    let nbUuid ← j.fieldD "nb_uuid" Codec.string.optional none
    let commandLatencyMs ← j.field "command_latency_ms" Codec.rational
    let nbCommitted ← j.field "nb_committed" stageCodec
    let sbRealized ← j.field "sb_realized" stageCodec
    let openflowRealized ← j.field "openflow_realized" stageCodec
    let cleanup ← j.field "cleanup" stageCodec
    let nbToSbLatencyMs ← j.fieldD "nb_to_sb_latency_ms" Codec.rational.optional none
    let sbToOpenflowLatencyMs ← j.fieldD "sb_to_openflow_latency_ms" Codec.rational.optional none
    let totalLatencyMs ← j.fieldD "total_latency_ms" Codec.rational.optional none
    return { probeId, requestedResourceType, resolvedResourceType, resourceName, targetName,
             startedAt, finishedAt, status, openflowExpected, note, nbUuid, commandLatencyMs,
             nbCommitted, sbRealized, openflowRealized, cleanup, nbToSbLatencyMs,
             sbToOpenflowLatencyMs, totalLatencyMs }

/-- The field `setup_wait`. A pair is written as an array and read back as a list,
which is no pair. -/
def setupWaitCodec : Codec (Option (String × String)) where
  encode
    | some (table, name) => .arr [.str table, .str name]
    | none => .null
  decode
    | .null => some none
    | _ => none

/-- `json.dumps(asdict(prepared))` and `PreparedProbe(**json.loads(text))`. -/
def preparedCodec : Codec PreparedProbe where
  encode prepared := .obj [
    ("probe_id", Codec.string.encode prepared.probeId),
    ("requested_resource_type", resourceTypeCodec.encode prepared.requestedResourceType),
    ("resolved_resource_type", resolvedTypeCodec.encode prepared.resolvedResourceType),
    ("resource_name", Codec.string.encode prepared.resourceName),
    ("target_name", Codec.string.optional.encode prepared.targetName),
    ("bridge", Codec.string.encode prepared.bridge),
    ("timeout_s", Codec.float.encode prepared.timeoutS),
    ("poll_interval_s", Codec.rational.encode prepared.pollIntervalS),
    ("openflow_expected", Codec.boolean.encode prepared.openflowExpected),
    ("note", Codec.string.optional.encode prepared.note),
    ("nb_table", Codec.string.encode prepared.nbTable),
    ("context", Codec.string.dict.encode prepared.context),
    ("create_command", Codec.string.list.encode prepared.createCommand),
    ("setup_commands", Codec.string.list.list.encode prepared.setupCommands),
    ("cleanup_commands", Codec.string.list.list.encode prepared.cleanupCommands),
    ("setup_wait", setupWaitCodec.encode prepared.setupWait)]
  decode j := do
    let probeId ← j.field "probe_id" Codec.string
    let requestedResourceType ← j.field "requested_resource_type" resourceTypeCodec
    let resolvedResourceType ← j.field "resolved_resource_type" resolvedTypeCodec
    let resourceName ← j.field "resource_name" Codec.string
    let targetName ← j.field "target_name" Codec.string.optional
    let bridge ← j.field "bridge" Codec.string
    let timeoutS ← j.field "timeout_s" Codec.float
    let pollIntervalS ← j.field "poll_interval_s" Codec.rational
    let openflowExpected ← j.field "openflow_expected" Codec.boolean
    let note ← j.field "note" Codec.string.optional
    let nbTable ← j.field "nb_table" Codec.string
    let context ← j.fieldD "context" Codec.string.dict []
    let createCommand ← j.fieldD "create_command" Codec.string.list []
    let setupCommands ← j.fieldD "setup_commands" Codec.string.list.list []
    let cleanupCommands ← j.fieldD "cleanup_commands" Codec.string.list.list []
    let setupWait ← j.fieldD "setup_wait" setupWaitCodec none
    return { probeId, requestedResourceType, resolvedResourceType, resourceName, targetName,
             bridge, timeoutS, pollIntervalS, openflowExpected, note, nbTable, context,
             createCommand, setupCommands, cleanupCommands, setupWait }

/-! ### Rows -/

/-- A row of `canary_trace_runs`. -/
structure CanaryTraceRow where
  probeId : String
  requestedResourceType : ResourceType
  resolvedResourceType : ResolvedType
  resourceName : String
  targetName : Option String
  status : RunStatus
  queuedAt : String
  startedAt : Option String
  updatedAt : String
  finishedAt : Option String
  openflowExpected : Bool
  queueDepth : Option ℤ
  note : Option String
  requestJson : Json
  preparedJson : Json
  resultJson : Option Json
  error : Option String

instance : RunRow CanaryTraceRow where
  probeId := CanaryTraceRow.probeId
  status := CanaryTraceRow.status
  queuedAt := CanaryTraceRow.queuedAt
  markStale reason finishedAt row :=
    { row with
      status := .failed
      error := some reason
      updatedAt := finishedAt
      finishedAt := some finishedAt }
  markStale_probeId _ _ _ := rfl

def serializeRun (run : PersistedCanaryRun) : CanaryTraceRow where
  probeId := run.probeId
  requestedResourceType := run.prepared.requestedResourceType
  resolvedResourceType := run.prepared.resolvedResourceType
  resourceName := run.prepared.resourceName
  targetName := run.prepared.targetName
  status := run.status
  queuedAt := run.queuedAt
  startedAt := run.startedAt
  updatedAt := run.updatedAt
  finishedAt := run.finishedAt
  openflowExpected := run.prepared.openflowExpected
  queueDepth := run.queueDepth
  note := run.prepared.note
  requestJson := requestCodec.encode run.request
  preparedJson := preparedCodec.encode run.prepared
  resultJson := run.result.map resultCodec.encode
  error := run.error

def validate {α : Type} (c : Codec α) (model : String) (j : Json) : Except Exc α :=
  match c.decode j with
  | some a => .ok a
  | none => .error (.other "ValidationError" model)

def deserializeRun (payload : CanaryTraceRow) : Except Exc PersistedCanaryRun := do
  let request ← validate requestCodec "CanaryProbeRequest" payload.requestJson
  let prepared ← validate preparedCodec "PreparedProbe" payload.preparedJson
  let result ← match payload.resultJson with
    | some j => (validate resultCodec "CanaryProbeResult" j).map some
    | none => pure none
  return {
    probeId := payload.probeId
    request
    prepared
    status := payload.status
    queuedAt := payload.queuedAt
    startedAt := payload.startedAt
    updatedAt := payload.updatedAt
    finishedAt := payload.finishedAt
    queueDepth := payload.queueDepth
    result
    error := payload.error }

def getRun (table : RunTable CanaryTraceRow) (probeId : String) :
    Except Exc (Option PersistedCanaryRun) :=
  match table.find probeId with
  | none => .ok none
  | some row => (deserializeRun row).map some

/-! ### Round trips of the documents -/

open Codec

theorem resourceTypeCodec_faithful : resourceTypeCodec.Faithful :=
  ⟨fun a => by cases a <;> rfl, nofun⟩

theorem resolvedTypeCodec_faithful : resolvedTypeCodec.Faithful :=
  ⟨fun a => by cases a <;> rfl, nofun⟩

theorem traceStatusCodec_faithful : traceStatusCodec.Faithful :=
  ⟨fun a => by cases a <;> rfl, nofun⟩

theorem stageStatusCodec_faithful : stageStatusCodec.Faithful :=
  ⟨fun a => by cases a <;> rfl, nofun⟩

/-- A request is read back if its timeout is finite, and rejected if not. -/
theorem requestCodec_decode_encode (request : CanaryProbeRequest) :
    requestCodec.decode (requestCodec.encode request) =
      if request.timeoutS.isFinite then some request else none := by
  have htimeout := finiteFloat_decode_encode request.timeoutS
  apply reads (resourceTypeCodec_faithful.decode_encode _)
  apply reads (optional_decode_encode string_faithful _)
  apply reads (string_faithful.decode_encode _)
  cases hfin : request.timeoutS.isFinite with
  | false =>
    rw [hfin] at htimeout
    exact rejects htimeout
  | true =>
    rw [hfin] at htimeout
    apply reads htimeout
    apply reads (integer_faithful.decode_encode _)
    apply reads (optional_decode_encode boolean_faithful _)
    rw [dif_pos request.timeout_pos, dif_pos request.poll_ge]
    rfl

theorem stageCodec_faithful : stageCodec.Faithful := by
  refine ⟨fun stage => ?_, fun _ => obj_ne_null _⟩
  apply reads (stageStatusCodec_faithful.decode_encode _)
  apply reads (optional_decode_encode string_faithful _)
  apply reads (optional_decode_encode rational_faithful _)
  apply reads (optional_decode_encode string_faithful _)
  apply reads ((list_faithful string_faithful).decode_encode _)
  rfl

theorem resultCodec_faithful : resultCodec.Faithful := by
  have hstring := string_faithful.decode_encode
  have hoptional := optional_decode_encode string_faithful
  have hlatency := optional_decode_encode rational_faithful
  have hstage := stageCodec_faithful.decode_encode
  refine ⟨fun result => ?_, fun _ => obj_ne_null _⟩
  apply reads (hstring _)
  apply reads (resourceTypeCodec_faithful.decode_encode _)
  apply reads (resolvedTypeCodec_faithful.decode_encode _)
  apply reads (hstring _)
  apply reads (hoptional _)
  apply reads (hstring _)
  apply reads (hoptional _)
  apply reads (traceStatusCodec_faithful.decode_encode _)
  apply reads (boolean_faithful.decode_encode _)
  apply reads (hoptional _)
  apply reads (hoptional _)
  apply reads (rational_faithful.decode_encode _)
  apply reads (hstage _)
  apply reads (hstage _)
  apply reads (hstage _)
  apply reads (hstage _)
  apply reads (hlatency _)
  apply reads (hlatency _)
  apply reads (hlatency _)
  rfl

/-- A prepared probe that waits for nothing is read back. -/
theorem preparedCodec_decode_encode {prepared : PreparedProbe} (h : prepared.setupWait = none) :
    preparedCodec.decode (preparedCodec.encode prepared) = some prepared := by
  have hstring := string_faithful.decode_encode
  have hoptional := optional_decode_encode string_faithful
  have hargv := (list_faithful string_faithful).decode_encode
  have hargvs := (list_faithful (list_faithful string_faithful)).decode_encode
  have hwait : setupWaitCodec.decode (setupWaitCodec.encode prepared.setupWait) =
      some prepared.setupWait := by rw [h]; rfl
  apply reads (hstring _)
  apply reads (resourceTypeCodec_faithful.decode_encode _)
  apply reads (resolvedTypeCodec_faithful.decode_encode _)
  apply reads (hstring _)
  apply reads (hoptional _)
  apply reads (hstring _)
  apply reads (float_faithful.decode_encode _)
  apply reads (rational_faithful.decode_encode _)
  apply reads (boolean_faithful.decode_encode _)
  apply reads (hoptional _)
  apply reads (hstring _)
  apply reads ((dict_faithful string_faithful).decode_encode _)
  apply reads (hargv _)
  apply reads (hargvs _)
  apply reads (hargvs _)
  apply reads hwait
  rfl

end OvnApi.Store
