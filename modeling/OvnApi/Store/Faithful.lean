import OvnApi.Store.Codec
import OvnApi.Traces.Build

/-! The store as a map from ids to runs. A run is read back from its row exactly
when its timeout is finite, so `get_run` gives the record last written for an id,
or raises for a run whose timeout is infinite. The rows are translated from the
table of records that the services reason with, statement by statement. -/

namespace OvnApi.Store

open OvnApi.Core Lib Traces

/-- The probe of the record was prepared from its request. -/
def PersistedCanaryRun.Built (run : PersistedCanaryRun) : Prop :=
  ∃ nb probeId, buildProbe nb probeId run.request = .ok run.prepared

/-- A row is read back as the record it was written from, if the timeout of its
request is finite, and is unreadable if not. -/
theorem deserializeRun_serializeRun {run : PersistedCanaryRun} (h : run.Built) :
    deserializeRun (serializeRun run) =
      if run.request.timeoutS.isFinite then .ok run
      else .error (.other "ValidationError" "CanaryProbeRequest") := by
  obtain ⟨nb, probeId, hbuilt⟩ := h
  have hrequest := requestCodec_decode_encode run.request
  have hprepared := preparedCodec_decode_encode (buildProbe_setupWait hbuilt)
  have hresult := resultCodec_faithful.decode_encode
  obtain ⟨id, request, prepared, status, queuedAt, updatedAt, startedAt, finishedAt, queueDepth,
    result, error⟩ := run
  cases hfin : request.timeoutS.isFinite with
  | false =>
    simp only [hfin] at hrequest
    simp only [deserializeRun, serializeRun, validate, hrequest]
    rfl
  | true =>
    simp only [hfin] at hrequest
    -- the result column is absent or a document
    cases result with
    | none =>
      simp only [deserializeRun, serializeRun, validate, hrequest, hprepared]
      rfl
    | some result =>
      simp only [deserializeRun, serializeRun, validate, hrequest, hprepared, Option.map_some,
        hresult]
      rfl

/-! ### Sequences of writes -/

/-- A call of `create_run` or `update_run`. -/
inductive Write where
  | create (run : PersistedCanaryRun)
  | update (run : PersistedCanaryRun)

def Write.run : Write → PersistedCanaryRun
  | .create run | .update run => run

def Write.apply (cause : String) (table : RunTable CanaryTraceRow) :
    Write → Except Exc (RunTable CanaryTraceRow)
  | .create run => createRun cause table (serializeRun run)
  | .update run => updateRun table (serializeRun run)

/-- The table and the records written to it, the last one first. -/
structure History where
  table : RunTable CanaryTraceRow
  written : List PersistedCanaryRun

def History.empty : History := ⟨⟨[], List.nodup_nil⟩, []⟩

/-- A call that raises writes nothing. -/
def History.add (cause : String) (history : History) (write : Write) : History :=
  match write.apply cause history.table with
  | .ok table => ⟨table, write.run :: history.written⟩
  | .error _ => history

def replay (cause : String) (writes : List Write) : History :=
  writes.foldl (History.add cause) History.empty

def History.last (history : History) (probeId : String) : Option PersistedCanaryRun :=
  history.written.find? fun run => run.probeId = probeId

/-- The table holds, for every id, the row of the record last written for it, and
every record written holds a probe prepared from its request. -/
structure History.Sound (history : History) : Prop where
  current : ∀ id, history.table.find id = (history.last id).map serializeRun
  built : ∀ run ∈ history.written, run.Built

theorem Write.apply_ok {cause : String} {table table' : RunTable CanaryTraceRow} {write : Write}
    (h : write.apply cause table = .ok table') (id : String) :
    table'.find id =
      if id = write.run.probeId then some (serializeRun write.run) else table.find id := by
  cases write with
  | create run => exact (createRun_ok h).2 id
  | update run => exact (updateRun_ok h).2 id

theorem History.Sound.add {cause : String} {history : History} (h : history.Sound) {write : Write}
    (hbuilt : write.run.Built) : (history.add cause write).Sound := by
  unfold History.add
  cases happly : write.apply cause history.table with
  | error e => exact h
  | ok table =>
    refine ⟨fun id => ?_, List.forall_mem_cons.mpr ⟨hbuilt, h.built⟩⟩
    change table.find id = _
    rw [Write.apply_ok happly, History.last, List.find?_cons]
    by_cases hid : id = write.run.probeId
    · simp [hid]
    · rw [if_neg hid, h.current id]
      simp [Ne.symm hid, History.last]

theorem replay_sound {cause : String} {writes : List Write}
    (hbuilt : ∀ write ∈ writes, write.run.Built) : (replay cause writes).Sound := by
  have hempty : History.empty.Sound := ⟨fun _ => rfl, fun _ h => absurd h List.not_mem_nil⟩
  unfold replay
  revert hempty
  generalize History.empty = history
  induction writes generalizing history with
  | nil => exact id
  | cons write writes ih =>
    intro h
    apply ih fun w hw => hbuilt w (List.mem_cons_of_mem _ hw)
    exact h.add (hbuilt write List.mem_cons_self)

/-- `get_run` answers with the record last written for the id, or raises if the
timeout of that record is not finite. -/
theorem History.Sound.getRun_eq {history : History} (h : history.Sound) (id : String) :
    getRun history.table id =
      if ∀ run ∈ history.last id, run.request.timeoutS.isFinite = true then .ok (history.last id)
      else .error (.other "ValidationError" "CanaryProbeRequest") := by
  rw [getRun, h.current id]
  cases hlast : history.last id with
  | none => simp
  | some run =>
    have hbuilt := h.built run (List.mem_of_find?_eq_some hlast)
    simp only [Option.map_some, deserializeRun_serializeRun hbuilt, Option.mem_some_iff,
      forall_eq']
    split_ifs with hfin
    · rfl
    · rfl

theorem ite_ok_iff {α : Type} {p : Prop} [Decidable p] {a : α} {e : Exc} :
    (if p then Except.ok a else .error e) = .ok a ↔ p := by
  split_ifs with h
  · simp [h]
  · simp [h]

/-- The store gives back what was written exactly for the runs whose timeout is
finite: from a single row, and with `get_run` after any sequence of writes. An
update never changes what is read for another id. -/
theorem store_faithful_iff_finite (cause : String) (writes : List Write)
    (hwrites : ∀ write ∈ writes, write.run.Built) (run : PersistedCanaryRun) (hrun : run.Built) :
    (deserializeRun (serializeRun run) = .ok run ↔ run.request.timeoutS.isFinite = true) ∧
    (∀ id, getRun (replay cause writes).table id = .ok ((replay cause writes).last id) ↔
      ∀ last ∈ (replay cause writes).last id, last.request.timeoutS.isFinite = true) ∧
    ∀ table table' id, updateRun table (serializeRun run) = .ok table' → id ≠ run.probeId →
      getRun table' id = getRun table id := by
  refine ⟨?_, fun id => ?_, fun table table' id hupdate hid => ?_⟩
  · rw [deserializeRun_serializeRun hrun]
    exact ite_ok_iff
  · rw [(replay_sound hwrites).getRun_eq id]
    exact ite_ok_iff
  · have hfind : table'.find id = table.find id := by
      rw [(updateRun_ok hupdate).2 id]
      exact if_neg hid
    rw [getRun, getRun, hfind]

def sampleRun (d : Fin 10) (timeoutS : PyFloat) (timeout_pos : PyFloat.lt (.fin 0) timeoutS = true) :
    PersistedCanaryRun :=
  let probeId := Uuid.uniform d
  let request : CanaryProbeRequest :=
    { resourceType := .logicalSwitch, timeoutS, timeout_pos, poll_ge := defaultPoll_ge }
  { probeId := probeId.text
    request
    prepared := assemble probeId request (logicalSwitchPlan probeId .logicalSwitch)
    status := .queued
    queuedAt := "2024-01-01T00:00:00.000+00:00"
    updatedAt := "2024-01-01T00:00:00.000+00:00" }

theorem sampleRun_built (d : Fin 10) (timeoutS : PyFloat) (h : PyFloat.lt (.fin 0) timeoutS = true) :
    (sampleRun d timeoutS h).Built :=
  ⟨.ok {}, Uuid.uniform d, rfl⟩

/-- A run is created, another one, and the first is updated. -/
theorem store_faithful_default_timeout : ∃ run running other : PersistedCanaryRun,
    run.request.timeoutS = .fin 15 ∧ running.status = .running ∧ running.probeId = run.probeId ∧
    other.probeId ≠ run.probeId ∧
    getRun (replay "" [.create run, .create other, .update running]).table run.probeId =
      .ok (some running) ∧
    getRun (replay "" [.create run, .create other, .update running]).table other.probeId =
      .ok (some other) := by
  let run := sampleRun 1 (.fin 15) (by simp)
  let other := sampleRun 2 (.fin 15) (by simp)
  let running := { run with status := .running }
  have hbuilt : run.Built := sampleRun_built 1 (.fin 15) (by simp)
  have hwrites : ∀ write ∈ [Write.create run, .create other, .update running], write.run.Built :=
    List.forall_mem_cons.mpr ⟨hbuilt, List.forall_mem_cons.mpr
      ⟨sampleRun_built 2 (.fin 15) (by simp), List.forall_mem_singleton.mpr hbuilt⟩⟩
  have hread := (store_faithful_iff_finite "" _ hwrites run hbuilt).2.1
  have hlast : (replay "" [.create run, .create other, .update running]).last run.probeId =
      some running := by decide +kernel
  have hlast' : (replay "" [.create run, .create other, .update running]).last other.probeId =
      some other := by decide +kernel
  refine ⟨run, running, other, rfl, rfl, rfl, by decide, ?_, ?_⟩
  · rw [(hread run.probeId).mpr, hlast]
    rw [hlast]
    rintro _ ⟨⟩
    rfl
  · rw [(hread other.probeId).mpr, hlast']
    rw [hlast']
    rintro _ ⟨⟩
    rfl

/-- An infinite timeout passes the validation of the request, and the run written
with it cannot be read. -/
theorem infinite_timeout_unreadable :
    ∃ run : PersistedCanaryRun, run.Built ∧ run.request.timeoutS = .inf ∧
      deserializeRun (serializeRun run) = .error (.other "ValidationError" "CanaryProbeRequest") ∧
      getRun (replay "" [.create run]).table run.probeId =
        .error (.other "ValidationError" "CanaryProbeRequest") :=
  ⟨sampleRun 1 .inf rfl, sampleRun_built 1 .inf rfl, rfl, rfl, rfl⟩

/-! ### Rows and records -/

section Rows

variable {cause reason finishedAt : String} {table : RunTable PersistedCanaryRun}
  {run : PersistedCanaryRun}

theorem probeId_serializeRun (run : PersistedCanaryRun) :
    RunRow.probeId (serializeRun run) = RunRow.probeId run := rfl

def toRows (table : RunTable PersistedCanaryRun) : RunTable CanaryTraceRow :=
  table.mapRows serializeRun probeId_serializeRun

/-- The two orders agree on records and their rows. -/
def SameOrder (rows : QueuedAtDesc CanaryTraceRow) (runs : QueuedAtDesc PersistedCanaryRun) : Prop :=
  ∀ records, rows.sort (records.map serializeRun) = (runs.sort records).map serializeRun

theorem createRun_toRows :
    createRun cause (toRows table) (serializeRun run) = (createRun cause table run).map toRows := by
  unfold createRun toRows
  rw [KeyedTable.insert_mapRows]
  cases table.insert run <;> rfl

theorem updateRun_toRows :
    updateRun (toRows table) (serializeRun run) = (updateRun table run).map toRows := by
  unfold updateRun toRows
  rw [KeyedTable.replace_mapRows]
  cases table.replace run <;> rfl

theorem failStaleRuns_toRows :
    failStaleRuns reason finishedAt (toRows table) = toRows (failStaleRuns reason finishedAt table) := by
  apply KeyedTable.updateAll_mapRows
  intro run
  change (if isFinished run then _ else _) = _
  split_ifs <;> rfl

theorem pruneFinishedRuns_toRows {rows : QueuedAtDesc CanaryTraceRow}
    {runs : QueuedAtDesc PersistedCanaryRun} (h : SameOrder rows runs) {maxRuns : ℕ} :
    pruneFinishedRuns rows maxRuns (toRows table) = toRows (pruneFinishedRuns runs maxRuns table) := by
  have hremovable : removableProbeIds rows maxRuns (toRows table) =
      removableProbeIds runs maxRuns table := by
    have hfilter : (toRows table).rows.filter isFinished =
        (table.rows.filter isFinished).map serializeRun := List.filter_map
    rw [removableProbeIds, hfilter, h, List.map_map]
    rfl
  apply KeyedTable.filter_mapRows
  intro run
  rw [hremovable]
  rfl

/-- `get_run` on the rows is the lookup of the record, for a run that can be read. -/
theorem getRun_toRows {id : String} (hbuilt : ∀ run ∈ table.find id, run.Built)
    (hfin : ∀ run ∈ table.find id, run.request.timeoutS.isFinite = true) :
    getRun (toRows table) id = .ok (table.find id) := by
  unfold getRun toRows
  rw [KeyedTable.find_mapRows]
  cases hfind : table.find id with
  | none => rfl
  | some run =>
    rw [hfind] at hbuilt hfin
    rw [Option.map_some]
    simp only [deserializeRun_serializeRun (hbuilt run rfl), hfin run rfl]
    rfl

/-- `get_run` on the rows gives a run exactly if it is stored and its timeout finite. -/
theorem getRun_toRows_iff {id : String} (hbuilt : ∀ stored ∈ table.find id, stored.Built) :
    getRun (toRows table) id = .ok (some run) ↔
      run.request.timeoutS.isFinite = true ∧ table.find id = some run := by
  unfold getRun toRows
  rw [KeyedTable.find_mapRows]
  cases hfind : table.find id with
  | none => simp
  | some stored =>
    rw [hfind] at hbuilt
    simp only [Option.map_some, deserializeRun_serializeRun (hbuilt stored rfl)]
    by_cases hfin : stored.request.timeoutS.isFinite = true
    · simp only [hfin, if_true, Except.map, Except.ok.injEq, Option.some.injEq]
      exact ⟨fun h => ⟨h ▸ hfin, h⟩, fun h => h.2⟩
    · constructor
      · intro h
        simp [hfin, Except.map] at h
      · rintro ⟨hfin', heq⟩
        exact absurd hfin' (Option.some.inj heq ▸ hfin)

end Rows

end OvnApi.Store
