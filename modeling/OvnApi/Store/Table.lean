import OvnApi.Lib.KeyedTable
import OvnApi.Traces.Models
import Mathlib.Data.List.Sort
import Mathlib.Data.String.Basic

/-! The trace store as a table of runs. The statements the store issues need
little of a row: its id, status and queueing time, and how the recovery of stale
runs changes it. They are written once for any such row, and used both for the
records the services hold and for the rows of the SQL table. -/

namespace OvnApi.Store

open OvnApi.Core Lib Traces

/-- What the SQL statements of the store read and write of a row. -/
class RunRow (ρ : Type) where
  probeId : ρ → String
  status : ρ → RunStatus
  queuedAt : ρ → String
  /-- The values `fail_stale_runs` sets. -/
  markStale : String → String → ρ → ρ
  markStale_probeId : ∀ reason finishedAt row, probeId (markStale reason finishedAt row) = probeId row

/-- The table, with `probe_id` as its primary key. -/
abbrev RunTable (ρ : Type) [RunRow ρ] := KeyedTable (RunRow.probeId : ρ → String)

/-- `ORDER BY queued_at DESC`. The database is free in the order of rows queued at
the same time. -/
structure QueuedAtDesc (ρ : Type) [RunRow ρ] where
  sort : List ρ → List ρ
  perm : ∀ rows, (sort rows).Perm rows
  sorted : ∀ rows, (sort rows).Pairwise fun a b => RunRow.queuedAt b ≤ RunRow.queuedAt a

/-- One such order: rows queued at the same time stay as they are stored. -/
def QueuedAtDesc.stable (ρ : Type) [RunRow ρ] : QueuedAtDesc ρ where
  sort := List.insertionSort fun a b => RunRow.queuedAt b ≤ RunRow.queuedAt a
  perm := List.perm_insertionSort _
  sorted rows := by
    have : Std.Total fun a b : ρ => RunRow.queuedAt b ≤ RunRow.queuedAt a :=
      ⟨fun a b => le_total (RunRow.queuedAt b) (RunRow.queuedAt a)⟩
    have : IsTrans ρ fun a b => RunRow.queuedAt b ≤ RunRow.queuedAt a :=
      ⟨fun _ _ _ hab hbc => le_trans hbc hab⟩
    exact List.pairwise_insertionSort _ rows

section Statements

variable {ρ : Type} [RunRow ρ]

/-- `create_run`; `cause` is the text of the driver's integrity error. -/
def createRun (cause : String) (table : RunTable ρ) (run : ρ) : Except Exc (RunTable ρ) :=
  match table.insert run with
  | some table' => .ok table'
  | none => .error (.http 500 ("Failed to persist canary run " ++ pyRepr (RunRow.probeId run) ++
      ": " ++ cause))

def updateRun (table : RunTable ρ) (run : ρ) : Except Exc (RunTable ρ) :=
  match table.replace run with
  | some table' => .ok table'
  | none => .error (.http 404 ("Canary probe " ++ pyRepr (RunRow.probeId run) ++
      " not found in trace store."))

def isFinished (row : ρ) : Bool := (RunRow.status row).isFinal

def failStaleRuns (reason finishedAt : String) (table : RunTable ρ) : RunTable ρ :=
  table.updateAll
    (fun row => if isFinished row then row else RunRow.markStale reason finishedAt row)
    (fun row => by
      split
      · rfl
      · exact RunRow.markStale_probeId _ _ _)

/-- The ids `prune_finished_runs` deletes. -/
def removableProbeIds (order : QueuedAtDesc ρ) (maxRuns : ℕ) (table : RunTable ρ) :
    List String :=
  ((order.sort (table.rows.filter isFinished)).map RunRow.probeId).drop maxRuns

def pruneFinishedRuns (order : QueuedAtDesc ρ) (maxRuns : ℕ) (table : RunTable ρ) : RunTable ρ :=
  table.filter fun row => RunRow.probeId row ∉ removableProbeIds order maxRuns table

/-! ### What the statements do to a lookup -/

variable {cause reason finishedAt id : String} {table table' : RunTable ρ} {run row : ρ}
  {order : QueuedAtDesc ρ} {maxRuns : ℕ}

theorem createRun_ok (h : createRun cause table run = .ok table') :
    table.find (RunRow.probeId run) = none ∧
      ∀ id, table'.find id = if id = RunRow.probeId run then some run else table.find id := by
  unfold createRun at h
  cases hin : table.insert run with
  | none => simp [hin] at h
  | some t =>
    obtain rfl : t = table' := by simpa [hin] using h
    exact KeyedTable.find_insert hin

theorem updateRun_ok (h : updateRun table run = .ok table') :
    (table.find (RunRow.probeId run)).isSome ∧
      ∀ id, table'.find id = if id = RunRow.probeId run then some run else table.find id := by
  unfold updateRun at h
  cases hin : table.replace run with
  | none => simp [hin] at h
  | some t =>
    obtain rfl : t = table' := by simpa [hin] using h
    exact KeyedTable.find_replace hin

theorem rows_createRun (h : createRun cause table run = .ok table') :
    table'.rows = table.rows ++ [run] := by
  unfold createRun at h
  cases hin : table.insert run with
  | none => simp [hin] at h
  | some t =>
    obtain rfl : t = table' := by simpa [hin] using h
    exact (KeyedTable.rows_insert hin).2

theorem createRun_self (h : createRun cause table run = .ok table') :
    table'.find (RunRow.probeId run) = some run := by
  rw [(createRun_ok h).2, if_pos rfl]

theorem updateRun_self (h : updateRun table run = .ok table') :
    table'.find (RunRow.probeId run) = some run := by
  rw [(updateRun_ok h).2, if_pos rfl]

theorem updateRun_error {e : Exc} (h : updateRun table run = .error e) :
    table.find (RunRow.probeId run) = none := by
  unfold updateRun at h
  cases hin : table.replace run with
  | none => exact KeyedTable.replace_eq_none_iff.mp hin
  | some t => simp [hin] at h

/-- `update_run` of a row that is there does not raise. -/
theorem updateRun_of_isSome (h : (table.find (RunRow.probeId run)).isSome = true) :
    ∃ table', updateRun table run = .ok table' := by
  cases hupdate : updateRun table run with
  | ok table' => exact ⟨table', rfl⟩
  | error e => simp [updateRun_error hupdate] at h

theorem find_failStaleRuns :
    (failStaleRuns reason finishedAt table).find id =
      (table.find id).map fun row =>
        if isFinished row then row else RunRow.markStale reason finishedAt row :=
  KeyedTable.find_updateAll _ _ _

theorem isFinished_of_mem_removable (h : id ∈ removableProbeIds order maxRuns table)
    (hrow : table.find id = some row) : isFinished row = true := by
  have hmem := List.mem_of_mem_drop h
  obtain ⟨row', hrow', hid⟩ := List.mem_map.mp hmem
  have hin := (order.perm _).mem_iff.mp hrow'
  obtain ⟨hin, hfin⟩ := List.mem_filter.mp hin
  have hsame : table.find id = some row' := hid ▸ KeyedTable.find_of_mem hin
  obtain rfl : row' = row := Option.some.inj (hsame.symm.trans hrow)
  exact hfin

/-- Pruning leaves a run as it is or deletes a finished one. -/
theorem find_pruneFinishedRuns (order : QueuedAtDesc ρ) (maxRuns : ℕ)
    (hrow : table.find id = some row) :
    (pruneFinishedRuns order maxRuns table).find id = some row ∨
      isFinished row = true ∧ (pruneFinishedRuns order maxRuns table).find id = none := by
  have hid := KeyedTable.key_of_find hrow
  rw [pruneFinishedRuns, KeyedTable.find_filter, hrow]
  by_cases hrem : id ∈ removableProbeIds order maxRuns table
  · right
    exact ⟨isFinished_of_mem_removable hrem hrow, by simp [hid, hrem]⟩
  · left
    simp [hid, hrem]

theorem find_pruneFinishedRuns_none (hrow : table.find id = none) :
    (pruneFinishedRuns order maxRuns table).find id = none := by
  rw [pruneFinishedRuns, KeyedTable.find_filter, hrow, Option.filter_none]

end Statements

/-! ### Records -/

structure PersistedCanaryRun where
  probeId : String
  request : CanaryProbeRequest
  prepared : PreparedProbe
  status : RunStatus
  queuedAt : String
  updatedAt : String
  startedAt : Option String := none
  finishedAt : Option String := none
  queueDepth : Option ℤ := none
  result : Option CanaryProbeResult := none
  error : Option String := none
  deriving DecidableEq

instance : RunRow PersistedCanaryRun where
  probeId := PersistedCanaryRun.probeId
  status := PersistedCanaryRun.status
  queuedAt := PersistedCanaryRun.queuedAt
  markStale reason finishedAt run :=
    { run with
      status := .failed
      error := some reason
      updatedAt := finishedAt
      finishedAt := some finishedAt }
  markStale_probeId _ _ _ := rfl

end OvnApi.Store
