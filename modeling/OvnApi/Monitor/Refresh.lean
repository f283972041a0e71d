import OvnApi.Lib.Transition
import OvnApi.Monitor.Models

/-! How live monitoring measures its three components. Capacity and latency are measured
by the refresh itself; the datapath is measured by a collector of its own, at its own pace,
and a refresh reads what the collector has cached. Refreshes may overlap, and so may the
rounds of the collector; a step is one assignment of a refresh, one call it makes, or one
block of the collector under its lock.

Besides what the code keeps, the state records every attempt to measure a component, the
latest first, and every snapshot produced together with the attempts made until then. -/

namespace OvnApi.Monitor

open OvnApi.Core Lib Scheduled

inductive Component where
  | capacity | datapath | latency
  deriving DecidableEq

abbrev Measurement : Component → Type
  | .capacity => CapacityMetrics
  | .datapath => DatapathMetrics
  | .latency => LatencyMetrics

def Component.name : Component → String
  | .capacity => "capacity"
  | .datapath => "datapath"
  | .latency => "latency"

structure ComponentState (α : Type) where
  data : Option α := none
  updatedAt : Option ℚ := none
  error : Option String := none

/-- The fields of `DatapathMetricsCollector` under its lock. -/
structure Collector where
  snapshot : Option DatapathMetrics := none
  lastError : Option String := none

namespace Collector

/-- `get_snapshot`: the cached value, if there is one, whatever has happened since. -/
def getSnapshot (c : Collector) : Except Exc DatapathMetrics :=
  match c.snapshot with
  | some data => .ok data
  | none => .error (.http 503 (orDefault (c.lastError.getD "")
      "Datapath metrics collector has not produced a snapshot yet."))

/-- `_refresh_safely`, once `_collect` has returned or raised. -/
def record (c : Collector) : Except Exc DatapathMetrics → Collector
  | .ok data => { snapshot := some data, lastError := none }
  | .error (.http _ detail) => { c with lastError := some detail }
  | .error exc => { c with
      lastError := some ("Unexpected datapath metrics collection error: " ++ describe exc) }

end Collector

/-! ### One snapshot -/

/-- The handlers of `_update_capacity_state` and its two siblings. -/
def refreshError (c : Component) : Exc → String
  | .http _ detail => detail
  | exc => "Unexpected " ++ c.name ++ " refresh error: " ++ describe exc

def componentStatus {α : Type} (state : ComponentState α) (now : ℚ) : ComponentStatus where
  available := state.data.isSome
  updatedAt := state.updatedAt
  ageS := state.updatedAt.map fun t => roundMillis (now - t)
  error := state.error

/-- The line of a component in `errors`; an empty error text does not count. -/
def errorLine (c : Component) (status : ComponentStatus) : Option String :=
  (given status.error).map fun error => c.name ++ ": " ++ error

/-- What a snapshot takes from the other services, unless one of them raises. -/
structure Surroundings where
  traceRuntime : TraceRuntimeMetrics
  scheduledTraceMetrics : Option Scheduled.Snapshot
  apiRuntime : ApiRuntimeMetrics

/-- `_collect_snapshot`, past the updates. -/
def collectSnapshot (intervalS now : ℚ) (around : Surroundings)
    (cells : (c : Component) → ComponentState (Measurement c)) : MonitoringSnapshot :=
  let capacityStatus := componentStatus (cells .capacity) now
  let datapathStatus := componentStatus (cells .datapath) now
  let latencyStatus := componentStatus (cells .latency) now
  let errors := (errorLine .capacity capacityStatus).toList ++
    (errorLine .datapath datapathStatus).toList ++ (errorLine .latency latencyStatus).toList
  { sequence := 0
    generatedAt := now
    status := if errors ≠ [] then .degraded else .ok
    intervalS
    capacity := (cells .capacity).data
    datapath := (cells .datapath).data
    latency := (cells .latency).data
    capacityStatus, datapathStatus, latencyStatus
    traceRuntime := around.traceRuntime
    scheduledTraceMetrics := around.scheduledTraceMetrics
    apiRuntime := around.apiRuntime
    errors }

namespace MonitoringSnapshot

def data (s : MonitoringSnapshot) : (c : Component) → Option (Measurement c)
  | .capacity => s.capacity
  | .datapath => s.datapath
  | .latency => s.latency

def componentStatus (s : MonitoringSnapshot) : Component → ComponentStatus
  | .capacity => s.capacityStatus
  | .datapath => s.datapathStatus
  | .latency => s.latencyStatus

end MonitoringSnapshot

/-! ### Refreshes -/

/-- Where `_update_capacity_state` or one of its siblings stands: before its call, or
before the assignments of `data`, `updated_at` and `error` to the value it has got. -/
inductive UpdatePc (α : Type) where
  | call
  | data (value : α)
  | stamp (value : α)
  | clear (value : α)

/-- Where a refresh stands; `now` is the time it was begun. -/
inductive RefreshPc where
  | update (now : ℚ) (refreshLatency : Bool) (c : Component) (pc : UpdatePc (Measurement c))
  | assemble (now : ℚ)
  | done

/-- The attempts to measure each component, the latest first. -/
abbrev Attempts := (c : Component) → List (Except Exc (Measurement c))

structure Produced where
  snapshot : MonitoringSnapshot
  attempts : Attempts

structure Refreshing where
  intervalS : ℚ
  latencyIntervalS : ℚ
  cells : (c : Component) → ComponentState (Measurement c)
  collector : Collector
  nextLatencyRefreshAt : ℚ
  refreshes : List RefreshPc
  attempts : Attempts
  produced : List Produced

/-- What the environment answers to a step of a refresh. -/
structure Measured where
  now : ℚ
  capacity : Except Exc CapacityMetrics
  latency : Except Exc LatencyMetrics
  around : Except Exc Surroundings

namespace Refreshing

def init (intervalS latencyIntervalS : ℚ) : Refreshing where
  intervalS
  latencyIntervalS
  cells _ := {}
  collector := {}
  nextLatencyRefreshAt := 0
  refreshes := []
  attempts _ := []
  produced := []

def measure (s : Refreshing) (a : Measured) : (c : Component) → Except Exc (Measurement c)
  | .capacity => a.capacity
  | .datapath => s.collector.getSnapshot
  | .latency => a.latency

def setCell (s : Refreshing) (c : Component)
    (f : ComponentState (Measurement c) → ComponentState (Measurement c)) : Refreshing :=
  { s with cells := Function.update s.cells c (f (s.cells c)) }

def attempt (s : Refreshing) (c : Component) (outcome : Except Exc (Measurement c)) : Refreshing :=
  { s with attempts := Function.update s.attempts c (outcome :: s.attempts c) }

/-- A refresh has measured a component itself, or read what the collector has. -/
def conclude (s : Refreshing) (c : Component) (outcome : Except Exc (Measurement c)) : Refreshing :=
  if c = .datapath then s else s.attempt c outcome

/-- One step of an update; at its end there is no next. -/
def updateStep (s : Refreshing) (a : Measured) (c : Component) :
    UpdatePc (Measurement c) → Refreshing × Option (UpdatePc (Measurement c))
  | .call =>
    match s.measure a c with
    | .ok value => (s, some (.data value))
    | .error exc =>
      ((s.setCell c fun cell => { cell with error := some (refreshError c exc) }).conclude c
        (.error exc), none)
  | .data value => (s.setCell c fun cell => { cell with data := some value }, some (.stamp value))
  | .stamp value =>
    (s.setCell c fun cell => { cell with updatedAt := some a.now }, some (.clear value))
  | .clear value =>
    ((s.setCell c fun cell => { cell with error := none }).conclude c (.ok value), none)

def afterUpdate (now : ℚ) (refreshLatency : Bool) : Component → RefreshPc
  | .capacity => .update now refreshLatency .datapath .call
  | .datapath => if refreshLatency then .update now refreshLatency .latency .call else .assemble now
  | .latency => .assemble now

def refreshStep (s : Refreshing) (a : Measured) : RefreshPc → Option (Refreshing × RefreshPc)
  | .update now refreshLatency c pc =>
    match s.updateStep a c pc with
    | (s', some pc') => some (s', .update now refreshLatency c pc')
    | (s', none) => some (s', afterUpdate now refreshLatency c)
  | .assemble now =>
    match a.around with
    | .ok around => some ({ s with produced :=
        ⟨collectSnapshot s.intervalS now around s.cells, s.attempts⟩ :: s.produced }, .done)
    | .error _ => some (s, .done)
  | .done => none

/-- The first lines of `_refresh_safely`, with the monotonic clock at `monotonic`. -/
def beginRefresh (s : Refreshing) (forceLatency : Bool) (monotonic now : ℚ) : Refreshing :=
  let refreshLatency := forceLatency || decide (s.nextLatencyRefreshAt ≤ monotonic) ||
    (s.cells .latency).data.isNone
  { s with
    nextLatencyRefreshAt :=
      if refreshLatency then monotonic + s.latencyIntervalS else s.nextLatencyRefreshAt
    refreshes := s.refreshes ++ [.update now refreshLatency .capacity .call] }

end Refreshing

/-- A refresh begins or goes on, or the collector concludes a round. -/
inductive RefreshLabel where
  | begin (forceLatency : Bool) (monotonic now : ℚ)
  | refresh (i : ℕ) (a : Measured)
  | collect (outcome : Except Exc DatapathMetrics)

def Refreshing.step (s : Refreshing) : RefreshLabel → Option Refreshing
  | .begin forceLatency monotonic now => some (s.beginRefresh forceLatency monotonic now)
  | .refresh i a => do
    let pc ← s.refreshes[i]?
    let (s', pc') ← s.refreshStep a pc
    pure { s' with refreshes := s.refreshes.set i pc' }
  | .collect outcome =>
    some ({ s with collector := s.collector.record outcome }.attempt .datapath outcome)

/-! ### What a snapshot promises -/

section History

variable {α : Type}

def lastSuccess (attempts : List (Except Exc α)) : Option α := attempts.findSome? Except.toOption

def lastSucceeded : List (Except Exc α) → Bool
  | [] => false
  | outcome :: _ => outcome.isOk

def successes (attempts : List (Except Exc α)) : ℕ := attempts.countP Except.isOk

end History

/-- What the snapshot says of every component agrees with the attempts made until then. -/
structure Produced.Fresh (p : Produced) : Prop where
  data : ∀ c, p.snapshot.data c = lastSuccess (p.attempts c)
  error : ∀ c, (p.snapshot.componentStatus c).error = none ↔ lastSucceeded (p.attempts c) = true
  status : p.snapshot.status = .degraded ↔ ∃ c, (p.snapshot.componentStatus c).error ≠ none

/-- Between an earlier and a later snapshot, `updated_at` changes only with a new success. -/
def Produced.UpdatedBySuccess (later earlier : Produced) : Prop :=
  ∀ c, (later.snapshot.componentStatus c).updatedAt ≠ (earlier.snapshot.componentStatus c).updatedAt →
    successes (earlier.attempts c) < successes (later.attempts c)

structure Refreshing.Fresh (s : Refreshing) : Prop where
  each : ∀ p ∈ s.produced, p.Fresh
  updated : s.produced.Pairwise Produced.UpdatedBySuccess

end OvnApi.Monitor
