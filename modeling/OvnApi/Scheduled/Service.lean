import OvnApi.Lib.Transition
import OvnApi.Scheduled.Profiles

/-! The scheduled trace service as a transition system. Profile states are objects
that a worker may hold on to while `reload` puts others in their place, so they live
in a heap and the profile list refers to them. A block under the lock, an event
operation, a thread start, a join and a call to the environment are one step each;
the fields `reload` reads without the lock are read in one step. -/

namespace OvnApi.Scheduled

open OvnApi.Core Lib Traces

/-! ### Program counters -/

/-- Where a worker stands in `_run` and `_execute_profile`; `ref` is the profile. -/
inductive WorkerPc where
  | created
  | loop
  | pick
  | idle
  | wait (ref : ℕ)
  | begin (ref : ℕ)
  | resolve (ref : ℕ)
  | note (ref : ℕ) (resolution : Resolution) (request : CanaryProbeRequest)
  | unresolved (ref : ℕ) (error : String)
  | probe (ref : ℕ) (request : CanaryProbeRequest)
  | close (ref : ℕ) (outcome : Except Exc CanaryProbeResult)
  | finished
  | died (exc : Exc)

/-- `is_alive`. -/
def WorkerPc.active : WorkerPc → Bool
  | .created | .finished | .died _ => false
  | _ => true

/-- The profile a worker has counted a run of and not yet its outcome. -/
def WorkerPc.inFlight : WorkerPc → Option ℕ
  | .resolve ref | .note ref _ _ | .unresolved ref _ | .probe ref _ | .close ref _ => some ref
  | _ => none

structure Service where
  settings : ServiceSettings
  heap : List ProfileState
  profiles : List ℕ
  thread : Option ℕ
  stopEvent : Bool
  generatedAt : String
  workers : List WorkerPc

/-- `ScheduledTraceProfileStatus`: the state of a profile, and whether it runs. -/
structure ProfileStatus where
  state : ProfileState
  enabled : Bool

/-- `ScheduledTraceMetricsSnapshot`. -/
structure Snapshot where
  generatedAt : String
  enabled : Bool
  workerAlive : Bool
  defaultBridge : String
  profiles : List ProfileStatus

/-- What the environment answers to a step: the clocks, the databases, the probe, and
to `reload` also the settings and the sources; `timedOut` ends a join early. -/
structure Answer where
  now : ℚ
  stamp : String
  reads : Reads
  outcome : Except Exc CanaryProbeResult
  environment : Except Exc ServiceSettings
  sources : Sources
  timedOut : Bool

namespace Service

def profileStates (s : Service) : List ProfileState := s.profiles.filterMap (s.heap[·]?)

/-- `self._thread is not None and self._thread.is_alive()`. -/
def workerAlive (s : Service) : Bool :=
  (s.thread.bind (s.workers[·]?)).any WorkerPc.active

def getSnapshot (s : Service) : Snapshot where
  generatedAt := s.generatedAt
  enabled := s.settings.enabled
  workerAlive := s.workerAlive
  defaultBridge := s.settings.defaultBridge
  profiles := s.profileStates.map fun state =>
    ⟨state, s.settings.enabled && state.config.enabled⟩

def stamped (s : Service) (stamp : String) : Service := { s with generatedAt := stamp }

def update (s : Service) (ref : ℕ) (f : ProfileState → ProfileState) : Service :=
  { s with heap := s.heap.modify ref f }

/-! ### The worker -/

/-- `_next_due_profile`: the first of the enabled profiles that are due soonest. -/
def nextDueProfile (s : Service) : Option ℕ :=
  let enabled := s.profiles.filterMap fun ref =>
    (s.heap[ref]?.filter (·.config.enabled)).map fun profile => (ref, profile.nextDueMonotonic)
  match enabled with
  | [] => none
  | first :: rest => some (rest.foldl (fun best p => if p.2.lt best.2 then p else best) first).1

/-- The first block of `_execute_profile`. -/
def countRun (a : Answer) (profile : ProfileState) : ProfileState :=
  { profile with
    runCount := profile.runCount + 1
    lastStartedAt := some a.stamp
    lastError := none
    nextDueMonotonic := PyFloat.add (.fin a.now) profile.config.intervalS }

def noteTarget (resolution : Resolution) (profile : ProfileState) : ProfileState :=
  { profile with
    resolvedTargetName := resolution.targetName
    targetResolutionMode := resolution.mode }

/-- The block for a target that was not found; the last result stays. -/
def countUnresolved (a : Answer) (error : String) (profile : ProfileState) : ProfileState :=
  { profile with
    lastStatus := some .failed
    lastError := some error
    failedCount := profile.failedCount + 1
    lastFinishedAt := some a.stamp }

/-- The blocks of the two handlers around the probe. -/
def countRaised (a : Answer) (exc : Exc) (profile : ProfileState) : ProfileState :=
  { profile with
    lastStatus := some .failed
    lastError := some (match exc with
      | .http _ detail => detail
      | e => "Unexpected scheduled trace error: " ++ describe e)
    failedCount := profile.failedCount + 1
    lastFinishedAt := some a.stamp
    lastResult := none }

/-- When a probe was over: by its own account, if it has one. -/
def finishedAt (a : Answer) : Except Exc CanaryProbeResult → String
  | .ok result => (given result.finishedAt).getD a.stamp
  | .error _ => a.stamp

def countResult (a : Answer) (result : CanaryProbeResult) (profile : ProfileState) : ProfileState :=
  let finishedAt := finishedAt a (.ok result)
  let profile := { profile with
    lastStatus := some result.status
    lastError := none
    lastFinishedAt := some finishedAt
    lastResult := some result }
  match result.status with
  | .success =>
    { profile with successCount := profile.successCount + 1, lastSuccessAt := some finishedAt }
  | .partialSuccess =>
    { profile with
      partialSuccessCount := profile.partialSuccessCount + 1
      lastSuccessAt := some finishedAt }
  | .timeout => { profile with timeoutCount := profile.timeoutCount + 1 }
  | .failed => { profile with failedCount := profile.failedCount + 1 }

def countOutcome (a : Answer) : Except Exc CanaryProbeResult → ProfileState → ProfileState
  | .ok result => countResult a result
  | .error exc => countRaised a exc

/-- What comes between the first and the second block: the target and the request.
An exception here is caught by nobody. -/
def prepare (settings : ServiceSettings) (reads : Reads) (config : ProfileConfig) :
    Except Exc (Resolution × CanaryProbeRequest) := do
  let resolution ← resolveTargetName settings reads config
  let request ← probeRequest config resolution.targetName
  pure (resolution, request)

def workerStep (s : Service) (a : Answer) : WorkerPc → Option (Service × WorkerPc)
  | .loop => some (s, if s.stopEvent then .finished else .pick)
  | .pick => some (s, match s.nextDueProfile with | none => .idle | some ref => .wait ref)
  | .idle => some (s, .loop)
  | .wait ref => s.heap[ref]?.map fun profile =>
    (s, if s.stopEvent then .finished
      else if PyFloat.lt (.fin a.now) profile.nextDueMonotonic then .loop
      else .begin ref)
  | .begin ref => some ((s.update ref (countRun a)).stamped a.stamp, .resolve ref)
  | .resolve ref => s.heap[ref]?.map fun profile =>
    (s, match prepare s.settings a.reads profile.config with
      | .error exc => .died exc
      | .ok (resolution, request) => .note ref resolution request)
  | .note ref resolution request => some (s.update ref (noteTarget resolution),
    match resolution.error with
    | some error => .unresolved ref error
    | none => .probe ref request)
  | .unresolved ref error =>
    some ((s.update ref (countUnresolved a error)).stamped a.stamp, .loop)
  | .probe ref _ => some (s, .close ref a.outcome)
  | .close ref outcome =>
    some ((s.update ref (countOutcome a outcome)).stamped (finishedAt a outcome), .loop)
  | .created | .finished | .died _ => none

/-! ### The calls -/

/-- The block of `start`, past the check that no worker is alive. -/
def spawn (s : Service) : Service :=
  { s with
    stopEvent := false
    thread := some s.workers.length
    workers := s.workers ++ [.created] }

/-- The block of `stop`. -/
def signalStop (s : Service) : Service := { s with thread := none, stopEvent := true }

/-- What `reload` is going to install. -/
def gather (s : Service) (reloadSettings : Bool) (environment : Except Exc ServiceSettings) :
    Except Exc ServiceSettings :=
  if reloadSettings then environment else .ok s.settings

/-- The settings fields after the first lines of the block of `reload`. -/
def installed (settings : ServiceSettings) : ServiceSettings :=
  { settings with defaultBridge := orDefault settings.defaultBridge "br-int" }

/-- `previous_states.get(name)`: a later profile of the same name replaces an earlier one. -/
def previousRef (s : Service) (name : String) : Option ℕ :=
  s.profiles.reverse.find? fun ref => s.heap[ref]?.any (·.config.name = name)

def previousState (s : Service) (name : String) : Option ProfileState :=
  (s.previousRef name).bind (s.heap[·]?)

/-- The block of `reload`. The fields are overwritten before the loading can fail. -/
def reloadBlock (s : Service) (settings : ServiceSettings) (a : Answer) :
    Service × Except Exc Unit :=
  match loadProfileConfigs a.sources (installed settings) with
  | .error exc => ({ s with settings := installed settings }, .error exc)
  | .ok configs =>
    let states := scheduleInitialRuns a.now (buildProfileStates configs s.previousState)
    ({ s with
      settings := installed settings
      heap := s.heap ++ states
      profiles := List.range' s.heap.length states.length
      generatedAt := a.stamp }, .ok ())

/-- `thread.join()` of a thread that has not been started raises. -/
def joinRaises (s : Service) (thread : Option ℕ) : Bool :=
  match thread.bind (s.workers[·]?) with
  | some .created => true
  | _ => false

end Service

end OvnApi.Scheduled
