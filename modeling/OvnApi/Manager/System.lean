import OvnApi.Lib.Transition
import OvnApi.Store.Table

/-! The trace manager as a transition system. Calls of `start`, `stop`, `submit`
and `run_sync` come from any number of threads; every `start` that finds no
worker alive creates a worker thread. A store call, a queue operation, an event
operation, a thread start and a block under the lock are one step each. A label
names the thread that moves and what its environment answers. -/

namespace OvnApi.Manager

open OvnApi.Core Lib Traces Store

/-! ### The updates of a record -/

/-- How `run_prepared_probe` ends. -/
inductive ProbeOutcome where
  | returned (result : CanaryProbeResult)
  | raised (exc : Exc)
  deriving DecidableEq

def queuedRecord (request : CanaryProbeRequest) (prepared : PreparedProbe) (now : String)
    (queueDepth : ℕ) : PersistedCanaryRun where
  probeId := prepared.probeId
  prepared := prepared
  request := request
  status := .queued
  queuedAt := now
  updatedAt := now
  queueDepth := some queueDepth

def syncRecord (request : CanaryProbeRequest) (prepared : PreparedProbe) (now : String) :
    PersistedCanaryRun where
  probeId := prepared.probeId
  prepared := prepared
  request := request
  status := .running
  queuedAt := now
  startedAt := some now
  updatedAt := now
  queueDepth := some 0

def markRunning (record : PersistedCanaryRun) (now : String) : PersistedCanaryRun :=
  { record with status := .running, startedAt := some now, updatedAt := now }

/-- `_mark_completed`, and the last lines of `run_sync`. -/
def markCompleted (record : PersistedCanaryRun) (result : CanaryProbeResult)
    (finishedAt : String) : PersistedCanaryRun :=
  { record with
    result := some result
    status := result.status.toRun
    error := none
    updatedAt := finishedAt
    finishedAt := some finishedAt }

/-- `_mark_failed`, and the handlers of `run_sync`; a result stays where it is. -/
def markFailed (record : PersistedCanaryRun) (error finishedAt : String) : PersistedCanaryRun :=
  { record with
    status := .failed
    error := some error
    updatedAt := finishedAt
    finishedAt := some finishedAt }

/-- The text stored for an exception of the probe; `unexpected` is used for all
but `HTTPException`. -/
def errorText (unexpected : String) : Exc → String
  | .http _ detail => detail
  | .other kind message => unexpected ++ kind ++ ": " ++ message

def markOutcome (unexpected : String) (record : PersistedCanaryRun) (outcome : ProbeOutcome)
    (finishedAt : String) : PersistedCanaryRun :=
  match outcome with
  | .returned result => markCompleted record result finishedAt
  | .raised exc => markFailed record (errorText unexpected exc) finishedAt

def closeByWorker : PersistedCanaryRun → ProbeOutcome → String → PersistedCanaryRun :=
  markOutcome "Unexpected trace worker error: "

def closeBySync : PersistedCanaryRun → ProbeOutcome → String → PersistedCanaryRun :=
  markOutcome "Unexpected sync trace error: "

theorem markOutcome_probeId (unexpected : String) (record : PersistedCanaryRun)
    (outcome : ProbeOutcome) (finishedAt : String) :
    (markOutcome unexpected record outcome finishedAt).probeId = record.probeId := by
  cases outcome <;> rfl

theorem markOutcome_isFinal (unexpected : String) (record : PersistedCanaryRun)
    (outcome : ProbeOutcome) (finishedAt : String) :
    (markOutcome unexpected record outcome finishedAt).status.isFinal = true := by
  cases outcome with
  | returned result => exact result.status.toRun_isFinal
  | raised exc => rfl

def staleReason : String :=
  "Marked failed because the API process restarted before the probe completed."

/-! ### Program counters -/

inductive Call where
  | start
  | stop
  | submit (request : CanaryProbeRequest)
  | runSync (request : CanaryProbeRequest)

/-- What follows a `start`: its caller, or the rest of `submit`. -/
inductive After where
  | back
  | submit (request : CanaryProbeRequest)

/-- Where a call stands: the operation it makes next. -/
inductive CallPc where
  | startEnter (after : After)
  | startLaunch (tid : ℕ) (after : After)
  | submitPrepare (request : CanaryProbeRequest)
  | submitDepth (request : CanaryProbeRequest) (prepared : PreparedProbe)
  | submitCreate (request : CanaryProbeRequest) (prepared : PreparedProbe) (now : String)
      (queueDepth : ℕ)
  | submitPrune (record : PersistedCanaryRun)
  | submitPut (record : PersistedCanaryRun)
  | submitEmit (record : PersistedCanaryRun)
  | submitGet (probeId : String)
  | syncInit (request : CanaryProbeRequest)
  | syncPrepare (request : CanaryProbeRequest)
  | syncCreate (request : CanaryProbeRequest) (prepared : PreparedProbe)
  | syncEmit (request : CanaryProbeRequest) (prepared : PreparedProbe) (now : String)
  | syncProbe (request : CanaryProbeRequest) (prepared : PreparedProbe) (now : String)
  | syncUpdate (request : CanaryProbeRequest) (prepared : PreparedProbe) (now : String)
      (outcome : ProbeOutcome)
  | syncPrune (record : PersistedCanaryRun)
  | syncEmitFinal (record : PersistedCanaryRun)
  | stopEnter
  | stopPut
  | stopJoin
  | done

def Call.entry : Call → CallPc
  | .start => .startEnter .back
  | .stop => .stopEnter
  | .submit request => .startEnter (.submit request)
  | .runSync request => .syncInit request

def After.next : After → CallPc
  | .back => .done
  | .submit request => .submitPrepare request

/-- What the worker does after `task_done`. -/
inductive AfterTask where
  | again
  | leave

/-- Where a worker stands; a thread is `created` until `thread.start()`. -/
inductive WorkerPc where
  | created
  | fetch
  | checkStop
  | load (probeId : String)
  | markRunning (record : PersistedCanaryRun)
  | emitRunning (record : PersistedCanaryRun)
  | probe (record : PersistedCanaryRun)
  | probing (record : PersistedCanaryRun)
  | loadFinal (probeId : String) (outcome : ProbeOutcome)
  | storeFinal (record : PersistedCanaryRun) (outcome : ProbeOutcome) (finishedAt : String)
  | pruneFinal (record : PersistedCanaryRun)
  | emitFinal (record : PersistedCanaryRun)
  | taskDone (after : AfterTask)
  | finished

/-- Started and not yet finished. -/
def WorkerPc.active : WorkerPc → Bool
  | .created | .finished => false
  | _ => true

def AfterTask.next : AfterTask → WorkerPc
  | .again => .fetch
  | .leave => .finished

/-! ### States and steps -/

/-- The manager with its threads, and a record of what happened: the ids handed
out, the order of the queue puts, who executed what, the updates emitted. -/
structure State where
  store : RunTable PersistedCanaryRun
  queue : List (Option String)
  unfinishedTasks : ℕ
  stopEvent : Bool
  thread : Option ℕ
  workers : List WorkerPc
  calls : List CallPc
  booted : Bool
  issued : List String
  puts : List String
  executed : List (ℕ × String)
  emitted : List (String × RunStatus)

/-- The manager of a new process over a given store. -/
def State.fresh (store : RunTable PersistedCanaryRun) (issued : List String) : State where
  store := store
  queue := []
  unfinishedTasks := 0
  stopEvent := false
  thread := none
  workers := []
  calls := []
  booted := false
  issued := issued
  puts := []
  executed := []
  emitted := []

/-- `self._thread is not None and self._thread.is_alive()`. -/
def State.alive (s : State) : Bool :=
  (s.thread.bind fun t => s.workers[t]?).any WorkerPc.active

def State.emit (s : State) (record : PersistedCanaryRun) : State :=
  { s with emitted := s.emitted ++ [(record.probeId, record.status)] }

def State.put (s : State) (item : Option String) : State :=
  { s with queue := s.queue ++ [item], unfinishedTasks := s.unfinishedTasks + 1 }

structure Config where
  maxRuns : ℕ
  order : QueuedAtDesc PersistedCanaryRun

/-- What the environment answers to an operation. -/
inductive Answer where
  | go (now : String)
  | storeRaises
  | prepareRaises
  | prepared (prepared : PreparedProbe)
  | probed (outcome : ProbeOutcome)

/-- The block of `start` that a call enters when no worker is alive. -/
def State.recover (s : State) (now : String) : State :=
  { s with
    store := failStaleRuns staleReason now s.store
    stopEvent := false
    queue := []
    unfinishedTasks := 0
    thread := some s.workers.length
    workers := s.workers ++ [.created] }

def State.prune (cfg : Config) (s : State) : State :=
  { s with store := pruneFinishedRuns cfg.order cfg.maxRuns s.store }

/-- One step of a call. Probe ids come from `uuid4` and are taken as new. -/
def callStep (cfg : Config) (s : State) : CallPc → Answer → Option (State × CallPc)
  | .startEnter after, .go now =>
    if s.alive then some ({ s with booted := true }, after.next)
    else some (s.recover now, .startLaunch s.workers.length after)
  | .startEnter _, .storeRaises => if s.alive then none else some (s, .done)
  | .startLaunch tid after, .go _ =>
    -- `Thread.start` raises on a thread that was started before
    match s.workers[tid]? with
    | some .created =>
      some ({ s with workers := s.workers.set tid .fetch, booted := true }, after.next)
    | _ => some (s, .done)
  | .submitPrepare request, .prepared prepared =>
    if prepared.probeId ∈ s.issued then none
    else some ({ s with issued := prepared.probeId :: s.issued }, .submitDepth request prepared)
  | .submitPrepare _, .prepareRaises => some (s, .done)
  | .submitDepth request prepared, .go now =>
    some (s, .submitCreate request prepared now (s.queue.length + 1))
  | .submitCreate request prepared now queueDepth, .go _ =>
    let record := queuedRecord request prepared now queueDepth
    match createRun "" s.store record with
    | .ok store => some ({ s with store := store }, .submitPrune record)
    | .error _ => some (s, .done)
  | .submitCreate _ _ _ _, .storeRaises => some (s, .done)
  | .submitPrune record, .go _ => some (s.prune cfg, .submitPut record)
  | .submitPrune _, .storeRaises => some (s, .done)
  | .submitPut record, .go _ =>
    some ({ s.put (some record.probeId) with puts := s.puts ++ [record.probeId] },
      .submitEmit record)
  | .submitEmit record, .go _ => some (s.emit record, .submitGet record.probeId)
  | .submitGet _, .go _ => some (s, .done)
  | .submitGet _, .storeRaises => some (s, .done)
  | .syncInit request, .go _ => some (s, .syncPrepare request)
  | .syncInit _, .storeRaises => some (s, .done)
  | .syncPrepare request, .prepared prepared =>
    if prepared.probeId ∈ s.issued then none
    else some ({ s with issued := prepared.probeId :: s.issued }, .syncCreate request prepared)
  | .syncPrepare _, .prepareRaises => some (s, .done)
  | .syncCreate request prepared, .go now =>
    match createRun "" s.store (syncRecord request prepared now) with
    | .ok store => some ({ s with store := store }, .syncEmit request prepared now)
    | .error _ => some (s, .done)
  | .syncCreate _ _, .storeRaises => some (s, .done)
  | .syncEmit request prepared now, .go _ =>
    some (s.emit (syncRecord request prepared now), .syncProbe request prepared now)
  | .syncProbe request prepared now, .probed outcome =>
    some (s, .syncUpdate request prepared now outcome)
  | .syncUpdate request prepared now outcome, .go finishedAt =>
    let record := closeBySync (syncRecord request prepared now) outcome finishedAt
    match updateRun s.store record with
    | .ok store => some ({ s with store := store }, .syncPrune record)
    | .error _ => some (s, .done)
  | .syncUpdate _ _ _ _, .storeRaises => some (s, .done)
  | .syncPrune record, .go _ => some (s.prune cfg, .syncEmitFinal record)
  | .syncPrune _, .storeRaises => some (s, .done)
  | .syncEmitFinal record, .go _ => some (s.emit record, .done)
  | .stopEnter, .go _ =>
    some ({ s with thread := none, stopEvent := true },
      if s.thread.isSome then .stopPut else .done)
  | .stopPut, .go _ => some (s.put none, .stopJoin)
  | .stopJoin, .go _ => some (s, .done)
  | _, _ => none

/-- One step of worker `tid`. An exception of the store before the probe ends the
thread at once; after the probe it does so once the task is marked done. -/
def workerStep (cfg : Config) (s : State) (tid : ℕ) : WorkerPc → Answer → Option (State × WorkerPc)
  | .fetch, .go _ =>
    match s.queue with
    | [] => some (s, .checkStop)
    | some probeId :: rest => some ({ s with queue := rest }, .load probeId)
    | none :: rest => some ({ s with queue := rest }, .taskDone .leave)
  | .checkStop, .go _ => some (s, if s.stopEvent then .finished else .fetch)
  | .load probeId, .go _ =>
    match s.store.find probeId with
    | none => some (s, .taskDone .again)
    | some record => some (s, .markRunning record)
  | .load _, .storeRaises => some (s, .finished)
  | .markRunning record, .go now =>
    match updateRun s.store (markRunning record now) with
    | .ok store => some ({ s with store := store }, .emitRunning (markRunning record now))
    | .error _ => some (s, .finished)
  | .markRunning _, .storeRaises => some (s, .finished)
  | .emitRunning record, .go _ => some (s.emit record, .probe record)
  | .probe record, .go _ =>
    some ({ s with executed := s.executed ++ [(tid, record.probeId)] }, .probing record)
  | .probing record, .probed outcome => some (s, .loadFinal record.probeId outcome)
  | .loadFinal probeId outcome, .go finishedAt =>
    match s.store.find probeId with
    | none => some (s, .taskDone .again)
    | some record => some (s, .storeFinal record outcome finishedAt)
  | .loadFinal _ _, .storeRaises => some (s, .taskDone .leave)
  | .storeFinal record outcome finishedAt, .go _ =>
    match updateRun s.store (closeByWorker record outcome finishedAt) with
    | .ok store =>
      some ({ s with store := store }, .pruneFinal (closeByWorker record outcome finishedAt))
    | .error _ => some (s, .taskDone .leave)
  | .storeFinal _ _ _, .storeRaises => some (s, .taskDone .leave)
  | .pruneFinal record, .go _ => some (s.prune cfg, .emitFinal record)
  | .pruneFinal _, .storeRaises => some (s, .taskDone .leave)
  | .emitFinal record, .go _ => some (s.emit record, .taskDone .again)
  | .taskDone after, .go _ =>
    -- `task_done` raises when the queue has been replaced and has no open task
    if s.unfinishedTasks = 0 then some (s, .finished)
    else some ({ s with unfinishedTasks := s.unfinishedTasks - 1 }, after.next)
  | _, _ => none

inductive Label where
  | invoke (call : Call)
  | call (i : ℕ) (answer : Answer)
  | worker (tid : ℕ) (answer : Answer)
  | crash

def step (cfg : Config) (s : State) : Label → Option State
  | .invoke call => some { s with calls := s.calls ++ [call.entry] }
  | .call i answer =>
    s.calls[i]?.bind fun pc =>
      (callStep cfg s pc answer).map fun r => { r.1 with calls := r.1.calls.set i r.2 }
  | .worker tid answer =>
    s.workers[tid]?.bind fun pc =>
      (workerStep cfg s tid pc answer).map fun r => { r.1 with workers := r.1.workers.set tid r.2 }
  | .crash => some (State.fresh s.store s.issued)

/-! ### A probe to run -/

def firstId : String := "6a1f2c3d-0b4e-4f5a-8c6d-7e8f90a1b2c3"

def secondId : String := "b7d4e5f6-1a2b-4c3d-9e8f-0a1b2c3d4e5f"

def switchRequest : CanaryProbeRequest where
  resourceType := .logicalSwitch
  timeout_pos := defaultTimeout_pos
  poll_ge := defaultPoll_ge

/-- A prepared probe with this id; the manager looks at nothing else of it. -/
def switchProbe (probeId : String) : PreparedProbe where
  probeId := probeId
  requestedResourceType := .logicalSwitch
  resolvedResourceType := .logicalSwitch
  resourceName := "canary-ls"
  targetName := none
  bridge := "br-int"
  timeoutS := .fin 15
  pollIntervalS := 1 / 4
  openflowExpected := false
  note := none
  nbTable := "Logical_Switch"

def switchResult (probeId : String) : CanaryProbeResult where
  probeId := probeId
  requestedResourceType := .logicalSwitch
  resolvedResourceType := .logicalSwitch
  resourceName := "canary-ls"
  startedAt := "t4"
  finishedAt := some "t5"
  status := .success
  openflowExpected := false
  commandLatencyMs := 1
  nbCommitted := { status := .observed }
  sbRealized := { status := .observed }
  openflowRealized := { status := .skipped }
  cleanup := { status := .observed }

def emptyStore : RunTable PersistedCanaryRun := ⟨[], List.nodup_nil⟩

def smallConfig : Config := ⟨20, .stable _⟩

end OvnApi.Manager
