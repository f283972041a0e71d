import OvnApi.Manager.System

/-! What a step of a call and a step of a worker do, case by case. The proofs about the manager go
by these cases and not by the transition functions. -/

namespace OvnApi.Manager

open OvnApi.Core Lib Traces Store

variable {cfg : Config} {s s₁ : State} {a : Answer}

/-! ### Calls -/

/-- A call can be over with this answer and leave everything as it is: it raises, or there is
nothing more to do. -/
def CallPc.ends : CallPc → Answer → Bool
  | .startEnter _, .storeRaises | .startLaunch _ _, .go _ | .submitPrepare _, .prepareRaises
  | .submitCreate _ _ _ _, .go _ | .submitCreate _ _ _ _, .storeRaises | .submitPrune _, .storeRaises
  | .submitGet _, .go _ | .submitGet _, .storeRaises | .syncInit _, .storeRaises
  | .syncPrepare _, .prepareRaises | .syncCreate _ _, .go _ | .syncCreate _ _, .storeRaises
  | .syncUpdate _ _ _ _, .go _ | .syncUpdate _ _ _ _, .storeRaises | .syncPrune _, .storeRaises
  | .stopJoin, .go _ => true
  | _, _ => false

inductive CallStep (cfg : Config) (s : State) : CallPc → Answer → State → CallPc → Prop where
  | ends {pc : CallPc} {a : Answer} (hends : pc.ends a = true) : CallStep cfg s pc a s .done
  | alive {after : After} {now : String} (halive : s.alive = true) :
      CallStep cfg s (.startEnter after) (.go now) { s with booted := true } after.next
  | recover {after : After} {now : String} (halive : s.alive = false) :
      CallStep cfg s (.startEnter after) (.go now) (s.recover now) (.startLaunch s.workers.length after)
  | launch {tid : ℕ} {after : After} {now : String} (hcreated : s.workers[tid]? = some .created) :
      CallStep cfg s (.startLaunch tid after) (.go now)
        { s with workers := s.workers.set tid .fetch, booted := true } after.next
  | prepare {request : CanaryProbeRequest} {prepared : PreparedProbe} (hnew : prepared.probeId ∉ s.issued) :
      CallStep cfg s (.submitPrepare request) (.prepared prepared)
        { s with issued := prepared.probeId :: s.issued } (.submitDepth request prepared)
  | depth {request : CanaryProbeRequest} {prepared : PreparedProbe} {now : String} :
      CallStep cfg s (.submitDepth request prepared) (.go now) s
        (.submitCreate request prepared now (s.queue.length + 1))
  | create {request : CanaryProbeRequest} {prepared : PreparedProbe} {now now' : String} {queueDepth : ℕ}
      {store : RunTable PersistedCanaryRun}
      (hcreate : createRun "" s.store (queuedRecord request prepared now queueDepth) = .ok store) :
      CallStep cfg s (.submitCreate request prepared now queueDepth) (.go now') { s with store := store }
        (.submitPrune (queuedRecord request prepared now queueDepth))
  | prune {record : PersistedCanaryRun} {now : String} :
      CallStep cfg s (.submitPrune record) (.go now) (s.prune cfg) (.submitPut record)
  | put {record : PersistedCanaryRun} {now : String} :
      CallStep cfg s (.submitPut record) (.go now)
        { s.put (some record.probeId) with puts := s.puts ++ [record.probeId] } (.submitEmit record)
  | emit {record : PersistedCanaryRun} {now : String} :
      CallStep cfg s (.submitEmit record) (.go now) (s.emit record) (.submitGet record.probeId)
  | initSync {request : CanaryProbeRequest} {now : String} :
      CallStep cfg s (.syncInit request) (.go now) s (.syncPrepare request)
  | prepareSync {request : CanaryProbeRequest} {prepared : PreparedProbe} (hnew : prepared.probeId ∉ s.issued) :
      CallStep cfg s (.syncPrepare request) (.prepared prepared)
        { s with issued := prepared.probeId :: s.issued } (.syncCreate request prepared)
  | createSync {request : CanaryProbeRequest} {prepared : PreparedProbe} {now : String}
      {store : RunTable PersistedCanaryRun}
      (hcreate : createRun "" s.store (syncRecord request prepared now) = .ok store) :
      CallStep cfg s (.syncCreate request prepared) (.go now) { s with store := store }
        (.syncEmit request prepared now)
  | emitSync {request : CanaryProbeRequest} {prepared : PreparedProbe} {now now' : String} :
      CallStep cfg s (.syncEmit request prepared now) (.go now') (s.emit (syncRecord request prepared now))
        (.syncProbe request prepared now)
  | probeSync {request : CanaryProbeRequest} {prepared : PreparedProbe} {now : String} {outcome : ProbeOutcome} :
      CallStep cfg s (.syncProbe request prepared now) (.probed outcome) s
        (.syncUpdate request prepared now outcome)
  | closeSync {request : CanaryProbeRequest} {prepared : PreparedProbe} {now finishedAt : String}
      {outcome : ProbeOutcome} {store : RunTable PersistedCanaryRun}
      (hupdate : updateRun s.store (closeBySync (syncRecord request prepared now) outcome finishedAt) = .ok store) :
      CallStep cfg s (.syncUpdate request prepared now outcome) (.go finishedAt) { s with store := store }
        (.syncPrune (closeBySync (syncRecord request prepared now) outcome finishedAt))
  | pruneSync {record : PersistedCanaryRun} {now : String} :
      CallStep cfg s (.syncPrune record) (.go now) (s.prune cfg) (.syncEmitFinal record)
  | emitFinal {record : PersistedCanaryRun} {now : String} :
      CallStep cfg s (.syncEmitFinal record) (.go now) (s.emit record) .done
  | stop {now : String} {pc' : CallPc} (hpc' : pc' = if s.thread.isSome then .stopPut else .done) :
      CallStep cfg s .stopEnter (.go now) { s with thread := none, stopEvent := true } pc'
  | putNone {now : String} : CallStep cfg s .stopPut (.go now) (s.put none) .stopJoin

theorem callStep_cases {pc pc' : CallPc} (h : callStep cfg s pc a = some (s₁, pc')) :
    CallStep cfg s pc a s₁ pc' := by
  cases pc <;> cases a <;> simp only [callStep] at h <;> (try split at h) <;> cases h <;>
    first
    | exact .ends rfl
    | constructor <;> simp_all

/-! ### Workers -/

/-- The worker is in its loop and will stay there. -/
def WorkerPc.serves : WorkerPc → Bool
  | .created | .finished | .taskDone .leave => false
  | _ => true

def WorkerPc.reads : WorkerPc → Option String
  | .load probeId | .loadFinal probeId _ => some probeId
  | _ => none

/-- Where a worker goes when a call of the store raises. -/
def WorkerPc.onRaise : WorkerPc → Option WorkerPc
  | .load _ | .markRunning _ => some .finished
  | .loadFinal _ _ | .storeFinal _ _ _ | .pruneFinal _ => some (.taskDone .leave)
  | _ => none

inductive WorkerStep (cfg : Config) (s : State) (tid : ℕ) : WorkerPc → Answer → State → WorkerPc → Prop where
  | empty {now : String} (hqueue : s.queue = []) : WorkerStep cfg s tid .fetch (.go now) s .checkStop
  | fetch {probeId now : String} {rest : List (Option String)} (hqueue : s.queue = some probeId :: rest) :
      WorkerStep cfg s tid .fetch (.go now) { s with queue := rest } (.load probeId)
  | sentinel {now : String} {rest : List (Option String)} (hqueue : s.queue = none :: rest) :
      WorkerStep cfg s tid .fetch (.go now) { s with queue := rest } (.taskDone .leave)
  | checkStop {now : String} {pc' : WorkerPc} (hpc' : pc' = if s.stopEvent then .finished else .fetch) :
      WorkerStep cfg s tid .checkStop (.go now) s pc'
  | load {probeId now : String} {record : PersistedCanaryRun} (hfind : s.store.find probeId = some record) :
      WorkerStep cfg s tid (.load probeId) (.go now) s (.markRunning record)
  | mark {record : PersistedCanaryRun} {now : String} {store : RunTable PersistedCanaryRun}
      (hupdate : updateRun s.store (markRunning record now) = .ok store) :
      WorkerStep cfg s tid (.markRunning record) (.go now) { s with store := store }
        (.emitRunning (markRunning record now))
  | unmarked {record : PersistedCanaryRun} {now : String} {e : Exc}
      (hupdate : updateRun s.store (markRunning record now) = .error e) :
      WorkerStep cfg s tid (.markRunning record) (.go now) s .finished
  | emit {record : PersistedCanaryRun} {now : String} :
      WorkerStep cfg s tid (.emitRunning record) (.go now) (s.emit record) (.probe record)
  | execute {record : PersistedCanaryRun} {now : String} :
      WorkerStep cfg s tid (.probe record) (.go now)
        { s with executed := s.executed ++ [(tid, record.probeId)] } (.probing record)
  | probed {record : PersistedCanaryRun} {outcome : ProbeOutcome} :
      WorkerStep cfg s tid (.probing record) (.probed outcome) s (.loadFinal record.probeId outcome)
  | reload {probeId finishedAt : String} {outcome : ProbeOutcome} {record : PersistedCanaryRun}
      (hfind : s.store.find probeId = some record) :
      WorkerStep cfg s tid (.loadFinal probeId outcome) (.go finishedAt) s (.storeFinal record outcome finishedAt)
  | close {record : PersistedCanaryRun} {outcome : ProbeOutcome} {finishedAt now : String}
      {store : RunTable PersistedCanaryRun}
      (hupdate : updateRun s.store (closeByWorker record outcome finishedAt) = .ok store) :
      WorkerStep cfg s tid (.storeFinal record outcome finishedAt) (.go now) { s with store := store }
        (.pruneFinal (closeByWorker record outcome finishedAt))
  | unclosed {record : PersistedCanaryRun} {outcome : ProbeOutcome} {finishedAt now : String} {e : Exc}
      (hupdate : updateRun s.store (closeByWorker record outcome finishedAt) = .error e) :
      WorkerStep cfg s tid (.storeFinal record outcome finishedAt) (.go now) s (.taskDone .leave)
  | prune {record : PersistedCanaryRun} {now : String} :
      WorkerStep cfg s tid (.pruneFinal record) (.go now) (s.prune cfg) (.emitFinal record)
  | emitFinal {record : PersistedCanaryRun} {now : String} :
      WorkerStep cfg s tid (.emitFinal record) (.go now) (s.emit record) (.taskDone .again)
  | taskDone {after : AfterTask} {now : String} (htasks : s.unfinishedTasks ≠ 0) :
      WorkerStep cfg s tid (.taskDone after) (.go now)
        { s with unfinishedTasks := s.unfinishedTasks - 1 } after.next
  | untasked {after : AfterTask} {now : String} (htasks : s.unfinishedTasks = 0) :
      WorkerStep cfg s tid (.taskDone after) (.go now) s .finished
  | missing {pc : WorkerPc} {probeId now : String} (hreads : pc.reads = some probeId)
      (hfind : s.store.find probeId = none) : WorkerStep cfg s tid pc (.go now) s (.taskDone .again)
  | raises {pc pc' : WorkerPc} (hraise : pc.onRaise = some pc') : WorkerStep cfg s tid pc .storeRaises s pc'

theorem workerStep_cases {tid : ℕ} {pc pc' : WorkerPc} (h : workerStep cfg s tid pc a = some (s₁, pc')) :
    WorkerStep cfg s tid pc a s₁ pc' := by
  cases pc <;> cases a <;> simp only [workerStep] at h <;> (try split at h) <;> cases h <;>
    first
    | exact .raises rfl
    | exact .missing rfl ‹_›
    | constructor <;> first | assumption | simp_all

end OvnApi.Manager
