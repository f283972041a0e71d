import OvnApi.Lib.Prog
import OvnApi.Traces.Evidence

/-! `run_prepared_probe`: setup, creation of the canary, the poll loop over the
Northbound, Southbound and OpenFlow state, cleanup, and the verdict. The
environment answers commands, database reads, dumps, sleeps and clock readings
from its own state, in any way; a loop takes its number of turns as fuel. -/

namespace OvnApi.Traces

open OvnApi.Core Lib Lib.Prog

variable {ω : Type}

/-- The clients and clocks a probe uses. -/
structure Env (ω : Type) where
  run : List String → Prog ω Exc Unit
  nbIdl : Prog ω Exc NbIdl
  sbIdl : Prog ω Exc SbIdl
  dumpOpenflowFlows : String → Prog ω Exc String
  sleep : ℚ → Prog ω Exc Unit
  perfCounter : ω → ℚ × ω
  nowUtc : ω → String × ω

namespace Env

variable (env : Env ω)

def perf : Prog ω Exc ℚ := Prog.read env.perfCounter

def now : Prog ω Exc String := Prog.read env.nowUtc

def findNbRow (prepared : PreparedProbe) : Prog ω Exc (Option NbRow) := do
  let idl ← env.nbIdl
  ofExcept (Traces.findNbRow prepared idl)

def findNamedNbRow (resourceType name : String) : Prog ω Exc (Option NbRow) := do
  let idl ← env.nbIdl
  ofExcept (Traces.findNamedNbRow idl resourceType name)

def findSbEvidence (prepared : PreparedProbe) (nbUuid : String) : Prog ω Exc (List String) := do
  let idl ← env.sbIdl
  ofExcept (Traces.findSbEvidence prepared idl nbUuid)

def findSbParentEvidence (resourceType nbUuid : String) : Prog ω Exc (List String) := do
  let idl ← env.sbIdl
  pure (Traces.findSbParentEvidence idl resourceType nbUuid)

def findOpenflowEvidence (prepared : PreparedProbe) : Prog ω Exc (List String) := do
  let raw ← env.dumpOpenflowFlows prepared.bridge
  ofExcept (Traces.findOpenflowEvidence prepared raw)

end Env

/-- What a probe did to its environment, each with the answer it got. -/
inductive Event where
  | command (argv : List String) (answer : Except Exc Unit)
  | nbRead (answer : Except Exc NbIdl)
  | sbRead (answer : Except Exc SbIdl)
  | openflowRead (bridge : String) (answer : Except Exc String)
  deriving DecidableEq

/-- The same environment with a record of the commands and reads. -/
def Env.logged (env : Env ω) : Env (List Event × ω) where
  run argv := logging (Event.command argv) (env.run argv)
  nbIdl := logging Event.nbRead env.nbIdl
  sbIdl := logging Event.sbRead env.sbIdl
  dumpOpenflowFlows bridge := logging (Event.openflowRead bridge) (env.dumpOpenflowFlows bridge)
  sleep t := lift (env.sleep t)
  perfCounter w := ((env.perfCounter w.2).1, (w.1, (env.perfCounter w.2).2))
  nowUtc w := ((env.nowUtc w.2).1, (w.1, (env.nowUtc w.2).2))

/-! ### Setup -/

/-- One turn of the wait loop of `_run_setup`. -/
def setupTurn (env : Env ω) (prepared : PreparedProbe) (deadline : PyFloat)
    (waitType waitName : String) : Prog ω Exc Bool := do
  let t ← env.perf
  if PyFloat.le (.fin t) deadline then
    let ready ← (do
      match ← env.findNamedNbRow waitType waitName with
      | none => pure false
      | some row =>
        if waitType = "logical_switch" ∨ waitType = "logical_router" then
          let evidence ← env.findSbParentEvidence waitType row.uuid.text
          pure (!evidence.isEmpty)
        else pure false)
    if ready then pure false
    else
      env.sleep prepared.pollIntervalS
      pure true
  else
    raise (.http 500 ("Temporary " ++ pyRepr waitType ++ " " ++ pyRepr waitName ++
      " did not become ready before the probe started."))

def runSetup (env : Env ω) (fuel : ℕ) (prepared : PreparedProbe) : Prog ω Exc Unit := do
  forEach env.run prepared.setupCommands
  match prepared.setupWait with
  | none => pure ()
  | some (waitType, waitName) =>
    let t ← env.perf
    whileFuel (setupTurn env prepared (PyFloat.addExact (.fin t) prepared.timeoutS) waitType waitName)
      fuel

/-- The part of every result that is copied from the probe. -/
def PreparedProbe.result (prepared : PreparedProbe) (startedAt : String) (status : TraceStatus)
    (commandLatencyMs : ℚ) (nbCommitted sbRealized openflowRealized : CanaryProbeStage) :
    CanaryProbeResult where
  probeId := prepared.probeId
  requestedResourceType := prepared.requestedResourceType
  resolvedResourceType := prepared.resolvedResourceType
  resourceName := prepared.resourceName
  targetName := prepared.targetName
  startedAt := startedAt
  status := status
  openflowExpected := prepared.openflowExpected
  note := prepared.note
  commandLatencyMs := commandLatencyMs
  nbCommitted := nbCommitted
  sbRealized := sbRealized
  openflowRealized := openflowRealized
  cleanup := { status := .skipped, detail := some "Cleanup pending." }

def openflowDisabled : CanaryProbeStage :=
  { status := .skipped, detail := some "OpenFlow stage is disabled for this probe." }

def setupFailedResult (prepared : PreparedProbe) (startedAt detail : String) :
    CanaryProbeResult :=
  prepared.result startedAt .failed 0
    { status := .failed, detail := some ("Probe setup failed: " ++ detail) }
    { status := .failed, detail := some "Probe setup failed before SB observation." }
    (if prepared.openflowExpected then
      { status := .failed, detail := some "Probe setup failed before OpenFlow observation." }
    else openflowDisabled)

/-! ### The poll loop -/

/-- The local variables of the poll loop. -/
structure PollState where
  nbStage : CanaryProbeStage
  sbStage : CanaryProbeStage
  openflowStage : CanaryProbeStage
  nbUuid : Option String := none
  sbSeenAt : Option ℚ := none
  ofSeenAt : Option ℚ := none

def PollState.start (prepared : PreparedProbe) : PollState where
  nbStage :=
    { status := .timeout
      detail := some "Timed out waiting for the resource to appear in OVN NB." }
  sbStage :=
    { status := .timeout
      detail := some "Timed out waiting for the resource to appear in OVN SB." }
  openflowStage :=
    if prepared.openflowExpected then
      { status := .timeout, detail := some "Timed out waiting for matching OpenFlow." }
    else openflowDisabled

def PollState.complete (v : PollState) (prepared : PreparedProbe) : Bool :=
  v.nbUuid.isSome && v.sbSeenAt.isSome && (!prepared.openflowExpected || v.ofSeenAt.isSome)

section Poll

variable (env : Env ω) (prepared : PreparedProbe) (startPerf : ℚ)

def pollNb : Prog (PollState × ω) Exc Unit := do
  let v ← locals
  if v.nbUuid = none then
    match ← lift (env.findNbRow prepared) with
    | none => pure ()
    | some row =>
      let seenAt ← lift env.perf
      let observedAt ← lift env.now
      setLocals { v with
        nbUuid := some row.uuid.text
        nbStage := {
          status := .observed
          observedAt := some observedAt
          latencyMs := some (elapsedMs startPerf seenAt)
          detail := some (prepared.nbTable ++ " row observed in OVN NB.")
          evidence := [prepared.nbTable ++ ":" ++ row.uuid.text] } }
  else pure ()

def pollSb : Prog (PollState × ω) Exc Unit := do
  let v ← locals
  match v.nbUuid, v.sbSeenAt with
  | some nbUuid, none =>
    let evidence ← lift (env.findSbEvidence prepared nbUuid)
    if evidence.isEmpty then pure ()
    else
      let seenAt ← lift env.perf
      let observedAt ← lift env.now
      setLocals { v with
        sbSeenAt := some seenAt
        sbStage := {
          status := .observed
          observedAt := some observedAt
          latencyMs := some (elapsedMs startPerf seenAt)
          detail := some "Matching southbound state observed."
          evidence := limitedEvidence evidence } }
  | _, _ => pure ()

def pollOpenflow : Prog (PollState × ω) Exc Unit := do
  let v ← locals
  if prepared.openflowExpected && v.sbSeenAt.isSome && v.ofSeenAt.isNone then
    let evidence ← lift (env.findOpenflowEvidence prepared)
    if evidence.isEmpty then pure ()
    else
      let seenAt ← lift env.perf
      let observedAt ← lift env.now
      setLocals { v with
        ofSeenAt := some seenAt
        openflowStage := {
          status := .observed
          observedAt := some observedAt
          latencyMs := some (elapsedMs startPerf seenAt)
          detail := some ("Matching OpenFlow observed on bridge " ++ pyRepr prepared.bridge ++ ".")
          evidence := limitedEvidence evidence } }
  else pure ()

/-- One turn of the poll loop; `false` leaves it, at the deadline or complete. -/
def pollTurn (deadline : PyFloat) : Prog (PollState × ω) Exc Bool := do
  let t ← lift env.perf
  if PyFloat.le (.fin t) deadline then
    pollNb env prepared startPerf
    pollSb env prepared startPerf
    pollOpenflow env prepared startPerf
    let v ← locals
    if v.complete prepared then pure false
    else
      lift (env.sleep prepared.pollIntervalS)
      pure true
  else pure false

end Poll

/-! ### After the loop -/

def stageWithElapsedLatency (stage : CanaryProbeStage) (startPerf endPerf : ℚ)
    (detail : Option String) : CanaryProbeStage :=
  { stage with
    latencyMs := some (stage.latencyMs.getD (elapsedMs startPerf endPerf))
    detail := detail.or stage.detail }

def phaseDeltaMs (previousStage currentStage : CanaryProbeStage) : Option ℚ :=
  if previousStage.status ≠ .observed then none
  else match previousStage.latencyMs, currentStage.latencyMs with
    | some p, some c => some (roundMillis (max (c - p) 0))
    | _, _ => none

def totalLatencyMs (openflowExpected : Bool) (nbStage sbStage openflowStage : CanaryProbeStage) :
    Option ℚ :=
  if openflowExpected ∧ openflowStage.status ≠ .skipped ∧ openflowStage.latencyMs.isSome then
    openflowStage.latencyMs
  else if sbStage.status ≠ .skipped ∧ sbStage.latencyMs.isSome then sbStage.latencyMs
  else nbStage.latencyMs

def notEvaluated (detail : String) : CanaryProbeStage :=
  { status := .skipped, detail := some detail }

/-- The stages after an exception with this detail has left the loop. -/
def PollState.onFailure (v : PollState) (prepared : PreparedProbe) (startPerf finishedPerf : ℚ)
    (detail : String) : PollState :=
  let failed := stageWithElapsedLatency { status := .failed, detail := some detail }
    startPerf finishedPerf none
  if v.nbUuid = none then
    { v with
      nbStage := failed
      sbStage := notEvaluated
        "SB stage was not evaluated because NB stage failed before commit was observed."
      openflowStage :=
        if prepared.openflowExpected then
          notEvaluated "OpenFlow stage was not evaluated because SB stage never started."
        else v.openflowStage }
  else if v.sbSeenAt = none then
    { v with
      sbStage := failed
      openflowStage :=
        if prepared.openflowExpected then
          notEvaluated
            "OpenFlow stage was not evaluated because SB stage failed before realization."
        else v.openflowStage }
  else if prepared.openflowExpected ∧ v.ofSeenAt = none then
    { v with openflowStage := failed }
  else v

/-- The stages after the loop has ended by itself. -/
def PollState.onExit (v : PollState) (prepared : PreparedProbe) (startPerf finishedPerf : ℚ) :
    PollState :=
  if v.nbUuid = none then
    { v with
      nbStage := stageWithElapsedLatency v.nbStage startPerf finishedPerf
        (some "Timed out waiting for the resource to appear in OVN NB.")
      sbStage := notEvaluated "SB stage was not evaluated because NB commit was not observed."
      openflowStage :=
        if prepared.openflowExpected then
          notEvaluated "OpenFlow stage was not evaluated because SB stage never started."
        else v.openflowStage }
  else if v.sbSeenAt = none then
    { v with
      sbStage := stageWithElapsedLatency v.sbStage startPerf finishedPerf
        (some "Timed out waiting for the resource to appear in OVN SB.")
      openflowStage :=
        if prepared.openflowExpected then
          notEvaluated "OpenFlow stage was not evaluated because SB stage did not realize."
        else v.openflowStage }
  else if prepared.openflowExpected ∧ v.ofSeenAt = none then
    { v with
      openflowStage := stageWithElapsedLatency v.openflowStage startPerf finishedPerf
        (some ("Timed out waiting for matching OpenFlow on bridge " ++ pyRepr prepared.bridge ++
          ".")) }
  else v

def PollState.result (v : PollState) (prepared : PreparedProbe) (startedAt : String)
    (status : TraceStatus) (commandLatencyMs : ℚ) : CanaryProbeResult :=
  { prepared.result startedAt status commandLatencyMs v.nbStage v.sbStage v.openflowStage with
    nbUuid := v.nbUuid
    nbToSbLatencyMs := phaseDeltaMs v.nbStage v.sbStage
    sbToOpenflowLatencyMs := phaseDeltaMs v.sbStage v.openflowStage
    totalLatencyMs :=
      totalLatencyMs prepared.openflowExpected v.nbStage v.sbStage v.openflowStage }

def createFailedResult (prepared : PreparedProbe) (startedAt : String) (commandLatencyMs : ℚ)
    (detail : String) : CanaryProbeResult :=
  prepared.result startedAt .failed commandLatencyMs
    { status := .failed, detail := some detail }
    { status := .failed, detail := some "NB creation failed; SB stage not evaluated." }
    (if prepared.openflowExpected then
      { status := .failed, detail := some "NB creation failed; OpenFlow stage not evaluated." }
    else openflowDisabled)

def executeProbe (env : Env ω) (fuel : ℕ) (prepared : PreparedProbe) :
    Prog ω Exc CanaryProbeResult := do
  let startedAt ← env.now
  let startPerf ← env.perf
  match ← attempt Exc.httpDetail (env.run prepared.createCommand) with
  | .error detail =>
    let t ← env.perf
    pure (createFailedResult prepared startedAt (elapsedMs startPerf t) detail)
  | .ok () =>
    let t ← env.perf
    let deadline := PyFloat.addExact (.fin startPerf) prepared.timeoutS
    let polled ← attemptWith Exc.httpDetail (PollState.start prepared)
      (whileFuel (pollTurn env prepared startPerf deadline) fuel)
    let finishedPerf ← env.perf
    match polled.2 with
    | .error detail =>
      pure ((polled.1.onFailure prepared startPerf finishedPerf detail).result prepared startedAt
        .failed (elapsedMs startPerf t))
    | .ok () =>
      pure ((polled.1.onExit prepared startPerf finishedPerf).result prepared startedAt
        .success (elapsedMs startPerf t))

/-! ### Cleanup and verdict -/

/-- Run the cleanup commands one by one and collect what failed. -/
def cleanupErrors (env : Env ω) : List (List String) → Prog ω Exc (List String)
  | [] => pure []
  | command :: rest => do
    let answer ← attempt Exc.httpDetail (env.run command)
    let errors ← cleanupErrors env rest
    match answer with
    | .error detail => pure ((join " " command ++ " -> " ++ detail) :: errors)
    | .ok () => pure errors

def runCleanup (env : Env ω) (prepared : PreparedProbe) : Prog ω Exc CanaryProbeStage :=
  if prepared.cleanupCommands.isEmpty then
    pure { status := .skipped, detail := some "No cleanup required." }
  else do
    let errors ← cleanupErrors env prepared.cleanupCommands
    if errors.isEmpty then
      let observedAt ← env.now
      pure { status := .observed, observedAt := some observedAt, detail := some "Cleanup completed." }
    else
      pure {
        status := .failed
        detail := some "One or more cleanup commands failed."
        evidence := limitedEvidence errors }

/-- The stages the verdict rests on. -/
def CanaryProbeResult.requiredStages (result : CanaryProbeResult) : List CanaryProbeStage :=
  [result.nbCommitted, result.sbRealized] ++
    if result.openflowExpected then [result.openflowRealized] else []

def deriveStatus (result : CanaryProbeResult) : TraceStatus :=
  if result.requiredStages.any (·.status == .failed) then .failed
  else if result.requiredStages.any (·.status == .timeout) then .timeout
  else if result.cleanup.status = .failed then .partialSuccess
  else .success

/-- The body of `run_prepared_probe`, before its cleanup. -/
def probeBody (env : Env ω) (fuel : ℕ) (prepared : PreparedProbe) :
    Prog ω Exc CanaryProbeResult := do
  match ← attempt Exc.httpDetail (runSetup env fuel prepared) with
  | .error detail =>
    let startedAt ← env.now
    pure (setupFailedResult prepared startedAt detail)
  | .ok () => executeProbe env fuel prepared

/-- The assignments the `finally` block makes to a result. -/
def CanaryProbeResult.close (result : CanaryProbeResult) (cleanupStage : CanaryProbeStage)
    (finishedAt : String) : CanaryProbeResult :=
  let closed := { result with cleanup := cleanupStage, finishedAt := some finishedAt }
  { closed with status := deriveStatus closed }

def runPreparedProbe (env : Env ω) (fuel : ℕ) (prepared : PreparedProbe) :
    Prog ω Exc CanaryProbeResult := do
  let done ← tryFinally (probeBody env fuel prepared) (runCleanup env prepared)
  let finishedAt ← env.now
  pure (done.1.close done.2 finishedAt)

/-! ### What reading does -/

/-- The clocks, the reads and the sleeps keep the world in `I`, and raise what is in `P`. -/
structure Env.Steady (env : Env ω) (prepared : PreparedProbe) (I : ω → Prop) (P : Exc → Prop) :
    Prop where
  perf : Safe I P env.perf
  now : Safe I P env.now
  findNbRow : Safe I P (env.findNbRow prepared)
  findNamedNbRow : ∀ resourceType name, Safe I P (env.findNamedNbRow resourceType name)
  findSbEvidence : ∀ nbUuid, Safe I P (env.findSbEvidence prepared nbUuid)
  findSbParentEvidence : ∀ resourceType nbUuid, Safe I P (env.findSbParentEvidence resourceType nbUuid)
  findOpenflowEvidence : Safe I P (env.findOpenflowEvidence prepared)
  sleep : ∀ t, Safe I P (env.sleep t)

namespace Env.Steady

variable {env : Env ω} {prepared : PreparedProbe} {I : ω → Prop} {P : Exc → Prop}

theorem pollTurn (h : env.Steady prepared I P) (startPerf : ℚ) (deadline : PyFloat) :
    Safe (fun v : PollState × ω => I v.2) P (Traces.pollTurn env prepared startPerf deadline) := by
  have hseen : ∀ f : ℚ → String → PollState, Safe (fun v : PollState × ω => I v.2) P (do
      let seenAt ← lift env.perf
      let observedAt ← lift env.now
      setLocals (f seenAt observedAt)) := by
    intro f
    apply h.perf.lift.bind
    intro seenAt
    apply h.now.lift.bind
    intro observedAt
    exact .setLocals _
  have hnb : Safe (fun v : PollState × ω => I v.2) P (pollNb env prepared startPerf) := by
    apply Safe.locals.bind
    intro v
    apply Safe.ite _ (.pure _)
    apply h.findNbRow.lift.bind
    intro row
    cases row with
    | none => exact .pure _
    | some row => exact hseen _
  have hsb : Safe (fun v : PollState × ω => I v.2) P (pollSb env prepared startPerf) := by
    apply Safe.locals.bind
    intro v
    split
    · apply (h.findSbEvidence _).lift.bind
      intro evidence
      exact .ite (.pure _) (hseen _)
    · exact .pure _
  have hof : Safe (fun v : PollState × ω => I v.2) P (pollOpenflow env prepared startPerf) := by
    apply Safe.locals.bind
    intro v
    apply Safe.ite _ (.pure _)
    apply h.findOpenflowEvidence.lift.bind
    intro evidence
    exact .ite (.pure _) (hseen _)
  apply h.perf.lift.bind
  intro t
  apply Safe.ite _ (.pure _)
  refine hnb.bind fun _ => hsb.bind fun _ => hof.bind fun _ => Safe.locals.bind fun v => ?_
  apply Safe.ite (.pure _)
  exact (h.sleep _).lift.bind fun _ => .pure _

theorem setupTurn (h : env.Steady prepared I P) (hlate : ∀ detail, P (.http 500 detail))
    (deadline : PyFloat) (waitType waitName : String) :
    Safe I P (Traces.setupTurn env prepared deadline waitType waitName) := by
  apply h.perf.bind
  intro t
  apply Safe.ite _ (.raise (hlate _))
  apply Safe.bind
  · apply (h.findNamedNbRow _ _).bind
    intro row
    cases row with
    | none => exact .pure _
    | some row =>
      apply Safe.ite _ (.pure _)
      exact (h.findSbParentEvidence _ _).bind fun _ => .pure _
  · intro ready
    apply Safe.ite (.pure _)
    exact (h.sleep _).bind fun _ => .pure _

end Env.Steady

end OvnApi.Traces
