import OvnApi.Scheduled.Reload

/-! The scheduled trace service under concurrent calls of `start`, `stop` and `reload`
from any number of threads. The blocks are those of the service; here they interleave
with each other and with the steps of every worker a `start` has made. -/

namespace OvnApi.Scheduled

open OvnApi.Core Lib Traces

inductive Call where
  | start
  | stop
  | reload (reloadSettings : Bool)

/-- Where a call stands. A `start` may be the one inside `reload`, and so may a `stop`,
which then carries the argument of `reload`. -/
inductive CallPc where
  | startCheck (inReload : Bool)
  | startEnter (inReload : Bool)
  | startLaunch (tid : ℕ) (inReload : Bool)
  | stopEnter (inReload : Option Bool)
  | stopJoin (thread : Option ℕ) (inReload : Option Bool)
  | gather (reloadSettings : Bool)
  | reloadEnter (settings : ServiceSettings)
  | reloadStart
  | snapshot
  | done
  | raised (exc : Exc)

def Call.entry : Call → CallPc
  | .start => .startCheck false
  | .stop => .stopEnter none
  | .reload reloadSettings => .stopEnter (some reloadSettings)

def afterStart (inReload : Bool) : CallPc := if inReload then .snapshot else .done

def afterStop : Option Bool → CallPc
  | none => .done
  | some reloadSettings => .gather reloadSettings

def callStep (s : Service) (a : Answer) : CallPc → Option (Service × CallPc)
  | .startCheck inReload =>
    some (s, if s.settings.enabled then .startEnter inReload else afterStart inReload)
  | .startEnter inReload =>
    if s.workerAlive then some (s, afterStart inReload)
    else some (s.spawn, .startLaunch s.workers.length inReload)
  | .startLaunch tid inReload =>
    match s.workers[tid]? with
    | some .created => some ({ s with workers := s.workers.set tid .loop }, afterStart inReload)
    | _ => some (s, .raised (.other "RuntimeError" "threads can only be started once"))
  | .stopEnter inReload => some (s.signalStop, .stopJoin s.thread inReload)
  | .stopJoin thread inReload =>
    if s.joinRaises thread then
      some (s, .raised (.other "RuntimeError" "cannot join thread before it is started"))
    else if (thread.bind (s.workers[·]?)).any WorkerPc.active && !a.timedOut then none
    else some (s, afterStop inReload)
  | .gather reloadSettings =>
    match s.gather reloadSettings a.environment with
    | .error exc => some (s, .raised exc)
    | .ok settings => some (s, .reloadEnter settings)
  | .reloadEnter settings =>
    match s.reloadBlock settings a with
    | (s', .error exc) => some (s', .raised exc)
    | (s', .ok ()) => some (s', .reloadStart)
  | .reloadStart => some (s, if s.settings.enabled then .startCheck true else .snapshot)
  | .snapshot => some (s, .done)
  | .done | .raised _ => none

structure State where
  service : Service
  calls : List CallPc

inductive Label where
  | enter (call : Call)
  | call (i : ℕ) (a : Answer)
  | worker (tid : ℕ) (a : Answer)

def step (s : State) : Label → Option State
  | .enter call => some { s with calls := s.calls ++ [call.entry] }
  | .call i a => do
    let pc ← s.calls[i]?
    let (service, pc') ← callStep s.service a pc
    pure { service, calls := s.calls.set i pc' }
  | .worker tid a => do
    let pc ← s.service.workers[tid]?
    let (service, pc') ← s.service.workerStep a pc
    pure { s with service := { service with workers := service.workers.set tid pc' } }

def State.init (settings : ServiceSettings) (configs : List ProfileConfig) (now : ℚ)
    (stamp : String) : State where
  service := {
    settings := Service.installed settings
    heap := scheduleInitialRuns now (configs.map fun config => { config })
    profiles := List.range' 0 configs.length
    thread := none
    stopEvent := false
    generatedAt := stamp
    workers := [] }
  calls := []

/-- A worker does not touch the other workers. -/
theorem workers_workerStep {s s' : Service} {a : Answer} {pc pc' : WorkerPc}
    (h : s.workerStep a pc = some (s', pc')) : s'.workers = s.workers := by
  cases pc with
  | created | finished | died => cases h
  | wait | resolve =>
    obtain ⟨profile, -, h⟩ := Option.map_eq_some_iff.mp h
    cases h
    rfl
  | _ =>
    cases h
    rfl

/-! ### A call on its own -/

section Alone

variable {s : State} {i : ℕ} {a : Answer}

/-- The state when call `i` stands at `pc` and the service is `service`. -/
def State.at (s : State) (i : ℕ) (service : Service) (pc : CallPc) : State :=
  { service, calls := s.calls.set i pc }

theorem reach_call (h : i < s.calls.length) (a : Answer) {s₀ : State} {service service' : Service}
    {pc pc' : CallPc} (hreach : Reach step anyStep s₀ (s.at i service pc))
    (hstep : callStep service a pc = some (service', pc')) :
    Reach step anyStep s₀ (s.at i service' pc') := by
  refine hreach.next (l := .call i a) trivial ?_
  have hpc : (s.calls.set i pc)[i]? = some pc := by
    rw [List.getElem?_set_self h]
  simp [step, State.at, hpc, hstep]

/-- A `start` that finds the service enabled and no worker alive makes one. -/
theorem reach_start (h : i < s.calls.length) (a : Answer) (service : Service) (inReload : Bool) :
    Reach step anyStep (s.at i service (.startCheck inReload))
      (s.at i service.start (afterStart inReload)) := by
  cases henabled : service.settings.enabled with
  | false =>
    have hsame : service.start = service := by simp [Service.start, henabled]
    rw [hsame]
    exact reach_call h a .start (by simp [callStep, henabled])
  | true =>
    have hentered : Reach step anyStep (s.at i service (.startCheck inReload))
        (s.at i service (.startEnter inReload)) :=
      reach_call h a .start (by simp [callStep, henabled])
    cases halive : service.workerAlive with
    | true =>
      have hsame : service.start = service := by simp [Service.start, halive]
      rw [hsame]
      exact reach_call h a hentered (by simp [callStep, halive])
    | false =>
      have hspawned : Reach step anyStep _
          (s.at i service.spawn (.startLaunch service.workers.length inReload)) :=
        reach_call h a hentered (by simp [callStep, halive])
      have hstart : service.start = { service.spawn with workers := service.workers ++ [.loop] } := by
        simp [Service.start, henabled, halive]
      rw [hstart]
      exact reach_call h a hspawned (by simp [callStep, Service.spawn])

def reloadEnd : Except Exc Snapshot → CallPc
  | .ok _ => .done
  | .error exc => .raised exc

/-- The sequential `reload` is the call when nothing else happens and the join gives up. -/
theorem reach_reload (h : i < s.calls.length) (service : Service) (reloadSettings : Bool)
    (htimeout : a.timedOut = true) :
    Reach step anyStep (s.at i service (.stopEnter (some reloadSettings)))
      (s.at i (service.reload reloadSettings a).1
        (reloadEnd (service.reload reloadSettings a).2)) := by
  have hstopped : Reach step anyStep (s.at i service (.stopEnter (some reloadSettings)))
      (s.at i service.signalStop (.stopJoin service.thread (some reloadSettings))) :=
    reach_call h a .start rfl
  have hraises : service.signalStop.joinRaises service.thread =
      service.joinRaises service.thread := rfl
  unfold Service.reload
  cases hjoin : service.joinRaises service.thread with
  | true => exact reach_call h a hstopped (by simp [callStep, hraises, hjoin, reloadEnd])
  | false =>
    have hgathering : Reach step anyStep _ (s.at i service.signalStop (.gather reloadSettings)) :=
      reach_call h a hstopped (by simp [callStep, hraises, hjoin, htimeout, afterStop])
    cases hgather : service.signalStop.gather reloadSettings a.environment with
    | error exc => exact reach_call h a hgathering (by simp [callStep, hgather, reloadEnd])
    | ok settings =>
      have hentering : Reach step anyStep _ (s.at i service.signalStop (.reloadEnter settings)) :=
        reach_call h a hgathering (by simp [callStep, hgather])
      rcases hblock : service.signalStop.reloadBlock settings a with ⟨service', exc | ⟨⟩⟩
      · simp only [Bool.false_eq_true, ↓reduceIte, hblock]
        exact reach_call h a hentering (by simp [callStep, hblock, reloadEnd])
      · have hstarting : Reach step anyStep _ (s.at i service' .reloadStart) :=
          reach_call h a hentering (by simp [callStep, hblock])
        simp only [Bool.false_eq_true, ↓reduceIte, hblock]
        cases henabled : service'.settings.enabled with
        | true =>
          have hchecking : Reach step anyStep _ (s.at i service' (.startCheck true)) :=
            reach_call h a hstarting (by simp [callStep, henabled])
          exact reach_call h a (hchecking.trans (reach_start h a service' true)) rfl
        | false =>
          have hsame : service'.start = service' := by simp [Service.start, henabled]
          rw [hsame]
          have hlast : Reach step anyStep _ (s.at i service' .snapshot) :=
            reach_call h a hstarting (by simp [callStep, henabled])
          exact reach_call h a hlast rfl

end Alone

end OvnApi.Scheduled
