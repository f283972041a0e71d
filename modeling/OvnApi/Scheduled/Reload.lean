import OvnApi.Scheduled.Service

/-! `reload` as one call, with nothing else going on. It stops the worker and installs
the settings before it loads the profiles, so a call that raises has changed what it
should have left alone, unless there was nothing to stop and nothing to install. -/

namespace OvnApi.Scheduled.Service

open OvnApi.Core Lib Traces

variable {s : Service} {reloadSettings : Bool} {a : Answer}

/-- `start`, with the thread it starts. -/
def start (s : Service) : Service :=
  if !s.settings.enabled || s.workerAlive then s
  else { s.spawn with workers := s.workers ++ [.loop] }

def reload (s : Service) (reloadSettings : Bool) (a : Answer) : Service × Except Exc Snapshot :=
  if s.joinRaises s.thread then
    (s.signalStop, .error (.other "RuntimeError" "cannot join thread before it is started"))
  else match s.signalStop.gather reloadSettings a.environment with
    | .error exc => (s.signalStop, .error exc)
    | .ok settings =>
      match s.signalStop.reloadBlock settings a with
      | (s', .error exc) => (s', .error exc)
      | (s', .ok ()) => (s'.start, .ok s'.start.getSnapshot)

/-- A scheduler worker is running: a thread is in the loop, be it the one the service knows or
one that a `stop` gave up on, and the event that would end it is clear. -/
def running (s : Service) : Bool := !s.stopEvent && s.workers.any WorkerPc.active

/-- The profiles with their counters, the settings and whether a worker is running. -/
structure Unchanged (s s' : Service) : Prop where
  profiles : s'.profileStates = s.profileStates
  settings : s'.settings = s.settings
  worker : s'.running = s.running

/-- A raise finds nothing to stop and nothing to install: no worker is running, and the
settings are the same, if the call comes to install them; or nothing raises. -/
def ReloadSafe (s : Service) (reloadSettings : Bool) (a : Answer) : Prop :=
  if s.joinRaises s.thread then s.running = false
  else match s.gather reloadSettings a.environment with
    | .error _ => s.running = false
    | .ok settings =>
      (∃ configs, loadProfileConfigs a.sources (installed settings) = .ok configs) ∨
        s.running = false ∧ installed settings = s.settings

theorem running_signalStop : s.signalStop.running = false := rfl

theorem unchanged_signalStop_iff : Unchanged s s.signalStop ↔ s.running = false := by
  constructor
  · intro h
    rw [← h.worker, running_signalStop]
  · intro h
    exact ⟨rfl, rfl, by rw [h, running_signalStop]⟩

/-- The state a failed loading leaves behind. -/
theorem unchanged_installed_iff {settings : ServiceSettings} :
    Unchanged s { s.signalStop with settings } ↔ s.running = false ∧ settings = s.settings := by
  constructor
  · intro h
    exact ⟨h.worker.symm.trans running_signalStop, h.settings⟩
  · rintro ⟨hidle, hsettings⟩
    exact ⟨rfl, hsettings, by rw [hidle]; rfl⟩

theorem gather_signalStop : s.signalStop.gather reloadSettings a.environment =
    s.gather reloadSettings a.environment := rfl

/-- A reload that raises changes nothing exactly if there is nothing it could change
before the raise. -/
theorem failed_reload_unchanged_iff (s : Service) (reloadSettings : Bool) (a : Answer) :
    (∀ exc, (s.reload reloadSettings a).2 = .error exc →
      Unchanged s (s.reload reloadSettings a).1) ↔ ReloadSafe s reloadSettings a := by
  unfold reload ReloadSafe
  rw [gather_signalStop]
  cases hjoin : s.joinRaises s.thread with
  | true => simp [unchanged_signalStop_iff]
  | false =>
    cases s.gather reloadSettings a.environment with
    | error exc => simp [unchanged_signalStop_iff]
    | ok settings =>
      cases hload : loadProfileConfigs a.sources (installed settings) with
      | error exc => simp [reloadBlock, hload, unchanged_installed_iff]
      | ok configs => simp [reloadBlock, hload]

def settingsWith (profilesFile : Option String) : ServiceSettings where
  enabled := true
  defaultBridge := "br-int"
  defaultSwitchTargetName := none
  defaultRouterTargetName := none
  defaultIntervalS := .fin 60
  defaultTimeoutS := .fin 15
  defaultPollIntervalMs := 250
  profilesJson := none
  profilesFile

def runningService : Service where
  settings := settingsWith none
  heap := []
  profiles := []
  thread := some 0
  stopEvent := false
  generatedAt := ""
  workers := [.loop]

def missingFile : Answer where
  now := 0
  stamp := ""
  reads := ⟨.ok [], .ok [], .ok {}⟩
  outcome := .error (.http 500 "")
  environment := .ok (settingsWith (some "profiles.json"))
  sources := {
    readText := fun _ => .error (.other "FileNotFoundError" "profiles.json")
    loads := fun _ => .ok .null
    validateInput := fun _ => .error (.other "ValidationError" "")
    validateFile := fun _ => .error (.other "ValidationError" "") }
  timedOut := false

theorem failed_reload_stops_worker :
    (runningService.reload true missingFile).2.isOk = false ∧
    runningService.running = true ∧
    (runningService.reload true missingFile).1.running = false ∧
    (runningService.reload true missingFile).1.settings ≠ runningService.settings := by
  refine ⟨rfl, rfl, rfl, fun h => ?_⟩
  cases congrArg ServiceSettings.profilesFile h

end OvnApi.Scheduled.Service
