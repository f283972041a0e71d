import OvnApi.Manager.Workers
import OvnApi.Monitor.Cpu
import OvnApi.Monitor.Live
import OvnApi.Scheduled.Accounting

/-! How many workers a background service can have at a time. A `start` checks only the
thread in `self._thread`: it does not see a worker that a `stop` gave up waiting for,
nor a thread that another `start` has made and not yet started. Where neither exists,
each of the four services has at most one worker. -/

namespace OvnApi

open OvnApi.Core Lib Traces

/-! ### The scheduled trace service -/

namespace Scheduled

def CallPc.launching : CallPc → Bool
  | .startLaunch _ _ => true
  | _ => false

def spawns (s : State) : Label → Bool
  | .call i _ =>
    (s.calls[i]?.any fun | .startEnter _ => true | _ => false) && !s.service.workerAlive
  | _ => false

variable {t t' : Service} {s s' : State} {pc pc' : CallPc} {a : Answer} {l : Label}

theorem launching_afterStart (inReload : Bool) : (afterStart inReload).launching = false := by
  cases inReload <;> rfl

theorem workers_reloadBlock (settings : ServiceSettings) :
    (t.reloadBlock settings a).1.workers = t.workers := by
  unfold Service.reloadBlock
  cases loadProfileConfigs a.sources (Service.installed settings) <;> rfl

theorem callStep_effect (h : callStep t a pc = some (t', pc')) :
    CallEffect WorkerPc.active CallPc.launching
      ((∃ inReload, pc = .startEnter inReload) ∧ t.workerAlive = false)
      t.workers pc t'.workers pc' := by
  -- the steps that leave the workers alone
  have hgo : ∀ {u : Service} {p : CallPc}, some (u, p) = some (t', pc') → u.workers = t.workers →
      p.launching = false → CallEffect WorkerPc.active CallPc.launching
        ((∃ inReload, pc = .startEnter inReload) ∧ t.workerAlive = false)
        t.workers pc t'.workers pc' := by
    intro u p heq hworkers hp
    cases heq
    rw [hworkers]
    exact .go _ (by simp [hp])
  cases pc with
  | done | raised => cases h
  | startCheck inReload =>
    refine hgo h rfl ?_
    split_ifs
    · rfl
    · exact launching_afterStart inReload
  | startEnter inReload =>
    simp only [callStep] at h
    split_ifs at h with halive
    · exact hgo h rfl (launching_afterStart inReload)
    · cases h
      exact .spawn _ WorkerPc.created ⟨⟨inReload, rfl⟩, by simpa using halive⟩ rfl
  | startLaunch tid inReload =>
    simp only [callStep] at h
    split at h
    · cases h
      exact .launch _ tid WorkerPc.loop rfl (launching_afterStart inReload)
    · exact hgo h rfl rfl
  | stopEnter | snapshot => exact hgo h rfl rfl
  | stopJoin thread inReload =>
    simp only [callStep] at h
    split_ifs at h
    · exact hgo h rfl rfl
    · exact hgo h rfl (by cases inReload <;> rfl)
  | gather reloadSettings =>
    simp only [callStep] at h
    split at h <;> exact hgo h rfl rfl
  | reloadEnter settings =>
    have hworkers := workers_reloadBlock (t := t) (a := a) settings
    simp only [callStep] at h
    split at h
    all_goals
      rename_i heq
      rw [heq] at hworkers
      exact hgo h hworkers rfl
  | reloadStart => exact hgo h rfl (by split_ifs <;> rfl)

theorem workerStep_active {w w' : WorkerPc} (h : t.workerStep a w = some (t', w')) :
    w.active = true := by
  cases w with
  | created | finished | died => cases h
  | _ => rfl

theorem step_crewStep (h : step s l = some s')
    (hok : spawns s l = true →
      noneLeft WorkerPc.active s.service.thread s.service.workers = true ∧
        noneStarting CallPc.launching s.calls = true) :
    CrewStep WorkerPc.active CallPc.launching s.service.workers s.calls s'.service.workers
      s'.calls := by
  cases l with
  | enter call =>
    obtain rfl := Option.some.inj h
    exact .enter _ (by cases call <;> rfl)
  | call i a =>
    obtain ⟨pc, hpc, h⟩ := Option.bind_eq_some_iff.mp h
    obtain ⟨⟨service, pc'⟩, hstep, h⟩ := Option.bind_eq_some_iff.mp h
    obtain rfl := Option.some.inj h
    refine .of_call hpc (callStep_effect hstep) ?_
    rintro ⟨⟨inReload, rfl⟩, halive⟩
    have hdead : s.service.workerAlive = false := halive
    exact hok (by simp [spawns, hpc, hdead])
  | worker tid a =>
    obtain ⟨w, hw, h⟩ := Option.bind_eq_some_iff.mp h
    obtain ⟨⟨service, w'⟩, hstep, h⟩ := Option.bind_eq_some_iff.mp h
    obtain rfl := Option.some.inj h
    dsimp only
    rw [workers_workerStep hstep]
    exact .work tid w w' hw fun _ => workerStep_active hstep

end Scheduled

/-! ### The four services -/

/-- Where a `start` makes a thread, no worker is left from before a `stop` and no other
`start` is between making its thread and starting it. -/
def Manager.OneAtATime (s : Manager.State) (l : Manager.Label) : Prop :=
  Manager.restarts s l = true → noneLeft Manager.WorkerPc.active s.thread s.workers = true ∧
    noneStarting Manager.CallPc.launching s.calls = true

@[inherit_doc Manager.OneAtATime]
def Scheduled.OneAtATime (s : Scheduled.State) (l : Scheduled.Label) : Prop :=
  Scheduled.spawns s l = true →
    noneLeft Scheduled.WorkerPc.active s.service.thread s.service.workers = true ∧
      noneStarting Scheduled.CallPc.launching s.calls = true

instance (s : Manager.State) (l : Manager.Label) : Decidable (Manager.OneAtATime s l) :=
  inferInstanceAs (Decidable (_ → _))

instance (s : Scheduled.State) (l : Scheduled.Label) : Decidable (Scheduled.OneAtATime s l) :=
  inferInstanceAs (Decidable (_ → _))

/-- In every run that keeps to this, no service has two workers at a time. -/
theorem at_most_one_worker (cfg : Manager.Config) (store : Store.RunTable Store.PersistedCanaryRun)
    (issued : List String) (settings : Scheduled.ServiceSettings)
    (configs : List Scheduled.ProfileConfig) (now : ℚ) (stamp : String) :
    (∀ s, Reach (Manager.step cfg) Manager.OneAtATime (Manager.State.fresh store issued) s →
      s.workers.countP Manager.WorkerPc.active ≤ 1) ∧
    (∀ s, Reach Scheduled.step Scheduled.OneAtATime
        (Scheduled.State.init settings configs now stamp) s →
      s.service.workers.countP Scheduled.WorkerPc.active ≤ 1) ∧
    (∀ s, Reach Live.service.step Live.service.OneAtATime Live.init s →
      s.service.poller.workers.countP Monitor.WorkerPc.active ≤ 1) ∧
    ∀ s, Reach Cpu.service.step Cpu.service.OneAtATime Cpu.init s →
      s.service.workers.countP Monitor.WorkerPc.active ≤ 1 := by
  refine ⟨?_, ?_, ?_, ?_⟩
  · intro s h
    exact h.one_worker (fun s => s.workers) (fun s => s.calls) rfl rfl
      fun _ _ _ hok hstep => Manager.step_crewStep hstep hok
  · intro s h
    exact h.one_worker (fun s => s.service.workers) (fun s => s.calls) rfl rfl
      fun _ _ _ hok hstep => Scheduled.step_crewStep hstep hok
  · intro s h
    exact Monitor.Polled.at_most_one rfl rfl h
  · intro s h
    exact Monitor.Polled.at_most_one rfl rfl h

/-! ### A `stop` that does not wait long enough -/

def Manager.busyRun : List Manager.Label :=
  .invoke (.submit Manager.switchRequest) ::
    ([.go "t0", .go "t0", .prepared (Manager.switchProbe Manager.firstId), .go "t0", .go "t0",
      .go "t0", .go "t0", .go "t0", .go "t0"].map (Manager.Label.call 0) ++
    List.replicate 5 (.worker 0 (.go "t1")))

def Manager.restartRun : List Manager.Label :=
  .invoke .stop :: List.replicate 3 (.call 1 (.go "t2")) ++
    .invoke .start :: List.replicate 2 (.call 2 (.go "t3"))

def Scheduled.restartRun : List Scheduled.Label :=
  .enter .stop :: List.replicate 2 (.call 1 Scheduled.oneSwitchAnswer) ++
    .enter .start :: List.replicate 3 (.call 2 Scheduled.oneSwitchAnswer)

def Live.busyRun : List (Monitor.Polled.Label Live.Call Monitor.Answer) :=
  .enter .start :: List.replicate 7 (.call 0 ⟨none, false⟩) ++ [.worker 0]

def Live.restartRun : List (Monitor.Polled.Label Live.Call Monitor.Answer) :=
  .enter .stop :: List.replicate 2 (.call 1 ⟨none, true⟩) ++
    .enter .start :: List.replicate 6 (.call 2 ⟨none, false⟩)

def Cpu.busyRun : List (Monitor.Polled.Label Cpu.Call Bool) :=
  .enter .start :: List.replicate 5 (.call 0 false) ++ [.worker 0]

def Cpu.restartRun : List (Monitor.Polled.Label Cpu.Call Bool) :=
  .enter .stop :: List.replicate 2 (.call 1 true) ++ .enter .start :: List.replicate 5 (.call 2 false)

theorem at_most_one_worker_busy :
    (∃ s, Reach (Manager.step Manager.smallConfig) Manager.OneAtATime
        (.fresh Manager.emptyStore []) s ∧ 0 < s.workers.countP Manager.WorkerPc.active ∧
      s.workers.countP Manager.WorkerPc.active ≤ 1) ∧
    (∃ s, Reach Scheduled.step Scheduled.OneAtATime Scheduled.defaultService s ∧
      0 < s.service.workers.countP Scheduled.WorkerPc.active ∧
      s.service.workers.countP Scheduled.WorkerPc.active ≤ 1) ∧
    (∃ s, Reach Live.service.step Live.service.OneAtATime Live.init s ∧
      0 < s.service.poller.workers.countP Monitor.WorkerPc.active ∧
      s.service.poller.workers.countP Monitor.WorkerPc.active ≤ 1) ∧
    ∃ s, Reach Cpu.service.step Cpu.service.OneAtATime Cpu.init s ∧
      0 < s.service.workers.countP Monitor.WorkerPc.active ∧
      s.service.workers.countP Monitor.WorkerPc.active ≤ 1 := by
  obtain ⟨hmanager, hscheduled, hlive, hcpu⟩ := at_most_one_worker Manager.smallConfig
    Manager.emptyStore [] (Scheduled.Service.settingsWith none)
    (Scheduled.defaultProfileConfigs (Scheduled.Service.settingsWith none)) 0 ""
  refine ⟨?_, ?_, ?_, ?_⟩
  · obtain ⟨s, hs, hbusy⟩ : ∃ s, Reach (Manager.step Manager.smallConfig) Manager.OneAtATime
        (.fresh Manager.emptyStore []) s ∧ 0 < s.workers.countP Manager.WorkerPc.active :=
      exists_reach_of_mem_run Manager.busyRun (by decide +kernel)
    exact ⟨s, hs, hbusy, hmanager s hs⟩
  · obtain ⟨s, hs, hbusy⟩ : ∃ s, Reach Scheduled.step Scheduled.OneAtATime
        Scheduled.defaultService s ∧ 0 < s.service.workers.countP Scheduled.WorkerPc.active :=
      exists_reach_of_mem_run Scheduled.firstRun (by decide +kernel)
    exact ⟨s, hs, hbusy, hscheduled s hs⟩
  · obtain ⟨s, hs, hbusy⟩ : ∃ s, Reach Live.service.step Live.service.OneAtATime Live.init s ∧
        0 < s.service.poller.workers.countP Monitor.WorkerPc.active :=
      exists_reach_of_mem_run Live.busyRun (by decide +kernel)
    exact ⟨s, hs, hbusy, hlive s hs⟩
  · obtain ⟨s, hs, hbusy⟩ : ∃ s, Reach Cpu.service.step Cpu.service.OneAtATime Cpu.init s ∧
        0 < s.service.workers.countP Monitor.WorkerPc.active :=
      exists_reach_of_mem_run Cpu.busyRun (by decide +kernel)
    exact ⟨s, hs, hbusy, hcpu s hs⟩

/-- When a worker is busy for longer than `stop` waits, the next `start` clears the stop
event it has not seen and puts a second worker next to it: in each of the services. -/
theorem restart_doubles_worker :
    (∃ s, Reach (Manager.step Manager.smallConfig) anyStep (.fresh Manager.emptyStore []) s ∧
      s.workers.countP Manager.WorkerPc.active = 2) ∧
    (∃ s, Reach Scheduled.step anyStep Scheduled.defaultService s ∧
      s.service.workers.countP Scheduled.WorkerPc.active = 2) ∧
    (∃ s, Reach Live.service.step anyStep Live.init s ∧
      s.service.poller.workers.countP Monitor.WorkerPc.active = 2) ∧
    ∃ s, Reach Cpu.service.step anyStep Cpu.init s ∧
      s.service.workers.countP Monitor.WorkerPc.active = 2 := by
  refine ⟨?_, ?_, ?_, ?_⟩
  · exact exists_reach_of_mem_run (Manager.busyRun ++ Manager.restartRun) (by decide +kernel)
  · exact exists_reach_of_mem_run (Scheduled.firstRun ++ Scheduled.restartRun) (by decide +kernel)
  · exact exists_reach_of_mem_run (Live.busyRun ++ Live.restartRun) (by decide +kernel)
  · exact exists_reach_of_mem_run (Cpu.busyRun ++ Cpu.restartRun) (by decide +kernel)

end OvnApi
