import OvnApi.Lib.Threads
import OvnApi.Scheduled.System

/-! The run counters of a profile. Every profile object keeps its books: the runs it
has counted are the outcomes it has counted and the runs still in flight on it. A
worker that dies takes a run in flight with it, and a reload that copies an object
copies a run that will be closed on the old one; nothing else can unbalance them. -/

namespace OvnApi.Scheduled

open OvnApi.Core Lib Traces

def ProfileState.closed (o : ProfileState) : ℕ :=
  o.successCount + o.partialSuccessCount + o.timeoutCount + o.failedCount

def WorkerPc.ref : WorkerPc → Option ℕ
  | .wait ref | .begin ref => some ref
  | pc => pc.inFlight

namespace Service

def inFlight (s : Service) : List ℕ := s.workers.filterMap WorkerPc.inFlight

/-- The profile whose counters `reload` copies for this configuration. -/
def copiedRef (s : Service) (config : ProfileConfig) : Option ℕ :=
  (s.previousRef config.name).filter fun ref =>
    s.heap[ref]?.any fun profile => canReuseState profile.config config

structure Accounted (s : Service) : Prop where
  balanced : ∀ (ref : ℕ) o, s.heap[ref]? = some o → o.runCount = o.closed + s.inFlight.count ref
  profiles : ∀ ref ∈ s.profiles, ref < s.heap.length
  held : ∀ pc ∈ s.workers, ∀ ref ∈ pc.ref, ref < s.heap.length
  alive : ∀ pc ∈ s.workers, ∀ exc, pc ≠ .died exc

/-! ### The worker -/

/-- What one step of a worker does to the books: it changes one profile, by as much as
it changes what is in flight on it. -/
structure Turn (s : Service) (pc : WorkerPc) (s' : Service) (pc' : WorkerPc) (changed : ℕ)
    (f : ProfileState → ProfileState) : Prop where
  heap : s'.heap = s.heap.modify changed f
  profiles : s'.profiles = s.profiles
  workers : s'.workers = s.workers
  books : ∀ o, (f o).runCount + o.closed + pc.inFlight.toList.count changed =
    o.runCount + (f o).closed + pc'.inFlight.toList.count changed
  others : ∀ ref, ref ≠ changed →
    pc'.inFlight.toList.count ref = pc.inFlight.toList.count ref
  held : ∀ ref ∈ pc'.ref, ref ∈ pc.ref ∨ ref ∈ s.profiles
  alive : ∀ exc, pc' ≠ .died exc

variable {s s' : Service} {a : Answer} {pc pc' : WorkerPc} {ref tid : ℕ}

/-- A step that only moves on. -/
theorem Turn.quiet (hflight : pc'.inFlight = pc.inFlight)
    (hheld : ∀ ref ∈ pc'.ref, ref ∈ pc.ref ∨ ref ∈ s.profiles) (halive : ∀ exc, pc' ≠ .died exc) :
    Turn s pc s pc' 0 id where
  heap := (List.modify_id 0 s.heap).symm
  profiles := rfl
  workers := rfl
  books o := by rw [hflight, id]
  others _ _ := by rw [hflight]
  held := hheld
  alive := halive

theorem nextDueProfile_mem (h : s.nextDueProfile = some ref) : ref ∈ s.profiles := by
  unfold nextDueProfile at h
  dsimp only at h
  split at h
  · cases h
  · rename_i first rest henabled
    obtain rfl := Option.some.inj h
    have hmem := PyFloat.leastBy_mem Prod.snd rest first
    rw [← henabled] at hmem
    obtain ⟨ref, href, hpair⟩ := List.mem_filterMap.mp hmem
    obtain ⟨profile, -, hpair⟩ := Option.map_eq_some_iff.mp hpair
    change (PyFloat.leastBy Prod.snd rest first).1 ∈ s.profiles
    rw [← hpair]
    exact href

theorem closed_countResult (a : Answer) (result : CanaryProbeResult) (o : ProfileState) :
    (countResult a result o).runCount = o.runCount ∧
      (countResult a result o).closed = o.closed + 1 := by
  cases hstatus : result.status <;> simp [countResult, hstatus, ProfileState.closed] <;> omega

theorem closed_countOutcome (a : Answer) (outcome : Except Exc CanaryProbeResult)
    (o : ProfileState) :
    (countOutcome a outcome o).runCount = o.runCount ∧
      (countOutcome a outcome o).closed = o.closed + 1 := by
  cases outcome with
  | ok result => exact closed_countResult a result o
  | error exc => simp [countOutcome, countRaised, ProfileState.closed, Nat.add_assoc]

/-- The end of an execution counts one outcome. -/
theorem Turn.closing {f : ProfileState → ProfileState} {stamp : String}
    (hpc : pc.inFlight = some ref) (hf : ∀ o, (f o).runCount = o.runCount ∧
      (f o).closed = o.closed + 1) : Turn s pc ((s.update ref f).stamped stamp) .loop ref f where
  heap := rfl
  profiles := rfl
  workers := rfl
  books o := by
    obtain ⟨hrun, hclosed⟩ := hf o
    rw [hpc, hrun, hclosed]
    simp [WorkerPc.inFlight]
    omega
  others other hother := by
    rw [hpc]
    simp [WorkerPc.inFlight, Ne.symm hother]
  held _ h := by cases h
  alive := nofun

theorem workerStep_turn (h : s.workerStep a pc = some (s', pc'))
    (hprepare : ∀ ref, pc = .resolve ref → ∀ profile, s.heap[ref]? = some profile →
      (prepare s.settings a.reads profile.config).isOk = true) :
    ∃ changed f, Turn s pc s' pc' changed f := by
  cases pc with
  | created | finished | died => cases h
  | loop =>
    cases h
    refine ⟨0, id, .quiet ?_ ?_ ?_⟩ <;> split_ifs <;> simp [WorkerPc.inFlight, WorkerPc.ref]
  | pick =>
    cases h
    cases hnext : s.nextDueProfile with
    | none => exact ⟨0, id, .quiet rfl nofun nofun⟩
    | some ref =>
      refine ⟨0, id, .quiet rfl ?_ nofun⟩
      rintro _ ⟨⟩
      exact .inr (nextDueProfile_mem hnext)
  | idle =>
    cases h
    exact ⟨0, id, .quiet rfl nofun nofun⟩
  | wait ref =>
    obtain ⟨profile, -, hstep⟩ := Option.map_eq_some_iff.mp h
    cases hstep
    refine ⟨0, id, .quiet ?_ ?_ ?_⟩ <;> split_ifs <;> simp [WorkerPc.inFlight, WorkerPc.ref]
  | begin ref =>
    cases h
    refine ⟨ref, countRun a, rfl, rfl, rfl, fun o => ?_, fun other hother => ?_, ?_, nofun⟩
    · simp [countRun, ProfileState.closed, WorkerPc.inFlight]
      omega
    · simp [WorkerPc.inFlight, Ne.symm hother]
    · exact fun _ hmem => .inl hmem
  | resolve ref =>
    obtain ⟨profile, hprofile, hstep⟩ := Option.map_eq_some_iff.mp h
    cases hstep
    have hok := hprepare ref rfl profile hprofile
    cases hprepared : prepare s.settings a.reads profile.config with
    | error exc =>
      rw [hprepared] at hok
      cases hok
    | ok prepared => exact ⟨0, id, .quiet rfl (fun _ hmem => .inl hmem) nofun⟩
  | note ref resolution request =>
    cases h
    refine ⟨ref, noteTarget resolution, rfl, rfl, rfl, fun o => ?_, fun other _ => ?_, ?_, ?_⟩
    · cases resolution.error <;> rfl
    · cases resolution.error <;> rfl
    · cases resolution.error <;> exact fun _ hmem => .inl hmem
    · cases resolution.error <;> exact nofun
  | unresolved ref error =>
    cases h
    refine ⟨ref, countUnresolved a error, .closing rfl fun o => ?_⟩
    simp [countUnresolved, ProfileState.closed, Nat.add_assoc]
  | probe ref request =>
    cases h
    exact ⟨0, id, .quiet rfl (fun _ hmem => .inl hmem) nofun⟩
  | close ref outcome =>
    cases h
    exact ⟨ref, countOutcome a outcome, .closing rfl (closed_countOutcome a outcome)⟩

theorem Accounted.worker (h : Accounted s) (hpc : s.workers[tid]? = some pc) {changed : ℕ}
    {f : ProfileState → ProfileState} (hturn : Turn s pc s' pc' changed f) :
    Accounted { s' with workers := s'.workers.set tid pc' } := by
  have hmem := List.mem_of_getElem? hpc
  have hlength : s'.heap.length = s.heap.length := by rw [hturn.heap, List.length_modify]
  obtain ⟨rest, hbefore, hafter⟩ := filterMap_set_perm (f := WorkerPc.inFlight) hpc
  have hcount : ∀ ref, s.inFlight.count ref = pc.inFlight.toList.count ref + rest.count ref := by
    intro ref
    rw [inFlight, hbefore.count_eq, List.count_append]
  have hcount' : ∀ ref, ((s.workers.set tid pc').filterMap WorkerPc.inFlight).count ref =
      pc'.inFlight.toList.count ref + rest.count ref := by
    intro ref
    rw [(hafter pc').count_eq, List.count_append]
  rw [hturn.workers]
  constructor
  · intro ref o' ho'
    change s'.heap[ref]? = some o' at ho'
    change _ = _ + ((s.workers.set tid pc').filterMap WorkerPc.inFlight).count ref
    rw [hturn.heap, List.getElem?_modify] at ho'
    obtain ⟨o, ho, rfl⟩ := Option.map_eq_some_iff.mp ho'
    have hold := h.balanced ref o ho
    rw [hcount] at hold
    rw [hcount']
    split_ifs with hchanged
    · subst hchanged
      have hbooks := hturn.books o
      omega
    · rw [hturn.others ref (Ne.symm hchanged)]
      exact hold
  · intro ref href
    change ref < s'.heap.length
    rw [hlength]
    exact h.profiles ref (hturn.profiles ▸ href)
  · intro other hother ref href
    change ref < s'.heap.length
    rw [hlength]
    rcases List.mem_or_eq_of_mem_set hother with hother | rfl
    · exact h.held other hother ref href
    · rcases hturn.held ref href with hpc | hprofile
      · exact h.held pc hmem ref hpc
      · exact h.profiles ref hprofile
  · intro other hother
    rcases List.mem_or_eq_of_mem_set hother with hother | rfl
    · exact h.alive other hother
    · exact hturn.alive

/-! ### The calls -/

theorem length_scheduleInitialRuns (now : ℚ) (l : List ProfileState) :
    (scheduleInitialRuns now l).length = l.length := by
  cases l with
  | nil => rfl
  | cons first rest => exact List.length_mapIdx

/-- Scheduling leaves the counters alone. -/
theorem mem_scheduleInitialRuns {now : ℚ} {l : List ProfileState} {o : ProfileState}
    (h : o ∈ scheduleInitialRuns now l) :
    ∃ o' ∈ l, o.runCount = o'.runCount ∧ o.closed = o'.closed := by
  cases l with
  | nil => cases h
  | cons first rest =>
    obtain ⟨i, hi, rfl⟩ := List.mem_mapIdx.mp h
    exact ⟨_, List.getElem_mem hi, rfl, rfl⟩

/-- A profile state is new, or the copy of one with no run in flight. -/
theorem balanced_profileState (h : Accounted s) {config : ProfileConfig}
    (hcopied : (s.copiedRef config).all (· ∉ s.inFlight) = true) :
    (profileState (s.previousState config.name) config).runCount =
      (profileState (s.previousState config.name) config).closed := by
  unfold profileState
  cases hprevious : s.previousState config.name with
  | none => rfl
  | some state =>
    dsimp only
    split_ifs with hreuse
    · obtain ⟨ref, href, hstate⟩ := Option.bind_eq_some_iff.mp hprevious
      have hcopy : s.copiedRef config = some ref := by
        rw [copiedRef, Option.filter_eq_some_iff, hstate]
        exact ⟨href, hreuse⟩
      have hflight : s.inFlight.count ref = 0 := by
        rw [hcopy] at hcopied
        exact List.count_eq_zero.mpr (of_decide_eq_true hcopied)
      have hbalanced := h.balanced ref state hstate
      rw [hflight] at hbalanced
      exact hbalanced
    · rfl

theorem Accounted.reload (h : Accounted s) {settings : ServiceSettings}
    (hcopied : ∀ configs, loadProfileConfigs a.sources (installed settings) = .ok configs →
      ∀ config ∈ configs, (s.copiedRef config).all (· ∉ s.inFlight) = true) :
    Accounted (s.reloadBlock settings a).1 := by
  unfold reloadBlock
  cases hload : loadProfileConfigs a.sources (installed settings) with
  | error exc => exact ⟨h.balanced, h.profiles, h.held, h.alive⟩
  | ok configs =>
    have hnew : ∀ o ∈ scheduleInitialRuns a.now (buildProfileStates configs s.previousState),
        o.runCount = o.closed := by
      intro o ho
      obtain ⟨o', ho', hrun, hclosed⟩ := mem_scheduleInitialRuns ho
      obtain ⟨config, hconfig, rfl⟩ := List.mem_map.mp ho'
      rw [hrun, hclosed]
      exact balanced_profileState h (hcopied configs hload config hconfig)
    constructor
    · intro ref o ho
      change (s.heap ++ _)[ref]? = some o at ho
      change o.runCount = o.closed + s.inFlight.count ref
      by_cases hold : ref < s.heap.length
      · rw [List.getElem?_append_left hold] at ho
        exact h.balanced ref o ho
      · -- nobody can hold on to an object that has just been made
        rw [List.getElem?_append_right (by omega)] at ho
        have hflight : s.inFlight.count ref = 0 := by
          apply List.count_eq_zero.mpr
          intro hin
          obtain ⟨pc, hpc, href⟩ := List.mem_filterMap.mp hin
          apply hold
          apply h.held pc hpc ref
          cases pc <;> first | exact href | cases href
        rw [hnew o (List.mem_of_getElem? ho), hflight]
        rfl
    · intro ref href
      obtain ⟨i, hi, rfl⟩ := List.mem_range'.mp href
      change _ < (s.heap ++ _).length
      rw [List.length_append]
      omega
    · intro pc hpc ref href
      change _ < (s.heap ++ _).length
      rw [List.length_append]
      have := h.held pc hpc ref href
      omega
    · exact h.alive

/-- What the other calls do to the workers: nothing that is in flight changes. -/
theorem Accounted.of_workers (h : Accounted s) {s' : Service} (hheap : s'.heap = s.heap)
    (hprofiles : s'.profiles = s.profiles)
    (hflight : s'.inFlight = s.inFlight)
    (hworkers : ∀ pc ∈ s'.workers, pc ∈ s.workers ∨ pc = .created ∨ pc = .loop) :
    Accounted s' where
  balanced := by
    rw [hheap, hflight]
    exact h.balanced
  profiles := by
    rw [hheap, hprofiles]
    exact h.profiles
  held pc hpc ref href := by
    rw [hheap]
    rcases hworkers pc hpc with hold | rfl | rfl
    · exact h.held pc hold ref href
    · cases href
    · cases href
  alive pc hpc := by
    rcases hworkers pc hpc with hold | rfl | rfl
    · exact h.alive pc hold
    · exact nofun
    · exact nofun

theorem Accounted.spawn (h : Accounted s) : Accounted s.spawn := by
  refine h.of_workers ?_ ?_ ?_ ?_
  · rfl
  · rfl
  · simp [inFlight, Service.spawn, WorkerPc.inFlight]
  · intro pc hpc
    rcases List.mem_append.mp hpc with hold | hnew
    · exact .inl hold
    · exact .inr (.inl (List.mem_singleton.mp hnew))

theorem Accounted.launch (h : Accounted s) (htid : s.workers[tid]? = some .created) :
    Accounted { s with workers := s.workers.set tid .loop } := by
  refine h.of_workers ?_ ?_ ?_ ?_
  · rfl
  · rfl
  · exact filterMap_set_of_eq htid rfl
  · intro pc hpc
    rcases List.mem_or_eq_of_mem_set hpc with hold | rfl
    · exact .inl hold
    · exact .inr (.inr rfl)

theorem Accounted.call (h : Accounted s) {pc pc' : CallPc}
    (hstep : callStep s a pc = some (s', pc'))
    (hcopied : ∀ settings, pc = .reloadEnter settings → ∀ configs,
      loadProfileConfigs a.sources (installed settings) = .ok configs →
        ∀ config ∈ configs, (s.copiedRef config).all (· ∉ s.inFlight) = true) : Accounted s' := by
  have hsame : ∀ {t : Service} {p p' : CallPc}, some (t, p) = some (s', p') → Accounted t →
      Accounted s' := by
    intro t p p' heq ht
    obtain ⟨rfl, -⟩ := Prod.mk.inj (Option.some.inj heq)
    exact ht
  cases pc with
  | done | raised => cases hstep
  | startCheck | reloadStart | snapshot => exact hsame hstep h
  | startEnter inReload =>
    simp only [callStep] at hstep
    split_ifs at hstep
    · exact hsame hstep h
    · exact hsame hstep h.spawn
  | startLaunch target inReload =>
    simp only [callStep] at hstep
    split at hstep
    · rename_i hcreated
      exact hsame hstep (h.launch hcreated)
    · exact hsame hstep h
  | stopEnter inReload => exact hsame hstep ⟨h.balanced, h.profiles, h.held, h.alive⟩
  | stopJoin thread inReload =>
    simp only [callStep] at hstep
    split_ifs at hstep
    · exact hsame hstep h
    · exact hsame hstep h
  | gather reloadSettings =>
    simp only [callStep] at hstep
    split at hstep
    · exact hsame hstep h
    · exact hsame hstep h
  | reloadEnter settings =>
    have hreload := h.reload (hcopied settings rfl)
    simp only [callStep] at hstep
    split at hstep
    · rename_i t exc hblock
      rw [hblock] at hreload
      exact hsame hstep hreload
    · rename_i t hblock
      rw [hblock] at hreload
      exact hsame hstep hreload

end Service

/-! ### Whole runs -/

/-- The reads for a target do not raise and the request is valid; and a reload copies
no profile with a run in flight. -/
def careful (s : State) : Label → Bool
  | .enter _ => true
  | .call i a =>
    match s.calls[i]? with
    | some (.reloadEnter settings) =>
      match loadProfileConfigs a.sources (Service.installed settings) with
      | .ok configs => configs.all fun config =>
          (s.service.copiedRef config).all (· ∉ s.service.inFlight)
      | .error _ => true
    | _ => true
  | .worker tid a =>
    match s.service.workers[tid]? with
    | some (.resolve ref) => s.service.heap[ref]?.all fun profile =>
        (Service.prepare s.service.settings a.reads profile.config).isOk
    | _ => true

section Runs

variable {s s' : State} {settings : ServiceSettings} {configs : List ProfileConfig} {now : ℚ}
  {stamp : String}

theorem accounted_init : (State.init settings configs now stamp).service.Accounted where
  balanced ref o ho := by
    obtain ⟨o', ho', hrun, hclosed⟩ := Service.mem_scheduleInitialRuns (List.mem_of_getElem? ho)
    obtain ⟨config, -, rfl⟩ := List.mem_map.mp ho'
    rw [hrun, hclosed]
    rfl
  profiles ref href := by
    obtain ⟨i, hi, rfl⟩ := List.mem_range'.mp href
    change _ < (scheduleInitialRuns now _).length
    rw [Service.length_scheduleInitialRuns, List.length_map]
    omega
  held _ hpc := absurd hpc List.not_mem_nil
  alive _ hpc := absurd hpc List.not_mem_nil

theorem accounted_step {l : Label} (h : s.service.Accounted) (hcareful : careful s l = true)
    (hstep : step s l = some s') : s'.service.Accounted := by
  cases l with
  | enter call =>
    obtain rfl := Option.some.inj hstep
    exact h
  | call i a =>
    obtain ⟨pc, hpc, hstep⟩ := Option.bind_eq_some_iff.mp hstep
    obtain ⟨⟨service, pc'⟩, hcall, hstep⟩ := Option.bind_eq_some_iff.mp hstep
    obtain rfl := Option.some.inj hstep
    apply h.call hcall
    rintro settings rfl configs hload config hconfig
    simp only [careful, hpc, hload] at hcareful
    exact List.all_eq_true.mp hcareful config hconfig
  | worker tid a =>
    obtain ⟨pc, hpc, hstep⟩ := Option.bind_eq_some_iff.mp hstep
    obtain ⟨⟨service, pc'⟩, hworker, hstep⟩ := Option.bind_eq_some_iff.mp hstep
    obtain rfl := Option.some.inj hstep
    have hprepare : ∀ ref, pc = .resolve ref → ∀ profile, s.service.heap[ref]? = some profile →
        (Service.prepare s.service.settings a.reads profile.config).isOk = true := by
      rintro ref rfl profile hprofile
      simpa only [careful, hpc, hprofile, Option.all_some] using hcareful
    obtain ⟨changed, f, hturn⟩ := Service.workerStep_turn hworker hprepare
    exact h.worker hpc hturn

/-- As long as targets and requests can be made and no reload comes between a run and
its outcome, no worker dies, and whenever no run is in flight the counters of every
visible profile add up. -/
theorem runs_accounted
    (h : Reach step (fun s l => careful s l = true) (State.init settings configs now stamp) s) :
    (∀ pc ∈ s.service.workers, ∀ exc, pc ≠ .died exc) ∧
    (s.service.inFlight = [] → ∀ status ∈ s.service.getSnapshot.profiles,
      status.state.runCount = status.state.successCount + status.state.partialSuccessCount +
        status.state.timeoutCount + status.state.failedCount) := by
  have haccounted : s.service.Accounted :=
    Reach.invariant (I := fun s => s.service.Accounted) accounted_init
      (fun _ _ _ hs hcareful hstep => accounted_step hs hcareful hstep) h
  refine ⟨haccounted.alive, fun hidle status hstatus => ?_⟩
  obtain ⟨state, hstate, rfl⟩ := List.mem_map.mp hstatus
  obtain ⟨ref, -, href⟩ := List.mem_filterMap.mp hstate
  have hbalanced := haccounted.balanced ref state href
  rw [hidle] at hbalanced
  exact hbalanced

end Runs

/-! ### Runs of the default profiles -/

def defaultService : State :=
  State.init (Service.settingsWith none) (defaultProfileConfigs (Service.settingsWith none)) 0 ""

def oneSwitchAnswer : Answer :=
  { Service.missingFile with
    now := 1
    reads := ⟨.ok [⟨"web", 0, 0, 0⟩], .ok [], .ok {}⟩
    timedOut := true }

def unreadableAnswer : Answer :=
  { oneSwitchAnswer with reads := ⟨.error (.http 503 "NB"), .ok [], .ok {}⟩ }

def firstRun : List Label :=
  .enter .start :: List.replicate 3 (.call 0 oneSwitchAnswer) ++
    List.replicate 4 (.worker 0 oneSwitchAnswer)

/-- Some visible profile has counted another number of runs than of outcomes. -/
def State.unbalanced (s : State) : Bool :=
  s.service.getSnapshot.profiles.any fun status => status.state.runCount ≠ status.state.closed

def State.workerDied (s : State) : Bool :=
  s.service.workers.any fun
    | .died _ => true
    | _ => false

theorem runs_accounted_default : ∃ s,
    run step (fun s l => careful s l = true) defaultService
      (firstRun ++ List.replicate 4 (.worker 0 oneSwitchAnswer)) = some s ∧
    s.service.inFlight = [] ∧
    ∀ status ∈ s.service.getSnapshot.profiles,
      status.state.runCount = status.state.successCount + status.state.partialSuccessCount +
        status.state.timeoutCount + status.state.failedCount := by
  obtain ⟨s, hs, hidle⟩ : ∃ s ∈ run step (fun s l => careful s l = true) defaultService
      (firstRun ++ List.replicate 4 (.worker 0 oneSwitchAnswer)), s.service.inFlight = [] := by
    decide +kernel
  exact ⟨s, hs, hidle, (runs_accounted (run_reach _ hs)).2 hidle⟩

/-- A read that raises ends the worker with a run that is never closed; and a reload
while a run is in flight shows a copy that is never closed, although nothing raises. -/
theorem counters_can_be_unbalanced :
    (∃ s, run step anyStep defaultService (firstRun ++ [.worker 0 unreadableAnswer]) = some s ∧
      s.service.inFlight = [] ∧ s.workerDied = true ∧ s.unbalanced = true) ∧
    ∃ s, run step anyStep defaultService
        (firstRun ++ .enter (.reload false) :: List.replicate 4 (.call 1 oneSwitchAnswer) ++
          List.replicate 4 (.worker 0 oneSwitchAnswer)) = some s ∧
      s.service.inFlight = [] ∧ s.workerDied = false ∧ s.unbalanced = true := by
  constructor
  · change ∃ s ∈ run step anyStep defaultService _, _
    decide +kernel
  · change ∃ s ∈ run step anyStep defaultService _, _
    decide +kernel

end OvnApi.Scheduled
