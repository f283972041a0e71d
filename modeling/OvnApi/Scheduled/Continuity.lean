import Mathlib.Data.List.Nodup
import Mathlib.Data.List.Pairwise
import OvnApi.Scheduled.Names

/-! The counters of the profiles over a history of executions and reloads, one after
the other. A log records every event that a counter counts and every reload. A
reload resets a name that is missing before or after it, or whose resource type,
bridge or configured target it changes; every counter is the number of its events
since the last reset of the name. -/

namespace OvnApi.Scheduled

open OvnApi.Core Lib Traces

/-! ### Counters and events -/

inductive Counter where
  | run
  | success
  | partialSuccess
  | timeout
  | failed
  deriving DecidableEq

def ProfileState.counter (o : ProfileState) : Counter → ℕ
  | .run => o.runCount
  | .success => o.successCount
  | .partialSuccess => o.partialSuccessCount
  | .timeout => o.timeoutCount
  | .failed => o.failedCount

def outcomeCounter : Except Exc CanaryProbeResult → Counter
  | .ok result =>
    match result.status with
    | .success => .success
    | .partialSuccess => .partialSuccess
    | .timeout => .timeout
    | .failed => .failed
  | .error _ => .failed

inductive Event where
  | counted (name : String) (counter : Counter)
  | reloaded (old new : List ProfileConfig)
  deriving DecidableEq

def sameSubject (config config' : ProfileConfig) : Bool :=
  config.requestedResourceType = config'.requestedResourceType && config.bridge = config'.bridge &&
    config.configuredTargetName = config'.configuredTargetName

/-- The name is missing before or after the reload, or the reload changed its subject. -/
def Event.resets (name : String) : Event → Bool
  | .counted _ _ => false
  | .reloaded old new => !old.any fun config => config.name = name &&
      new.any fun config' => config'.name = name && sameSubject config config'

theorem resets_eq_false {name : String} {old new : List ProfileConfig} :
    (Event.reloaded old new).resets name = false ↔
      ∃ config ∈ old, config.name = name ∧
        ∃ config' ∈ new, config'.name = name ∧ sameSubject config config' = true := by
  simp [Event.resets]

/-- What has happened since the last reset of the name; a log has its last event first. -/
def since (name : String) (log : List Event) : List Event := log.takeWhile fun e => !e.resets name

/-- The number of events of this kind since the last reset of the name. -/
def eventsSince (name : String) (counter : Counter) (log : List Event) : ℕ :=
  (since name log).count (.counted name counter)

theorem eventsSince_counted (name other : String) (counter : Counter) (events : List Counter)
    (log : List Event) :
    eventsSince name counter (events.map (.counted other) ++ log) =
      eventsSince name counter log + if other = name then events.count counter else 0 := by
  induction events with
  | nil => simp
  | cons event events ih =>
    have hsince : since name (.counted other event :: (events.map (.counted other) ++ log)) =
        .counted other event :: since name (events.map (.counted other) ++ log) := by
      simp [since, Event.resets]
    rw [List.map_cons, List.cons_append, eventsSince, hsince, List.count_cons, ← eventsSince, ih]
    by_cases hother : other = name
    · simp [hother, List.count_cons, Nat.add_assoc]
    · simp [hother]

theorem eventsSince_reset {name : String} {old new : List ProfileConfig}
    (h : (Event.reloaded old new).resets name = true) (counter : Counter) (log : List Event) :
    eventsSince name counter (.reloaded old new :: log) = 0 := by
  simp [eventsSince, since, h]

theorem eventsSince_kept {name : String} {old new : List ProfileConfig}
    (h : (Event.reloaded old new).resets name = false) (counter : Counter) (log : List Event) :
    eventsSince name counter (.reloaded old new :: log) = eventsSince name counter log := by
  simp [eventsSince, since, h]

/-! ### Executions -/

namespace Service

/-- `_execute_profile` with nothing else going on, and the event it ends in. An
exception while the target is resolved ends it without one. -/
def execute (s : Service) (ref : ℕ) (start ask close : Answer) : Service × Option Counter :=
  let s := (s.update ref (countRun start)).stamped start.stamp
  match s.heap[ref]?.map fun profile => prepare s.settings ask.reads profile.config with
  | some (.ok (resolution, _)) =>
    let s := s.update ref (noteTarget resolution)
    match resolution.error with
    | some error => ((s.update ref (countUnresolved close error)).stamped close.stamp, some .failed)
    | none => ((s.update ref (countOutcome close close.outcome)).stamped
        (finishedAt close close.outcome), some (outcomeCounter close.outcome))
  | _ => (s, none)

variable {s : Service} {ref : ℕ} {start ask close a : Answer}

/-- The change of one profile that adds one to the counters of these events. -/
structure Counts (f : ProfileState → ProfileState) (events : List Counter) : Prop where
  config : ∀ o, (f o).config = o.config
  counter : ∀ o counter, (f o).counter counter = o.counter counter + events.count counter

theorem Counts.comp {f g : ProfileState → ProfileState} {events events' : List Counter}
    (hf : Counts f events) (hg : Counts g events') : Counts (g ∘ f) (events ++ events') where
  config o := (hg.config (f o)).trans (hf.config o)
  counter o counter := by
    rw [Function.comp_apply, hg.counter, hf.counter, List.count_append, Nat.add_assoc]

theorem counts_countRun (a : Answer) : Counts (countRun a) [.run] where
  config _ := rfl
  counter o counter := by cases counter <;> simp [countRun, ProfileState.counter]

theorem counts_noteTarget (resolution : Resolution) : Counts (noteTarget resolution) [] where
  config _ := rfl
  counter o counter := by cases counter <;> simp [noteTarget, ProfileState.counter]

theorem counts_countUnresolved (a : Answer) (error : String) :
    Counts (countUnresolved a error) [.failed] where
  config _ := rfl
  counter o counter := by cases counter <;> simp [countUnresolved, ProfileState.counter]

theorem counts_countOutcome (a : Answer) (outcome : Except Exc CanaryProbeResult) :
    Counts (countOutcome a outcome) [outcomeCounter outcome] where
  config o := (countOutcome_schedule outcome o).1
  counter o counter := by
    cases outcome with
    | ok result =>
      cases hstatus : result.status <;> cases counter <;>
        simp [countOutcome, countResult, outcomeCounter, hstatus, ProfileState.counter]
    | error exc =>
      cases counter <;> simp [countOutcome, countRaised, outcomeCounter, ProfileState.counter]

/-- An execution changes one profile, by the events it consists of. -/
theorem execute_effect (s : Service) (ref : ℕ) (start ask close : Answer) :
    ∃ f, (s.execute ref start ask close).1.heap = s.heap.modify ref f ∧
      (s.execute ref start ask close).1.profiles = s.profiles ∧
      Counts f (.run :: (s.execute ref start ask close).2.toList) := by
  have hrun := counts_countRun start
  unfold execute
  dsimp only
  split
  · rename_i resolution request _
    have hnoted := hrun.comp (counts_noteTarget resolution)
    cases hresolution : resolution.error with
    | some error =>
      refine ⟨_, ?_, rfl, hnoted.comp (counts_countUnresolved close error)⟩
      simp [stamped, update, List.modify_modify_eq]
    | none =>
      refine ⟨_, ?_, rfl, hnoted.comp (counts_countOutcome close close.outcome)⟩
      simp [stamped, update, List.modify_modify_eq]
  · exact ⟨_, rfl, rfl, hrun⟩

end Service

/-- The state in which worker `tid` stands at `pc` and the rest of the service is `t`. -/
def State.workerAt (s : State) (tid : ℕ) (t : Service) (pc : WorkerPc) : State :=
  { s with service := { t with workers := s.service.workers.set tid pc } }

theorem reach_workerAt {s s₀ : State} {tid : ℕ} (htid : tid < s.service.workers.length) (a : Answer)
    {t t' : Service} {pc pc' : WorkerPc} (hreach : Reach step anyStep s₀ (s.workerAt tid t pc))
    (h : ∀ ws, Service.workerStep { t with workers := ws } a pc =
      some ({ t' with workers := ws }, pc')) :
    Reach step anyStep s₀ (s.workerAt tid t' pc') := by
  refine hreach.next (l := .worker tid a) trivial ?_
  have hpc : (s.service.workers.set tid pc)[tid]? = some pc := by
    rw [List.getElem?_set_self htid]
  simp [step, State.workerAt, hpc, h]

/-- The sequential execution is what a worker does from the call of `_execute_profile`
on, when nothing else happens. -/
theorem reach_execute {s : State} {tid ref : ℕ} {start ask close : Answer}
    (hpc : s.service.workers[tid]? = some (.begin ref)) (href : ref < s.service.heap.length) :
    ∃ pc, pc.inFlight = none ∧
      Reach step anyStep s (s.workerAt tid (s.service.execute ref start ask close).1 pc) := by
  obtain ⟨htid, hget⟩ := List.getElem?_eq_some_iff.mp hpc
  have hhere : Reach step anyStep s (s.workerAt tid s.service (.begin ref)) := by
    rw [State.workerAt, ← hget, List.set_getElem_self]
    exact .start
  set t := (s.service.update ref (Service.countRun start)).stamped start.stamp with ht
  have hbegun : Reach step anyStep s (s.workerAt tid t (.resolve ref)) :=
    reach_workerAt htid start hhere fun ws => rfl
  have hprofile : ∃ profile, t.heap[ref]? = some profile := by
    refine ⟨_, List.getElem?_eq_getElem (i := ref) ?_⟩
    simpa [t, Service.stamped, Service.update] using href
  obtain ⟨profile, hprofile⟩ := hprofile
  unfold Service.execute
  rw [← ht]
  simp only [hprofile, Option.map_some]
  cases hprepare : Service.prepare t.settings ask.reads profile.config with
  | error exc =>
    refine ⟨.died exc, rfl, reach_workerAt htid ask hbegun fun ws => ?_⟩
    simp [Service.workerStep, hprofile, hprepare]
  | ok found =>
    obtain ⟨resolution, request⟩ := found
    have hresolved : Reach step anyStep s (s.workerAt tid t (.note ref resolution request)) := by
      refine reach_workerAt htid ask hbegun fun ws => ?_
      simp [Service.workerStep, hprofile, hprepare]
    cases hresolution : resolution.error with
    | some error =>
      have hnoted : Reach step anyStep s (s.workerAt tid
          (t.update ref (Service.noteTarget resolution)) (.unresolved ref error)) := by
        refine reach_workerAt htid ask hresolved fun ws => ?_
        simp [Service.workerStep, hresolution, Service.update]
      simp only [hresolution]
      exact ⟨.loop, rfl, reach_workerAt htid close hnoted fun ws => rfl⟩
    | none =>
      have hnoted : Reach step anyStep s (s.workerAt tid
          (t.update ref (Service.noteTarget resolution)) (.probe ref request)) := by
        refine reach_workerAt htid ask hresolved fun ws => ?_
        simp [Service.workerStep, hresolution, Service.update]
      have hprobed : Reach step anyStep s (s.workerAt tid
          (t.update ref (Service.noteTarget resolution)) (.close ref close.outcome)) :=
        reach_workerAt htid close hnoted fun ws => rfl
      simp only [hresolution]
      exact ⟨.loop, rfl, reach_workerAt htid close hprobed fun ws => rfl⟩

namespace Service

variable {s : Service} {ref : ℕ} {start ask close a : Answer}

/-! ### The profiles of the service -/

theorem mem_profileStates {o : ProfileState} :
    o ∈ s.profileStates ↔ ∃ ref ∈ s.profiles, s.heap[ref]? = some o := by
  rw [profileStates, List.mem_filterMap]

/-- Different objects among the profiles have different names. -/
theorem name_ne_of_ref_ne (h : s.profileNames.Nodup) {ref ref' : ℕ} {o o' : ProfileState}
    (href : ref ∈ s.profiles) (href' : ref' ∈ s.profiles) (ho : s.heap[ref]? = some o)
    (ho' : s.heap[ref']? = some o') (hne : ref ≠ ref') : o.config.name ≠ o'.config.name := by
  rw [profileNames_eq, List.Nodup, List.pairwise_filterMap] at h
  have hsymm : Std.Symm fun r r' : ℕ => ∀ b, (s.configOf r).map ProfileConfig.name = some b →
      ∀ b', (s.configOf r').map ProfileConfig.name = some b' → b ≠ b' :=
    ⟨fun r r' hr b hb b' hb' heq => hr b' hb' b hb heq.symm⟩
  exact h.forall href href' hne _ (by simp [configOf, ho]) _ (by simp [configOf, ho'])

/-- The profile of a name is the one that `reload` finds. -/
theorem previousState_eq_some (h : s.profileNames.Nodup) {o : ProfileState}
    (ho : o ∈ s.profileStates) : s.previousState o.config.name = some o := by
  obtain ⟨ref, href, hheap⟩ := mem_profileStates.mp ho
  have hfound : ∃ r, s.previousRef o.config.name = some r := by
    apply Option.isSome_iff_exists.mp
    rw [previousRef, List.find?_isSome]
    exact ⟨ref, List.mem_reverse.mpr href, by simp [hheap]⟩
  obtain ⟨r, hr⟩ := hfound
  have hmem : r ∈ s.profiles := List.mem_reverse.mp (List.mem_of_find?_eq_some hr)
  have hname := List.find?_some hr
  obtain ⟨o', ho', hsame⟩ := (Option.any_eq_true _ _).mp hname
  have href' : r = ref := by
    by_contra hne
    exact name_ne_of_ref_ne h hmem href ho' hheap hne (of_decide_eq_true hsame)
  rw [previousState, hr, Option.bind_some, href', hheap]

theorem mem_of_previousState {name : String} {o : ProfileState}
    (h : s.previousState name = some o) : o ∈ s.profileStates ∧ o.config.name = name := by
  obtain ⟨ref, href, hheap⟩ := Option.bind_eq_some_iff.mp h
  have hname := List.find?_some href
  rw [hheap, Option.any_some] at hname
  exact ⟨mem_profileStates.mpr ⟨ref, List.mem_reverse.mp (List.mem_of_find?_eq_some href), hheap⟩,
    of_decide_eq_true hname⟩

def profileConfigs (s : Service) : List ProfileConfig := s.profileStates.map (·.config)

/-- The list of profiles that `reload` is told to install. -/
def configured (s : Service) (reloadSettings : Bool) (a : Answer) :
    Except Exc (List ProfileConfig) :=
  (s.gather reloadSettings a.environment).bind fun settings =>
    loadProfileConfigs a.sources (installed settings)

theorem profileStates_start (s : Service) : s.start.profileStates = s.profileStates := by
  unfold start
  split_ifs <;> rfl

/-- What a successful `reload` makes of the profiles. -/
theorem reload_ok {reloadSettings : Bool} {s' : Service} {snapshot : Snapshot}
    (h : s.reload reloadSettings a = (s', .ok snapshot)) :
    ∃ configs, s.configured reloadSettings a = .ok configs ∧
      s'.profileStates =
        scheduleInitialRuns a.now (buildProfileStates configs s.previousState) := by
  unfold reload at h
  cases hjoin : s.joinRaises s.thread with
  | true => simp [hjoin] at h
  | false =>
    rw [hjoin, gather_signalStop] at h
    cases hgather : s.gather reloadSettings a.environment with
    | error exc => simp [hgather] at h
    | ok settings =>
      cases hload : loadProfileConfigs a.sources (installed settings) with
      | error exc => simp [hgather, reloadBlock, hload] at h
      | ok configs =>
        simp only [hgather, reloadBlock, hload] at h
        obtain rfl := (Prod.mk.inj h).1
        refine ⟨configs, by simp [configured, hgather, hload, Except.bind], ?_⟩
        rw [profileStates_start]
        exact profileStates_range'

theorem config_profileState (previous : Option ProfileState) (config : ProfileConfig) :
    (profileState previous config).config = config := by
  unfold profileState
  split
  · split_ifs <;> rfl
  · rfl

/-- A profile continues the one that had its name, if that had its subject, or starts
from zero. -/
theorem counter_profileState (previous : Option ProfileState) (config : ProfileConfig) :
    (∃ p, previous = some p ∧ sameSubject p.config config = true ∧
        (profileState previous config).counter = p.counter) ∨
      (∀ p, previous = some p → sameSubject p.config config = false) ∧
        ∀ counter, (profileState previous config).counter counter = 0 := by
  cases previous with
  | none =>
    refine .inr ⟨fun p hp => absurd hp (Option.some_ne_none p).symm, fun counter => ?_⟩
    cases counter <;> rfl
  | some p =>
    by_cases hsame : canReuseState p.config config = true
    · refine .inl ⟨p, rfl, hsame, funext fun counter => ?_⟩
      simp only [profileState, if_pos hsame]
      cases counter <;> rfl
    · have hchanged := Bool.eq_false_iff.mpr hsame
      refine .inr ⟨fun p' hp' => Option.some.inj hp' ▸ hchanged, fun counter => ?_⟩
      simp only [profileState, if_neg hsame]
      cases counter <;> rfl

/-- The first runs are scheduled on the profiles as they were built. -/
theorem mem_reloaded {now : ℚ} {configs : List ProfileConfig}
    {previous : String → Option ProfileState} {o : ProfileState}
    (h : o ∈ scheduleInitialRuns now (buildProfileStates configs previous)) :
    ∃ config ∈ configs, o.config = config ∧
      o.counter = (profileState (previous config.name) config).counter := by
  obtain ⟨i, hi⟩ := List.mem_iff_getElem?.mp h
  rw [getElem?_scheduleInitialRuns, buildProfileStates, List.getElem?_map, Option.map_map] at hi
  obtain ⟨config, hconfig, rfl⟩ := Option.map_eq_some_iff.mp hi
  refine ⟨config, List.mem_of_getElem? hconfig, config_profileState _ config, funext fun counter => ?_⟩
  cases counter <;> rfl

theorem configs_reloaded (now : ℚ) (configs : List ProfileConfig)
    (previous : String → Option ProfileState) :
    (scheduleInitialRuns now (buildProfileStates configs previous)).map (·.config) = configs := by
  apply List.ext_getElem?
  intro i
  rw [List.getElem?_map, getElem?_scheduleInitialRuns, buildProfileStates, List.getElem?_map,
    Option.map_map, Option.map_map]
  cases configs[i]? with
  | none => rfl
  | some config => exact congrArg some (config_profileState _ config)

end Service

/-! ### Histories -/

/-- A service and what has happened to it. -/
structure History where
  service : Service
  log : List Event

inductive Op where
  | execute (ref : ℕ) (start ask close : Answer)
  | reload (reloadSettings : Bool) (a : Answer)

namespace History

/-- The execution of a profile of the service, or a reload that succeeds. -/
def step (h : History) : Op → Option History
  | .execute ref start ask close =>
    if ref ∈ h.service.profiles then
      h.service.heap[ref]?.map fun profile =>
        let (service, outcome) := h.service.execute ref start ask close
        { service
          log := (Counter.run :: outcome.toList).reverse.map (.counted profile.config.name) ++ h.log }
    else none
  | .reload reloadSettings a =>
    match h.service.reload reloadSettings a with
    | (service, .ok _) =>
      some { service, log := .reloaded h.service.profileConfigs service.profileConfigs :: h.log }
    | (_, .error _) => none

def init (settings : ServiceSettings) (configs : List ProfileConfig) (now : ℚ)
    (stamp : String) : History where
  service := (State.init settings configs now stamp).service
  log := []

/-- The names are distinct, and every counter is the number of its events since the
last reset of the name. -/
structure Continued (h : History) : Prop where
  nodup : h.service.profileNames.Nodup
  counted : ∀ profile ∈ h.service.profileStates, ∀ counter,
    profile.counter counter = eventsSince profile.config.name counter h.log

/-- What an execution does: it changes one of the profiles, by the events it logs. -/
theorem step_execute {h h' : History} {ref : ℕ} {start ask close : Answer}
    (hstep : h.step (.execute ref start ask close) = some h') :
    ∃ profile f events, ref ∈ h.service.profiles ∧ h.service.heap[ref]? = some profile ∧
      h'.service.heap = h.service.heap.modify ref f ∧
      h'.service.profiles = h.service.profiles ∧ Service.Counts f events ∧
      h'.log = events.reverse.map (.counted profile.config.name) ++ h.log := by
  unfold step at hstep
  dsimp only at hstep
  split_ifs at hstep with href
  obtain ⟨profile, hprofile, rfl⟩ := Option.map_eq_some_iff.mp hstep
  obtain ⟨f, hheap, hprofiles, hcounts⟩ := h.service.execute_effect ref start ask close
  exact ⟨profile, f, _, href, hprofile, hheap, hprofiles, hcounts, rfl⟩

theorem Continued.execute {h h' : History} (hcontinued : Continued h) {ref : ℕ}
    {start ask close : Answer} (hstep : h.step (.execute ref start ask close) = some h') :
    Continued h' := by
  obtain ⟨profile, f, events, href, hprofile, hheap, hprofiles, hcounts, hlog⟩ :=
    step_execute hstep
  constructor
  · rw [Service.profileNames_congr hprofiles (Service.configOf_modify hheap hcounts.config)]
    exact hcontinued.nodup
  · intro o' ho' counter
    obtain ⟨ref', href', ho'⟩ := Service.mem_profileStates.mp ho'
    rw [hprofiles] at href'
    rw [hheap, List.getElem?_modify] at ho'
    obtain ⟨o, ho, hchanged⟩ := Option.map_eq_some_iff.mp ho'
    have hcounted := hcontinued.counted o (Service.mem_profileStates.mpr ⟨ref', href', ho⟩) counter
    rw [hlog]
    by_cases hsame : ref = ref'
    · -- the profile that was executed
      subst hsame
      rw [if_pos rfl] at hchanged
      obtain rfl : profile = o := Option.some.inj (hprofile.symm.trans ho)
      rw [← hchanged, hcounts.counter, hcounts.config, eventsSince_counted, if_pos rfl,
        List.count_reverse, hcounted]
    · -- another profile, which has another name
      rw [if_neg hsame] at hchanged
      obtain rfl : o = o' := hchanged
      have hname := Service.name_ne_of_ref_ne hcontinued.nodup href href' hprofile ho hsame
      rw [eventsSince_counted, if_neg hname, Nat.add_zero, hcounted]

/-- A reload that succeeds installs the configured profiles, each as `profileState` has it. -/
theorem step_reload {h h' : History} {reloadSettings : Bool} {a : Answer}
    (hstep : h.step (.reload reloadSettings a) = some h') :
    ∃ configs, h.service.configured reloadSettings a = .ok configs ∧
      h'.service.profileConfigs = configs ∧ (configs.map ProfileConfig.name).Nodup ∧
      h'.log = .reloaded h.service.profileConfigs configs :: h.log ∧
      ∀ o ∈ h'.service.profileStates, ∃ config ∈ configs, o.config = config ∧
        o.counter = (profileState (h.service.previousState config.name) config).counter := by
  unfold step at hstep
  dsimp only at hstep
  split at hstep
  · rename_i service snapshot hreload
    obtain rfl := Option.some.inj hstep
    obtain ⟨configs, hconfigured, hstates⟩ := Service.reload_ok hreload
    have hinstalled : service.profileConfigs = configs := by
      rw [Service.profileConfigs, hstates, Service.configs_reloaded]
    refine ⟨configs, hconfigured, hinstalled, ?_, by rw [hinstalled], ?_⟩
    · obtain ⟨settings, -, hload⟩ := bind_eq_ok hconfigured
      exact nodup_loadProfileConfigs hload
    · intro o ho
      rw [hstates] at ho
      exact Service.mem_reloaded ho
  · cases hstep

theorem Continued.reload {h h' : History} (hcontinued : Continued h) {reloadSettings : Bool}
    {a : Answer} (hstep : h.step (.reload reloadSettings a) = some h') : Continued h' := by
  obtain ⟨configs, -, hinstalled, hnodup, hlog, hstates⟩ := step_reload hstep
  constructor
  · rw [Service.profileNames, ← hinstalled, Service.profileConfigs, List.map_map] at *
    exact hnodup
  · intro o' ho' counter
    obtain ⟨config, hconfig, hsame, hcounter⟩ := hstates o' ho'
    rw [hsame, hcounter, hlog]
    rcases Service.counter_profileState (h.service.previousState config.name) config with
      ⟨p, hp, hsubject, hkept⟩ | ⟨hchanged, hzero⟩
    · obtain ⟨hmem, hname⟩ := Service.mem_of_previousState hp
      have hresets : (Event.reloaded h.service.profileConfigs configs).resets config.name = false :=
        resets_eq_false.mpr
          ⟨p.config, List.mem_map_of_mem hmem, hname, config, hconfig, rfl, hsubject⟩
      rw [hkept, eventsSince_kept hresets, hcontinued.counted p hmem, hname]
    · have hresets : (Event.reloaded h.service.profileConfigs configs).resets config.name = true := by
        rw [← Bool.not_eq_false, resets_eq_false]
        rintro ⟨old, hold, hname, config', hconfig', hname', hsubject⟩
        -- names are distinct, so these are the two configurations that were compared
        obtain ⟨p, hmem, rfl⟩ := List.mem_map.mp hold
        have hprevious := Service.previousState_eq_some hcontinued.nodup hmem
        rw [hname] at hprevious
        have heq : config' = config := List.inj_on_of_nodup_map hnodup hconfig' hconfig hname'
        rw [heq, hchanged p hprevious] at hsubject
        cases hsubject
      rw [hzero, eventsSince_reset hresets]

theorem continued_init {sources : Sources} {settings : ServiceSettings}
    {configs : List ProfileConfig} (now : ℚ) (stamp : String)
    (hload : loadProfileConfigs sources (Service.installed settings) = .ok configs) :
    Continued (init settings configs now stamp) where
  nodup := by
    rw [init, profileNames_init]
    exact nodup_loadProfileConfigs hload
  counted profile hprofile counter := by
    rw [init, profileStates_init] at hprofile
    obtain ⟨config, -, -, hcounter⟩ :=
      @Service.mem_reloaded now configs (fun _ => none) profile hprofile
    rw [hcounter]
    cases counter <;> rfl

/-- A profile that keeps its name, resource type, bridge and target over a reload keeps
its counters, whatever else of its configuration changes. -/
def KeepsCounters (h h' : History) : Prop :=
  ∀ profile ∈ h.service.profileStates, ∀ profile' ∈ h'.service.profileStates,
    profile'.config.name = profile.config.name →
    sameSubject profile.config profile'.config = true → profile'.counter = profile.counter

/-- After every history of executions and successful reloads, every counter is the number
of its events since the last reset of its name; a reload installs the configured list,
in its order and with distinct names, and no change of an interval, a timeout, a poll
interval or an enabled flag resets a counter. -/
theorem counters_continue {sources : Sources} {settings : ServiceSettings}
    {configs : List ProfileConfig} {now : ℚ} {stamp : String} {h : History}
    (hload : loadProfileConfigs sources (Service.installed settings) = .ok configs)
    (hreach : Reach step anyStep (init settings configs now stamp) h) :
    (∀ profile ∈ h.service.profileStates, ∀ counter,
      profile.counter counter = eventsSince profile.config.name counter h.log) ∧
    ∀ reloadSettings a h', h.step (.reload reloadSettings a) = some h' →
      h.service.configured reloadSettings a = .ok h'.service.profileConfigs ∧
      (h'.service.profileConfigs.map ProfileConfig.name).Nodup ∧ KeepsCounters h h' := by
  have hcontinued : Continued h := by
    refine Reach.invariant (I := Continued) (continued_init now stamp hload) ?_ hreach
    intro h op h' hcontinued _ hstep
    cases op with
    | execute ref start ask close => exact hcontinued.execute hstep
    | reload reloadSettings a => exact hcontinued.reload hstep
  refine ⟨hcontinued.counted, fun reloadSettings a h' hstep => ?_⟩
  obtain ⟨configs', hconfigured, hinstalled, hnodup, hlog, hstates⟩ := step_reload hstep
  rw [hinstalled]
  refine ⟨hconfigured, hnodup, fun profile hprofile profile' hprofile' hname hsubject => ?_⟩
  obtain ⟨config, -, rfl, hcounter⟩ := hstates profile' hprofile'
  have hprevious := Service.previousState_eq_some hcontinued.nodup hprofile
  rw [hcounter, hname, hprevious]
  rcases Service.counter_profileState (some profile) profile'.config with
    ⟨p, hp, -, hkept⟩ | ⟨hchanged, -⟩
  · rw [hkept, Option.some.inj hp]
  · rw [hchanged profile rfl] at hsubject
    cases hsubject

/-- The default profiles, of which the second is executed, reloaded with another timeout
and executed once more. -/
def sampleOps : List Op :=
  [.execute 1 oneSwitchAnswer oneSwitchAnswer oneSwitchAnswer,
    .reload true { oneSwitchAnswer with
      environment := .ok { Service.settingsWith none with defaultTimeoutS := .fin 30 } },
    .execute 4 oneSwitchAnswer oneSwitchAnswer oneSwitchAnswer]

theorem counters_continue_default : ∃ h,
    run step anyStep (init (Service.settingsWith none)
      (defaultProfileConfigs (Service.settingsWith none)) 0 "") sampleOps = some h ∧
    eventsSince "logical_switch_default" .run h.log = 2 ∧
    ∀ profile ∈ h.service.profileStates, ∀ counter,
      profile.counter counter = eventsSince profile.config.name counter h.log := by
  obtain ⟨h, hrun, htwo⟩ : ∃ h ∈ run step anyStep (init (Service.settingsWith none)
      (defaultProfileConfigs (Service.settingsWith none)) 0 "") sampleOps,
        eventsSince "logical_switch_default" .run h.log = 2 := by
    decide +kernel
  have hload : loadProfileConfigs oneSwitchAnswer.sources
      (Service.installed (Service.settingsWith none)) =
        .ok (defaultProfileConfigs (Service.settingsWith none)) := rfl
  exact ⟨h, hrun, htwo, (counters_continue hload (run_reach _ hrun)).1⟩

end History

end OvnApi.Scheduled
