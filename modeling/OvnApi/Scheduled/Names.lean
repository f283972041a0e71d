import OvnApi.Scheduled.Fairness

/-! The names of the profiles. Loading rejects a configuration that names a profile
twice, and nothing but a reload that has loaded one replaces the profiles, so no two
profiles ever have the same name. -/

namespace OvnApi.Scheduled

open OvnApi.Core Lib Traces

/-! ### Loading -/

theorem configsOf_names {settings : ServiceSettings} {names : List String}
    {inputs : List ProfileConfigInput} {configs : List ProfileConfig}
    (h : configsOf settings names inputs = .ok configs) :
    (configs.map ProfileConfig.name).Nodup ∧ ∀ config ∈ configs, config.name ∉ names := by
  induction inputs generalizing names configs with
  | nil =>
    cases h
    simp
  | cons input rest ih =>
    simp only [configsOf] at h
    split_ifs at h with hseen
    obtain ⟨configs', hrest, h⟩ := bind_eq_ok h
    cases h
    obtain ⟨hnodup, hfresh⟩ := ih hrest
    have hname : (input.config settings).name = input.name := rfl
    constructor
    · rw [List.map_cons, List.nodup_cons]
      refine ⟨fun hmem => ?_, hnodup⟩
      obtain ⟨config, hconfig, heq⟩ := List.mem_map.mp hmem
      exact hfresh config hconfig (by simp [heq, hname])
    · intro config hconfig
      rcases List.mem_cons.mp hconfig with rfl | hconfig
      · exact hseen
      · exact fun hmem => hfresh config hconfig (List.mem_cons_of_mem _ hmem)

theorem nodup_loadProfileConfigs {sources : Sources} {settings : ServiceSettings}
    {configs : List ProfileConfig} (h : loadProfileConfigs sources settings = .ok configs) :
    (configs.map ProfileConfig.name).Nodup := by
  obtain ⟨⟨inputs, given⟩, -, h⟩ := bind_eq_ok h
  dsimp only at h
  split_ifs at h
  · cases h
    simp [defaultProfileConfigs]
  · exact (configsOf_names h).1

/-! ### The service -/

namespace Service

def profileNames (s : Service) : List String := s.profileStates.map (·.config.name)

variable {s s' : Service} {a : Answer}

theorem profileNames_eq (s : Service) :
    s.profileNames = s.profiles.filterMap fun ref => (s.configOf ref).map ProfileConfig.name := by
  simp only [profileNames, profileStates, List.map_filterMap, configOf, Option.map_map]
  rfl

theorem profileNames_congr (hprofiles : s'.profiles = s.profiles)
    (hconfig : ∀ ref, s'.configOf ref = s.configOf ref) : s'.profileNames = s.profileNames := by
  simp only [profileNames_eq, hprofiles, hconfig]

theorem workerStep_profileNames {pc pc' : WorkerPc} (h : s.workerStep a pc = some (s', pc')) :
    s'.profileNames = s.profileNames := by
  by_cases hpc : ∃ ref, pc = .begin ref
  · obtain ⟨ref, rfl⟩ := hpc
    have hstarted := (workerStep_started h).1
    exact profileNames_congr hstarted.profiles hstarted.config
  · have hsame := workerStep_sameSchedule h (fun ref heq => hpc ⟨ref, heq⟩)
    exact profileNames_congr hsame.profiles hsame.config

theorem names_scheduleInitialRuns (now : ℚ) (l : List ProfileState) :
    (scheduleInitialRuns now l).map (·.config.name) = l.map (·.config.name) := by
  apply List.ext_getElem?
  intro i
  rw [List.getElem?_map, List.getElem?_map, getElem?_scheduleInitialRuns, Option.map_map]
  rfl

theorem names_buildProfileStates (configs : List ProfileConfig)
    (previous : String → Option ProfileState) :
    (buildProfileStates configs previous).map (·.config.name) = configs.map ProfileConfig.name := by
  rw [buildProfileStates, List.map_map]
  apply List.map_congr_left
  intro config _
  simp only [Function.comp_apply, profileState]
  split
  · split_ifs <;> rfl
  · rfl

/-- The profiles that are put after a heap, and nothing else, are its profiles. -/
theorem profileStates_range' {heap states : List ProfileState} :
    (List.range' heap.length states.length).filterMap ((heap ++ states)[·]?) = states := by
  induction states generalizing heap with
  | nil => simp
  | cons state states ih =>
    have hfirst : (heap ++ state :: states)[heap.length]? = some state := by simp
    rw [List.length_cons, List.range'_succ, List.filterMap_cons_some hfirst]
    simpa using @ih (heap ++ [state])

/-- A reload keeps the profiles, or installs the ones it has loaded. -/
theorem reloadBlock_profileNames (settings : ServiceSettings) :
    (s.reloadBlock settings a).1.profileNames = s.profileNames ∨
      ∃ configs, loadProfileConfigs a.sources (installed settings) = .ok configs ∧
        (s.reloadBlock settings a).1.profileNames = configs.map ProfileConfig.name := by
  cases hload : loadProfileConfigs a.sources (installed settings) with
  | error exc =>
    left
    simp only [reloadBlock, hload]
    rfl
  | ok configs =>
    refine .inr ⟨configs, rfl, ?_⟩
    simp only [reloadBlock, hload, profileNames, profileStates, profileStates_range']
    rw [names_scheduleInitialRuns, names_buildProfileStates]

theorem callStep_profileNames {pc pc' : CallPc} (h : callStep s a pc = some (s', pc')) :
    s'.profileNames = s.profileNames ∨ ∃ settings, s' = (s.reloadBlock settings a).1 := by
  have hsame : ∀ {u : Service} {p : CallPc}, some (u, p) = some (s', pc') →
      u.profileStates = s.profileStates → s'.profileNames = s.profileNames := by
    intro u p heq hstates
    obtain ⟨rfl, -⟩ := Prod.mk.inj (Option.some.inj heq)
    rw [profileNames, hstates, ← profileNames]
  cases pc with
  | done | raised => cases h
  | startCheck | stopEnter | snapshot | reloadStart => exact .inl (hsame h rfl)
  | startEnter =>
    simp only [callStep] at h
    split_ifs at h <;> exact .inl (hsame h rfl)
  | startLaunch | gather =>
    simp only [callStep] at h
    split at h <;> exact .inl (hsame h rfl)
  | stopJoin =>
    simp only [callStep] at h
    split_ifs at h <;> exact .inl (hsame h rfl)
  | reloadEnter settings =>
    right
    refine ⟨settings, ?_⟩
    simp only [callStep] at h
    rcases hblock : s.reloadBlock settings a with ⟨service, exc | ⟨⟩⟩ <;> rw [hblock] at h <;>
      exact (Prod.mk.inj (Option.some.inj h)).1.symm

end Service

theorem step_profileNames {s s' : State} {l : Label} (h : step s l = some s') :
    s'.service.profileNames = s.service.profileNames ∨ ∃ sources settings configs,
      loadProfileConfigs sources settings = .ok configs ∧
        s'.service.profileNames = configs.map ProfileConfig.name := by
  cases l with
  | enter call =>
    obtain rfl := Option.some.inj h
    exact .inl rfl
  | call i a =>
    obtain ⟨pc, -, h⟩ := Option.bind_eq_some_iff.mp h
    obtain ⟨⟨service, pc'⟩, hstep, h⟩ := Option.bind_eq_some_iff.mp h
    obtain rfl := Option.some.inj h
    rcases Service.callStep_profileNames hstep with hsame | ⟨settings, rfl⟩
    · exact .inl hsame
    · rcases Service.reloadBlock_profileNames settings with hsame | ⟨configs, hload, hnames⟩
      · exact .inl hsame
      · exact .inr ⟨_, _, configs, hload, hnames⟩
  | worker tid a =>
    obtain ⟨pc, -, h⟩ := Option.bind_eq_some_iff.mp h
    obtain ⟨⟨service, pc'⟩, hstep, h⟩ := Option.bind_eq_some_iff.mp h
    obtain rfl := Option.some.inj h
    have hnames := Service.workerStep_profileNames hstep
    exact .inl hnames

theorem profileStates_init (settings : ServiceSettings) (configs : List ProfileConfig) (now : ℚ)
    (stamp : String) : (State.init settings configs now stamp).service.profileStates =
      scheduleInitialRuns now (configs.map fun config => { config }) := by
  have hlength : configs.length =
      (scheduleInitialRuns now (configs.map fun config => { config })).length := by
    simp [Service.length_scheduleInitialRuns]
  simp only [State.init, Service.profileStates]
  rw [hlength]
  simpa using @Service.profileStates_range' [] _

theorem profileNames_init (settings : ServiceSettings) (configs : List ProfileConfig) (now : ℚ)
    (stamp : String) : (State.init settings configs now stamp).service.profileNames =
      configs.map ProfileConfig.name := by
  rw [Service.profileNames, profileStates_init, Service.names_scheduleInitialRuns, List.map_map]
  rfl

/-- No two profiles have the same name, whatever is reloaded. -/
theorem nodup_profileNames {sources : Sources} {settings : ServiceSettings}
    {configs : List ProfileConfig} {now : ℚ} {stamp : String} {s : State}
    (hload : loadProfileConfigs sources (Service.installed settings) = .ok configs)
    (h : Reach step anyStep (State.init settings configs now stamp) s) :
    s.service.profileNames.Nodup := by
  refine Reach.invariant (I := fun s => s.service.profileNames.Nodup) ?_ ?_ h
  · rw [profileNames_init]
    exact nodup_loadProfileConfigs hload
  · intro s l s' hnodup _ hstep
    rcases step_profileNames hstep with hsame | ⟨sources, settings, configs, hload, hnames⟩
    · rwa [hsame]
    · rw [hnames]
      exact nodup_loadProfileConfigs hload

end OvnApi.Scheduled
