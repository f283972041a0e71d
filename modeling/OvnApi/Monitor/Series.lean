import OvnApi.Monitor.Page

/-! No two samples of the `ovn_api` page have the same name and the same labels. Most
series are fixed by the code; the others belong to a profile, whose name no other profile
has, or to a method and a class of status, which are a key of a dictionary. -/

namespace OvnApi.Monitor

open OvnApi.Core Lib Exposition Traces Scheduled

def Metric.label {ν : Type} (m : Metric ν) (key : String) : Option String :=
  (plainLabels m.labels).lookup key

/-- The same metric name, and the same label map. -/
def Metric.SameSeries {ν : Type} (m m' : Metric ν) : Prop :=
  m.name = m'.name ∧ ∀ key, m.label key = m'.label key

def NoDuplicates {ν : Type} (page : List (Metric ν)) : Prop :=
  page.Pairwise fun m m' => ¬ m.SameSeries m'

section General

variable {ν κ : Type} {page page' : List (Metric ν)}

/-- Metrics are told apart by anything that depends on the series only. -/
theorem noDuplicates_of_nodup (key : Metric ν → κ)
    (hkey : ∀ m ∈ page, ∀ m' ∈ page, m.SameSeries m' → key m = key m')
    (h : (page.map key).Nodup) : NoDuplicates page := by
  rw [List.nodup_iff_pairwise_ne, List.pairwise_map] at h
  refine h.imp_of_mem ?_
  intro m m' hm hm' hne hsame
  exact hne (hkey m hm m' hm' hsame)

/-- Two parts of a page, with a label that one of them never has and the other always. -/
theorem noDuplicates_append (h : NoDuplicates page) (h' : NoDuplicates page') (key : String)
    (hnone : ∀ m ∈ page, m.label key = none) (hsome : ∀ m ∈ page', m.label key ≠ none) :
    NoDuplicates (page ++ page') := by
  rw [NoDuplicates, List.pairwise_append]
  refine ⟨h, h', fun m hm m' hm' hsame => hsome m' hm' ?_⟩
  rw [← hsame.2 key, hnone m hm]

theorem noDuplicates_perm (h : NoDuplicates page) (hperm : page.Perm page') :
    NoDuplicates page' := by
  refine (hperm.pairwise_iff ?_).mp h
  intro m m' hne hsame
  exact hne ⟨hsame.1.symm, fun key => (hsame.2 key).symm⟩

end General

/-! ### The fixed series -/

def series (m : Metric Number) : String × List (LabelName × String) := (m.name.val, m.labels)

theorem series_eq_of_sameSeries {m m' : Metric Number} (h : m.SameSeries m')
    (hm : m.labels.length ≤ 1) (hm' : m'.labels.length ≤ 1) : series m = series m' := by
  obtain ⟨hname, hlookup⟩ := h
  have hlabels : m.labels = m'.labels := by
    rcases hl : m.labels with _ | ⟨⟨k, v⟩, _ | _⟩ <;>
      rcases hl' : m'.labels with _ | ⟨⟨k', v'⟩, _ | _⟩ <;>
      simp only [hl, hl', List.length_cons, List.length_nil, Metric.label, plainLabels,
        List.map_cons, List.map_nil, List.lookup_nil, List.lookup_cons] at hm hm' hlookup ⊢
    all_goals try omega
    · simpa using hlookup k'.val
    · simpa using hlookup k.val
    · have := hlookup k.val
      by_cases hk : k = k'
      · simpa [hk] using this
      · have hval : k.val ≠ k'.val := fun heq => hk (Subtype.ext heq)
        rw [beq_self_eq_true, beq_false_of_ne hval] at this
        cases this
  rw [series, series, hname, hlabels]

/-- The series that do not depend on profiles, methods or classes of status. -/
def fixedMetrics (enabled workerAlive : Bool) (runtime : ApiRuntimeMetrics)
    (snapshot : MonitoringSnapshot) : List (Metric Number) :=
  exporterMetrics runtime ++ snapshotMetrics snapshot ++ schedulerMetrics enabled workerAlive ++
    apiMetrics runtime

def fullSnapshot : MonitoringSnapshot where
  sequence := 0
  generatedAt := 0
  status := .ok
  intervalS := 1
  capacity := some ⟨0, 0, 0, 0, 0, 0, 0, 0⟩
  datapath := some ⟨0, 0, 0, 0, some 0, some 0⟩
  latency := some ⟨⟨0, 0, 0, 0, 0, some 0, some 0, some 0, some 0⟩, ⟨0, 0, 0, 0⟩⟩
  capacityStatus := ⟨true, some 0, some 0, none⟩
  datapathStatus := ⟨true, some 0, some 0, none⟩
  latencyStatus := ⟨true, some 0, some 0, none⟩
  traceRuntime := ⟨0, true, 0⟩
  scheduledTraceMetrics := none
  apiRuntime := ⟨0, 0, 0, 0, 0, 0, 0, 0, 0⟩
  errors := []

theorem optional_sublist {α κ : Type} (key : Metric Number → κ) (value : Option α) (x : α)
    {f : α → Metric Number} (hf : ∀ a, key (f a) = key (f x)) :
    ((optional value f).map key).Sublist ((optional (some x) f).map key) := by
  cases value with
  | none => exact List.nil_sublist _
  | some a => simp [optional, hf a]

theorem datapathMetrics_sublist (d : DatapathMetrics) :
    ((datapathMetrics d).map series).Sublist
      ((datapathMetrics ⟨0, 0, 0, 0, some 0, some 0⟩).map series) := by
  simp only [datapathMetrics, List.map_append]
  exact ((List.Sublist.refl _).append (optional_sublist _ _ 0 fun _ => rfl)).append
    (optional_sublist _ _ 0 fun _ => rfl)

theorem latencyMetrics_sublist (l : LatencyMetrics) :
    ((latencyMetrics l).map series).Sublist ((latencyMetrics
      ⟨⟨0, 0, 0, 0, 0, some 0, some 0, some 0, some 0⟩, ⟨0, 0, 0, 0⟩⟩).map series) := by
  simp only [latencyMetrics, List.map_append]
  exact ((((List.Sublist.refl _).append (optional_sublist _ _ 0 fun _ => rfl)).append
    (optional_sublist _ _ 0 fun _ => rfl)).append (optional_sublist _ _ 0 fun _ => rfl)).append
    (optional_sublist _ _ 0 fun _ => rfl)

/-- A component that has not been measured has no metrics. -/
theorem component_sublist {α κ : Type} {key : Metric Number → κ} {f : α → List (Metric Number)}
    (x : α) (hf : ∀ a, ((f a).map key).Sublist ((f x).map key)) (value : Option α) :
    ((value.toList.flatMap f).map key).Sublist (((some x).toList.flatMap f).map key) := by
  cases value with
  | none => exact List.nil_sublist _
  | some a => simpa using hf a

theorem snapshotMetrics_sublist (s : MonitoringSnapshot) :
    ((snapshotMetrics s).map series).Sublist ((snapshotMetrics fullSnapshot).map series) := by
  simp only [snapshotMetrics, List.map_append]
  refine ((((((((List.Sublist.refl _).append ?_).append ?_).append ?_).append ?_).append ?_).append
    ?_).append (List.Sublist.refl _))
  · exact optional_sublist _ _ 0 fun _ => rfl
  · exact optional_sublist _ _ 0 fun _ => rfl
  · exact optional_sublist _ _ 0 fun _ => rfl
  · exact component_sublist _ (fun _ => List.Sublist.refl _) _
  · exact component_sublist _ datapathMetrics_sublist _
  · exact component_sublist _ latencyMetrics_sublist _

theorem nodup_fullSeries (enabled workerAlive : Bool) (runtime : ApiRuntimeMetrics) :
    ((fixedMetrics enabled workerAlive runtime fullSnapshot).map series).Nodup := by
  simp [fixedMetrics, exporterMetrics, schedulerMetrics, snapshotMetrics, snapshotReady,
    fullSnapshot, componentUp, componentAge, optional, capacityMetrics, datapathMetrics, lookupsTotal, latencyMetrics, transactionLatency,
    idlSyncLatency, bfdSessions, bfdMinTx, bfdMinRx, apiMetrics, series, plain, labelled]

/-- At most one label, and none of those that the other series have. -/
structure Metric.Fixed (m : Metric Number) : Prop where
  labels : m.labels.length ≤ 1
  profile : m.label "profile" = none
  method : m.label "method" = none

theorem fixed_plain (name : String) (value : Number)
    (h : isName isNameStart isNameChar name.toList = true) : (plain name value h).Fixed :=
  ⟨Nat.zero_le 1, rfl, rfl⟩

theorem fixed_labelled {name : String} {value : Number} {key : LabelName} {text : String}
    {h : isName isNameStart isNameChar name.toList = true}
    (hkey : key ∈ [Label.component, Label.result, Label.db, Label.status, Label.aggregation]) :
    (labelled name value key text h).Fixed := by
  have hother : "profile" ≠ key.val ∧ "method" ≠ key.val := by
    revert key
    decide
  refine ⟨Nat.le_refl 1, ?_, ?_⟩
  · simp [Metric.label, labelled, plainLabels, beq_false_of_ne hother.1]
  · simp [Metric.label, labelled, plainLabels, beq_false_of_ne hother.2]

theorem fixed_fullSnapshot (enabled workerAlive : Bool) (runtime : ApiRuntimeMetrics) :
    ∀ m ∈ fixedMetrics enabled workerAlive runtime fullSnapshot, m.Fixed := by
  simp only [fixedMetrics, exporterMetrics, schedulerMetrics, snapshotMetrics, snapshotReady,
    fullSnapshot, componentUp, componentAge, optional, capacityMetrics, datapathMetrics, lookupsTotal, latencyMetrics, transactionLatency,
    idlSyncLatency, bfdSessions, bfdMinTx, bfdMinRx, apiMetrics, Option.toList_some, List.map_cons,
    List.map_nil, List.flatMap_singleton, List.forall_mem_append, List.forall_mem_cons]
  and_intros <;> first
    | exact List.forall_mem_nil _
    | exact fixed_plain _ _ _
    | exact fixed_labelled (by decide)

/-- The fixed series of a page: none twice, and none with a label of the others. -/
theorem noDuplicates_fixed {page : List (Metric Number)} {enabled workerAlive : Bool}
    {runtime : ApiRuntimeMetrics} (h : (page.map series).Sublist
      ((fixedMetrics enabled workerAlive runtime fullSnapshot).map series)) :
    NoDuplicates page ∧ ∀ m ∈ page, m.Fixed := by
  have hpage : ∀ m ∈ page, m.Fixed := by
    intro m hm
    obtain ⟨m', hm', hseries⟩ := List.mem_map.mp (h.subset (List.mem_map_of_mem hm))
    have hfixed := fixed_fullSnapshot enabled workerAlive runtime m' hm'
    have hlabels : m'.labels = m.labels := (Prod.mk.inj hseries).2
    exact ⟨by rw [← hlabels]; exact hfixed.labels,
      by rw [Metric.label, ← hlabels]; exact hfixed.profile,
      by rw [Metric.label, ← hlabels]; exact hfixed.method⟩
  refine ⟨noDuplicates_of_nodup series ?_ (h.nodup (nodup_fullSeries enabled workerAlive runtime)),
    hpage⟩
  intro m hm m' hm' hsame
  exact series_eq_of_sameSeries hsame (hpage m hm).labels (hpage m' hm').labels

/-! ### The series of the profiles -/

/-- What tells the metrics of one profile apart. -/
def profileSeries (m : Metric Number) : String × Option String × Option String :=
  (m.name.val, m.label "result", m.label "phase")

@[simp] theorem profileSeries_profileMetric (p : ProfileStatus) (name : String) (value : Number)
    (h : isName isNameStart isNameChar name.toList = true) :
    profileSeries (profileMetric p name value h) = (name, none, none) := by
  simp [profileSeries, profileMetric, Metric.label, plainLabels, baseLabels,
    Label.requestedResourceType, Label.profile, List.lookup_cons]

@[simp] theorem profileSeries_runsTotal (p : ProfileStatus) (n : ℕ) (text : String) :
    profileSeries (runsTotal p n text) =
      ("ovn_api_scheduled_trace_runs_total", some text, none) := by
  simp [profileSeries, runsTotal, profileMetricWith, Metric.label, plainLabels, baseLabels,
    Label.requestedResourceType, Label.profile, Label.result, List.lookup_cons]

@[simp] theorem profileSeries_phase (p : ProfileStatus)
    (hkey : [Label.requestedResourceType, Label.profile, Label.phase].Nodup) (name : String)
    (value : Number) (text : String) (h : isName isNameStart isNameChar name.toList = true) :
    profileSeries (profileMetricWith p Label.phase hkey name value text h) =
      (name, none, some text) := by
  simp [profileSeries, profileMetricWith, Metric.label, plainLabels, baseLabels,
    Label.requestedResourceType, Label.profile, Label.phase, List.lookup_cons]

@[simp] theorem profileSeries_profileInfo (p : ProfileStatus) :
    profileSeries (profileInfo p) = ("ovn_api_scheduled_trace_profile_info", none, none) := by
  simp [profileSeries, profileInfo, Metric.label, plainLabels, baseLabels,
    Label.requestedResourceType, Label.profile, Label.bridge, Label.targetName,
    Label.targetResolutionMode, List.lookup_cons]

theorem optional_sublist_singleton {α κ : Type} {key : Metric Number → κ} {f : α → Metric Number}
    {x : κ} (hf : ∀ a, key (f a) = x) (value : Option α) :
    ((optional value f).map key).Sublist [x] := by
  cases value with
  | none => exact List.nil_sublist _
  | some a => simp [optional, hf a]

def phaseTable : List (String × Option String × Option String) :=
  (["command", "nb_committed", "sb_realized", "openflow_realized", "nb_to_sb", "sb_to_openflow",
    "total"].map fun phase => ("ovn_api_scheduled_trace_phase_duration_ms", none, some phase)) ++
  ["nb_committed", "sb_realized", "openflow_realized", "cleanup"].map fun phase =>
    ("ovn_api_scheduled_trace_phase_state_code", none, some phase)

@[simp] theorem profileSeries_phaseDuration (p : ProfileStatus) (phase : String) (ms : ℚ) :
    profileSeries (phaseDuration p phase ms) =
      ("ovn_api_scheduled_trace_phase_duration_ms", none, some phase) := profileSeries_phase ..

@[simp] theorem profileSeries_phaseState (p : ProfileStatus) (phase : String)
    (status : StageStatus) : profileSeries (phaseState p phase status) =
      ("ovn_api_scheduled_trace_phase_state_code", none, some phase) := profileSeries_phase ..

theorem phaseMetrics_sublist (p : ProfileStatus) (result : CanaryProbeResult) :
    ((phaseMetrics p result).map profileSeries).Sublist phaseTable := by
  have hduration : ∀ entries : List (String × Option ℚ),
      ((entries.flatMap fun entry => optional entry.2 (phaseDuration p entry.1)).map
        profileSeries).Sublist ((entries.map Prod.fst).map fun phase =>
          ("ovn_api_scheduled_trace_phase_duration_ms", none, some phase)) := by
    intro entries
    induction entries with
    | nil => exact List.Sublist.refl _
    | cons entry entries ih =>
      rw [List.flatMap_cons, List.map_append]
      exact (optional_sublist_singleton (profileSeries_phaseDuration p entry.1) entry.2).append ih
  have hstate : ((phaseStateMap result).map fun entry => phaseState p entry.1 entry.2).map
      profileSeries = ((phaseStateMap result).map Prod.fst).map fun phase =>
        ("ovn_api_scheduled_trace_phase_state_code", none, some phase) := by
    simp only [List.map_map]
    exact List.map_congr_left fun entry _ => profileSeries_phaseState p entry.1 entry.2
  rw [phaseMetrics, List.map_append, hstate]
  exact (hduration (phaseDurationMap result)).append (List.Sublist.refl _)

/-- The series a profile has at most. -/
def profileTable : List (String × Option String × Option String) :=
  [("ovn_api_scheduled_trace_profile_enabled", none, none),
    ("ovn_api_scheduled_trace_last_run_status_code", none, none),
    ("ovn_api_scheduled_trace_runs_total", some "all", none),
    ("ovn_api_scheduled_trace_runs_total", some "success", none),
    ("ovn_api_scheduled_trace_runs_total", some "partial_success", none),
    ("ovn_api_scheduled_trace_runs_total", some "timeout", none),
    ("ovn_api_scheduled_trace_runs_total", some "failed", none),
    ("ovn_api_scheduled_trace_profile_info", none, none)] ++
  [("ovn_api_scheduled_trace_last_run_timestamp_seconds", none, none)] ++
  [("ovn_api_scheduled_trace_last_success_timestamp_seconds", none, none)] ++
  [("ovn_api_scheduled_trace_last_run_age_seconds", none, none)] ++ phaseTable

theorem profileMetrics_sublist (clock : PageClock) (p : ProfileStatus) :
    ((profileMetrics clock p).map profileSeries).Sublist profileTable := by
  simp only [profileMetrics, profileTable, List.map_append, List.map_cons, List.map_nil,
    profileSeries_profileMetric, profileSeries_runsTotal, profileSeries_profileInfo]
  refine ((((List.Sublist.refl _).append ?_).append ?_).append ?_).append ?_
  · exact optional_sublist_singleton (fun _ => profileSeries_profileMetric ..) _
  · exact optional_sublist_singleton (fun _ => profileSeries_profileMetric ..) _
  · exact optional_sublist_singleton (fun _ => profileSeries_profileMetric ..) _
  · cases p.state.lastResult with
    | none => exact List.nil_sublist _
    | some result => simpa using phaseMetrics_sublist p result

theorem noDuplicates_profileMetrics (clock : PageClock) (p : ProfileStatus) :
    NoDuplicates (profileMetrics clock p) := by
  have htable : profileTable.Nodup := by simp [profileTable, phaseTable]
  apply noDuplicates_of_nodup profileSeries _ ((profileMetrics_sublist clock p).nodup htable)
  intro m _ m' _ hsame
  rw [profileSeries, profileSeries, hsame.1, hsame.2, hsame.2]

/-- The metric carries the name of the profile, and no method. -/
structure Metric.OfProfile (p : ProfileStatus) (m : Metric Number) : Prop where
  profile : m.label "profile" = some p.state.config.name
  method : m.label "method" = none

theorem ofProfile_profileMetric {p : ProfileStatus} {name : String} {value : Number}
    {h : isName isNameStart isNameChar name.toList = true} :
    (profileMetric p name value h).OfProfile p := by
  constructor <;>
    simp [profileMetric, Metric.label, plainLabels, baseLabels, Label.requestedResourceType,
      Label.profile, List.lookup_cons]

theorem ofProfile_profileMetricWith {p : ProfileStatus} {key : LabelName}
    {hkey : [Label.requestedResourceType, Label.profile, key].Nodup} {name : String}
    {value : Number} {text : String} {h : isName isNameStart isNameChar name.toList = true}
    (hmethod : "method" ≠ key.val) :
    (profileMetricWith p key hkey name value text h).OfProfile p := by
  constructor
  · simp [profileMetricWith, Metric.label, plainLabels, baseLabels, Label.requestedResourceType,
      Label.profile, List.lookup_cons]
  · simp [profileMetricWith, Metric.label, plainLabels, baseLabels, Label.requestedResourceType,
      Label.profile, List.lookup_cons, beq_false_of_ne hmethod]

theorem ofProfile_profileInfo (p : ProfileStatus) : (profileInfo p).OfProfile p := by
  constructor <;>
    simp [profileInfo, Metric.label, plainLabels, baseLabels, Label.requestedResourceType,
      Label.profile, Label.bridge, Label.targetName, Label.targetResolutionMode, List.lookup_cons]

theorem forall_mem_optional {α : Type} {value : Option α} {f : α → Metric Number}
    {P : Metric Number → Prop} (h : ∀ a, P (f a)) : ∀ m ∈ optional value f, P m := by
  intro m hm
  obtain ⟨a, -, rfl⟩ := List.mem_map.mp hm
  exact h a

theorem ofProfile_phaseMetrics (p : ProfileStatus) (result : CanaryProbeResult) :
    ∀ m ∈ phaseMetrics p result, m.OfProfile p := by
  have hphase : "method" ≠ Label.phase.val := by decide
  rw [phaseMetrics, List.forall_mem_append]
  constructor
  · intro m hm
    obtain ⟨entry, -, hm⟩ := List.mem_flatMap.mp hm
    exact forall_mem_optional (fun _ => ofProfile_profileMetricWith hphase) m hm
  · intro m hm
    obtain ⟨entry, -, rfl⟩ := List.mem_map.mp hm
    exact ofProfile_profileMetricWith hphase

theorem ofProfile_profileMetrics (clock : PageClock) (p : ProfileStatus) :
    ∀ m ∈ profileMetrics clock p, m.OfProfile p := by
  have hresult : "method" ≠ Label.result.val := by decide
  have hruns : ∀ n text, (runsTotal p n text).OfProfile p :=
    fun _ _ => ofProfile_profileMetricWith hresult
  simp only [profileMetrics, List.forall_mem_append, List.forall_mem_cons]
  refine ⟨⟨⟨⟨⟨ofProfile_profileMetric, ofProfile_profileMetric, hruns _ _, hruns _ _, hruns _ _,
    hruns _ _, hruns _ _, ofProfile_profileInfo p, List.forall_mem_nil _⟩, ?_⟩, ?_⟩, ?_⟩, ?_⟩
  · exact forall_mem_optional fun _ => ofProfile_profileMetric
  · exact forall_mem_optional fun _ => ofProfile_profileMetric
  · exact forall_mem_optional fun _ => ofProfile_profileMetric
  · intro m hm
    obtain ⟨result, -, hm⟩ := List.mem_flatMap.mp hm
    exact ofProfile_phaseMetrics p result m hm

/-- Profiles with different names have different series. -/
theorem noDuplicates_profiles (clock : PageClock) {profiles : List ProfileStatus}
    (h : (profiles.map (·.state.config.name)).Nodup) :
    NoDuplicates (profiles.flatMap (profileMetrics clock)) := by
  rw [NoDuplicates, List.pairwise_flatMap]
  refine ⟨fun p _ => noDuplicates_profileMetrics clock p, ?_⟩
  rw [List.nodup_iff_pairwise_ne, List.pairwise_map] at h
  refine h.imp ?_
  intro p p' hne m hm m' hm' hsame
  have hlabel := hsame.2 "profile"
  rw [(ofProfile_profileMetrics clock p m hm).profile,
    (ofProfile_profileMetrics clock p' m' hm').profile] at hlabel
  exact hne (Option.some.inj hlabel)

/-! ### The series of the requests -/

theorem label_methodStatusMetric (row : MethodStatus × ℕ) :
    (methodStatusMetric row).label "method" = some row.1.1 ∧
      (methodStatusMetric row).label "status_class" = some row.1.2 := by
  simp [methodStatusMetric, Metric.label, plainLabels, Label.method, Label.statusClass, List.lookup_cons]

theorem noDuplicates_breakdown {rows : List (MethodStatus × ℕ)} (h : (rows.map Prod.fst).Nodup) :
    NoDuplicates ((sortedBreakdown rows).map methodStatusMetric) := by
  have hperm : (sortedBreakdown rows).Perm rows := List.perm_insertionSort _ _
  have hnodup : ((sortedBreakdown rows).map Prod.fst).Nodup :=
    (hperm.map Prod.fst).nodup_iff.mpr h
  rw [List.nodup_iff_pairwise_ne, List.pairwise_map] at hnodup
  rw [NoDuplicates, List.pairwise_map]
  refine hnodup.imp ?_
  intro row row' hne hsame
  have hmethod := hsame.2 "method"
  have hstatus := hsame.2 "status_class"
  rw [(label_methodStatusMetric row).1, (label_methodStatusMetric row').1] at hmethod
  rw [(label_methodStatusMetric row).2, (label_methodStatusMetric row').2] at hstatus
  exact hne (Prod.ext (Option.some.inj hmethod) (Option.some.inj hstatus))

/-! ### The page -/

/-- The page is made of fixed series, those of the profiles, and those of the requests. -/
theorem renderPrometheusText_perm (clock : PageClock) (r : PageReads) :
    ∃ fixed profiles, (fixed ++ profiles ++
        (sortedBreakdown r.httpBreakdown).map methodStatusMetric).Perm
        (renderPrometheusText clock r) ∧
      (fixed.map series).Sublist ((fixedMetrics r.enabled r.scheduled.workerAlive r.apiRuntime
        fullSnapshot).map series) ∧
      profiles.Sublist (r.scheduled.profiles.flatMap (profileMetrics clock)) := by
  have hready : ([snapshotReady false].map series).Sublist
      ((snapshotMetrics fullSnapshot).map series) := by
    simp only [snapshotMetrics, List.map_append, List.map_cons, List.cons_append]
    exact (List.nil_sublist _).cons_cons _
  cases hsnapshot : r.snapshot with
  | none =>
    refine ⟨exporterMetrics r.apiRuntime ++ [snapshotReady false] ++ apiMetrics r.apiRuntime, [],
      ?_, ?_, List.nil_sublist _⟩
    · simp [renderPrometheusText, hsnapshot]
    · simp only [fixedMetrics, List.map_append]
      exact (((List.Sublist.refl _).append hready).trans (List.sublist_append_left _ _)).append
        (List.Sublist.refl _)
  | some snapshot =>
    have hpart := (List.Sublist.refl ((exporterMetrics r.apiRuntime).map series)).append
      (snapshotMetrics_sublist snapshot)
    cases hscheduled : snapshot.scheduledTraceMetrics.isSome with
    | false =>
      refine ⟨exporterMetrics r.apiRuntime ++ snapshotMetrics snapshot ++ apiMetrics r.apiRuntime,
        [], ?_, ?_, List.nil_sublist _⟩
      · simp [renderPrometheusText, hsnapshot, hscheduled]
      · simp only [fixedMetrics, List.map_append]
        exact (hpart.trans (List.sublist_append_left _ _)).append (List.Sublist.refl _)
    | true =>
      refine ⟨fixedMetrics r.enabled r.scheduled.workerAlive r.apiRuntime snapshot,
        r.scheduled.profiles.flatMap (profileMetrics clock), ?_, ?_, List.Sublist.refl _⟩
      · simp only [renderPrometheusText, hsnapshot, hscheduled, fixedMetrics,
          appendPrometheusMetrics, if_true, List.append_assoc]
        -- The profiles stand before the counters of the API.
        refine (List.Perm.refl _).append ((List.Perm.refl _).append ((List.Perm.refl _).append ?_))
        rw [← List.append_assoc, ← List.append_assoc]
        exact List.perm_append_comm.append_right _
      · simp only [fixedMetrics, List.map_append]
        exact (hpart.append (List.Sublist.refl _)).append (List.Sublist.refl _)

/-- If the profiles have distinct names and the requests are counted under distinct keys,
no two samples belong to the same series. -/
theorem noDuplicates_renderPrometheusText (clock : PageClock) (r : PageReads)
    (hprofiles : (r.scheduled.profiles.map (·.state.config.name)).Nodup)
    (hbreakdown : (r.httpBreakdown.map Prod.fst).Nodup) :
    NoDuplicates (renderPrometheusText clock r) := by
  obtain ⟨fixed, profiles, hperm, hfixed, hsub⟩ := renderPrometheusText_perm clock r
  obtain ⟨hnodup, hlabels⟩ := noDuplicates_fixed hfixed
  have hmember : ∀ m ∈ profiles, ∃ p, m.OfProfile p := by
    intro m hm
    obtain ⟨p, -, hmem⟩ := List.mem_flatMap.mp (hsub.subset hm)
    exact ⟨p, ofProfile_profileMetrics clock p m hmem⟩
  refine noDuplicates_perm (noDuplicates_append (noDuplicates_append hnodup
    ((noDuplicates_profiles clock hprofiles).sublist hsub) "profile" ?_ ?_)
    (noDuplicates_breakdown hbreakdown) "method" ?_ ?_) hperm
  · exact fun m hm => (hlabels m hm).profile
  · intro m hm
    obtain ⟨p, hp⟩ := hmember m hm
    simp [hp.profile]
  · intro m hm
    rcases List.mem_append.mp hm with hm | hm
    · exact (hlabels m hm).method
    · obtain ⟨p, hp⟩ := hmember m hm
      exact hp.method
  · intro m hm
    obtain ⟨row, -, rfl⟩ := List.mem_map.mp hm
    simp [(label_methodStatusMetric row).1]

/-- Whatever is reloaded, probed, requested and measured, the page has no two samples of
the same series. The store of the requests is any, since its keys are distinct by type. -/
theorem page_without_duplicate_series {sources : Sources} {settings : ServiceSettings}
    {configs : List ProfileConfig} {now : ℚ} {stamp : String} {s : State}
    (hload : loadProfileConfigs sources (Service.installed settings) = .ok configs)
    (hs : Reach step anyStep (State.init settings configs now stamp) s) (store : ApiMetricsStore)
    (clock : PageClock) (snapshot : Option MonitoringSnapshot) (apiRuntime : ApiRuntimeMetrics)
    (enabled : Bool) :
    NoDuplicates (renderPrometheusText clock {
      snapshot, apiRuntime, enabled
      httpBreakdown := store.httpStatusBreakdown
      scheduled := s.service.getSnapshot }) := by
  apply noDuplicates_renderPrometheusText
  · have hnames := nodup_profileNames hload hs
    simpa [Service.getSnapshot, Service.profileNames, Function.comp_def] using hnames
  · exact store.httpRequestsByMethodStatus.nodup

/-- The service is told to use a longer timeout from now on, and starts its worker. -/
def longerTimeout : List Label :=
  .enter (.reload true) :: List.replicate 9 (.call 0 { Service.missingFile with
    environment := .ok { Service.settingsWith none with defaultTimeoutS := .fin 30 } })

/-- The page after that reload and a finished request. -/
theorem page_without_duplicate_series_default : ∃ (s : State) (store : ApiMetricsStore),
    loadProfileConfigs Service.missingFile.sources
        (Service.installed (Service.settingsWith none)) =
      .ok (defaultProfileConfigs (Service.settingsWith none)) ∧
    Reach step anyStep defaultService s ∧ s.service.workerAlive = true ∧
    s.service.profileStates.map (fun profile => profile.config.timeoutS) =
      [.fin 30, .fin 30, .fin 30] ∧
    store.httpStatusBreakdown = [(("GET", "2xx"), 1)] ∧
    NoDuplicates (renderPrometheusText ⟨0, fun _ => none⟩ {
      snapshot := some { fullSnapshot with
        scheduledTraceMetrics := some s.service.getSnapshot }
      apiRuntime := fullSnapshot.apiRuntime
      enabled := true
      httpBreakdown := store.httpStatusBreakdown
      scheduled := s.service.getSnapshot }) := by
  have hload : loadProfileConfigs Service.missingFile.sources
      (Service.installed (Service.settingsWith none)) =
      .ok (defaultProfileConfigs (Service.settingsWith none)) := rfl
  obtain ⟨s, hs, halive, htimeouts⟩ : ∃ s, Reach step anyStep defaultService s ∧
      s.service.workerAlive = true ∧
        s.service.profileStates.map (fun profile => profile.config.timeoutS) =
          [.fin 30, .fin 30, .fin 30] :=
    exists_reach_of_mem_run longerTimeout (by decide +kernel)
  exact ⟨s, ApiMetricsStore.requestFinished id { startedPerf := 0 } ⟨"GET", 200, 3, false⟩, hload, hs,
    halive, htimeouts, rfl, page_without_duplicate_series hload hs _ _ _ _ _⟩

end OvnApi.Monitor
