import OvnApi.Scheduled.Accounting

/-! The scheduling loop of one worker. Nobody reloads; the other threads may do what
they like to the rest of the service. Time passes as it will, before, during and after a
probe. A start is the step that counts the run and sets the next due time. -/

namespace OvnApi.Scheduled

open OvnApi.Core Lib Traces

/-! ### Due times -/

namespace Service

def due (s : Service) (ref : ℕ) : Option PyFloat := s.heap[ref]?.map (·.nextDueMonotonic)

def configOf (s : Service) (ref : ℕ) : Option ProfileConfig := s.heap[ref]?.map (·.config)

/-- The profiles the loop chooses from. -/
def Enabled (s : Service) (ref : ℕ) : Prop :=
  ref ∈ s.profiles ∧ ∃ config ∈ s.configOf ref, config.enabled = true

/-- What scheduling looks at. -/
structure SameSchedule (s s' : Service) : Prop where
  profiles : s'.profiles = s.profiles
  config : ∀ ref, s'.configOf ref = s.configOf ref
  due : ∀ ref, s'.due ref = s.due ref

variable {s s' : Service} {a : Answer} {pc pc' : WorkerPc} {ref : ℕ}

theorem SameSchedule.refl (s : Service) : SameSchedule s s := ⟨rfl, fun _ => rfl, fun _ => rfl⟩

theorem SameSchedule.enabled (h : SameSchedule s s') (ref : ℕ) : s'.Enabled ref ↔ s.Enabled ref := by
  rw [Enabled, Enabled, h.profiles, h.config]

theorem configOf_modify {f : ProfileState → ProfileState} (hheap : s'.heap = s.heap.modify ref f)
    (hconfig : ∀ o, (f o).config = o.config) (other : ℕ) : s'.configOf other = s.configOf other := by
  rw [configOf, configOf, hheap, List.getElem?_modify]
  cases s.heap[other]? with
  | none => rfl
  | some o => by_cases h : ref = other <;> simp [h, hconfig]

/-- An update of one profile that leaves its configuration and its due time alone. -/
theorem sameSchedule_modify {f : ProfileState → ProfileState} (hprofiles : s'.profiles = s.profiles)
    (hheap : s'.heap = s.heap.modify ref f) (hconfig : ∀ o, (f o).config = o.config)
    (hdue : ∀ o, (f o).nextDueMonotonic = o.nextDueMonotonic) : SameSchedule s s' where
  profiles := hprofiles
  config := configOf_modify hheap hconfig
  due other := by
    rw [due, due, hheap, List.getElem?_modify]
    cases s.heap[other]? with
    | none => rfl
    | some o => by_cases h : ref = other <;> simp [h, hdue]

theorem countResult_schedule (result : CanaryProbeResult) (o : ProfileState) :
    (countResult a result o).config = o.config ∧
      (countResult a result o).nextDueMonotonic = o.nextDueMonotonic := by
  cases hstatus : result.status <;> simp [countResult, hstatus]

theorem countOutcome_schedule (outcome : Except Exc CanaryProbeResult) (o : ProfileState) :
    (countOutcome a outcome o).config = o.config ∧
      (countOutcome a outcome o).nextDueMonotonic = o.nextDueMonotonic := by
  cases outcome with
  | ok result => exact countResult_schedule result o
  | error exc => exact ⟨rfl, rfl⟩

/-- Only the start of an execution changes the schedule. -/
theorem workerStep_sameSchedule (h : s.workerStep a pc = some (s', pc'))
    (hpc : ∀ ref, pc ≠ .begin ref) : SameSchedule s s' := by
  cases pc with
  | created | finished | died => cases h
  | loop | pick | idle | probe =>
    cases h
    exact .refl s
  | wait | resolve =>
    obtain ⟨profile, -, h⟩ := Option.map_eq_some_iff.mp h
    cases h
    exact .refl s
  | begin ref => exact absurd rfl (hpc ref)
  | note ref resolution request =>
    cases h
    exact sameSchedule_modify rfl rfl (fun _ => rfl) fun _ => rfl
  | unresolved ref error =>
    cases h
    exact sameSchedule_modify rfl rfl (fun _ => rfl) fun _ => rfl
  | close ref outcome =>
    cases h
    exact sameSchedule_modify rfl rfl (fun o => (countOutcome_schedule outcome o).1)
      fun o => (countOutcome_schedule outcome o).2

/-- The start of an execution sets the due time of its profile, and no other. -/
structure Started (s : Service) (now : ℚ) (ref : ℕ) (s' : Service) : Prop where
  profiles : s'.profiles = s.profiles
  config : ∀ other, s'.configOf other = s.configOf other
  due_self : s'.due ref = (s.configOf ref).map fun config => .add (.fin now) config.intervalS
  due_other : ∀ other, other ≠ ref → s'.due other = s.due other

theorem workerStep_started (h : s.workerStep a (.begin ref) = some (s', pc')) :
    Started s a.now ref s' ∧ pc' = .resolve ref := by
  cases h
  have hheap : ((s.update ref (countRun a)).stamped a.stamp).heap =
      s.heap.modify ref (countRun a) := rfl
  refine ⟨⟨rfl, fun other => ?_, ?_, fun other hother => ?_⟩, rfl⟩
  · rw [configOf, configOf, hheap, List.getElem?_modify]
    cases s.heap[other]? with
    | none => rfl
    | some o => by_cases h : ref = other <;> simp [h, countRun]
  · rw [due, configOf, hheap, List.getElem?_modify]
    cases s.heap[ref]? with
    | none => rfl
    | some o => simp [countRun]
  · rw [due, due, hheap, List.getElem?_modify]
    cases s.heap[other]? with
    | none => rfl
    | some o => simp [Ne.symm hother]

/-! ### The choice of the next profile -/

def candidates (s : Service) : List (ℕ × PyFloat) :=
  s.profiles.filterMap fun ref => (s.heap[ref]?.filter (·.config.enabled)).map
    fun profile => (ref, profile.nextDueMonotonic)

theorem mem_candidates (p : ℕ × PyFloat) :
    p ∈ s.candidates ↔ s.Enabled p.1 ∧ s.due p.1 = some p.2 := by
  rw [candidates, List.mem_filterMap]
  constructor
  · rintro ⟨ref, href, hpair⟩
    obtain ⟨profile, hprofile, rfl⟩ := Option.map_eq_some_iff.mp hpair
    obtain ⟨hheap, henabled⟩ := Option.filter_eq_some_iff.mp hprofile
    exact ⟨⟨href, profile.config, by simp [configOf, hheap], henabled⟩, by simp [due, hheap]⟩
  · rintro ⟨⟨href, config, hconfig, henabled⟩, hdue⟩
    obtain ⟨profile, hheap, rfl⟩ := Option.map_eq_some_iff.mp hconfig
    refine ⟨p.1, href, ?_⟩
    have hp : profile.nextDueMonotonic = p.2 := by simpa [due, hheap] using hdue
    simp [hheap, henabled, hp]

theorem nextDueProfile_eq : s.nextDueProfile =
    s.candidates.head?.map fun first => (PyFloat.leastBy Prod.snd s.candidates.tail first).1 := by
  unfold nextDueProfile
  dsimp only
  rw [← candidates]
  cases s.candidates <;> rfl

/-- The profile chosen is enabled, and no enabled profile is due before it. -/
theorem nextDueProfile_least (h : s.nextDueProfile = some ref) :
    s.Enabled ref ∧ ∀ other, s.Enabled other → ∀ d ∈ s.due ref, ∀ d' ∈ s.due other,
      PyFloat.lt d' d = false := by
  have hmem := s.mem_candidates
  rw [nextDueProfile_eq] at h
  cases hcandidates : s.candidates with
  | nil =>
    rw [hcandidates] at h
    cases h
  | cons first rest =>
    rw [hcandidates] at h hmem
    obtain rfl := Option.some.inj h
    obtain ⟨henabled, hdue⟩ := (hmem _).mp (PyFloat.leastBy_mem Prod.snd rest first)
    refine ⟨henabled, ?_⟩
    intro other hother d hd d' hd'
    have hleast := PyFloat.leastBy_least Prod.snd rest first (other, d') ((hmem _).mpr ⟨hother, hd'⟩)
    rw [← Option.some.inj (hdue.symm.trans hd)]
    exact hleast

/-- A first candidate whose due time is not a number is chosen: nothing is before it. -/
theorem nextDueProfile_nan (h : s.candidates.head? = some (ref, .nan)) :
    s.nextDueProfile = some ref ∧ s.due ref = some .nan := by
  obtain ⟨rest, hcandidates⟩ := List.head?_eq_some_iff.mp h
  have hmem : (ref, .nan) ∈ s.candidates := hcandidates ▸ List.mem_cons_self
  refine ⟨?_, ((s.mem_candidates _).mp hmem).2⟩
  rw [nextDueProfile_eq, hcandidates]
  rcases PyFloat.leastBy_best Prod.snd rest (ref, PyFloat.nan) with heq | hlt
  · exact congrArg (fun p => some p.1) heq
  · exact absurd rfl (PyFloat.ne_nan_of_lt hlt)

end Service

/-! ### The loop -/

/-- The start of an execution: which profile, when, and when each profile was due. -/
structure Start where
  ref : ℕ
  time : ℚ
  dues : ℕ → Option PyFloat

/-- The worker with the service, the time of its last step, and the starts so far, the
latest first. -/
structure Scheduler where
  service : Service
  pc : WorkerPc
  clock : ℚ
  starts : List Start

inductive Turning where
  /-- The worker makes a step, at a time that the answer gives. -/
  | work (a : Answer)
  /-- The other threads change the service. -/
  | others (service : Service)

namespace Scheduler

/-- The worker enters `_run`, after `start` has cleared the stop event. -/
def begin (service : Service) (clock : ℚ) : Scheduler :=
  ⟨{ service with stopEvent := false }, .loop, clock, []⟩

def startOf (x : Scheduler) (now : ℚ) : Option Start :=
  match x.pc with
  | .begin ref => some ⟨ref, now, x.service.due⟩
  | _ => none

/-- The clock does not go back, and the other threads leave the profiles alone. -/
def step (x : Scheduler) : Turning → Option Scheduler
  | .work a =>
    if x.clock ≤ a.now then
      (x.service.workerStep a x.pc).map fun r =>
        ⟨r.1, r.2, a.now, (x.startOf a.now).toList ++ x.starts⟩
    else none
  | .others service =>
    if service.heap = x.service.heap ∧ service.profiles = x.service.profiles then
      some { x with service }
    else none

end Scheduler

/-- The end of an interval as it is computed is not before the exact one. -/
def Whole (t : ℚ) (interval : PyFloat) : Prop :=
  PyFloat.le (.addExact (.fin t) interval) (.add (.fin t) interval) = true

/-- The end of an interval as it is computed is after its begin. -/
def Advances (t : ℚ) (interval : PyFloat) : Prop :=
  PyFloat.lt (.fin t) (.add (.fin t) interval) = true

/-- What the schedule promises, over the starts so far. -/
structure Fair (s : Service) (starts : List Start) : Prop where
  /-- Two successive starts of a profile are its interval apart, as far as its end is computed
  without rounding it down. -/
  spaced : ∀ after second between first before, starts = after ++ second :: between ++ first :: before →
    second.ref = first.ref → (∀ start ∈ between, start.ref ≠ first.ref) →
      ∀ config ∈ s.configOf first.ref,
        PyFloat.le (.add (.fin first.time) config.intervalS) (.fin second.time) = true ∧
        (Whole first.time config.intervalS →
          PyFloat.le (.addExact (.fin first.time) config.intervalS) (.fin second.time) = true)
  /-- A profile is started only when it is due. -/
  due : ∀ start ∈ starts, ∃ d ∈ start.dues start.ref, PyFloat.le d (.fin start.time) = true
  /-- Once a profile is due, no other is started twice before it, unless its interval is lost in
  rounding. -/
  bypass : ∀ after second between first before, starts = after ++ second :: between ++ first :: before →
    second.ref = first.ref → (∀ config ∈ s.configOf first.ref, Advances first.time config.intervalS) →
      ∀ other, s.Enabled other → other ≠ first.ref →
        (∃ d ∈ first.dues other, PyFloat.le d (.fin first.time) = true) →
          ∃ start ∈ between, start.ref = other

/-! ### The invariant -/

/-- No enabled profile is due before this one. -/
def Service.First (s : Service) (ref : ℕ) : Prop :=
  s.Enabled ref ∧ ∀ other, s.Enabled other → ∀ d ∈ s.due ref, ∀ d' ∈ s.due other,
    PyFloat.lt d' d = false

structure Timely (x : Scheduler) : Prop where
  intervals : ∀ ref, x.service.Enabled ref → ∀ config ∈ x.service.configOf ref,
    PyFloat.lt (.fin 0) config.intervalS = true
  numbers : ∀ ref, x.service.Enabled ref → ∀ d ∈ x.service.due ref, d ≠ .nan
  chosen : ∀ ref, x.pc = .wait ref ∨ x.pc = .begin ref → x.service.First ref
  ready : ∀ ref, x.pc = .begin ref → ∀ d ∈ x.service.due ref, PyFloat.le d (.fin x.clock) = true
  /-- A started profile is due again an interval after its last start. -/
  last : ∀ after start before, x.starts = after ++ start :: before →
    (∀ later ∈ after, later.ref ≠ start.ref) → ∀ config ∈ x.service.configOf start.ref,
      x.service.due start.ref = some (.add (.fin start.time) config.intervalS)
  /-- A profile that has not been started since is due when it was. -/
  kept : ∀ after first before, x.starts = after ++ first :: before → ∀ other, other ≠ first.ref →
    (∀ start ∈ after, start.ref ≠ other) → x.service.due other = first.dues other
  fair : Fair x.service x.starts

section Invariant

variable {x x' : Scheduler} {s' : Service} {pc' : WorkerPc} {a : Answer} {ref : ℕ}

theorem Service.SameSchedule.first {s s' : Service} (h : SameSchedule s s') :
    s'.First ref ↔ s.First ref := by
  simp only [Service.First, h.enabled, h.due]

theorem Fair.of_same {s : Service} {starts : List Start} (h : Fair s starts)
    (hconfig : ∀ ref, s'.configOf ref = s.configOf ref)
    (henabled : ∀ ref, s'.Enabled ref ↔ s.Enabled ref) : Fair s' starts where
  spaced := by
    simp only [hconfig]
    exact h.spaced
  due := h.due
  bypass := by
    simp only [hconfig, henabled]
    exact h.bypass

/-- A step that is not a start. -/
theorem Timely.quiet (h : Timely x) (hsame : x.service.SameSchedule s') {clock : ℚ}
    (hchosen : ∀ ref, pc' = .wait ref ∨ pc' = .begin ref → x.service.First ref)
    (hready : ∀ ref, pc' = .begin ref → ∀ d ∈ x.service.due ref, PyFloat.le d (.fin clock) = true) :
    Timely ⟨s', pc', clock, x.starts⟩ where
  intervals := by
    simp only [hsame.enabled, hsame.config]
    exact h.intervals
  numbers := by
    simp only [hsame.enabled, hsame.due]
    exact h.numbers
  chosen := by
    simp only [hsame.first]
    exact hchosen
  ready := by
    simp only [hsame.due]
    exact hready
  last := by
    simp only [hsame.config, hsame.due]
    exact h.last
  kept := by
    simp only [hsame.due]
    exact h.kept
  fair := h.fair.of_same hsame.config hsame.enabled

/-- A start list with one more start has its decompositions, and those of the old list. -/
theorem cons_eq_decomposed {start second first : Start} {starts after between before : List Start}
    (h : start :: starts = after ++ second :: between ++ first :: before) :
    (after = [] ∧ start = second ∧ starts = between ++ first :: before) ∨
      ∃ after', starts = after' ++ second :: between ++ first :: before := by
  cases after with
  | nil =>
    obtain ⟨rfl, rfl⟩ := List.cons.inj h
    exact .inl ⟨rfl, rfl, rfl⟩
  | cons x after =>
    obtain ⟨-, rfl⟩ := List.cons.inj h
    exact .inr ⟨after, rfl⟩

theorem Service.Enabled.exists_due {s : Service} (h : s.Enabled ref) : ∃ d, s.due ref = some d := by
  obtain ⟨-, config, hconfig, -⟩ := h
  obtain ⟨profile, hprofile, -⟩ := Option.map_eq_some_iff.mp hconfig
  exact ⟨profile.nextDueMonotonic, by simp [Service.due, hprofile]⟩

theorem Service.Started.enabled {s : Service} {now : ℚ} (h : s.Started now ref s') (other : ℕ) :
    s'.Enabled other ↔ s.Enabled other := by
  rw [Service.Enabled, Service.Enabled, h.profiles, h.config]

/-- When a profile is started for the second time, one that was due at its first start
has been started in between: otherwise it would have come first. -/
theorem Timely.not_bypassed (h : Timely x) (hfirst : x.service.First ref)
    {between before : List Start} {first : Start} (hstarts : x.starts = between ++ first :: before)
    (href : ref = first.ref) (hlatest : ∀ start ∈ between, start.ref ≠ first.ref)
    (hadvances : ∀ config ∈ x.service.configOf first.ref, Advances first.time config.intervalS)
    {other : ℕ} (hother : x.service.Enabled other) (hne : other ≠ first.ref) {d : PyFloat}
    (hd : d ∈ first.dues other) (hdue : PyFloat.le d (.fin first.time) = true) :
    ∃ start ∈ between, start.ref = other := by
  by_contra hnone
  have hsince : ∀ start ∈ between, start.ref ≠ other := by
    intro start hstart heq
    exact hnone ⟨start, hstart, heq⟩
  have hkept : x.service.due other = some d := (h.kept _ _ _ hstarts other hne hsince).trans hd
  obtain ⟨henabled, hleast⟩ := hfirst
  obtain ⟨-, config, hconfig, -⟩ := id henabled
  rw [href] at hleast hconfig
  have hlast := h.last _ _ _ hstarts hlatest config hconfig
  have hbefore := PyFloat.lt_of_le_of_lt hdue (hadvances config hconfig)
  rw [hleast other hother _ hlast d hkept] at hbefore
  cases hbefore

/-! A start of the profile the worker has chosen -/

section Start

variable {now : ℚ}

theorem Timely.due_now (h : Timely x) (hpc : x.pc = .begin ref) (hclock : x.clock ≤ now) :
    ∃ d, x.service.due ref = some d ∧ PyFloat.le d (.fin now) = true := by
  obtain ⟨d, hd⟩ := (h.chosen ref (.inr hpc)).1.exists_due
  refine ⟨d, hd, PyFloat.le_trans (h.ready ref hpc d hd) ?_⟩
  simpa using hclock

theorem Timely.last_start (h : Timely x) (hstarted : x.service.Started now ref s')
    {after before : List Start} {start : Start}
    (hstarts : (⟨ref, now, x.service.due⟩ : Start) :: x.starts = after ++ start :: before)
    (hlatest : ∀ later ∈ after, later.ref ≠ start.ref) {config : ProfileConfig}
    (hconfig : config ∈ s'.configOf start.ref) :
    s'.due start.ref = some (.add (.fin start.time) config.intervalS) := by
  rw [hstarted.config] at hconfig
  cases after with
  | nil =>
    obtain ⟨rfl, -⟩ := List.cons.inj hstarts
    exact hstarted.due_self.trans (congrArg _ hconfig)
  | cons y after =>
    obtain ⟨rfl, hold⟩ := List.cons.inj hstarts
    have hne : start.ref ≠ ref := fun heq => hlatest _ List.mem_cons_self heq.symm
    rw [hstarted.due_other _ hne]
    exact h.last after start before hold
      (fun later hlater => hlatest later (List.mem_cons_of_mem _ hlater)) config hconfig

theorem Timely.kept_start (h : Timely x) (hstarted : x.service.Started now ref s')
    {after before : List Start} {first : Start}
    (hstarts : (⟨ref, now, x.service.due⟩ : Start) :: x.starts = after ++ first :: before)
    {other : ℕ} (hne : other ≠ first.ref) (hsince : ∀ start ∈ after, start.ref ≠ other) :
    s'.due other = first.dues other := by
  cases after with
  | nil =>
    obtain ⟨rfl, -⟩ := List.cons.inj hstarts
    exact hstarted.due_other other hne
  | cons y after =>
    obtain ⟨rfl, hold⟩ := List.cons.inj hstarts
    have hother : other ≠ ref := fun heq => hsince _ List.mem_cons_self heq.symm
    rw [hstarted.due_other other hother]
    apply h.kept after first before hold other hne
    intro start hstart
    exact hsince start (List.mem_cons_of_mem _ hstart)

theorem Timely.fair_start (h : Timely x) (hpc : x.pc = .begin ref) (hclock : x.clock ≤ now)
    (hstarted : x.service.Started now ref s') :
    Fair s' (⟨ref, now, x.service.due⟩ :: x.starts) := by
  obtain ⟨dref, hdref, hnow⟩ := h.due_now hpc hclock
  constructor
  · intro after second between first before hstarts href hlatest config hconfig
    rw [hstarted.config] at hconfig
    rcases cons_eq_decomposed hstarts with ⟨-, rfl, hold⟩ | ⟨after', hold⟩
    · change ref = first.ref at href
      have hlast := h.last _ _ _ hold hlatest config hconfig
      rw [← href, hdref] at hlast
      rw [Option.some.inj hlast] at hnow
      exact ⟨hnow, fun hwhole => PyFloat.le_trans hwhole hnow⟩
    · exact h.fair.spaced after' second between first before hold href hlatest config hconfig
  · intro start hstart
    rcases List.mem_cons.mp hstart with rfl | hold
    · exact ⟨dref, hdref, hnow⟩
    · exact h.fair.due start hold
  · intro after second between first before hstarts href hadvances other hother hne hdue
    rw [hstarted.config] at hadvances
    have hother := (hstarted.enabled other).mp hother
    rcases cons_eq_decomposed hstarts with ⟨-, rfl, hold⟩ | ⟨after', hold⟩
    · by_cases hmid : ∃ mid ∈ between, mid.ref = first.ref
      · -- the other has been started before the profile came up again
        obtain ⟨mid, hmem, hmidRef⟩ := hmid
        obtain ⟨after', between', rfl⟩ := List.append_of_mem hmem
        obtain ⟨start, hstart, heq⟩ := h.fair.bypass after' mid between' first before hold hmidRef
          hadvances other hother hne hdue
        exact ⟨start, by simp [hstart], heq⟩
      · obtain ⟨d, hd, hdue⟩ := hdue
        exact h.not_bypassed (h.chosen ref (.inr hpc)) hold href
          (fun start hstart heq => hmid ⟨start, hstart, heq⟩) hadvances hother hne hd hdue
    · exact h.fair.bypass after' second between first before hold href hadvances other hother hne hdue

theorem Timely.start (h : Timely x) (hpc : x.pc = .begin ref) (hclock : x.clock ≤ now)
    (hstarted : x.service.Started now ref s') :
    Timely ⟨s', .resolve ref, now, ⟨ref, now, x.service.due⟩ :: x.starts⟩ where
  intervals := by
    simp only [hstarted.enabled, hstarted.config]
    exact h.intervals
  numbers other hother d hd := by
    by_cases hne : other = ref
    · subst hne
      obtain ⟨config, hconfig, rfl⟩ := Option.map_eq_some_iff.mp (hstarted.due_self.symm.trans hd)
      have hpos := h.intervals other ((hstarted.enabled other).mp hother) config hconfig
      exact PyFloat.add_ne_nan (PyFloat.ne_nan_of_lt hpos) now
    · change d ∈ s'.due other at hd
      rw [hstarted.due_other other hne] at hd
      exact h.numbers other ((hstarted.enabled other).mp hother) d hd
  chosen := by simp
  ready := by simp
  last _ _ _ hstarts hlatest _ hconfig := h.last_start hstarted hstarts hlatest hconfig
  kept _ _ _ hstarts _ hne hsince := h.kept_start hstarted hstarts hne hsince
  fair := h.fair_start hpc hclock hstarted

end Start

/-- The worker comes to wait for a profile by choosing it, and to start one by finding
that its due time has not been missed. -/
theorem workerStep_choice {s : Service} {pc : WorkerPc} (h : s.workerStep a pc = some (s', pc')) :
    (∀ ref, pc' = .wait ref → s.nextDueProfile = some ref) ∧
    ∀ ref, pc' = .begin ref →
      pc = .wait ref ∧ ∃ d ∈ s.due ref, PyFloat.lt (.fin a.now) d = false := by
  cases pc with
  | created | finished | died => cases h
  | pick =>
    obtain ⟨rfl, rfl⟩ := Prod.mk.inj (Option.some.inj h)
    cases hnext : s.nextDueProfile with
    | none => simp
    | some next => simp
  | wait next =>
    obtain ⟨profile, hprofile, h⟩ := Option.map_eq_some_iff.mp h
    cases h
    refine ⟨?_, ?_⟩
    · intro ref hwait
      split_ifs at hwait
    · intro ref hbegin
      split_ifs at hbegin with hstop hlt
      obtain rfl := WorkerPc.begin.inj hbegin
      exact ⟨rfl, profile.nextDueMonotonic, by simp [Service.due, hprofile], by simpa using hlt⟩
  | loop =>
    cases h
    split_ifs <;> simp
  | resolve r =>
    obtain ⟨profile, -, h⟩ := Option.map_eq_some_iff.mp h
    cases h
    split <;> simp
  | note =>
    cases h
    split <;> simp
  | idle | begin | unresolved | probe | close =>
    cases h
    simp

theorem timely_step {e : Turning} (h : Timely x) (hstep : x.step e = some x') : Timely x' := by
  cases e with
  | work a =>
    simp only [Scheduler.step] at hstep
    split_ifs at hstep with hclock
    obtain ⟨⟨s', pc'⟩, hworker, rfl⟩ := Option.map_eq_some_iff.mp hstep
    by_cases hbegins : ∃ ref, x.pc = .begin ref
    · obtain ⟨ref, hpc⟩ := hbegins
      rw [hpc] at hworker
      obtain ⟨hstarted, rfl⟩ := Service.workerStep_started hworker
      have hstart := h.start hpc hclock hstarted
      simpa [Scheduler.startOf, hpc] using hstart
    · have hpc : ∀ ref, x.pc ≠ .begin ref := fun ref heq => hbegins ⟨ref, heq⟩
      have hnone : x.startOf a.now = none := by
        unfold Scheduler.startOf
        split
        · rename_i ref heq
          exact absurd heq (hpc ref)
        · rfl
      obtain ⟨hwait, hbegin⟩ := workerStep_choice hworker
      have hquiet : Timely ⟨s', pc', a.now, x.starts⟩ := by
        apply h.quiet (Service.workerStep_sameSchedule hworker hpc)
        · rintro ref (heq | heq)
          · exact Service.nextDueProfile_least (hwait ref heq)
          · exact h.chosen ref (.inl (hbegin ref heq).1)
        · intro ref heq d hd
          obtain ⟨hwaiting, d', hd', hlt⟩ := hbegin ref heq
          obtain rfl : d = d' := Option.some.inj (hd.symm.trans hd')
          have henabled := (h.chosen ref (.inl hwaiting)).1
          exact PyFloat.le_of_lt_eq_false hlt (h.numbers ref henabled d hd)
      simpa [hnone] using hquiet
  | others service =>
    simp only [Scheduler.step] at hstep
    split_ifs at hstep with hsame
    obtain rfl := Option.some.inj hstep
    obtain ⟨hheap, hprofiles⟩ := hsame
    have hschedule : x.service.SameSchedule service :=
      ⟨hprofiles, fun ref => by simp [Service.configOf, hheap], fun ref => by simp [Service.due, hheap]⟩
    exact h.quiet hschedule h.chosen h.ready

end Invariant

/-! ### From the first schedule on -/

/-- New profiles, scheduled for the first time: by `__init__` or by `reload`. -/
def Service.scheduledAt (s : Service) (now : ℚ) (l : List ProfileState) : Service :=
  { s with
    heap := s.heap ++ scheduleInitialRuns now l
    profiles := List.range' s.heap.length l.length }

/-- The first due times of the enabled profiles are numbers: an enabled first profile has no
endless interval, and a first profile whose interval is not a number has none enabled with it. -/
def Spreadable (l : List ProfileState) : Prop :=
  ∀ first ∈ l.head?, (first.config.enabled = true → first.config.intervalS ≠ .inf) ∧
    (first.config.intervalS = .nan → ∀ p ∈ l, p.config.enabled = false)

instance (l : List ProfileState) : Decidable (Spreadable l) :=
  inferInstanceAs (Decidable (∀ first ∈ l.head?, _))

section Initial

variable {s : Service} {now : ℚ} {l : List ProfileState} {ref i : ℕ}

def stagger : List ProfileState → PyFloat
  | [] => .fin 1
  | first :: rest =>
    PyFloat.max (first.config.intervalS.divNat (first :: rest).length) (.fin 1)

theorem getElem?_scheduleInitialRuns :
    (scheduleInitialRuns now l)[i]? = l[i]?.map fun profile =>
      { profile with nextDueMonotonic := PyFloat.add (.fin now) ((stagger l).nsmul i) } := by
  cases l with
  | nil => rfl
  | cons first rest => exact List.getElem?_mapIdx

theorem heap_scheduledAt :
    (s.scheduledAt now l).heap[s.heap.length + i]? = (scheduleInitialRuns now l)[i]? := by
  rw [Service.scheduledAt, List.getElem?_append_right (Nat.le_add_right _ _), Nat.add_sub_cancel_left]

theorem heap_scheduledAt_of (s : Service) (now : ℚ) {profile : ProfileState}
    (h : l[i]? = some profile) :
    (s.scheduledAt now l).heap[s.heap.length + i]? = some
      { profile with nextDueMonotonic := PyFloat.add (.fin now) ((stagger l).nsmul i) } := by
  rw [heap_scheduledAt, getElem?_scheduleInitialRuns, h]
  rfl

theorem enabled_scheduledAt (h : (s.scheduledAt now l).Enabled ref) :
    ∃ i profile, ref = s.heap.length + i ∧ l[i]? = some profile ∧ profile.config.enabled = true ∧
      (s.scheduledAt now l).configOf ref = some profile.config ∧
      (s.scheduledAt now l).due ref = some (.add (.fin now) ((stagger l).nsmul i)) := by
  obtain ⟨href, config, hconfig, henabled⟩ := h
  obtain ⟨i, hi, rfl⟩ := List.mem_range'.mp href
  rw [Nat.one_mul] at hconfig ⊢
  have hprofile : l[i]? = some l[i] := List.getElem?_eq_getElem hi
  have hcurrent := heap_scheduledAt_of s now hprofile
  refine ⟨i, l[i], rfl, hprofile, ?_, ?_, ?_⟩
  · have heq : config = l[i].config := by
      simpa [Service.configOf, hcurrent] using hconfig.symm
    rw [← heq]
    exact henabled
  · simp [Service.configOf, hcurrent]
  · simp [Service.due, hcurrent]

theorem timely_begin
    (hpos : ∀ p ∈ l, p.config.enabled = true → PyFloat.lt (.fin 0) p.config.intervalS = true)
    (hspread : Spreadable l) : Timely (.begin (s.scheduledAt now l) now) where
  intervals ref href config hconfig := by
    obtain ⟨i, profile, rfl, hprofile, henabled, hcurrent, -⟩ := enabled_scheduledAt href
    obtain rfl : profile.config = config := Option.some.inj (hcurrent.symm.trans hconfig)
    exact hpos profile (List.mem_of_getElem? hprofile) henabled
  numbers ref href d hd := by
    obtain ⟨i, profile, rfl, hprofile, henabled, -, hcurrent⟩ := enabled_scheduledAt href
    obtain rfl : _ = d := Option.some.inj (hcurrent.symm.trans hd)
    apply PyFloat.add_ne_nan
    cases l with
    | nil => cases hprofile
    | cons first rest =>
      obtain ⟨hendless, hnan⟩ := hspread first rfl
      cases hinterval : first.config.intervalS with
      | fin q =>
        simp only [stagger, hinterval, PyFloat.divNat, PyFloat.max]
        split_ifs <;> exact PyFloat.double_ne_nan _
      | inf =>
        cases i with
        | zero =>
          obtain rfl : first = profile := Option.some.inj hprofile
          exact absurd hinterval (hendless henabled)
        | succ i => simp [stagger, hinterval, PyFloat.divNat, PyFloat.max, PyFloat.lt, PyFloat.nsmul]
      | ninf =>
        simp only [stagger, hinterval, PyFloat.divNat, PyFloat.max, PyFloat.lt, if_true]
        exact PyFloat.double_ne_nan _
      | nan =>
        rw [hnan hinterval profile (List.mem_of_getElem? hprofile)] at henabled
        cases henabled
  chosen := by simp [Scheduler.begin]
  ready := by simp [Scheduler.begin]
  last := by simp [Scheduler.begin]
  kept := by simp [Scheduler.begin]
  fair := ⟨by simp [Scheduler.begin], by simp [Scheduler.begin], by simp [Scheduler.begin]⟩

variable (s now)

/-- Otherwise the first candidate has no due time. -/
theorem candidates_nan (h : ¬Spreadable l) :
    ∃ ref, (s.scheduledAt now l).candidates.head? = some (ref, .nan) := by
  cases l with
  | nil => exact absurd (by simp [Spreadable]) h
  | cons first rest =>
    by_cases hnan : first.config.intervalS = .nan
    · have hevery : ∀ c ∈ (s.scheduledAt now (first :: rest)).candidates, c.2 = .nan := by
        intro c hc
        obtain ⟨henabled, hdue⟩ := (Service.mem_candidates c).mp hc
        obtain ⟨i, profile, -, -, -, -, hcurrent⟩ := enabled_scheduledAt henabled
        rw [hdue] at hcurrent
        simpa [stagger, hnan, PyFloat.divNat, PyFloat.max, PyFloat.lt, PyFloat.nsmul, PyFloat.add,
          PyFloat.addExact, PyFloat.rounded] using Option.some.inj hcurrent
      have hsome : ∃ p ∈ first :: rest, p.config.enabled = true := by
        by_contra hnone
        refine h fun head hhead => ?_
        obtain rfl : first = head := Option.some.inj hhead
        refine ⟨fun _ => by simp [hnan], fun _ p hp => ?_⟩
        exact Bool.eq_false_iff.mpr fun henabled => hnone ⟨p, hp, henabled⟩
      obtain ⟨p, hp, henabled⟩ := hsome
      obtain ⟨i, hi⟩ := List.mem_iff_getElem?.mp hp
      have hheap := heap_scheduledAt_of s now hi
      have hlt : i < (first :: rest).length := (List.getElem?_eq_some_iff.mp hi).choose
      have hcandidate : (s.heap.length + i, _) ∈ (s.scheduledAt now (first :: rest)).candidates :=
        (Service.mem_candidates _).mpr ⟨⟨List.mem_range'.mpr ⟨i, hlt, by rw [Nat.one_mul]⟩, p.config,
          by simp [Service.configOf, hheap], henabled⟩, by rw [Service.due, hheap]; rfl⟩
      cases hc : (s.scheduledAt now (first :: rest)).candidates with
      | nil =>
        rw [hc] at hcandidate
        cases hcandidate
      | cons c cs =>
        have hcnan := hevery c (hc ▸ List.mem_cons_self)
        exact ⟨c.1, by rw [List.head?_cons, ← hcnan]⟩
    · -- the index zero times an endless interval
      have hendless : first.config.enabled = true ∧ first.config.intervalS = .inf := by
        by_contra hfinite
        refine h fun head hhead => ?_
        obtain rfl : first = head := Option.some.inj hhead
        exact ⟨fun henabled hinf => hfinite ⟨henabled, hinf⟩, fun heq => absurd heq hnan⟩
      obtain ⟨henabled, hinf⟩ := hendless
      have hheap := heap_scheduledAt_of s now (l := first :: rest) (i := 0) rfl
      refine ⟨s.heap.length, ?_⟩
      have hprofiles : (s.scheduledAt now (first :: rest)).profiles =
          s.heap.length :: List.range' (s.heap.length + 1) rest.length := rfl
      rw [Service.candidates, hprofiles, List.filterMap_cons_some (b := (s.heap.length, PyFloat.nan))]
      · rfl
      · rw [Nat.add_zero] at hheap
        simp [hheap, henabled, stagger, hinf, PyFloat.divNat, PyFloat.max, PyFloat.lt, PyFloat.nsmul,
          PyFloat.add, PyFloat.addExact, PyFloat.rounded]

/-- The worker starts such a profile at once. -/
theorem reach_undue (h : ¬Spreadable l) :
    ∃ x, Reach Scheduler.step anyStep (.begin (s.scheduledAt now l) now) x ∧
      ∃ start ∈ x.starts, start.dues start.ref = some .nan := by
  obtain ⟨ref, hhead⟩ := candidates_nan s now h
  obtain ⟨hnext, hdue⟩ := Service.nextDueProfile_nan hhead
  let service : Service := { s.scheduledAt now l with stopEvent := false }
  let a : Answer := { oneSwitchAnswer with now }
  have hnext : service.nextDueProfile = some ref := hnext
  obtain ⟨profile, hprofile, hnan⟩ := Option.map_eq_some_iff.mp hdue
  have hprofile : service.heap[ref]? = some profile := hprofile
  have hloop : Scheduler.step ⟨service, .loop, now, []⟩ (.work a) =
      some ⟨service, .pick, now, []⟩ := by
    simp [Scheduler.step, Scheduler.startOf, Service.workerStep, a, service]
  have hpick : Scheduler.step ⟨service, .pick, now, []⟩ (.work a) =
      some ⟨service, .wait ref, now, []⟩ := by
    simp [Scheduler.step, Scheduler.startOf, Service.workerStep, a, hnext]
  have hwait : Scheduler.step ⟨service, .wait ref, now, []⟩ (.work a) =
      some ⟨service, .begin ref, now, []⟩ := by
    simp [Scheduler.step, Scheduler.startOf, Service.workerStep, a, hprofile, hnan, PyFloat.lt, service]
  have hbegin : Scheduler.step ⟨service, .begin ref, now, []⟩ (.work a) =
      some ⟨(service.update ref (Service.countRun a)).stamped a.stamp,
        .resolve ref, now, [⟨ref, now, service.due⟩]⟩ := by
    simp [Scheduler.step, Scheduler.startOf, Service.workerStep, a]
  exact ⟨_, (((Reach.start.next trivial hloop).next trivial hpick).next trivial hwait).next
    trivial hbegin, _, List.mem_singleton_self _, hdue⟩

end Initial

/-! ### The loop inside the service -/

section Inside

variable {t t' : Service} {s s' : State} {a : Answer} {pc pc' : CallPc} {tid : ℕ} {w : WorkerPc}
  {l : Label}

/-- A call that does not replace the profiles leaves them alone, and so the workers that
have been started. -/
theorem callStep_others (h : callStep t a pc = some (t', pc'))
    (hreload : ∀ settings, pc ≠ .reloadEnter settings) (hw : t.workers[tid]? = some w)
    (hstarted : w ≠ .created) :
    (t'.heap = t.heap ∧ t'.profiles = t.profiles) ∧ t'.workers[tid]? = some w := by
  have hsame : ∀ {u : Service} {p : CallPc}, some (u, p) = some (t', pc') → u.heap = t.heap →
      u.profiles = t.profiles → u.workers[tid]? = some w →
      (t'.heap = t.heap ∧ t'.profiles = t.profiles) ∧ t'.workers[tid]? = some w := by
    intro u p heq hheap hprofiles hworker
    obtain ⟨rfl, -⟩ := Prod.mk.inj (Option.some.inj heq)
    exact ⟨⟨hheap, hprofiles⟩, hworker⟩
  cases pc with
  | done | raised => cases h
  | startCheck | stopEnter | snapshot | reloadStart => exact hsame h rfl rfl hw
  | startEnter inReload =>
    simp only [callStep] at h
    split_ifs at h
    · exact hsame h rfl rfl hw
    · have hlt : tid < t.workers.length := (List.getElem?_eq_some_iff.mp hw).choose
      exact hsame h rfl rfl ((List.getElem?_append_left hlt).trans hw)
  | startLaunch target inReload =>
    simp only [callStep] at h
    split at h
    · rename_i hcreated
      have hne : target ≠ tid := by
        rintro rfl
        rw [hcreated] at hw
        exact hstarted (Option.some.inj hw).symm
      exact hsame h rfl rfl ((List.getElem?_set_ne hne).trans hw)
    · exact hsame h rfl rfl hw
  | stopJoin thread inReload =>
    simp only [callStep] at h
    split_ifs at h <;> exact hsame h rfl rfl hw
  | gather reloadSettings =>
    simp only [callStep] at h
    split at h <;> exact hsame h rfl rfl hw
  | reloadEnter settings => exact absurd rfl (hreload settings)

/-- A step of worker `tid` that does not go back in time, or one of a call that does not
replace the profiles. -/
def Besides (tid : ℕ) (clock : ℚ) (s : State) : Label → Prop
  | .enter _ => True
  | .call i _ => ∀ pc ∈ s.calls[i]?, ∀ settings, pc ≠ .reloadEnter settings
  | .worker t a => t = tid ∧ clock ≤ a.now

/-- The service seen from one of its workers. -/
theorem exists_scheduler {clock : ℚ} (h : step s l = some s') (hl : Besides tid clock s l)
    (hw : s.service.workers[tid]? = some w) (hstarted : w ≠ .created) (starts : List Start) :
    ∃ x, Reach Scheduler.step anyStep ⟨s.service, w, clock, starts⟩ x ∧ x.service = s'.service ∧
      s'.service.workers[tid]? = some x.pc := by
  have hothers : ∀ (x : Scheduler) (service : Service), service.heap = x.service.heap ∧
      service.profiles = x.service.profiles → x.step (.others service) = some { x with service } := by
    intro x service hsame
    simp [Scheduler.step, hsame]
  cases l with
  | enter call =>
    obtain rfl := Option.some.inj h
    exact ⟨_, Reach.start, rfl, hw⟩
  | call i a =>
    obtain ⟨pc, hpc, h⟩ := Option.bind_eq_some_iff.mp h
    obtain ⟨⟨service, pc'⟩, hstep, h⟩ := Option.bind_eq_some_iff.mp h
    obtain rfl := Option.some.inj h
    obtain ⟨hsame, hkept⟩ := callStep_others hstep (hl pc hpc) hw hstarted
    exact ⟨_, Reach.start.next trivial (hothers _ service hsame), rfl, hkept⟩
  | worker t a =>
    obtain ⟨rfl, hclock⟩ := hl
    obtain ⟨w', hw', h⟩ := Option.bind_eq_some_iff.mp h
    obtain rfl : w' = w := Option.some.inj (hw'.symm.trans hw)
    obtain ⟨⟨service, pc'⟩, hstep, h⟩ := Option.bind_eq_some_iff.mp h
    obtain rfl := Option.some.inj h
    have hwork : Scheduler.step ⟨s.service, w', clock, starts⟩ (.work a) = some ⟨service, pc', a.now,
        (Scheduler.startOf ⟨s.service, w', clock, starts⟩ a.now).toList ++ starts⟩ := by
      simp [Scheduler.step, hclock, hstep]
    have hlt : t < service.workers.length := by
      rw [workers_workerStep hstep]
      exact (List.getElem?_eq_some_iff.mp hw).choose
    exact ⟨_, (Reach.start.next trivial hwork).next trivial (hothers _
      { service with workers := service.workers.set t pc' } ⟨rfl, rfl⟩), rfl,
      List.getElem?_set_self hlt⟩

end Inside

/-- The schedule keeps its promises, for enabled profiles with positive intervals and whatever
the clock and the probes do, exactly when the first due times are numbers. -/
theorem schedule_fair_iff (s : Service) (now : ℚ) (l : List ProfileState)
    (hpos : ∀ p ∈ l, p.config.enabled = true → PyFloat.lt (.fin 0) p.config.intervalS = true) :
    (∀ x, Reach Scheduler.step anyStep (.begin (s.scheduledAt now l) now) x →
      Fair x.service x.starts) ↔ Spreadable l := by
  constructor
  · intro hfair
    by_contra hspread
    obtain ⟨x, hx, start, hstart, hnan⟩ := reach_undue s now hspread
    obtain ⟨d, hd, hle⟩ := (hfair x hx).due start hstart
    obtain rfl : PyFloat.nan = d := Option.some.inj (hnan.symm.trans hd)
    cases hle
  · intro hspread x hx
    have htimely : Timely x :=
      Reach.invariant (timely_begin hpos hspread) (fun _ _ _ h _ hstep => timely_step h hstep) hx
    exact htimely.fair

theorem schedule_fair_iff_default : Spreadable defaultService.service.heap ∧ ∀ x,
    Reach Scheduler.step anyStep
      (.begin (defaultService.service.scheduledAt 0 defaultService.service.heap) 0) x →
    Fair x.service x.starts := by
  have hspread : Spreadable defaultService.service.heap := by decide +kernel
  exact ⟨hspread, (schedule_fair_iff _ 0 _ (by decide +kernel)).mpr hspread⟩

def profileEvery (intervalS : PyFloat) : ProfileState where
  config := {
    name := "canary"
    requestedResourceType := .logicalSwitch
    bridge := "br-int"
    configuredTargetName := none
    intervalS
    timeoutS := .fin 15
    pollIntervalMs := 250 }

/-- Two profiles, the first with an interval that a sum with the time loses. -/
def lossyProfiles : List ProfileState := [profileEvery (.fin (1 / 2 ^ 70)), profileEvery (.fin 60)]

/-- With an endless interval the first due time is `0 * inf`, and the profile is started at once.
With an interval that is lost in rounding a profile is started twice at one time, while the other
one is due. -/
theorem endless_profile_started_undue :
    (∃ x, Reach Scheduler.step anyStep
      (.begin (defaultService.service.scheduledAt 0 [profileEvery .inf]) 0) x ∧
      ∃ start ∈ x.starts, ∀ d ∈ start.dues start.ref, PyFloat.le d (.fin start.time) = false) ∧
    ∃ x, Reach Scheduler.step anyStep
      (.begin (defaultService.service.scheduledAt 1001 lossyProfiles) 1001) x ∧
      x.starts.map (fun start => (start.ref, start.time)) = [(3, 1002), (3, 1002)] ∧
      ∀ start ∈ x.starts, start.dues 4 = some (.fin 1002) := by
  refine ⟨?_, ?_⟩
  · obtain ⟨x, hx, start, hstart, hnan⟩ :=
      reach_undue (l := [profileEvery .inf]) defaultService.service 0 (by decide +kernel)
    refine ⟨x, hx, start, hstart, ?_⟩
    intro d hd
    obtain rfl : PyFloat.nan = d := Option.some.inj (hnan.symm.trans hd)
    rfl
  · exact exists_reach_of_mem_run (List.replicate 12 (.work { oneSwitchAnswer with now := 1002 }))
      (by decide +kernel)

end OvnApi.Scheduled
