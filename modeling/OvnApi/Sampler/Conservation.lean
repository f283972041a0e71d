import Mathlib.Algebra.BigOperators.Group.List.Basic
import Mathlib.Data.List.Chain
import Mathlib.Tactic.FieldSimp
import Mathlib.Tactic.Ring
import OvnApi.Sampler.Readings

/-! CPU time over whole runs of the sampler. Each sample attributes to a process or
thread what its counters gained since the last sample that returned; a sample that
raises changes nothing, so the gains of a run add up to the difference between its ends. -/

namespace OvnApi.Sampler

open OvnApi.Core Lib

/-! ### Telescoping -/

section Telescope

variable {α G : Type} [AddCommGroup G] {R : α → α → Prop} {value gain : α → G}

/-- Gains between neighbours add up to the difference between the ends. -/
theorem sum_map_of_isChain (hR : ∀ a a', R a a' → gain a' = value a' - value a) (a : α)
    (l : List α) (h : (a :: l).IsChain R) :
    (l.map gain).sum = value (l.getLastD a) - value a := by
  induction l generalizing a with
  | nil => simp
  | cons a' l ih =>
    obtain ⟨hstep, hrest⟩ := List.isChain_cons_cons.mp h
    rw [List.map_cons, List.sum_cons, ih a' hrest, hR a a' hstep, List.getLastD_cons,
      add_comm, sub_add_sub_cancel]

omit [AddCommGroup G] in
theorem rel_of_isChain {a a' : α} {l : List α} (h : l.IsChain R) (hpair : [a, a'] <:+: l) :
    R a a' := by
  obtain ⟨before, after, rfl⟩ := hpair
  exact List.isChain_pair.mp h.left_of_append.right_of_append

end Telescope

/-! ### Runs -/

/-- The calls that return, with their snapshots. A call that raises is followed by the
next one (`_run`, `_refresh_safely`). -/
def takeSamples (settings : Settings) : Baseline → List Call → List (Call × SnapshotState)
  | _, [] => []
  | b, call :: calls =>
    match collectSnapshot settings call b with
    | (.ok snapshot, b') => (call, snapshot) :: takeSamples settings b' calls
    | (.raised _, b') | (.outOfFuel, b') => takeSamples settings b' calls

/-- The baseline holds what was read in this call. -/
structure Baseline.From (settings : Settings) (call : Call) (b : Baseline) : Prop where
  prevTs : b.prevTs = some call.now
  process : ∀ key, b.prevProcessTimes.lookup key = processTimes settings call.procfs key
  thread : ∀ key, b.prevThreadTimes.lookup key = threadTimes settings call.procfs key

/-- The second sample was taken with the first as its baseline, at a later time. -/
def Follows (settings : Settings) (c c' : Call × SnapshotState) : Prop :=
  c.1.now < c'.1.now ∧ ∃ b b' listing samples, b.From settings c.1 ∧
    Taken settings c'.1 b c'.2 b' listing samples

section Runs

variable {settings : Settings}

theorem Taken.baseline {call : Call} {b b' : Baseline} {snapshot : SnapshotState}
    {listing : Listing} {samples : List ProcessSample}
    (h : Taken settings call b snapshot b' listing samples) : b'.From settings call :=
  ⟨h.prevTs, h.lookup_process, h.lookup_thread⟩

/-- Each sample of a run follows the one before it. -/
theorem isChain_takeSamples (b : Baseline) (calls : List Call)
    (hclock : (calls.map Call.now).Pairwise (· < ·)) :
    (takeSamples settings b calls).IsChain (Follows settings) ∧
      ∀ call, b.From settings call → (∀ call' ∈ calls, call.now < call'.now) →
        ∀ c ∈ (takeSamples settings b calls).head?, ∀ snapshot,
          Follows settings (call, snapshot) c := by
  induction calls generalizing b with
  | nil => exact ⟨.nil, fun _ _ _ _ h => by cases h⟩
  | cons call calls ih =>
    rw [List.map_cons, List.pairwise_cons] at hclock
    have hlater : ∀ call' ∈ calls, call.now < call'.now := fun call' h =>
      hclock.1 _ (List.mem_map_of_mem h)
    rcases collectSnapshot_cases settings call b with ⟨e, hrun⟩ | ⟨snapshot, b', listing, samples, h⟩
    · -- the baseline is still the one of the last sample
      simp only [takeSamples, hrun]
      obtain ⟨hchain, hfirst⟩ := ih b hclock.2
      exact ⟨hchain, fun prev hfrom hprev => hfirst prev hfrom fun call' hcall' =>
        hprev call' (List.mem_cons_of_mem _ hcall')⟩
    · obtain ⟨hrun, htaken⟩ := h
      simp only [takeSamples, hrun]
      obtain ⟨hchain, hfirst⟩ := ih b' hclock.2
      constructor
      · refine List.isChain_cons.mpr ⟨fun c hc => ?_, hchain⟩
        exact hfirst call htaken.baseline hlater c hc snapshot
      · intro prev hfrom hprev c hc shown
        cases hc
        exact ⟨hprev call List.mem_cons_self, b, b', listing, samples, hfrom, htaken⟩

end Runs

/-! ### Meters -/

/-- A process or thread that is followed over a run: what is read of it in a sample, and
the usages a snapshot shows for it. -/
structure Meter where
  reading : Procfs → Option Times
  shown : SnapshotState → List Usage

def processMeter (settings : Settings) (key : ProcessKey) : Meter where
  reading fs := processTimes settings fs key
  shown snapshot := processUsages snapshot key.1

def threadMeter (settings : Settings) (key : ThreadKey) : Meter where
  reading fs := threadTimes settings fs key
  shown snapshot := threadUsages snapshot key.1 key.2.1

def kernelMeter (settings : Settings) (key : ProcessKey) : Meter where
  reading fs := kernelTimes settings fs key
  shown snapshot := threadUsages snapshot key.1 key.1

/-- The ticks that these usages stand for: `pct * elapsed_s * clock_ticks / 100`. -/
def ticksOf (settings : Settings) (part : Usage → ℚ) (snapshot : SnapshotState)
    (usages : List Usage) : ℚ :=
  (usages.map fun usage => part usage * snapshot.elapsedS * settings.clockTicks / 100).sum

/-- Read in every sample, with counters that do not go back. -/
structure Meter.Steady (m : Meter) (taken : List (Call × SnapshotState)) : Prop where
  read : ∀ c ∈ taken, (m.reading c.1.procfs).isSome = true
  mono : taken.Pairwise fun c c' => ∀ t ∈ m.reading c.1.procfs, ∀ t' ∈ m.reading c'.1.procfs,
    t.1 ≤ t'.1 ∧ t.2 ≤ t'.2

/-- The ticks shown over the samples after the first are those between the ends. -/
def Meter.Conserves (m : Meter) (settings : Settings) (first : Call × SnapshotState)
    (rest : List (Call × SnapshotState)) : Prop :=
  ∀ t t', m.reading first.1.procfs = some t → m.reading (rest.getLastD first).1.procfs = some t' →
    (rest.map fun c => ticksOf settings Usage.userPct c.2 (m.shown c.2)).sum = t'.1 - t.1 ∧
    (rest.map fun c => ticksOf settings Usage.systemPct c.2 (m.shown c.2)).sum = t'.2 - t.2

/-- Of two successive samples that both read it, the second shows its usage since the
first. -/
def Meter.Faithful (m : Meter) (settings : Settings) : Prop :=
  ∀ c c' t t', Follows settings c c' → m.reading c.1.procfs = some t →
    m.reading c'.1.procfs = some t' →
    c'.2.elapsedS = c'.1.now - c.1.now ∧
      m.shown c'.2 = [calculateUsage settings.clockTicks (some t) t'.1 t'.2 c'.2.elapsedS]

section Meters

variable {settings : Settings} {c c' : Call × SnapshotState}

theorem elapsedSince_of_lt {ts now : ℚ} (h : ts < now) : elapsedSince (some ts) now = now - ts :=
  max_eq_left (sub_nonneg.mpr h.le)

theorem map_filter_eq_some {α β : Type} {o : Option α} {p : α → Bool} {f : α → β} {b : β}
    (h : (o.filter p).map f = some b) : ∃ a, o = some a ∧ p a = true ∧ f a = b := by
  obtain ⟨a, ha, hf⟩ := Option.map_eq_some_iff.mp h
  exact ⟨a, (Option.filter_eq_some_iff.mp ha).1, (Option.filter_eq_some_iff.mp ha).2, hf⟩

theorem processTimes_of_kernelTimes {fs : Procfs} {key : ProcessKey} {t : Times}
    (h : kernelTimes settings fs key = some t) : processTimes settings fs key = some t := by
  obtain ⟨⟨stat, identity⟩, hread, hkernel, htimes⟩ := map_filter_eq_some h
  simp only [Bool.and_eq_true, decide_eq_true_eq] at hkernel
  simp [processTimes, hread, hkernel, htimes]

theorem Follows.elapsedS (h : Follows settings c c') : c'.2.elapsedS = c'.1.now - c.1.now := by
  obtain ⟨hlt, b, b', listing, samples, hfrom, htaken⟩ := h
  rw [htaken.elapsedS, hfrom.prevTs, elapsedSince_of_lt hlt]

/-- A process that is read is shown with its usage since the sample before. -/
theorem Follows.processUsages {key : ProcessKey} {t' : Times} (h : Follows settings c c')
    (ht' : processTimes settings c'.1.procfs key = some t') :
    processUsages c'.2 key.1 = [calculateUsage settings.clockTicks
      (processTimes settings c.1.procfs key) t'.1 t'.2 c'.2.elapsedS] := by
  obtain ⟨-, b, b', listing, samples, hfrom, htaken⟩ := h
  obtain ⟨⟨stat, identity⟩, hread, hstart, rfl⟩ := map_filter_eq_some ht'
  rw [htaken.processUsages_eq hread, processUsage, of_decide_eq_true hstart, hfrom.process,
    ← htaken.elapsedS]
  rfl

theorem Follows.threadUsages {key : ThreadKey} {t' : Times} (h : Follows settings c c')
    (ht' : threadTimes settings c'.1.procfs key = some t') :
    threadUsages c'.2 key.1 key.2.1 = [calculateUsage settings.clockTicks
      (threadTimes settings c.1.procfs key) t'.1 t'.2 c'.2.elapsedS] := by
  obtain ⟨-, b, b', listing, samples, hfrom, htaken⟩ := h
  obtain ⟨task, hread, hstart, rfl⟩ := map_filter_eq_some ht'
  rw [htaken.threadUsages_eq hread, threadUsage, of_decide_eq_true hstart, hfrom.thread,
    ← htaken.elapsedS]
  rfl

theorem Follows.kernelUsages {key : ProcessKey} {t' : Times} (h : Follows settings c c')
    (ht' : kernelTimes settings c'.1.procfs key = some t') :
    Sampler.threadUsages c'.2 key.1 key.1 = [calculateUsage settings.clockTicks
      (processTimes settings c.1.procfs key) t'.1 t'.2 c'.2.elapsedS] := by
  obtain ⟨-, b, b', listing, samples, hfrom, htaken⟩ := h
  obtain ⟨⟨stat, identity⟩, hread, hkernel, rfl⟩ := map_filter_eq_some ht'
  simp only [Bool.and_eq_true, decide_eq_true_eq] at hkernel
  rw [htaken.kernelUsages_eq hread hkernel.1, processUsage, hkernel.2, hfrom.process,
    ← htaken.elapsedS]
  rfl

theorem processMeter_faithful (key : ProcessKey) : (processMeter settings key).Faithful settings := by
  intro c c' t t' h ht ht'
  refine ⟨h.elapsedS, (h.processUsages ht').trans ?_⟩
  rw [show processTimes settings c.1.procfs key = some t from ht]

theorem threadMeter_faithful (key : ThreadKey) : (threadMeter settings key).Faithful settings := by
  intro c c' t t' h ht ht'
  refine ⟨h.elapsedS, (h.threadUsages ht').trans ?_⟩
  rw [show threadTimes settings c.1.procfs key = some t from ht]

theorem kernelMeter_faithful (key : ProcessKey) : (kernelMeter settings key).Faithful settings := by
  intro c c' t t' h ht ht'
  refine ⟨h.elapsedS, (h.kernelUsages ht').trans ?_⟩
  rw [processTimes_of_kernelTimes ht]

end Meters

/-! ### Conservation -/

section Conservation

variable {settings : Settings}

/-- The ticks of one usage are those the counters gained. -/
theorem ticksOf_calculateUsage {snapshot : SnapshotState} {t t' : Times}
    (helapsed : 0 < snapshot.elapsedS) (huser : t.1 ≤ t'.1) (hsystem : t.2 ≤ t'.2) :
    ticksOf settings Usage.userPct snapshot
        [calculateUsage settings.clockTicks (some t) t'.1 t'.2 snapshot.elapsedS] = t'.1 - t.1 ∧
      ticksOf settings Usage.systemPct snapshot
        [calculateUsage settings.clockTicks (some t) t'.1 t'.2 snapshot.elapsedS] = t'.2 - t.2 := by
  have hticks : (settings.clockTicks : ℚ) ≠ 0 := by
    exact_mod_cast settings.clockTicks_pos.ne'
  have helapsed' := helapsed.ne'
  simp only [ticksOf, calculateUsage, if_neg (not_le.mpr helapsed), List.map_cons, List.map_nil,
    List.sum_cons, List.sum_nil, max_eq_right (sub_nonneg.mpr huser),
    max_eq_right (sub_nonneg.mpr hsystem)]
  push_cast
  constructor <;> field_simp <;> ring

/-- Between two successive samples the ticks shown are those gained. -/
theorem Meter.Faithful.gain {m : Meter} (h : m.Faithful settings) {c c' : Call × SnapshotState}
    {taken : List (Call × SnapshotState)} (hchain : taken.IsChain (Follows settings))
    (hsteady : m.Steady taken) (hpair : [c, c'] <:+: taken) :
    ∃ t t', m.reading c.1.procfs = some t ∧ m.reading c'.1.procfs = some t' ∧
      ticksOf settings Usage.userPct c'.2 (m.shown c'.2) = t'.1 - t.1 ∧
      ticksOf settings Usage.systemPct c'.2 (m.shown c'.2) = t'.2 - t.2 := by
  have hfollows : Follows settings c c' := rel_of_isChain hchain hpair
  obtain ⟨t, ht⟩ := Option.isSome_iff_exists.mp (hsteady.read c (hpair.subset (by simp)))
  obtain ⟨t', ht'⟩ := Option.isSome_iff_exists.mp (hsteady.read c' (hpair.subset (by simp)))
  have hmono := List.pairwise_pair.mp (hsteady.mono.sublist hpair.sublist) t ht t' ht'
  obtain ⟨helapsed, hshown⟩ := h c c' t t' hfollows ht ht'
  have hpos : 0 < c'.2.elapsedS := helapsed ▸ sub_pos.mpr hfollows.1
  refine ⟨t, t', ht, ht', ?_⟩
  rw [hshown]
  exact ticksOf_calculateUsage hpos hmono.1 hmono.2

theorem Meter.Faithful.conserves {m : Meter} (h : m.Faithful settings)
    {first : Call × SnapshotState} {rest : List (Call × SnapshotState)}
    (hchain : (first :: rest).IsChain (Follows settings)) (hsteady : m.Steady (first :: rest)) :
    m.Conserves settings first rest := by
  intro t t' ht ht'
  -- the counters as a function of the sample
  let user : Call × SnapshotState → ℚ := fun c => ((m.reading c.1.procfs).getD (0, 0)).1
  let system : Call × SnapshotState → ℚ := fun c => ((m.reading c.1.procfs).getD (0, 0)).2
  have hgain : (first :: rest).IsChain fun c c' =>
      ticksOf settings Usage.userPct c'.2 (m.shown c'.2) = user c' - user c ∧
        ticksOf settings Usage.systemPct c'.2 (m.shown c'.2) = system c' - system c := by
    refine (List.isChain_isInfix _).imp fun c c' hpair => ?_
    obtain ⟨s, s', hs, hs', hgain⟩ := h.gain hchain hsteady hpair
    simpa [user, system, hs, hs'] using hgain
  have huser := sum_map_of_isChain (fun _ _ hR => hR.1) first rest hgain
  have hsystem := sum_map_of_isChain (fun _ _ hR => hR.2) first rest hgain
  simp only [user, system, ht, ht', Option.getD_some] at huser hsystem
  exact ⟨huser, hsystem⟩

/-- CPU time is conserved over every run of the sampler, whatever calls raise: for a
process, a thread and a kernel thread that is read in every sample, the ticks shown after
the first sample are those its counters gained. What was not read in the sample before,
such as a process or thread that has taken over the ids of another, is shown with no
usage. -/
theorem cpu_time_conserved (settings : Settings) (b : Baseline) (calls : List Call)
    (hclock : (calls.map Call.now).Pairwise (· < ·)) (first : Call × SnapshotState)
    (rest : List (Call × SnapshotState)) (htaken : takeSamples settings b calls = first :: rest) :
    (∀ key, (processMeter settings key).Steady (first :: rest) →
      (processMeter settings key).Conserves settings first rest) ∧
    (∀ key, (threadMeter settings key).Steady (first :: rest) →
      (threadMeter settings key).Conserves settings first rest) ∧
    (∀ key, (kernelMeter settings key).Steady (first :: rest) →
      (kernelMeter settings key).Conserves settings first rest) ∧
    ∀ c c', [c, c'] <:+: first :: rest →
      (∀ key, processTimes settings c.1.procfs key = none →
        ((processTimes settings c'.1.procfs key).isSome = true →
          processUsages c'.2 key.1 = [⟨0, 0, 0⟩]) ∧
        ((kernelTimes settings c'.1.procfs key).isSome = true →
          threadUsages c'.2 key.1 key.1 = [⟨0, 0, 0⟩])) ∧
      ∀ key, threadTimes settings c.1.procfs key = none →
        (threadTimes settings c'.1.procfs key).isSome = true →
        threadUsages c'.2 key.1 key.2.1 = [⟨0, 0, 0⟩] := by
  have hchain : (takeSamples settings b calls).IsChain (Follows settings) :=
    (isChain_takeSamples b calls hclock).1
  rw [htaken] at hchain
  refine ⟨fun key => (processMeter_faithful key).conserves hchain,
    fun key => (threadMeter_faithful key).conserves hchain,
    fun key => (kernelMeter_faithful key).conserves hchain, fun c c' hpair => ?_⟩
  have hfollows : Follows settings c c' := rel_of_isChain hchain hpair
  refine ⟨fun key hnone => ⟨fun hread => ?_, fun hread => ?_⟩, fun key hnone hread => ?_⟩
  · obtain ⟨t, ht⟩ := Option.isSome_iff_exists.mp hread
    rw [hfollows.processUsages ht, hnone]
    rfl
  · obtain ⟨t, ht⟩ := Option.isSome_iff_exists.mp hread
    rw [hfollows.kernelUsages ht, hnone]
    rfl
  · obtain ⟨t, ht⟩ := Option.isSome_iff_exists.mp hread
    rw [hfollows.threadUsages ht, hnone]
    rfl

end Conservation

/-! ### A run with a failing call -/

theorem sampleTicks_pos : 0 < 100 := by decide

def sampleSettings : Settings where
  enableKernelThreads := true
  softirqNames := ["NET_RX", "NET_TX"]
  userProcessNames := ["ovs-vswitchd"]
  cpuCount := 2
  clockTicks := 100
  clockTicks_pos := sampleTicks_pos

def switchdStat (utime stime : ℤ) : SchedEntityStat where
  pid := 100
  comm := "ovs-vswitchd"
  state := "S"
  ppid := 1
  utime := utime
  stime := stime
  numThreads := 1
  starttime := 1000

def switchdListing : Listing := ⟨[100], List.nodup_singleton 100⟩

/-- One process with one thread, and what `/proc/softirqs` answers. -/
def switchdProcfs (softirqs : Except ReadError Softirqs) (utime stime : ℤ) : Procfs where
  readSystemCpu := .ok
    { user := 100, nice := 0, system := 100, idle := 1000, iowait := 0, irq := 0, softirq := 0,
      steal := 0 }
  readSoftirqs := softirqs
  readLoadavg := .ok (1 / 2, 1 / 4, 1 / 10)
  listPids := .ok switchdListing
  readProcessStat _ := .ok (switchdStat utime stime)
  readCmdline _ := .ok "ovs-vswitchd"
  listTaskIds _ := .ok switchdListing
  readTaskStat _ _ := .ok (switchdStat utime stime)
  readWchan _ _ := .ok none

def threeCalls : List Call :=
  [⟨1, "t1", switchdProcfs (.ok []) 100 50⟩,
   ⟨2, "t2", switchdProcfs (.error (.osError "[Errno 5] Input/output error")) 110 60⟩,
   ⟨3, "t3", switchdProcfs (.ok []) 130 70⟩]

theorem cpu_time_conserved_failed_call :
    ∃ first last, takeSamples sampleSettings {} threeCalls = [first, last] ∧
      ticksOf sampleSettings Usage.userPct last.2 (processUsages last.2 100) = 30 ∧
      ticksOf sampleSettings Usage.systemPct last.2 (processUsages last.2 100) = 20 := by
  have hread : (takeSamples sampleSettings {} threeCalls).map
      (fun c => processTimes sampleSettings c.1.procfs (100, 1000)) =
        [some (100, 50), some (130, 70)] := by decide +kernel
  have hclock : (threeCalls.map Call.now).Pairwise (· < ·) := by decide +kernel
  rcases htaken : takeSamples sampleSettings {} threeCalls with _ | ⟨first, _ | ⟨last, _ | _⟩⟩ <;>
    simp only [htaken, List.map_nil, List.map_cons, List.cons.injEq, reduceCtorEq, and_true,
      and_false] at hread
  obtain ⟨hfirst, hlast⟩ := hread
  have hsteady : (processMeter sampleSettings (100, 1000)).Steady [first, last] := by
    constructor
    · simp [processMeter, hfirst, hlast]
    · simp [processMeter, hfirst, hlast]
  have hsum := (cpu_time_conserved sampleSettings {} threeCalls hclock first [last] htaken).1
    (100, 1000) hsteady (100, 50) (130, 70) hfirst hlast
  refine ⟨first, last, rfl, ?_⟩
  norm_num [processMeter] at hsum
  exact hsum

end OvnApi.Sampler
