import OvnApi.Sampler.Conservation

/-! One process cannot disturb the sample of another. What a sample shows for a process
depends on the reads that concern it and on its own entries in the baseline; these hold
only what was read of it before. So two runs that agree on the clock and on these reads
show the same, whatever the reads of the other processes answer. -/

namespace OvnApi.Sampler

open OvnApi.Core Lib

/-- The two sides answer all reads that concern the process in the same way. -/
structure SameReads (pid : ℕ) (fs fs' : Procfs) : Prop where
  listed : ∀ listing listing', fs.listPids = .ok listing → fs'.listPids = .ok listing' →
    (pid ∈ listing.ids ↔ pid ∈ listing'.ids)
  stat : fs.readProcessStat pid = fs'.readProcessStat pid
  cmdline : fs.readCmdline pid = fs'.readCmdline pid
  tasks : fs.listTaskIds pid = fs'.listTaskIds pid
  taskStat : ∀ tid, fs.readTaskStat pid tid = fs'.readTaskStat pid tid
  wchan : ∀ tid, fs.readWchan pid tid = fs'.readWchan pid tid

/-- Two calls at the same time that read the same of the process. -/
structure SameCall (pid : ℕ) (call call' : Call) : Prop where
  now : call.now = call'.now
  reads : SameReads pid call.procfs call'.procfs

/-- The baselines agree on the time of the last sample and on the process. -/
structure Baseline.Agree (pid : ℕ) (b b' : Baseline) : Prop where
  prevTs : b.prevTs = b'.prevTs
  process : ∀ start, b.prevProcessTimes.lookup (pid, start) =
    b'.prevProcessTimes.lookup (pid, start)
  thread : ∀ tid start, b.prevThreadTimes.lookup (pid, tid, start) =
    b'.prevThreadTimes.lookup (pid, tid, start)

def processRecords (snapshot : SnapshotState) (pid : ℕ) : List ProcessRecord :=
  snapshot.processes.filter fun record => record.pid = pid

/-! ### A turn of the loop -/

section Turn

variable {settings : Settings} {b b' : Baseline} {fs fs' : Procfs} {pid : ℕ}

theorem taskIds_congr (hreads : SameReads pid fs fs') : taskIds fs pid = taskIds fs' pid := by
  unfold taskIds
  rw [hreads.tasks]

theorem sampleThread_congr (hreads : SameReads pid fs fs') (hb : Baseline.Agree pid b b')
    (elapsedS : ℚ) (stat : SchedEntityStat) (identity : ProcessIdentity) :
    sampleThread settings b elapsedS fs stat identity pid =
      sampleThread settings b' elapsedS fs' stat identity pid := by
  funext tid
  simp only [sampleThread, hreads.taskStat, hreads.wchan, hb.thread]

theorem sampleRead_congr (hreads : SameReads pid fs fs') (hb : Baseline.Agree pid b b')
    (elapsedS : ℚ) (stat : SchedEntityStat) (cmdline : String) :
    sampleRead settings b elapsedS fs pid stat cmdline =
      sampleRead settings b' elapsedS fs' pid stat cmdline := by
  simp only [sampleRead, sampleTasks, threadRecords, taskIds_congr hreads,
    sampleThread_congr hreads hb, hreads.wchan, hb.process]

theorem sampleProcess_congr (hreads : SameReads pid fs fs') (hb : Baseline.Agree pid b b')
    (elapsedS : ℚ) :
    sampleProcess settings b elapsedS fs pid = sampleProcess settings b' elapsedS fs' pid := by
  simp only [sampleProcess, hreads.stat, hreads.cmdline, sampleRead_congr hreads hb]

end Turn

/-! ### A sample -/

section Sample

variable {settings : Settings} {call call' : Call} {b₁ b₂ b₁' b₂' : Baseline}
  {snapshot snapshot' : SnapshotState} {listing listing' : Listing}
  {samples samples' : List ProcessSample} {pid : ℕ}

/-- A snapshot shows of a process what its own turn keeps. -/
theorem Taken.processRecords_eq (ht : Taken settings call b₁ snapshot b₂ listing samples)
    (pid : ℕ) :
    (pid ∉ listing.ids → processRecords snapshot pid = []) ∧
      (pid ∈ listing.ids → ∀ kept,
        sampleProcess settings b₁ (elapsedSince b₁.prevTs call.now) call.procfs pid = .ok kept →
          processRecords snapshot pid = kept.toList.map ProcessSample.record) := by
  have htag : ∀ pid ∈ listing.ids, ∀ sample, sampleProcess settings b₁
      (elapsedSince b₁.prevTs call.now) call.procfs pid = .ok (some sample) →
        sample.record.pid = pid := by
    intro pid hpid sample hturn
    rcases sampleProcess_ok ht.listed hpid hturn with ⟨hnone, -⟩ | ⟨stat, identity, sample', h⟩
    · cases hnone
    · obtain ⟨-, hsame, hof⟩ := h
      cases hsame
      exact hof.record_pid
  obtain ⟨hout, hin⟩ := filter_collect htag listing.nodup ht.collected pid
  have hperm : (processRecords snapshot pid).Perm
      ((samples.filter fun sample => sample.record.pid = pid).map ProcessSample.record) := by
    have hfilter := ht.processes.filter fun record : ProcessRecord => decide (record.pid = pid)
    rw [List.filter_map] at hfilter
    exact hfilter
  constructor
  · intro hpid
    rw [hout hpid] at hperm
    exact hperm.eq_nil
  · intro hpid kept hkept
    rw [hin hpid kept hkept] at hperm
    cases kept with
    | none => exact hperm.eq_nil
    | some sample => exact List.perm_singleton.mp hperm

theorem readProcess_congr {fs fs' : Procfs} (hreads : SameReads pid fs fs')
    (hlisting : fs.listPids = .ok listing) (hlisting' : fs'.listPids = .ok listing') :
    readProcess settings fs pid = readProcess settings fs' pid := by
  have hlisted := hreads.listed _ _ hlisting hlisting'
  unfold readProcess
  rw [hlisting, hlisting', hreads.stat, hreads.cmdline]
  cases fs'.readProcessStat pid with
  | error e => rfl
  | ok stat =>
    cases fs'.readCmdline pid with
    | error e => rfl
    | ok cmdline => simp only [hlisted]

theorem readThread_congr {fs fs' : Procfs} (hreads : SameReads pid fs fs')
    (hlisting : fs.listPids = .ok listing) (hlisting' : fs'.listPids = .ok listing') (tid : ℕ) :
    readThread settings fs pid tid = readThread settings fs' pid tid := by
  simp only [readThread, readProcess_congr hreads hlisting hlisting', taskIds_congr hreads,
    hreads.taskStat]

/-- Samples that agree before show the same of the process and agree afterwards. -/
theorem Taken.agree (ht : Taken settings call b₁ snapshot b₂ listing samples)
    (ht' : Taken settings call' b₁' snapshot' b₂' listing' samples')
    (hcall : SameCall pid call call') (hb : Baseline.Agree pid b₁ b₁') :
    processRecords snapshot pid = processRecords snapshot' pid ∧ Baseline.Agree pid b₂ b₂' := by
  have hlisted := hcall.reads.listed _ _ ht.listed ht'.listed
  constructor
  · obtain ⟨hout, hin⟩ := ht.processRecords_eq pid
    obtain ⟨hout', hin'⟩ := ht'.processRecords_eq pid
    by_cases hpid : pid ∈ listing.ids
    · obtain ⟨kept, hkept⟩ := turn_of_collect ht.collected hpid
      rw [hin hpid kept hkept, hin' (hlisted.mp hpid) kept]
      rw [← hkept, sampleProcess_congr hcall.reads hb, hb.prevTs, hcall.now]
    · rw [hout hpid, hout' (hlisted.not.mp hpid)]
  · constructor
    · rw [ht.prevTs, ht'.prevTs, hcall.now]
    · intro start
      rw [ht.lookup_process, ht'.lookup_process, processTimes, processTimes,
        readProcess_congr hcall.reads ht.listed ht'.listed]
    · intro tid start
      rw [ht.lookup_thread, ht'.lookup_thread, threadTimes, threadTimes,
        readThread_congr hcall.reads ht.listed ht'.listed]

end Sample

/-! ### Whole runs -/

section Run

variable {settings : Settings}

theorem length_takeSamples_le (b : Baseline) (calls : List Call) :
    (takeSamples settings b calls).length ≤ calls.length := by
  induction calls generalizing b with
  | nil => exact le_rfl
  | cons call calls ih =>
    rcases collectSnapshot_cases settings call b with ⟨e, hrun⟩ | ⟨snapshot, b', listing, samples, h⟩
    · simp only [takeSamples, hrun, List.length_cons]
      exact (ih b).trans (Nat.le_succ _)
    · simp only [takeSamples, h.1, List.length_cons]
      exact Nat.succ_le_succ (ih b')

/-- The first call of a run in which no call raises. -/
theorem takeSamples_cons_of_length {b : Baseline} {call : Call} {calls : List Call}
    (hall : (takeSamples settings b (call :: calls)).length = (call :: calls).length) :
    ∃ snapshot b' listing samples, Taken settings call b snapshot b' listing samples ∧
      takeSamples settings b (call :: calls) = (call, snapshot) :: takeSamples settings b' calls ∧
      (takeSamples settings b' calls).length = calls.length := by
  rcases collectSnapshot_cases settings call b with ⟨e, hrun⟩ | ⟨snapshot, b', listing, samples, h⟩
  · simp only [takeSamples, hrun, List.length_cons] at hall
    have hle : (takeSamples settings b calls).length ≤ calls.length :=
      length_takeSamples_le b calls
    omega
  · have hcons : takeSamples settings b (call :: calls) =
        (call, snapshot) :: takeSamples settings b' calls := by simp only [takeSamples, h.1]
    refine ⟨snapshot, b', listing, samples, h.2, hcons, ?_⟩
    simpa [hcons] using hall

theorem forall₂_takeSamples {pid : ℕ} {calls calls' : List Call}
    (hcalls : List.Forall₂ (SameCall pid) calls calls') (b b' : Baseline)
    (hb : Baseline.Agree pid b b')
    (hall : (takeSamples settings b calls).length = calls.length)
    (hall' : (takeSamples settings b' calls').length = calls'.length) :
    List.Forall₂ (fun c c' => processRecords c.2 pid = processRecords c'.2 pid)
      (takeSamples settings b calls) (takeSamples settings b' calls') := by
  -- on the calls, with baselines that agree on the process
  induction hcalls generalizing b b' with
  | nil => exact .nil
  | cons hcall _ ih =>
    obtain ⟨snapshot, b₂, listing, samples, ht, hrun, hall⟩ := takeSamples_cons_of_length hall
    obtain ⟨snapshot', b₂', listing', samples', ht', hrun', hall'⟩ :=
      takeSamples_cons_of_length hall'
    obtain ⟨hsame, hb⟩ := ht.agree ht' hcall hb
    rw [hrun, hrun']
    exact .cons hsame (ih b₂ b₂' hb hall hall')

/-- Two runs from the same baseline with the same clock, in which no call raises and all
reads that concern a process answer the same, show the same of it in every snapshot: the
record with its threads and usages, or none in both. -/
theorem process_sample_independent (settings : Settings) (b : Baseline) (pid : ℕ)
    (calls calls' : List Call) (hcalls : List.Forall₂ (SameCall pid) calls calls')
    (hall : (takeSamples settings b calls).length = calls.length)
    (hall' : (takeSamples settings b calls').length = calls'.length) :
    List.Forall₂ (fun c c' => processRecords c.2 pid = processRecords c'.2 pid)
      (takeSamples settings b calls) (takeSamples settings b calls') :=
  forall₂_takeSamples hcalls b b ⟨rfl, fun _ => rfl, fun _ _ => rfl⟩ hall hall'

end Run

/-! ### Another process that cannot be read -/

theorem crowdedListing_nodup : [200, 100].Nodup := by decide

/-- The same process, after another one whose `stat` is malformed. -/
def crowdedProcfs (utime stime : ℤ) : Procfs :=
  { switchdProcfs (.ok []) utime stime with
    listPids := .ok ⟨[200, 100], crowdedListing_nodup⟩
    readProcessStat := fun pid =>
      if pid = 100 then .ok (switchdStat utime stime)
      else .error (.valueError "Malformed stat line: ''") }

def quietCalls : List Call :=
  [⟨1, "t1", switchdProcfs (.ok []) 100 50⟩, ⟨2, "t2", switchdProcfs (.ok []) 130 70⟩]

def crowdedCalls : List Call :=
  [⟨1, "t1", switchdProcfs (.ok []) 100 50⟩, ⟨2, "t2", crowdedProcfs 130 70⟩]

theorem crowded_sameReads (utime stime : ℤ) :
    SameReads 100 (switchdProcfs (.ok []) utime stime) (crowdedProcfs utime stime) where
  listed := by
    intro listing listing' h h'
    cases h
    cases h'
    decide
  stat := rfl
  cmdline := rfl
  tasks := rfl
  taskStat _ := rfl
  wchan _ := rfl

theorem process_sample_independent_crowded :
    List.Forall₂ (fun c c' => processRecords c.2 100 = processRecords c'.2 100)
      (takeSamples sampleSettings {} quietCalls) (takeSamples sampleSettings {} crowdedCalls) := by
  apply process_sample_independent sampleSettings {} 100 quietCalls crowdedCalls
  · refine .cons ⟨rfl, ?_⟩ (.cons ⟨rfl, crowded_sameReads 130 70⟩ .nil)
    exact ⟨fun listing listing' h h' => by cases h.symm.trans h'; rfl, rfl, rfl, rfl,
      fun _ => rfl, fun _ => rfl⟩
  · decide +kernel
  · decide +kernel

end OvnApi.Sampler
