import OvnApi.Sampler.Snapshot

/-! What one sample reads, and what it makes of that. The readings are given by the
answers of procfs alone: a process is read in a sample if it is listed, its `stat` and
`cmdline` can be read and it is classified; a thread of it if it is listed and its own
`stat` can be read. The snapshot shows one record for each, with the usage since the
baseline, and the new baseline holds exactly the times read. -/

namespace OvnApi.Sampler

open OvnApi.Core Lib

/-! ### Readings -/

section Readings

variable (settings : Settings) (fs : Procfs)

def readProcess (pid : ℕ) : Option (SchedEntityStat × ProcessIdentity) :=
  match fs.listPids, fs.readProcessStat pid, fs.readCmdline pid with
  | .ok listing, .ok stat, .ok cmdline =>
    if pid ∈ listing.ids then
      (classifyProcess settings stat cmdline).map fun identity => (stat, identity)
    else none
  | _, _, _ => none

/-- The thread as it is read in the sample; the threads of a kernel process are not. -/
def readThread (pid tid : ℕ) : Option SchedEntityStat :=
  (readProcess settings fs pid).bind fun read =>
    match taskIds fs pid, fs.readTaskStat pid tid with
    | .ok tids, .ok task => if !read.2.isKernel && tid ∈ tids then some task else none
    | _, _ => none

def SchedEntityStat.times (stat : SchedEntityStat) : Times := (stat.utime, stat.stime)

def processTimes (key : ProcessKey) : Option Times :=
  ((readProcess settings fs key.1).filter fun read => read.1.starttime = key.2).map
    fun read => read.1.times

def threadTimes (key : ThreadKey) : Option Times :=
  ((readThread settings fs key.1 key.2.1).filter fun task => task.starttime = key.2.2).map
    SchedEntityStat.times

def kernelTimes (key : ProcessKey) : Option Times :=
  ((readProcess settings fs key.1).filter fun read =>
    read.2.isKernel && read.1.starttime = key.2).map fun read => read.1.times

end Readings

/-! ### Turns of the loops -/

section Turns

variable {settings : Settings} {prev : Baseline} {elapsedS : ℚ} {fs : Procfs}
  {stat : SchedEntityStat} {identity : ProcessIdentity} {pid tid : ℕ}

theorem skipping_ok {α : Type} {x : Except ReadError α} {kept : Option α}
    (h : skipping x = .ok kept) : kept = x.toOption := by
  cases x with
  | ok a =>
    cases h
    rfl
  | error e =>
    simp only [skipping] at h
    split_ifs at h
    cases h
    rfl

def threadUsage (settings : Settings) (prev : Baseline) (elapsedS : ℚ) (pid tid : ℕ)
    (task : SchedEntityStat) : Usage :=
  calculateUsage settings.clockTicks (prev.prevThreadTimes.lookup (pid, tid, task.starttime))
    task.utime task.stime elapsedS

def processUsage (settings : Settings) (prev : Baseline) (elapsedS : ℚ) (pid : ℕ)
    (stat : SchedEntityStat) : Usage :=
  calculateUsage settings.clockTicks (prev.prevProcessTimes.lookup (pid, stat.starttime))
    stat.utime stat.stime elapsedS

/-- The sample of a task: its entry in the dictionary, and a record with its usage. -/
structure ThreadSample.Of (settings : Settings) (prev : Baseline) (elapsedS : ℚ) (pid tid : ℕ)
    (task : SchedEntityStat) (sample : ThreadSample) : Prop where
  key : sample.key = (pid, tid, task.starttime)
  times : sample.times = task.times
  ids : (sample.record.pid, sample.record.tid) = (pid, tid)
  cpu : sample.record.cpu = threadUsage settings prev elapsedS pid tid task

theorem sampleThread_ok {kept : Option ThreadSample}
    (h : sampleThread settings prev elapsedS fs stat identity pid tid = .ok kept) :
    (kept = none ∧ (fs.readTaskStat pid tid).toOption = none) ∨
      ∃ task sample, fs.readTaskStat pid tid = .ok task ∧ kept = some sample ∧
        sample.Of settings prev elapsedS pid tid task := by
  obtain ⟨read, hread, h⟩ := bind_eq_ok h
  have hread := skipping_ok hread
  cases htask : fs.readTaskStat pid tid with
  | error e =>
    rw [htask] at hread
    subst hread
    cases h
    exact .inl ⟨rfl, rfl⟩
  | ok task =>
    rw [htask] at hread
    subst hread
    obtain ⟨wchan, -, h⟩ := bind_eq_ok h
    cases h
    exact .inr ⟨task, _, rfl, rfl, ⟨rfl, rfl, rfl, rfl⟩⟩

/-- The samples of the tasks, and the records they give: if no task could be read, one
that stands for the process. -/
structure TasksOf (settings : Settings) (prev : Baseline) (elapsedS : ℚ) (fs : Procfs)
    (stat : SchedEntityStat) (identity : ProcessIdentity) (pid : ℕ) (sample : ProcessSample)
    (tids : List ℕ) (samples : List ThreadSample) : Prop where
  listed : taskIds fs pid = .ok tids
  collected : collect (sampleThread settings prev elapsedS fs stat identity pid) tids = .ok samples
  threadTimes : sample.threadTimes = samples.map fun sample => (sample.key, sample.times)
  threads : ∃ main : ThreadRecord, (main.pid, main.tid) = (pid, pid) ∧
    sample.record.threads.Perm (if samples.isEmpty then [main] else samples.map ThreadSample.record)

/-- The sample of a process: its entry in the dictionary, a record with its usage, and
its threads. -/
structure ProcessSample.Of (settings : Settings) (prev : Baseline) (elapsedS : ℚ) (fs : Procfs)
    (pid : ℕ) (stat : SchedEntityStat) (identity : ProcessIdentity) (sample : ProcessSample) :
    Prop where
  key : sample.key = (pid, stat.starttime)
  times : sample.times = stat.times
  record_pid : sample.record.pid = pid
  cpu : sample.record.cpu = processUsage settings prev elapsedS pid stat
  kernel : identity.isKernel = true → sample.threadTimes = [] ∧
    ∃ thread, sample.record.threads = [thread] ∧ (thread.pid, thread.tid) = (pid, pid) ∧
      thread.cpu = processUsage settings prev elapsedS pid stat
  tasks : identity.isKernel = false →
    ∃ tids samples, TasksOf settings prev elapsedS fs stat identity pid sample tids samples

theorem sampleTasks_ok {cmdline : String} {sample : ProcessSample}
    (hkernel : identity.isKernel = false)
    (h : sampleTasks settings prev elapsedS fs stat identity pid cmdline
      (processUsage settings prev elapsedS pid stat) = .ok sample) :
    sample.Of settings prev elapsedS fs pid stat identity := by
  obtain ⟨tids, htids, h⟩ := bind_eq_ok h
  obtain ⟨samples, hsamples, h⟩ := bind_eq_ok h
  obtain ⟨threads, hthreads, h⟩ := bind_eq_ok h
  cases h
  refine ⟨rfl, rfl, rfl, rfl, fun hk => absurd (hkernel.symm.trans hk) Bool.false_ne_true,
    fun _ => ⟨tids, samples, htids, hsamples, rfl, ?_⟩⟩
  unfold threadRecords at hthreads
  cases hempty : samples.isEmpty with
  | true =>
    rw [hempty, if_pos rfl] at hthreads
    obtain ⟨wchan, -, hthreads⟩ := bind_eq_ok hthreads
    cases hthreads
    exact ⟨mainThread stat identity pid "main" wchan _, rfl, perm_sortOn _ _⟩
  | false =>
    rw [hempty, if_neg Bool.false_ne_true] at hthreads
    cases hthreads
    exact ⟨mainThread stat identity pid "main" none ⟨0, 0, 0⟩, rfl, perm_sortOn _ _⟩

theorem sampleRead_ok {cmdline : String} {kept : Option ProcessSample}
    (h : sampleRead settings prev elapsedS fs pid stat cmdline = .ok kept) :
    (kept = none ∧ classifyProcess settings stat cmdline = none) ∨
      ∃ identity sample, classifyProcess settings stat cmdline = some identity ∧
        kept = some sample ∧ sample.Of settings prev elapsedS fs pid stat identity := by
  unfold sampleRead at h
  cases hidentity : classifyProcess settings stat cmdline with
  | none =>
    rw [hidentity] at h
    cases h
    exact .inl ⟨rfl, rfl⟩
  | some identity =>
    rw [hidentity] at h
    refine .inr ⟨identity, ?_⟩
    cases hkernel : identity.isKernel with
    | true =>
      simp only [hkernel, if_true] at h
      obtain ⟨wchan, -, h⟩ := bind_eq_ok h
      cases h
      exact ⟨_, rfl, rfl, rfl, rfl, rfl, rfl, fun _ => ⟨rfl, _, rfl, rfl, rfl⟩,
        fun hk => absurd (hk.symm.trans hkernel) Bool.false_ne_true⟩
    | false =>
      simp only [hkernel, Bool.false_eq_true, if_false] at h
      obtain ⟨sample, hsample, h⟩ := bind_eq_ok h
      cases h
      exact ⟨sample, rfl, rfl, sampleTasks_ok hkernel hsample⟩

/-- A turn of the loop over the processes keeps a sample exactly for a process that is
read and classified. -/
theorem sampleProcess_ok {listing : Listing} {kept : Option ProcessSample}
    (hlisting : fs.listPids = .ok listing) (hpid : pid ∈ listing.ids)
    (h : sampleProcess settings prev elapsedS fs pid = .ok kept) :
    (kept = none ∧ readProcess settings fs pid = none) ∨
      ∃ stat identity sample, readProcess settings fs pid = some (stat, identity) ∧
        kept = some sample ∧ sample.Of settings prev elapsedS fs pid stat identity := by
  obtain ⟨read, hread, h⟩ := bind_eq_ok h
  have hread := skipping_ok hread
  unfold readProcess
  rw [hlisting]
  cases hstat : fs.readProcessStat pid with
  | error e =>
    rw [hstat] at hread
    subst hread
    cases h
    exact .inl ⟨rfl, rfl⟩
  | ok stat =>
    cases hcmdline : fs.readCmdline pid with
    | error e =>
      rw [hstat, hcmdline] at hread
      subst hread
      cases h
      exact .inl ⟨rfl, rfl⟩
    | ok cmdline =>
      rw [hstat, hcmdline] at hread
      subst hread
      simp only [if_pos hpid]
      rcases sampleRead_ok h with ⟨hkept, hnone⟩ | ⟨identity, sample, hsome, hkept, hof⟩
      · exact .inl ⟨hkept, by rw [hnone, Option.map_none]⟩
      · exact .inr ⟨stat, identity, sample, by rw [hsome, Option.map_some], hkept, hof⟩

end Turns

/-! ### A whole sample -/

/-- What a call that returns has done: the samples of the listed processes, shown in the
snapshot and stored in the baseline. -/
structure Taken (settings : Settings) (call : Call) (b : Baseline) (snapshot : SnapshotState)
    (b' : Baseline) (listing : Listing) (samples : List ProcessSample) : Prop where
  listed : call.procfs.listPids = .ok listing
  collected : collect (sampleProcess settings b (elapsedSince b.prevTs call.now) call.procfs)
    listing.ids = .ok samples
  elapsedS : snapshot.elapsedS = elapsedSince b.prevTs call.now
  processes : snapshot.processes.Perm (samples.map ProcessSample.record)
  threads : snapshot.threads.Perm (samples.flatMap fun sample => sample.record.threads)
  prevTs : b'.prevTs = some call.now
  prevProcessTimes : b'.prevProcessTimes =
    dictOf (samples.map fun sample => (sample.key, sample.times))
  prevThreadTimes : b'.prevThreadTimes = dictOf (samples.flatMap fun sample => sample.threadTimes)

/-- A call returns, or raises and leaves the baseline as it was. -/
theorem collectSnapshot_cases (settings : Settings) (call : Call) (b : Baseline) :
    (∃ e, collectSnapshot settings call b = (.raised e, b)) ∨
      ∃ snapshot b' listing samples, collectSnapshot settings call b = (.ok snapshot, b') ∧
        Taken settings call b snapshot b' listing samples := by
  unfold collectSnapshot
  cases call.procfs.readSystemCpu with
  | error e => exact .inl ⟨e, rfl⟩
  | ok systemCpu =>
    cases call.procfs.readSoftirqs with
    | error e => exact .inl ⟨e, rfl⟩
    | ok softirqs =>
      cases call.procfs.readLoadavg with
      | error e => exact .inl ⟨e, rfl⟩
      | ok loadavg =>
        cases hlisting : call.procfs.listPids with
        | error e => exact .inl ⟨e, rfl⟩
        | ok listing =>
          -- the rest of the program, with the reads of the processes still to come
          change (∃ e, (Prog.ofExcept (collect _ listing.ids) >>= _) b = _) ∨
            ∃ snapshot b' listing' samples, (Prog.ofExcept (collect _ listing.ids) >>= _) b = _ ∧ _
          cases hsamples : collect (sampleProcess settings b (elapsedSince b.prevTs call.now)
              call.procfs) listing.ids with
          | error e => exact .inl ⟨e, rfl⟩
          | ok samples =>
            exact .inr ⟨snapshotOf settings call b systemCpu softirqs loadavg samples, _, listing,
              samples, rfl, hlisting, hsamples, rfl, perm_sortOn _ _, perm_sortOn _ _, rfl, rfl, rfl⟩

def processUsages (snapshot : SnapshotState) (pid : ℕ) : List Usage :=
  (snapshot.processes.filter fun record => record.pid = pid).map ProcessRecord.cpu

def threadUsages (snapshot : SnapshotState) (pid tid : ℕ) : List Usage :=
  (snapshot.threads.filter fun record => (record.pid, record.tid) = (pid, tid)).map
    ThreadRecord.cpu

theorem filter_eq_singleton_of_perm {α κ : Type} [DecidableEq κ] {tag : α → κ} {l l' : List α}
    {a : α} (hperm : l.Perm l') (hnodup : (l'.map tag).Nodup) (ha : a ∈ l') {k : κ}
    (hk : tag a = k) : l.filter (fun b => tag b = k) = [a] := by
  subst hk
  exact filter_tag_eq ((hperm.map tag).nodup_iff.mpr hnodup) (hperm.mem_iff.mpr ha)

section Taken

variable {settings : Settings} {call : Call} {b b' : Baseline} {snapshot : SnapshotState}
  {listing : Listing} {samples : List ProcessSample} {pid tid : ℕ}
  {stat task : SchedEntityStat} {identity : ProcessIdentity}

theorem mem_of_readProcess {fs : Procfs} (hlisting : fs.listPids = .ok listing)
    (hread : readProcess settings fs pid = some (stat, identity)) : pid ∈ listing.ids := by
  unfold readProcess at hread
  rw [hlisting] at hread
  split at hread
  next listing' _ _ heq _ _ =>
    cases heq
    split_ifs at hread with hpid
    exact hpid
  next => cases hread

theorem readThread_eq_some_iff {fs : Procfs} :
    readThread settings fs pid tid = some task ↔
      ∃ stat identity tids, readProcess settings fs pid = some (stat, identity) ∧
        identity.isKernel = false ∧ taskIds fs pid = .ok tids ∧ tid ∈ tids ∧
          fs.readTaskStat pid tid = .ok task := by
  unfold readThread
  cases hread : readProcess settings fs pid with
  | none => simp
  | some read =>
    cases htids : taskIds fs pid with
    | error e => simp
    | ok tids =>
      cases htask : fs.readTaskStat pid tid with
      | error e => simp
      | ok task' =>
        obtain ⟨stat, identity⟩ := read
        cases hkernel : identity.isKernel <;> simp [hkernel, ite_eq_iff, and_comm]

theorem nodup_taskIds {fs : Procfs} {tids : List ℕ} (h : taskIds fs pid = .ok tids) :
    tids.Nodup := by
  unfold taskIds at h
  split at h
  next listing _ =>
    cases h
    exact listing.nodup
  next =>
    cases h
    exact List.nodup_singleton pid
  next => cases h

section Tasks

variable {prev : Baseline} {elapsedS : ℚ} {fs : Procfs} {sample : ProcessSample} {tids : List ℕ}
  {samples : List ThreadSample}
  (h : TasksOf settings prev elapsedS fs stat identity pid sample tids samples)

include h

theorem TasksOf.nodup_ids :
    (samples.map fun sample => (sample.record.pid, sample.record.tid)).Nodup := by
  have hsub : (samples.map fun sample => (sample.record.pid, sample.record.tid)).Sublist
      (tids.map fun tid => (pid, tid)) := by
    refine map_collect_sublist (fun tid _ sample hturn => ?_) h.collected
    rcases sampleThread_ok hturn with ⟨hnone, -⟩ | ⟨task, sample', -, hsame, hof⟩
    · cases hnone
    · cases hsame
      exact hof.ids
  refine List.Nodup.sublist hsub ((nodup_taskIds h.listed).map fun tid tid' heq => ?_)
  exact (Prod.mk.inj heq).2

theorem TasksOf.exists_thread (htid : tid ∈ tids)
    (htask : fs.readTaskStat pid tid = .ok task) :
    ∃ thread ∈ samples, thread.Of settings prev elapsedS pid tid task := by
  obtain ⟨kept, hturn⟩ := turn_of_collect h.collected htid
  rcases sampleThread_ok hturn with ⟨-, hnone⟩ | ⟨task', thread, hread, hkept, hof⟩
  · rw [htask] at hnone
    cases hnone
  · obtain rfl : task = task' := by simpa using htask.symm.trans hread
    subst hkept
    exact ⟨thread, (mem_collect h.collected).mpr ⟨tid, htid, hturn⟩, hof⟩

theorem TasksOf.ids {thread : ThreadSample} (hthread : thread ∈ samples) :
    ∃ tid task, tid ∈ tids ∧ fs.readTaskStat pid tid = .ok task ∧
      thread.Of settings prev elapsedS pid tid task := by
  obtain ⟨tid, htid, hturn⟩ := (mem_collect h.collected).mp hthread
  rcases sampleThread_ok hturn with ⟨hnone, -⟩ | ⟨task, sample', hread, hsame, hof⟩
  · cases hnone
  · cases hsame
    exact ⟨tid, task, htid, hread, hof⟩

end Tasks

/-- The threads of a process have its id, and ids of their own. -/
theorem ProcessSample.Of.threads_ids {prev : Baseline} {elapsedS : ℚ} {fs : Procfs}
    {sample : ProcessSample}
    (h : sample.Of settings prev elapsedS fs pid stat identity) :
    (∀ thread ∈ sample.record.threads, thread.pid = pid) ∧
      (sample.record.threads.map fun thread => (thread.pid, thread.tid)).Nodup := by
  cases hkernel : identity.isKernel with
  | true =>
    obtain ⟨-, thread, hthreads, hids, -⟩ := h.kernel hkernel
    rw [hthreads]
    refine ⟨fun t ht => ?_, List.nodup_singleton _⟩
    rw [List.mem_singleton.mp ht]
    exact (Prod.mk.inj hids).1
  | false =>
    obtain ⟨tids, samples, htasks⟩ := h.tasks hkernel
    obtain ⟨main, hmain, hperm⟩ := htasks.threads
    refine ⟨fun t ht => ?_, (hperm.map _).nodup_iff.mpr ?_⟩
    · rw [hperm.mem_iff] at ht
      split_ifs at ht
      · rw [List.mem_singleton.mp ht]
        exact (Prod.mk.inj hmain).1
      · obtain ⟨thread, hthread, rfl⟩ := List.mem_map.mp ht
        obtain ⟨tid, task, -, -, hof⟩ := htasks.ids hthread
        exact (Prod.mk.inj hof.ids).1
    · split_ifs
      · exact List.nodup_singleton _
      · rw [List.map_map]
        exact htasks.nodup_ids

namespace Taken

variable (ht : Taken settings call b snapshot b' listing samples)

include ht

/-- A process that is read has its sample. -/
theorem exists_sample (hread : readProcess settings call.procfs pid = some (stat, identity)) :
    ∃ sample ∈ samples, sample.Of settings b (elapsedSince b.prevTs call.now) call.procfs pid stat
      identity := by
  have hpid := mem_of_readProcess ht.listed hread
  obtain ⟨kept, hturn⟩ := turn_of_collect ht.collected hpid
  rcases sampleProcess_ok ht.listed hpid hturn with ⟨-, hnone⟩ | ⟨stat', identity', sample, h⟩
  · cases hread.symm.trans hnone
  · obtain ⟨hread', rfl, hof⟩ := h
    obtain ⟨rfl, rfl⟩ : stat = stat' ∧ identity = identity' := by
      simpa using hread.symm.trans hread'
    exact ⟨sample, (mem_collect ht.collected).mpr ⟨pid, hpid, hturn⟩, hof⟩

/-- A sample is one of a process that is read. -/
theorem exists_read {sample : ProcessSample} (hsample : sample ∈ samples) :
    ∃ pid stat identity, readProcess settings call.procfs pid = some (stat, identity) ∧
      sample.Of settings b (elapsedSince b.prevTs call.now) call.procfs pid stat identity := by
  obtain ⟨pid, hpid, hturn⟩ := (mem_collect ht.collected).mp hsample
  rcases sampleProcess_ok ht.listed hpid hturn with ⟨hnone, -⟩ | ⟨stat, identity, sample', h⟩
  · cases hnone
  · obtain ⟨hread, hsame, hof⟩ := h
    cases hsame
    exact ⟨pid, stat, identity, hread, hof⟩

theorem nodup_pids : (samples.map fun sample => sample.record.pid).Nodup := by
  have hsub : (samples.map fun sample => sample.record.pid).Sublist (listing.ids.map id) := by
    refine map_collect_sublist (fun pid hpid sample hturn => ?_) ht.collected
    rcases sampleProcess_ok ht.listed hpid hturn with ⟨hnone, -⟩ | ⟨stat, identity, sample', h⟩
    · cases hnone
    · obtain ⟨-, hsame, hof⟩ := h
      cases hsame
      exact hof.record_pid
  rw [List.map_id] at hsub
  exact listing.nodup.sublist hsub

/-- The new baseline holds the times read for the processes. -/
theorem lookup_process (key : ProcessKey) :
    b'.prevProcessTimes.lookup key = processTimes settings call.procfs key := by
  rw [ht.prevProcessTimes]
  apply lookup_eq_of_mem_iff
  intro times
  rw [dictOf, List.mem_reverse, List.mem_map, processTimes, Option.map_eq_some_iff]
  constructor
  · rintro ⟨sample, hsample, hentry⟩
    obtain ⟨pid, stat, identity, hread, hof⟩ := ht.exists_read hsample
    obtain ⟨rfl, rfl⟩ : sample.key = key ∧ sample.times = times := by simpa using hentry
    refine ⟨(stat, identity), ?_, hof.times.symm⟩
    rw [hof.key, hread]
    simp
  · rintro ⟨⟨stat, identity⟩, hread, rfl⟩
    obtain ⟨hread, hstart⟩ := Option.filter_eq_some_iff.mp hread
    obtain ⟨sample, hsample, hof⟩ := ht.exists_sample hread
    refine ⟨sample, hsample, ?_⟩
    rw [hof.key, hof.times, of_decide_eq_true hstart]

/-- The snapshot shows one record for a process that is read. -/
theorem processUsages_eq (hread : readProcess settings call.procfs pid = some (stat, identity)) :
    processUsages snapshot pid =
      [processUsage settings b (elapsedSince b.prevTs call.now) pid stat] := by
  obtain ⟨sample, hsample, hof⟩ := ht.exists_sample hread
  have hnodup : ((samples.map ProcessSample.record).map ProcessRecord.pid).Nodup := by
    rw [List.map_map]
    exact ht.nodup_pids
  rw [processUsages, filter_eq_singleton_of_perm ht.processes hnodup (List.mem_map_of_mem hsample)
    hof.record_pid, List.map_singleton, hof.cpu]

theorem nodup_threads : ((samples.flatMap fun sample => sample.record.threads).map
    fun thread => (thread.pid, thread.tid)).Nodup := by
  rw [List.map_flatMap, List.nodup_flatMap]
  have hpids : samples.Pairwise fun s s' => s.record.pid ≠ s'.record.pid :=
    List.pairwise_map.mp ht.nodup_pids
  refine ⟨fun sample hsample => ?_, hpids.imp_of_mem fun {s s'} hs hs' hne => ?_⟩
  · obtain ⟨pid, stat, identity, -, hof⟩ := ht.exists_read hsample
    exact hof.threads_ids.2
  · -- the threads of two processes differ in the pid
    obtain ⟨pid, stat, identity, -, hof⟩ := ht.exists_read hs
    obtain ⟨pid', stat', identity', -, hof'⟩ := ht.exists_read hs'
    intro ids hids hids'
    obtain ⟨thread, hthread, rfl⟩ := List.mem_map.mp hids
    obtain ⟨thread', hthread', heq⟩ := List.mem_map.mp hids'
    have hpid := hof.threads_ids.1 thread hthread
    have hpid' := hof'.threads_ids.1 thread' hthread'
    rw [hof.record_pid, hof'.record_pid] at hne
    exact hne (hpid.symm.trans ((Prod.mk.inj heq).1.symm.trans hpid'))

/-- The new baseline holds the times read for the threads. -/
theorem lookup_thread (key : ThreadKey) :
    b'.prevThreadTimes.lookup key = threadTimes settings call.procfs key := by
  rw [ht.prevThreadTimes]
  apply lookup_eq_of_mem_iff
  intro times
  rw [dictOf, List.mem_reverse, List.mem_flatMap, threadTimes, Option.map_eq_some_iff]
  constructor
  · rintro ⟨sample, hsample, hentry⟩
    obtain ⟨pid, stat, identity, hread, hof⟩ := ht.exists_read hsample
    cases hkernel : identity.isKernel with
    | true =>
      rw [(hof.kernel hkernel).1] at hentry
      cases hentry
    | false =>
      obtain ⟨tids, threads, htasks⟩ := hof.tasks hkernel
      rw [htasks.threadTimes] at hentry
      obtain ⟨thread, hthread, hentry⟩ := List.mem_map.mp hentry
      obtain ⟨tid, task, htid, htask, hthread⟩ := htasks.ids hthread
      obtain ⟨rfl, rfl⟩ : thread.key = key ∧ thread.times = times := by simpa using hentry
      refine ⟨task, ?_, hthread.times.symm⟩
      rw [hthread.key, readThread, hread]
      simp [htasks.listed, htask, hkernel, htid]
  · rintro ⟨task, htask, rfl⟩
    obtain ⟨htask, hstart⟩ := Option.filter_eq_some_iff.mp htask
    obtain ⟨stat, identity, tids, hread, hkernel, htids, htid, hstat⟩ :=
      readThread_eq_some_iff.mp htask
    obtain ⟨sample, hsample, hof⟩ := ht.exists_sample hread
    obtain ⟨tids', threads, htasks⟩ := hof.tasks hkernel
    obtain rfl : tids = tids' := by simpa using htids.symm.trans htasks.listed
    obtain ⟨thread, hthread, hof⟩ := htasks.exists_thread htid hstat
    refine ⟨sample, hsample, ?_⟩
    rw [htasks.threadTimes]
    refine List.mem_map.mpr ⟨thread, hthread, ?_⟩
    rw [hof.key, hof.times, of_decide_eq_true hstart]

/-- The snapshot shows one record for a thread that is read. -/
theorem threadUsages_eq (hread : readThread settings call.procfs pid tid = some task) :
    threadUsages snapshot pid tid =
      [threadUsage settings b (elapsedSince b.prevTs call.now) pid tid task] := by
  obtain ⟨stat, identity, tids, hprocess, hkernel, htids, htid, hstat⟩ :=
    readThread_eq_some_iff.mp hread
  obtain ⟨sample, hsample, hof⟩ := ht.exists_sample hprocess
  obtain ⟨tids', threads, htasks⟩ := hof.tasks hkernel
  obtain rfl : tids = tids' := by simpa using htids.symm.trans htasks.listed
  obtain ⟨thread, hthread, hof⟩ := htasks.exists_thread htid hstat
  have hnonempty : threads.isEmpty = false := by
    cases threads with
    | nil => cases hthread
    | cons _ _ => rfl
  obtain ⟨main, -, hperm⟩ := htasks.threads
  rw [hnonempty, if_neg Bool.false_ne_true] at hperm
  have hmem : thread.record ∈ samples.flatMap fun sample => sample.record.threads :=
    List.mem_flatMap.mpr ⟨sample, hsample, hperm.mem_iff.mpr (List.mem_map_of_mem hthread)⟩
  rw [threadUsages, filter_eq_singleton_of_perm ht.threads ht.nodup_threads hmem hof.ids,
    List.map_singleton, hof.cpu]

/-- The snapshot shows one record for a kernel thread, with the usage of the process. -/
theorem kernelUsages_eq (hread : readProcess settings call.procfs pid = some (stat, identity))
    (hkernel : identity.isKernel = true) :
    threadUsages snapshot pid pid =
      [processUsage settings b (elapsedSince b.prevTs call.now) pid stat] := by
  obtain ⟨sample, hsample, hof⟩ := ht.exists_sample hread
  obtain ⟨-, thread, hthreads, hids, hcpu⟩ := hof.kernel hkernel
  have hmem : thread ∈ samples.flatMap fun sample => sample.record.threads :=
    List.mem_flatMap.mpr ⟨sample, hsample, hthreads ▸ List.mem_singleton_self thread⟩
  rw [threadUsages, filter_eq_singleton_of_perm ht.threads ht.nodup_threads hmem hids,
    List.map_singleton, hcpu]

end Taken

end Taken

end OvnApi.Sampler
