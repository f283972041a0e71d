import Mathlib.Data.Prod.Lex
import Mathlib.Algebra.Order.Field.Rat
import Mathlib.Data.String.Basic
import OvnApi.Lib.Collect
import OvnApi.Lib.KeyedTable
import OvnApi.Lib.Lists
import OvnApi.Lib.Prog
import OvnApi.Sampler.Procfs

/-! `_collect_snapshot`. Percentages are exact rationals. The fields of the service that
hold the last sample are the world of the program: an exception leaves them as they are
at that moment, and they are assigned one by one at the end. -/

namespace OvnApi.Sampler

open OvnApi.Core Lib

/-! ### Records -/

structure Settings where
  enableKernelThreads : Bool
  softirqNames : List String
  userProcessNames : List String
  cpuCount : ℕ
  clockTicks : ℕ
  clockTicks_pos : 0 < clockTicks

structure Usage where
  totalPct : ℚ
  userPct : ℚ
  systemPct : ℚ

structure ProcessIdentity where
  component : String
  category : String
  label : String
  isKernel : Bool

structure ThreadRecord where
  pid : ℕ
  tid : ℕ
  processName : String
  processComponent : String
  processCategory : String
  processLabel : String
  threadName : String
  threadGroup : String
  state : String
  wchan : Option String
  cpu : Usage

structure ProcessRecord where
  pid : ℕ
  processName : String
  component : String
  category : String
  label : String
  cmdline : String
  threadCount : ℤ
  cpu : Usage
  threads : List ThreadRecord

structure GroupRecord where
  component : String
  category : String
  threadGroup : String
  threads : ℕ
  cpu : Usage

structure SoftirqRecord where
  name : String
  totalDelta : ℤ
  perCpuDelta : List ℤ

structure SnapshotState where
  generatedAt : String
  elapsedS : ℚ
  warmup : Bool
  cpuCount : ℕ
  hostCpuPct : Option ℚ
  loadavg : ℚ × ℚ × ℚ
  processes : List ProcessRecord
  threads : List ThreadRecord
  groups : List GroupRecord
  softirqs : List SoftirqRecord

abbrev ProcessKey := ℕ × ℤ

abbrev ThreadKey := ℕ × ℕ × ℤ

abbrev Times := ℤ × ℤ

/-- What the service remembers of the last sample. -/
structure Baseline where
  prevTs : Option ℚ := none
  prevSystemCpu : Option CpuStat := none
  prevSoftirqs : Option Softirqs := none
  prevProcessTimes : List (ProcessKey × Times) := []
  prevThreadTimes : List (ThreadKey × Times) := []

/-! ### Classification -/

def isKernelDatapathThread (comm cmdline : String) : Bool :=
  let low := lower comm
  if cmdline ≠ "" then false
  else startsWith "ksoftirqd/" low || startsWith "irq/" low || startsWith "napi/" low

def matchesAny (value : String) (patterns : List String) : Bool :=
  patterns.any fun pattern => contains pattern value

def classifyProcess (settings : Settings) (stat : SchedEntityStat) (cmdline : String) :
    Option ProcessIdentity :=
  let comm := lower stat.comm
  let lowerCmd := lower cmdline
  if settings.enableKernelThreads && isKernelDatapathThread stat.comm cmdline then
    some ⟨"kernel-datapath", "kernel", stat.comm, true⟩
  else if comm ∉ settings.userProcessNames.map lower then none
  else if comm = "ovs-vswitchd" then some ⟨"ovs-vswitchd", "datapath", "ovs-vswitchd", false⟩
  else if comm = "ovn-controller" then
    some ⟨"ovn-controller", "control-plane", "ovn-controller", false⟩
  else if comm = "ovn-controller-vtep" then
    some ⟨"ovn-controller-vtep", "control-plane", "ovn-controller-vtep", false⟩
  else if comm = "ovn-northd" then some ⟨"ovn-northd", "control-plane", "ovn-northd", false⟩
  else if comm = "ovsdb-server" then
    if matchesAny lowerCmd ["ovnsb_db", "ovnsb", "ovn_southbound", "ovn-southbound", "sb.db"] then
      some ⟨"ovn-sb-db", "ovsdb", "ovn-sb-db", false⟩
    else if matchesAny lowerCmd
        ["ovnnb_db", "ovnnb", "ovn_northbound", "ovn-northbound", "nb.db"] then
      some ⟨"ovn-nb-db", "ovsdb", "ovn-nb-db", false⟩
    else if matchesAny lowerCmd ["sb-relay", "relay"] then
      some ⟨"ovn-sb-relay", "ovsdb", "ovn-sb-relay", false⟩
    else if matchesAny lowerCmd ["conf.db", "open_vswitch", "openvswitch"] then
      some ⟨"ovs-db", "ovsdb", "ovs-db", false⟩
    else some ⟨"ovsdb-server", "ovsdb", "ovsdb-server", false⟩
  else some ⟨stat.comm, "other", stat.comm, false⟩

def classifyThreadGroup (threadName : String) (pid tid : ℕ) (isKernel : Bool) : String :=
  let low := lower threadName
  if isKernel then
    if startsWith "ksoftirqd/" low then "ksoftirqd"
    else if startsWith "irq/" low then "irq"
    else if startsWith "napi/" low then "napi"
    else "kernel-other"
  else if pid = tid then "main"
  else if low = "handler" then "handler"
  else if low = "revalidator" then "revalidator"
  else if startsWith "pmd-" low then "pmd"
  else if low = "urcu" then "urcu"
  else if low = "monitor" then "monitor"
  else if low = "ovn_pinctrl" then "pinctrl"
  else if low = "ovn_statctrl" then "statctrl"
  else if low = "compaction" then "compaction"
  else if low = "log_fsync" then "log_fsync"
  else if low = "dpdk_offload" then "dpdk_offload"
  else if low = "dpdk_watchdog" then "dpdk_watchdog"
  else if low = "ovs_vhost" then "ovs_vhost"
  else if low = "ct_clean" then "ct_clean"
  else if low = "ipf_clean" then "ipf_clean"
  else "other"

/-! ### Figures -/

def calculateUsage (clockTicks : ℕ) (previous : Option Times) (utime stime : ℤ) (elapsedS : ℚ) :
    Usage :=
  match previous with
  | none => ⟨0, 0, 0⟩
  | some times =>
    if elapsedS ≤ 0 then ⟨0, 0, 0⟩
    else
      let deltaUser := max 0 (utime - times.1)
      let deltaSystem := max 0 (stime - times.2)
      let scale := 100 / (clockTicks * elapsedS)
      let userPct := deltaUser * scale
      let systemPct := deltaSystem * scale
      ⟨userPct + systemPct, userPct, systemPct⟩

def computeSoftirqRecords (names : List String) (previous : Option Softirqs) (softirqs : Softirqs) :
    List SoftirqRecord :=
  names.map fun name =>
    let currentValues := (softirqs.lookup name).getD []
    let previousValues := ((previous.getD []).lookup name).getD []
    let delta := currentValues.mapIdx fun index value =>
      max 0 (value - (previousValues[index]?).getD value)
    ⟨name, delta.sum, delta⟩

def computeHostCpuPct (previous : Option CpuStat) (current : CpuStat) : Option ℚ :=
  previous.bind fun previous =>
    let totalDelta := current.total - previous.total
    let busyDelta := current.busy - previous.busy
    if totalDelta ≤ 0 then none else some (max 0 ((busyDelta : ℚ) / totalDelta * 100))

/-- The totals of a group: `total_pct`, `user_pct`, `system_pct` and the number of threads. -/
structure GroupTotals where
  totalPct : ℚ := 0
  userPct : ℚ := 0
  systemPct : ℚ := 0
  threads : ℕ := 0

abbrev GroupKey := String × String × String

def ThreadRecord.groupKey (thread : ThreadRecord) : GroupKey :=
  (thread.processComponent, thread.processCategory, thread.threadGroup)

def GroupTotals.add (totals : GroupTotals) (thread : ThreadRecord) : GroupTotals where
  totalPct := totals.totalPct + thread.cpu.totalPct
  userPct := totals.userPct + thread.cpu.userPct
  systemPct := totals.systemPct + thread.cpu.systemPct
  threads := totals.threads + 1

abbrev GroupTable := KeyedTable (Prod.fst : GroupKey × GroupTotals → GroupKey)

def addToGroup (thread : ThreadRecord) (row : GroupKey × GroupTotals) : GroupKey × GroupTotals :=
  if row.1 = thread.groupKey then (row.1, row.2.add thread) else row

theorem addToGroup_fst (thread : ThreadRecord) (row : GroupKey × GroupTotals) :
    (addToGroup thread row).1 = row.1 := by
  unfold addToGroup
  split_ifs <;> rfl

/-- One turn of the loop of `_aggregate_groups`; a missing key starts at zero. -/
def addThread (table : GroupTable) (thread : ThreadRecord) : GroupTable :=
  table.upsert (thread.groupKey, ({} : GroupTotals).add thread) (addToGroup thread)
    (addToGroup_fst thread)

def emptyGroups : GroupTable := ⟨[], List.nodup_nil⟩

def aggregateGroups (threads : List ThreadRecord) : List GroupRecord :=
  let groupTotals := threads.foldl addThread emptyGroups
  let records := groupTotals.rows.map fun row : GroupKey × GroupTotals =>
    ({ component := row.1.1
       category := row.1.2.1
       threadGroup := row.1.2.2
       threads := row.2.threads
       cpu := ⟨row.2.totalPct, row.2.userPct, row.2.systemPct⟩ } : GroupRecord)
  sortOn (fun item => toLex (-item.cpu.totalPct, toLex (item.component, item.threadGroup))) records

/-! ### One sample -/

/-- One call of `_collect_snapshot`: the two clocks and what the reads answer. -/
structure Call where
  now : ℚ
  generatedAt : String
  procfs : Procfs

/-- A `try` whose handlers skip the element. -/
def skipping {α : Type} (x : Except ReadError α) : Except ReadError (Option α) :=
  match x with
  | .ok a => .ok (some a)
  | .error e => if e.skipped then .ok none else .error e

/-- What a turn of the loop over the tasks adds: an entry of `next_thread_times` and a
record. -/
structure ThreadSample where
  key : ThreadKey
  times : Times
  record : ThreadRecord

/-- What a turn of the loop over the processes adds: an entry of `next_process_times`,
those of `next_thread_times`, and a record with its threads. -/
structure ProcessSample where
  key : ProcessKey
  times : Times
  threadTimes : List (ThreadKey × Times)
  record : ProcessRecord

section Sample

variable (settings : Settings) (prev : Baseline) (elapsedS : ℚ) (fs : Procfs)

def sampleThread (stat : SchedEntityStat) (identity : ProcessIdentity) (pid tid : ℕ) :
    Except ReadError (Option ThreadSample) := do
  match ← skipping (fs.readTaskStat pid tid) with
  | none => pure none
  | some task =>
    let cpu := calculateUsage settings.clockTicks
      (prev.prevThreadTimes.lookup (pid, tid, task.starttime)) task.utime task.stime elapsedS
    let wchan ← fs.readWchan pid (some tid)
    pure (some
      { key := (pid, tid, task.starttime)
        times := (task.utime, task.stime)
        record :=
          { pid, tid, wchan, cpu
            processName := stat.comm
            processComponent := identity.component
            processCategory := identity.category
            processLabel := identity.label
            threadName := task.comm
            threadGroup := classifyThreadGroup task.comm pid tid false
            state := task.state } })

def mainThread (stat : SchedEntityStat) (identity : ProcessIdentity) (pid : ℕ)
    (threadGroup : String) (wchan : Option String) (cpu : Usage) : ThreadRecord :=
  { pid, threadGroup, wchan, cpu
    tid := pid
    processName := stat.comm
    processComponent := identity.component
    processCategory := identity.category
    processLabel := identity.label
    threadName := stat.comm
    state := stat.state }

/-- `list_task_ids`, or the process itself if that raises an `OSError`. -/
def taskIds (pid : ℕ) : Except ReadError (List ℕ) :=
  match fs.listTaskIds pid with
  | .ok listing => .ok listing.ids
  | .error (.osError _) => .ok [pid]
  | .error e => .error e

def processRecord (stat : SchedEntityStat) (identity : ProcessIdentity) (pid : ℕ)
    (cmdline : String) (threadCount : ℤ) (cpu : Usage) (threads : List ThreadRecord) :
    ProcessRecord where
  pid := pid
  processName := stat.comm
  component := identity.component
  category := identity.category
  label := identity.label
  cmdline := cmdline
  threadCount := threadCount
  cpu := cpu
  threads := threads

/-- `if not threads`: the process stands for its threads if none could be read. -/
def threadRecords (stat : SchedEntityStat) (identity : ProcessIdentity) (pid : ℕ) (cpu : Usage)
    (samples : List ThreadSample) : Except ReadError (List ThreadRecord) :=
  if samples.isEmpty then do
    let wchan ← fs.readWchan pid none
    pure [mainThread stat identity pid "main" wchan cpu]
  else pure (samples.map ThreadSample.record)

/-- The rest of a turn for a process that is not a kernel thread. -/
def sampleTasks (stat : SchedEntityStat) (identity : ProcessIdentity) (pid : ℕ)
    (cmdline : String) (cpu : Usage) : Except ReadError ProcessSample := do
  let tids ← taskIds fs pid
  let samples ← collect (sampleThread settings prev elapsedS fs stat identity pid) tids
  let threads ← threadRecords fs stat identity pid cpu samples
  let threads := sortOn (fun item => toLex (-item.cpu.totalPct, item.tid)) threads
  pure
    { key := (pid, stat.starttime)
      times := (stat.utime, stat.stime)
      threadTimes := samples.map fun sample => (sample.key, sample.times)
      record := processRecord stat identity pid cmdline (max stat.numThreads threads.length) cpu
        threads }

/-- A turn of the loop over the processes, once `stat` and `cmdline` are read. -/
def sampleRead (pid : ℕ) (stat : SchedEntityStat) (cmdline : String) :
    Except ReadError (Option ProcessSample) :=
  match classifyProcess settings stat cmdline with
  | none => pure none
  | some identity =>
    let cpu := calculateUsage settings.clockTicks
      (prev.prevProcessTimes.lookup (pid, stat.starttime)) stat.utime stat.stime elapsedS
    if identity.isKernel then do
      let threadGroup := classifyThreadGroup stat.comm pid pid true
      let wchan ← fs.readWchan pid none
      let thread := mainThread stat identity pid threadGroup wchan cpu
      pure (some
        { key := (pid, stat.starttime)
          times := (stat.utime, stat.stime)
          threadTimes := []
          record := processRecord stat identity pid cmdline 1 cpu [thread] })
    else do
      let sample ← sampleTasks settings prev elapsedS fs stat identity pid cmdline cpu
      pure (some sample)

def sampleProcess (pid : ℕ) : Except ReadError (Option ProcessSample) := do
  let read ← skipping do
    let stat ← fs.readProcessStat pid
    let cmdline ← fs.readCmdline pid
    pure (stat, cmdline)
  match read with
  | none => pure none
  | some (stat, cmdline) => sampleRead settings prev elapsedS fs pid stat cmdline

end Sample

/-- An assignment to a field of the service. -/
def assign (f : Baseline → Baseline) : Prog Baseline ReadError Unit :=
  Prog.read fun b => ((), f b)

/-- `max(now - prev_ts, 0)`, or zero in the first sample. -/
def elapsedSince (prevTs : Option ℚ) (now : ℚ) : ℚ :=
  max (match prevTs with
    | some ts => now - ts
    | none => 0) 0

/-- A dictionary filled in this order; the last assignment to a key holds. -/
def dictOf {κ ν : Type} (entries : List (κ × ν)) : List (κ × ν) := entries.reverse

def snapshotOf (settings : Settings) (call : Call) (prev : Baseline) (systemCpu : CpuStat)
    (softirqs : Softirqs) (loadavg : ℚ × ℚ × ℚ) (samples : List ProcessSample) : SnapshotState :=
  let allThreads := sortOn (fun item => toLex (-item.cpu.totalPct, toLex (item.pid, item.tid)))
    (samples.flatMap fun sample => sample.record.threads)
  { generatedAt := call.generatedAt
    elapsedS := elapsedSince prev.prevTs call.now
    warmup := prev.prevTs.isNone
    cpuCount := settings.cpuCount
    hostCpuPct := computeHostCpuPct prev.prevSystemCpu systemCpu
    loadavg := loadavg
    processes :=
      sortOn (fun item => toLex (-item.cpu.totalPct, toLex (item.component, item.pid)))
        (samples.map ProcessSample.record)
    threads := allThreads
    groups := aggregateGroups allThreads
    softirqs := computeSoftirqRecords settings.softirqNames prev.prevSoftirqs softirqs }

def replaceBaseline (call : Call) (systemCpu : CpuStat) (softirqs : Softirqs)
    (samples : List ProcessSample) : Prog Baseline ReadError Unit := do
  assign fun b => { b with prevTs := some call.now }
  assign fun b => { b with prevSystemCpu := some systemCpu }
  assign fun b => { b with prevSoftirqs := some softirqs }
  assign fun b =>
    { b with prevProcessTimes := dictOf (samples.map fun sample => (sample.key, sample.times)) }
  assign fun b =>
    { b with prevThreadTimes := dictOf (samples.flatMap fun sample => sample.threadTimes) }

/-- `_collect_snapshot`; the fields are read as they are at its beginning, nothing
assigns them before the end. -/
def collectSnapshot (settings : Settings) (call : Call) :
    Prog Baseline ReadError SnapshotState := do
  let prev ← Prog.read fun b => (b, b)
  let systemCpu ← Prog.ofExcept call.procfs.readSystemCpu
  let softirqs ← Prog.ofExcept call.procfs.readSoftirqs
  let loadavg ← Prog.ofExcept call.procfs.readLoadavg
  let pids ← Prog.ofExcept call.procfs.listPids
  let samples ← Prog.ofExcept (collect
    (sampleProcess settings prev (elapsedSince prev.prevTs call.now) call.procfs) pids.ids)
  replaceBaseline call systemCpu softirqs samples
  pure (snapshotOf settings call prev systemCpu softirqs loadavg samples)

end OvnApi.Sampler
