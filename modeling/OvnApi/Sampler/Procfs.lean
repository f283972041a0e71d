import Mathlib.Data.Rat.Defs
import OvnApi.Core.Python

/-! What the CPU sampler reads from procfs. A read answers or raises; the handlers of
the sampler tell `OSError`, `ValueError` and everything else apart. Within one sample no
read is made twice with the same ids, so a sample sees one answer for each. -/

namespace OvnApi.Sampler

inductive ReadError where
  | osError (message : String)
  | valueError (message : String)
  | other (kind message : String)

/-- `except OSError: continue` and `except ValueError: continue`. -/
def ReadError.skipped : ReadError → Bool
  | .osError _ | .valueError _ => true
  | .other _ _ => false

/-- The aggregate line of `/proc/stat`. -/
structure CpuStat where
  user : ℤ
  nice : ℤ
  system : ℤ
  idle : ℤ
  iowait : ℤ
  irq : ℤ
  softirq : ℤ
  steal : ℤ
  guest : ℤ := 0
  guestNice : ℤ := 0

def CpuStat.total (s : CpuStat) : ℤ :=
  s.user + s.nice + s.system + s.idle + s.iowait + s.irq + s.softirq + s.steal + s.guest +
    s.guestNice

def CpuStat.busy (s : CpuStat) : ℤ := s.total - s.idle - s.iowait

/-- A `stat` line of a process or a task. -/
structure SchedEntityStat where
  pid : ℤ
  comm : String
  state : String
  ppid : ℤ
  utime : ℤ
  stime : ℤ
  numThreads : ℤ
  starttime : ℤ

/-- The ids a directory lists: each name stands there once. -/
structure Listing where
  ids : List ℕ
  nodup : ids.Nodup

abbrev Softirqs := List (String × List ℤ)

/-- What the reads of one sample answer. -/
structure Procfs where
  readSystemCpu : Except ReadError CpuStat
  readSoftirqs : Except ReadError Softirqs
  readLoadavg : Except ReadError (ℚ × ℚ × ℚ)
  listPids : Except ReadError Listing
  readProcessStat : ℕ → Except ReadError SchedEntityStat
  readCmdline : ℕ → Except ReadError String
  listTaskIds : ℕ → Except ReadError Listing
  readTaskStat : ℕ → ℕ → Except ReadError SchedEntityStat
  /-- Answers `None` itself on an `OSError`. -/
  readWchan : ℕ → Option ℕ → Except ReadError (Option String)

end OvnApi.Sampler
