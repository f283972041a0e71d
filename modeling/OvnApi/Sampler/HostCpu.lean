import Mathlib.Algebra.Order.Field.Basic
import Mathlib.Tactic.FieldSimp
import Mathlib.Tactic.Linarith
import Mathlib.Tactic.LinearCombination
import OvnApi.Sampler.Snapshot

/-! The host CPU percentage against the kernel's accounting. Linux charges the time of a
guest to `user` and again to `guest`, and that of a niced guest to `nice` and again to
`guest_nice`, so the first eight columns count every tick once. -/

namespace OvnApi.Sampler

def CpuStat.allTicks (s : CpuStat) : ℤ :=
  s.user + s.nice + s.system + s.idle + s.iowait + s.irq + s.softirq + s.steal

def CpuStat.idleTicks (s : CpuStat) : ℤ := s.idle + s.iowait

def CpuStat.guestTicks (s : CpuStat) : ℤ := s.guest + s.guestNice

theorem CpuStat.total_eq (s : CpuStat) : s.total = s.allTicks + s.guestTicks := by
  simp only [total, allTicks, guestTicks]
  omega

theorem CpuStat.busy_eq (s : CpuStat) : s.busy = s.allTicks - s.idleTicks + s.guestTicks := by
  simp only [busy, total_eq, idleTicks]
  omega

/-- Two successive readings as Linux accounts time: no counter goes back, and what a
guest gains is part of what `user` or `nice` gains. -/
structure CpuStat.Accounted (previous current : CpuStat) : Prop where
  user : previous.user ≤ current.user
  nice : previous.nice ≤ current.nice
  system : previous.system ≤ current.system
  idle : previous.idle ≤ current.idle
  iowait : previous.iowait ≤ current.iowait
  irq : previous.irq ≤ current.irq
  softirq : previous.softirq ≤ current.softirq
  steal : previous.steal ≤ current.steal
  guest : previous.guest ≤ current.guest
  guestNice : previous.guestNice ≤ current.guestNice
  guest_in_user : current.guest - previous.guest ≤ current.user - previous.user
  guestNice_in_nice : current.guestNice - previous.guestNice ≤ current.nice - previous.nice

/-! ### Gains between two readings -/

section Gains

variable (previous current : CpuStat)

def idleGain : ℤ := current.idleTicks - previous.idleTicks

def guestGain : ℤ := current.guestTicks - previous.guestTicks

/-- The gain of the ticks that are not idle, each counted once. -/
def busyGain : ℤ :=
  (current.allTicks - current.idleTicks) - (previous.allTicks - previous.idleTicks)

variable {previous current} (h : previous.Accounted current)

include h

theorem CpuStat.Accounted.idleGain_nonneg : 0 ≤ idleGain previous current := by
  have := h.idle
  have := h.iowait
  simp only [idleGain, idleTicks]
  omega

theorem CpuStat.Accounted.guestGain_nonneg : 0 ≤ guestGain previous current := by
  have := h.guest
  have := h.guestNice
  simp only [guestGain, guestTicks]
  omega

/-- The time of guests is part of the busy time. -/
theorem CpuStat.Accounted.guestGain_le : guestGain previous current ≤ busyGain previous current := by
  have := h.guest_in_user
  have := h.guestNice_in_nice
  have := h.system
  have := h.irq
  have := h.softirq
  have := h.steal
  simp only [guestGain, guestTicks, busyGain, allTicks, idleTicks]
  omega

theorem CpuStat.Accounted.idleGain_eq_zero_iff : idleGain previous current = 0 ↔
    current.idle = previous.idle ∧ current.iowait = previous.iowait := by
  have := h.idle
  have := h.iowait
  simp only [idleGain, idleTicks]
  omega

theorem CpuStat.Accounted.guestGain_eq_zero_iff : guestGain previous current = 0 ↔
    current.guest = previous.guest ∧ current.guestNice = previous.guestNice := by
  have := h.guest
  have := h.guestNice
  simp only [guestGain, guestTicks]
  omega

end Gains

/-! ### The percentage -/

/-- What the code computes: the time of guests stands in both gains a second time. -/
theorem computeHostCpuPct_eq (previous current : CpuStat) :
    computeHostCpuPct (some previous) current =
      let b := busyGain previous current
      let i := idleGain previous current
      let g := guestGain previous current
      if b + i + g ≤ 0 then none else some (max 0 (((b + g : ℤ) : ℚ) / (b + i + g : ℤ) * 100)) := by
  have htotal : current.total - previous.total = busyGain previous current +
      idleGain previous current + guestGain previous current := by
    simp only [CpuStat.total_eq, busyGain, idleGain, guestGain]
    omega
  have hbusy : current.busy - previous.busy =
      busyGain previous current + guestGain previous current := by
    simp only [CpuStat.busy_eq, busyGain, guestGain]
    omega
  simp only [computeHostCpuPct, Option.bind_some, htotal, hbusy]

/-- With `b` busy ticks, `i` idle ones and `g` of a guest, the share of the busy ticks
stays the same when `g` is counted twice only if `g` or `i` is zero. -/
theorem share_eq_iff {b i g : ℚ} (hg : 0 ≤ g) (hpos : 0 < b + i) :
    (b + g) / (b + i + g) * 100 = 100 * b / (b + i) ↔ g = 0 ∨ i = 0 := by
  have hall : b + i ≠ 0 := hpos.ne'
  have htotal : b + i + g ≠ 0 := by positivity
  rw [← mul_eq_zero]
  constructor
  · intro h
    field_simp at h
    linarith
  · intro h
    field_simp
    linear_combination h

/-- Every tick is counted once: 100 times the gain of the ticks that are not idle by the
gain of all, and a percentage. -/
def CountsOnce (previous current : CpuStat) (pct : ℚ) : Prop :=
  pct = 100 * busyGain previous current / (current.allTicks - previous.allTicks : ℤ) ∧
    0 ≤ pct ∧ pct ≤ 100

/-- The host CPU percentage counts every tick once exactly if no guest ran between the
two readings, or the host was never idle. -/
theorem host_cpu_counts_once_iff (previous current : CpuStat) (h : previous.Accounted current) :
    (∀ pct, computeHostCpuPct (some previous) current = some pct →
      CountsOnce previous current pct) ↔
      (current.guest = previous.guest ∧ current.guestNice = previous.guestNice) ∨
        (current.idle = previous.idle ∧ current.iowait = previous.iowait) := by
  have hi := h.idleGain_nonneg
  have hg := h.guestGain_nonneg
  have hle := h.guestGain_le
  have hall : current.allTicks - previous.allTicks =
      busyGain previous current + idleGain previous current := by
    simp only [busyGain, idleGain]
    omega
  rw [← h.guestGain_eq_zero_iff, ← h.idleGain_eq_zero_iff, computeHostCpuPct_eq]
  simp only [CountsOnce, hall]
  generalize busyGain previous current = b at *
  generalize idleGain previous current = i at *
  generalize guestGain previous current = g at *
  by_cases hnone : b + i + g ≤ 0
  · -- nothing passed between the readings
    have hzero : g = 0 := by omega
    simp only [if_pos hnone]
    simp [hzero]
  · have hgQ : (0 : ℚ) ≤ g := by exact_mod_cast hg
    have hiQ : (0 : ℚ) ≤ i := by exact_mod_cast hi
    have hbQ : (0 : ℚ) ≤ b := by exact_mod_cast hg.trans hle
    have hpos : (0 : ℚ) < b + i := by
      have : 0 < b + i := by omega
      exact_mod_cast this
    have hshare : 0 ≤ ((b : ℚ) + g) / (b + i + g) * 100 :=
      mul_nonneg (div_nonneg (by linarith) (by linarith)) (by norm_num)
    have hbound : ((b : ℚ) + g) / (b + i + g) * 100 ≤ 100 := by
      have hone : ((b : ℚ) + g) / (b + i + g) ≤ 1 := (div_le_one (by linarith)).mpr (by linarith)
      linarith
    simp only [hnone, if_false, Option.some.injEq, forall_eq']
    push_cast
    rw [max_eq_right hshare, share_eq_iff hgQ hpos]
    simp only [hshare, hbound, and_true, Int.cast_eq_zero]

/-! ### A guest that takes half of the time -/

def beforeGuest : CpuStat where
  user := 1000
  nice := 0
  system := 0
  idle := 1000
  iowait := 0
  irq := 0
  softirq := 0
  steal := 0

def afterGuest : CpuStat := { beforeGuest with user := 1050, idle := 1050, guest := 50 }

theorem guest_counted_twice : beforeGuest.Accounted afterGuest ∧
    computeHostCpuPct (some beforeGuest) afterGuest = some (200 / 3) ∧
      ¬CountsOnce beforeGuest afterGuest (200 / 3) := by
  refine ⟨by constructor <;> decide, by decide +kernel, fun h => absurd h.1 (by decide +kernel)⟩

def afterUser : CpuStat := { beforeGuest with user := 1050, idle := 1050 }

theorem host_cpu_counts_once_no_guest :
    beforeGuest.Accounted afterUser ∧ ∀ pct,
      computeHostCpuPct (some beforeGuest) afterUser = some pct →
        CountsOnce beforeGuest afterUser pct := by
  have haccounted : beforeGuest.Accounted afterUser := by constructor <;> decide
  exact ⟨haccounted, (host_cpu_counts_once_iff _ _ haccounted).mpr (.inl ⟨rfl, rfl⟩)⟩

end OvnApi.Sampler
