import OvnApi.Lib.Crew
import OvnApi.Manager.Lifecycle

/-! The worker threads of the trace manager: only `start` makes them and starts them,
and only the worker itself moves on. -/

namespace OvnApi.Manager

open OvnApi.Core Lib Traces Store

def CallPc.launching : CallPc → Bool
  | .startLaunch _ _ => true
  | _ => false

variable {cfg : Config} {s s₁ s' : State} {pc pc' : CallPc} {a : Answer} {l : Label}

theorem launching_next (after : After) : after.next.launching = false := by
  cases after <;> rfl

/-- Only `start` makes threads and starts them. -/
theorem callStep_effect (h : callStep cfg s pc a = some (s₁, pc')) :
    CallEffect WorkerPc.active CallPc.launching
      ((pc.entersStart = true ∧ ∃ now, a = .go now) ∧ s.alive = false)
      s.workers pc s₁.workers pc' := by
  cases callStep_cases h with
  | alive => exact .go _ (by simp [launching_next])
  | @recover after now halive => exact .spawn _ WorkerPc.created ⟨⟨rfl, now, rfl⟩, halive⟩ rfl
  | launch => exact .launch _ _ WorkerPc.fetch rfl (launching_next _)
  | stop hpc' =>
    subst hpc'
    exact .go _ (by cases s.thread <;> simp [CallPc.launching])
  | _ => exact .go _ (by simp [CallPc.launching])

theorem workerStep_active {tid : ℕ} {w w' : WorkerPc}
    (h : workerStep cfg s tid w a = some (s₁, w')) : w.active = true := by
  cases w with
  | created | finished => cases h
  | _ => rfl

theorem step_crewStep (h : step cfg s l = some s')
    (hok : restarts s l = true → noneLeft WorkerPc.active s.thread s.workers = true ∧
      noneStarting CallPc.launching s.calls = true) :
    CrewStep WorkerPc.active CallPc.launching s.workers s.calls s'.workers s'.calls := by
  cases l with
  | invoke call =>
    obtain rfl := Option.some.inj h
    exact .enter _ (by cases call <;> rfl)
  | call i a =>
    obtain ⟨pc, hpc, hmap⟩ := Option.bind_eq_some_iff.mp h
    obtain ⟨⟨s₁, pc'⟩, hstep, rfl⟩ := Option.map_eq_some_iff.mp hmap
    obtain ⟨hcalls, -⟩ := callStep_move hstep
    dsimp only
    rw [hcalls]
    refine .of_call hpc (callStep_effect hstep) ?_
    rintro ⟨⟨henters, now, rfl⟩, halive⟩
    have hdead : s.alive = false := halive
    exact hok (by simp [restarts, hpc, henters, hdead])
  | worker tid a =>
    obtain ⟨w, hw, hmap⟩ := Option.bind_eq_some_iff.mp h
    obtain ⟨⟨s₁, w'⟩, hstep, rfl⟩ := Option.map_eq_some_iff.mp hmap
    obtain ⟨hcalls, hworkers, -⟩ := workerStep_move hstep
    dsimp only
    rw [hcalls, hworkers]
    exact .work tid w w' hw fun _ => workerStep_active hstep
  | crash =>
    obtain rfl := Option.some.inj h
    exact .restart

/-- A call leaves a worker that has been started where it is. -/
theorem callStep_worker {tid : ℕ} {w : WorkerPc} (h : callStep cfg s pc a = some (s₁, pc'))
    (hw : s.workers[tid]? = some w) (hstarted : w ≠ .created) : s₁.workers[tid]? = some w := by
  cases callStep_cases h with
  | recover =>
    have hlt : tid < s.workers.length := (List.getElem?_eq_some_iff.mp hw).choose
    exact (List.getElem?_append_left hlt).trans hw
  | @launch target after now hcreated =>
    have hne : target ≠ tid := by
      rintro rfl
      rw [hcreated] at hw
      exact hstarted (Option.some.inj hw).symm
    exact (List.getElem?_set_ne hne).trans hw
  | _ => exact hw

end OvnApi.Manager
