import OvnApi.Manager.System
import OvnApi.Store.Faithful
import OvnApi.Store.Retention

/-! Reading a run right after it has finished. The operation that stores the outcome goes on
to prune, and the pruning ranks by queueing time. Nothing joins the two steps, so other threads
may move in between: the run is read back exactly when its timeout is finite, its row is still
there, and fewer than `max_runs` other finished runs of the store that is pruned were queued with
or after it. -/

namespace OvnApi.Manager

open OvnApi.Core Lib Traces Store

variable {cfg : Config} {s s₁ s₂ : State} {closed : PersistedCanaryRun}

/-- A thread has stored this record in the state `s` as the outcome of its run. Whatever steps
came after that, in `s₁` it is about to prune. -/
inductive Stored (cfg : Config) (s : State) (closed : PersistedCanaryRun) (s₁ : State) : Prop where
  | worker {tid : ℕ} {record : PersistedCanaryRun} {outcome : ProbeOutcome}
      {finishedAt now : String} {s₀ : State}
      (hpc : s.workers[tid]? = some (.storeFinal record outcome finishedAt))
      (hclosed : closeByWorker record outcome finishedAt = closed)
      (hupdate : step cfg s (.worker tid (.go now)) = some s₀)
      (hothers : Reach (step cfg) anyStep s₀ s₁)
      (hpc₁ : s₁.workers[tid]? = some (.pruneFinal closed))
  | sync {i : ℕ} {request : CanaryProbeRequest} {prepared : PreparedProbe}
      {now finishedAt : String} {outcome : ProbeOutcome} {s₀ : State}
      (hpc : s.calls[i]? = some (.syncUpdate request prepared now outcome))
      (hclosed : closeBySync (syncRecord request prepared now) outcome finishedAt = closed)
      (hupdate : step cfg s (.call i (.go finishedAt)) = some s₀)
      (hothers : Reach (step cfg) anyStep s₀ s₁)
      (hpc₁ : s₁.calls[i]? = some (.syncPrune closed))

/-- The thread prunes, which ends the operation. -/
inductive Prunes (cfg : Config) (s₁ : State) (closed : PersistedCanaryRun) (s₂ : State) : Prop where
  | worker {tid : ℕ} {now : String} (hpc₁ : s₁.workers[tid]? = some (.pruneFinal closed))
      (hprune : step cfg s₁ (.worker tid (.go now)) = some s₂)
  | sync {i : ℕ} {now : String} (hpc₁ : s₁.calls[i]? = some (.syncPrune closed))
      (hprune : step cfg s₁ (.call i (.go now)) = some s₂)

theorem Stored.isFinished (h : Stored cfg s closed s₁) : isFinished closed = true := by
  cases h with
  | worker _ hclosed => exact hclosed ▸ markOutcome_isFinal _ _ _ _
  | sync _ hclosed => exact hclosed ▸ markOutcome_isFinal _ _ _ _

theorem Stored.exists_prunes (h : Stored cfg s closed s₁) (cfg' : Config) :
    ∃ s₂, Prunes cfg' s₁ closed s₂ := by
  cases h with
  | @worker tid _ _ _ _ _ _ _ _ _ hpc₁ =>
    have hprune : ∃ s₂, step cfg' s₁ (.worker tid (.go "")) = some s₂ := by
      simp [step, hpc₁, workerStep]
    exact hprune.imp fun _ h => .worker hpc₁ h
  | @sync i _ _ _ _ _ _ _ _ _ _ hpc₁ =>
    have hprune : ∃ s₂, step cfg' s₁ (.call i (.go "")) = some s₂ := by
      simp [step, hpc₁, callStep]
    exact hprune.imp fun _ h => .sync hpc₁ h

theorem Prunes.store (h : Prunes cfg s₁ closed s₂) :
    s₂.store = pruneFinishedRuns cfg.order cfg.maxRuns s₁.store := by
  cases h with
  | worker hpc₁ hprune =>
    simp only [step, hpc₁, Option.bind_some, workerStep, Option.map_some, Option.some.injEq] at hprune
    rw [← hprune]
    rfl
  | sync hpc₁ hprune =>
    simp only [step, hpc₁, Option.bind_some, callStep, Option.map_some, Option.some.injEq] at hprune
    rw [← hprune]
    rfl

/-- What `get_run` answers after the operation. -/
theorem Prunes.getRun_iff (h : Prunes cfg s₁ closed s₂)
    (hbuilt : ∀ stored ∈ s₁.store.find closed.probeId, stored.Built) :
    getRun (toRows s₂.store) closed.probeId = .ok (some closed) ↔
      closed.request.timeoutS.isFinite = true ∧
        (pruneFinishedRuns cfg.order cfg.maxRuns s₁.store).find closed.probeId = some closed := by
  rw [h.store]
  apply getRun_toRows_iff
  intro stored hstored
  -- pruning leaves the row as it is, or deletes it
  cases hrow : s₁.store.find closed.probeId with
  | none =>
    rw [find_pruneFinishedRuns_none hrow] at hstored
    cases hstored
  | some row =>
    rcases find_pruneFinishedRuns cfg.order cfg.maxRuns hrow with hkept | ⟨-, hgone⟩
    · obtain rfl : row = stored := Option.some.inj (hkept.symm.trans hstored)
      exact hbuilt row hrow
    · rw [hgone] at hstored
      cases hstored

/-- A run that finishes can be read right after the operation, in whatever order the
database lists runs queued at the same time, exactly when its timeout is finite, its row is there
when the operation prunes, and fewer than `max_runs` other finished runs were queued with or
after it. -/
theorem closed_readable_iff (cfg : Config) (s s₁ : State) (closed : PersistedCanaryRun)
    (hstored : Stored cfg s closed s₁)
    (hbuilt : ∀ stored ∈ s₁.store.find closed.probeId, stored.Built) :
    (∀ order s₂, Prunes ⟨cfg.maxRuns, order⟩ s₁ closed s₂ →
        getRun (toRows s₂.store) closed.probeId = .ok (some closed)) ↔
      closed.request.timeoutS.isFinite = true ∧ s₁.store.find closed.probeId = some closed ∧
        overtakers closed s₁.store < cfg.maxRuns := by
  constructor
  · intro hread
    have hboth : ∀ order, closed.request.timeoutS.isFinite = true ∧
        (pruneFinishedRuns order cfg.maxRuns s₁.store).find closed.probeId = some closed := by
      intro order
      obtain ⟨s₂, hprunes⟩ := hstored.exists_prunes ⟨cfg.maxRuns, order⟩
      exact (hprunes.getRun_iff hbuilt).mp (hread order s₂ hprunes)
    have hfind : s₁.store.find closed.probeId = some closed := by
      have hkept := (hboth cfg.order).2
      rw [pruneFinishedRuns, KeyedTable.find_filter] at hkept
      exact (Option.filter_eq_some_iff.mp hkept).1
    exact ⟨(hboth cfg.order).1, hfind,
      (find_prune_iff hfind hstored.isFinished).mp fun order => (hboth order).2⟩
  · rintro ⟨hfinite, hfind, hfew⟩ order s₂ hprunes
    exact (hprunes.getRun_iff hbuilt).mpr
      ⟨hfinite, (find_prune_iff hfind hstored.isFinished).mpr hfew order⟩

/-! ### A run overtaken while it is probed -/

def submittedRun : PersistedCanaryRun := sampleRun 1 (.fin 15) defaultTimeout_pos

def submitAndProbe : List Label :=
  [.invoke (.submit submittedRun.request), .call 0 (.go "t0"), .call 0 (.go "t0"),
   .call 0 (.prepared submittedRun.prepared), .call 0 (.go "t1"), .call 0 (.go "t1"),
   .call 0 (.go "t1"), .call 0 (.go "t1"),
   .worker 0 (.go "t2"), .worker 0 (.go "t2"), .worker 0 (.go "t2"), .worker 0 (.go "t2"),
   .worker 0 (.go "t2"), .worker 0 (.probed (.returned (switchResult submittedRun.probeId)))]

/-- The `i`-th call is a `run_sync`, from its beginning to its end. -/
def syncFromTo (i : ℕ) : List Label :=
  let probeId := "sync-" ++ toString i
  [.invoke (.runSync switchRequest), .call i (.go "t3"), .call i (.prepared (switchProbe probeId)),
   .call i (.go "t3"), .call i (.go "t3"), .call i (.probed (.returned (switchResult probeId))),
   .call i (.go "t4"), .call i (.go "t4"), .call i (.go "t4")]

def completedRun : PersistedCanaryRun :=
  closeByWorker (markRunning (queuedRecord submittedRun.request submittedRun.prepared "t1" 1) "t2")
    (.returned (switchResult submittedRun.probeId)) "t5"

theorem completedRun_built : completedRun.Built := sampleRun_built 1 (.fin 15) defaultTimeout_pos

/-- The worker is about to store the outcome; `n` calls of `run_sync` went before. -/
def overtakenBy (n : ℕ) : List Label :=
  submitAndProbe ++ (List.range n).flatMap (fun i => syncFromTo (i + 1)) ++ [.worker 0 (.go "t5")]

/-- The outcome a worker at this point is about to store. -/
def WorkerPc.toStore : WorkerPc → Option PersistedCanaryRun
  | .storeFinal record outcome finishedAt => some (closeByWorker record outcome finishedAt)
  | _ => none

/-- The outcome it has stored, if it is about to prune. -/
def WorkerPc.toPrune : WorkerPc → Option PersistedCanaryRun
  | .pruneFinal record => some record
  | _ => none

theorem stored_of_worker {tid : ℕ} {now : String} {s₀ : State}
    (hstore : s.workers[tid]?.bind WorkerPc.toStore = some closed)
    (hupdate : step cfg s (.worker tid (.go now)) = some s₀) (hothers : Reach (step cfg) anyStep s₀ s₁)
    (hprune : s₁.workers[tid]?.bind WorkerPc.toPrune = some closed) : Stored cfg s closed s₁ := by
  obtain ⟨pc, hpc, hclosed⟩ := Option.bind_eq_some_iff.mp hstore
  obtain ⟨pc₁, hpc₁, hpending⟩ := Option.bind_eq_some_iff.mp hprune
  cases pc with
  | storeFinal record outcome finishedAt =>
    cases pc₁ with
    | pruneFinal record₁ =>
      obtain rfl := Option.some.inj hpending
      exact .worker hpc (Option.some.inj hclosed) hupdate hothers hpc₁
    | _ => cases hpending
  | _ => cases hclosed

/-- `before` calls of `run_sync` go before the worker stores the outcome, and `more` come before
it prunes: then the state has a property that evaluates. -/
theorem exists_stored (before more : ℕ) {p : State → Bool}
    (h : ((run (step smallConfig) anyStep (State.fresh emptyStore []) (overtakenBy before)).any
      fun s => s.workers[0]?.bind WorkerPc.toStore = some completedRun &&
        (step smallConfig s (.worker 0 (.go "t6"))).any fun s₀ =>
          (run (step smallConfig) anyStep s₀
            ((List.range more).flatMap fun i => syncFromTo (before + i + 1))).any fun s₁ =>
            s₁.workers[0]?.bind WorkerPc.toPrune = some completedRun && p s₁) = true) :
    ∃ s s₁, Reach (step smallConfig) anyStep (State.fresh emptyStore []) s ∧
      Stored smallConfig s completedRun s₁ ∧ p s₁ = true := by
  obtain ⟨s, hreach, hs⟩ := exists_reach_of_run _ h
  rw [Bool.and_eq_true, decide_eq_true_eq] at hs
  obtain ⟨s₀, hupdate, hs₀⟩ := (Option.any_eq_true _ _).mp hs.2
  obtain ⟨s₁, hothers, hs₁⟩ := exists_reach_of_run _ hs₀
  rw [Bool.and_eq_true, decide_eq_true_eq] at hs₁
  exact ⟨s, s₁, hreach, stored_of_worker hs.1 hupdate hothers hs₁.1, hs₁.2⟩

/-- Twenty runs are queued and finished while the first is probed, the last of them after its
outcome has been stored: it succeeds, and is not found. -/
theorem overtaken_run_lost :
    ∃ s s₁ s₂, Reach (step smallConfig) anyStep (State.fresh emptyStore []) s ∧
      Stored smallConfig s completedRun s₁ ∧ Prunes smallConfig s₁ completedRun s₂ ∧
      completedRun.Built ∧ completedRun.request.timeoutS.isFinite = true ∧
      completedRun.status = .success ∧
      getRun (toRows s₂.store) completedRun.probeId = .ok none := by
  obtain ⟨s, s₁, hreach, hstored, hlost⟩ := exists_stored 19 1 (p := fun s₁ =>
    ((pruneFinishedRuns smallConfig.order smallConfig.maxRuns s₁.store).find
      completedRun.probeId).isNone) (by decide +kernel)
  obtain ⟨s₂, hprunes⟩ := hstored.exists_prunes smallConfig
  have hgone : s₂.store.find completedRun.probeId = none := by
    rw [hprunes.store]
    exact Option.isNone_iff_eq_none.mp hlost
  refine ⟨s, s₁, s₂, hreach, hstored, hprunes, completedRun_built, rfl, rfl, ?_⟩
  rw [getRun_toRows (by simp [hgone]) (by simp [hgone]), hgone]

/-- With nineteen of them it is found. -/
theorem closed_readable_iff_overtaken :
    ∃ s s₁, Reach (step smallConfig) anyStep (State.fresh emptyStore []) s ∧
      Stored smallConfig s completedRun s₁ ∧ overtakers completedRun s₁.store = 19 ∧
      ∀ order s₂, Prunes ⟨20, order⟩ s₁ completedRun s₂ →
        getRun (toRows s₂.store) completedRun.probeId = .ok (some completedRun) := by
  obtain ⟨s, s₁, hreach, hstored, hs₁⟩ := exists_stored 18 1 (p := fun s₁ =>
    decide (s₁.store.find completedRun.probeId = some completedRun ∧
      overtakers completedRun s₁.store = 19)) (by decide +kernel)
  obtain ⟨hfind, hcount⟩ := of_decide_eq_true hs₁
  have hbuilt : ∀ stored ∈ s₁.store.find completedRun.probeId, stored.Built := by
    intro stored hrow
    obtain rfl : completedRun = stored := Option.some.inj (hfind.symm.trans hrow)
    exact completedRun_built
  exact ⟨s, s₁, hreach, hstored, hcount,
    (closed_readable_iff smallConfig s s₁ completedRun hstored hbuilt).mpr
      ⟨rfl, hfind, hcount ▸ by decide⟩⟩

end OvnApi.Manager
