import OvnApi.Manager.Lifecycle

/-! Consistency of the stored runs across crashes. Seven code paths write a run,
each its own subset of the fields; every stored run still says one thing: open
and nothing recorded, or final with a finishing time and either a result of that
status or an error. A crash loses what the threads had in hand and leaves the
store. The only disturbance is a restart inside a living process, when an id is
on its way to the queue or from the queue to the worker's first read. -/

namespace OvnApi.Manager

open OvnApi.Core Lib Traces Store

/-- What a stored run says of itself. -/
structure Consistent (record : PersistedCanaryRun) : Prop where
  unfinished : record.status.isFinal = false → Clean record
  finished : record.status.isFinal = true → record.finishedAt.isSome
  result : ∀ result, record.result = some result →
    record.status = result.status.toRun ∧ record.error = none
  error : record.error.isSome → record.status = .failed ∧ record.result = none

def AllConsistent (s : State) : Prop :=
  ∀ id record, s.store.find id = some record → Consistent record

theorem Consistent.of_clean {record : PersistedCanaryRun} (hclean : Clean record)
    (hopen : record.status.isFinal = false) : Consistent record where
  unfinished _ := hclean
  finished hfinal := by rw [hopen] at hfinal; cases hfinal
  result _ hres := by rw [hclean.1] at hres; cases hres
  error herr := by rw [hclean.2.1] at herr; cases herr

theorem Consistent.of_failed {record : PersistedCanaryRun} (hstatus : record.status = .failed)
    (hresult : record.result = none) (hfinished : record.finishedAt.isSome) :
    Consistent record where
  unfinished hopen := by rw [hstatus] at hopen; cases hopen
  finished _ := hfinished
  result _ hres := by rw [hresult] at hres; cases hres
  error _ := ⟨hstatus, hresult⟩

/-- Closing a run that has no result yet. -/
theorem consistent_markOutcome {unexpected : String} {record : PersistedCanaryRun}
    (hresult : record.result = none) (outcome : ProbeOutcome) (finishedAt : String) :
    Consistent (markOutcome unexpected record outcome finishedAt) := by
  cases outcome with
  | raised exc => exact .of_failed rfl hresult rfl
  | returned result =>
    exact
      { unfinished := fun hopen => by
          have hfinal := result.status.toRun_isFinal
          rw [show result.status.toRun.isFinal = false from hopen] at hfinal
          cases hfinal
        finished := fun _ => rfl
        result := fun result' hres => by
          obtain rfl : result = result' := Option.some.inj hres
          exact ⟨rfl, rfl⟩
        error := fun herr => by cases herr }

theorem consistent_recovered {record : PersistedCanaryRun} (h : Consistent record)
    (now : String) : Consistent (recovered now record) := by
  cases hfinal : record.status.isFinal with
  | true => rw [recovered_of_final hfinal]; exact h
  | false =>
    rw [recovered_of_open hfinal]
    exact .of_failed rfl (h.unfinished hfinal).1 rfl

/-! ### What a holder relies on -/

/-- Until the worker has read a row, the row is queued and clean; from then on it
has no result until its holder writes one. -/
def Unwritten : Phase → Option PersistedCanaryRun → Prop
  | .reserved, row => row = none
  | .accepted, row | .queued, row | .fetched, row =>
    ∀ record ∈ row, record.status = .queued ∧ Clean record
  | .loaded record, _ => Clean record
  | .running, row => ∀ record ∈ row, record.result = none
  | .closing record, _ => record.result = none
  | .syncRunning, _ => True

theorem unwritten_invariant : PhaseInvariant Unwritten where
  reserve := rfl
  accept record hstatus hclean := by
    rintro _ ⟨rfl⟩
    exact ⟨hstatus, hclean⟩
  acceptSync _ _ _ := trivial
  enqueue _ h := h
  fetch _ h := h
  load record h := (h record rfl).2
  markRunning record now row h := by
    rintro _ ⟨rfl⟩
    exact h.1
  reload record h := h record rfl
  prune φ record _ h := by
    cases φ with
    | reserved => cases h
    | accepted | queued | fetched | running => intro _ hmem; cases hmem
    | loaded | closing | syncRunning => exact h

/-- The row may still be read by the worker for the first time. -/
def Phase.isUnread : Phase → Bool
  | .accepted | .queued | .fetched => true
  | _ => false

theorem undisturbed_of_read {φ : Phase} (h : φ.isUnread = false) : Undisturbed Unwritten φ := by
  intro now row hrow
  cases φ with
  | accepted | queued | fetched => cases h
  | reserved =>
    have hnone : row = none := hrow
    rw [hnone]
    rfl
  | loaded | closing | syncRunning => exact hrow
  | running =>
    intro record hmem
    obtain ⟨record₀, hmem₀, rfl⟩ := Option.mem_map.mp hmem
    have hresult := hrow record₀ hmem₀
    cases hfinal : record₀.status.isFinal with
    | true => rw [recovered_of_final hfinal]; exact hresult
    | false => rw [recovered_of_open hfinal]; exact hresult

/-- If the step is a `start` that finds no worker alive, then no `submit` stands
between `create_run` and its put, and no worker between taking an id off the queue
and reading its row. -/
def SafeRestart (s : State) (l : Label) : Prop :=
  restarts s l = true → ∀ t ∈ s.threadTokens, t.2.isUnread = false

instance (s : State) (l : Label) : Decidable (SafeRestart s l) :=
  inferInstanceAs (Decidable (_ → _))

section Steps

variable {cfg : Config} {s s' : State} {l : Label}

/-- A move writes consistent rows. -/
theorem Move.consistent {t t' : Option Token} {b b' : Books} (h : Move cfg t t' b b')
    (hfits : ∀ tok ∈ t, Unwritten tok.2 (b.store.find tok.1))
    (hrows : ∀ id record, b.store.find id = some record → Consistent record)
    (id : String) (record : PersistedCanaryRun) (hrow : b'.store.find id = some record) :
    Consistent record := by
  -- a written row is the one that was written or one that was there
  have split : ∀ {written : PersistedCanaryRun},
      (b'.store.find id = if id = written.probeId then some written else b.store.find id) →
      Consistent written → Consistent record := by
    intro written hfind hwritten
    rw [hfind] at hrow
    split at hrow
    · cases hrow; exact hwritten
    · exact hrows id record hrow
  cases h with
  | keep | reserve | enqueue | fetch | load | reload | drop => exact hrows id record hrow
  | accept hstatus hclean hcreate | acceptSync hstatus hclean hcreate =>
    exact split ((createRun_ok hcreate).2 id) (.of_clean hclean (by rw [hstatus]; rfl))
  | markRunning hupdate =>
    have hclean : Clean _ := hfits _ rfl
    exact split ((updateRun_ok hupdate).2 id) (.of_clean hclean rfl)
  | close hupdate =>
    exact split ((updateRun_ok hupdate).2 id) (consistent_markOutcome (hfits _ rfl) _ _)
  | closeSync hclean hupdate =>
    exact split ((updateRun_ok hupdate).2 id) (consistent_markOutcome hclean.1 _ _)
  | prune =>
    cases hold : b.store.find id with
    | none => cases (find_pruneFinishedRuns_none hold).symm.trans hrow
    | some record₀ =>
      rcases find_pruneFinishedRuns cfg.order cfg.maxRuns hold with
        hsame | ⟨-, hnone⟩
      · obtain rfl : record₀ = record := Option.some.inj (hsame.symm.trans hrow)
        exact hrows id record₀ hold
      · cases hnone.symm.trans hrow

theorem step_consistent (hheld : Held Unwritten s) (h : AllConsistent s)
    (hstep : step cfg s l = some s') : AllConsistent s' := by
  rcases step_change hstep with ⟨t, t', rest, hold, -, hmove⟩ |
    ⟨now, -, hstore, -, -⟩ | ⟨-, hstore, -, -⟩
  · refine hmove.consistent (fun tok htok => hheld.fits tok ?_) h
    exact hold.mem_iff.mpr (List.mem_append_left _ (Option.mem_toList.mpr htok))
  · intro id record hrow
    rw [hstore, find_recovered] at hrow
    obtain ⟨record₀, hrow₀, rfl⟩ := Option.map_eq_some_iff.mp hrow
    exact consistent_recovered (h id record₀ hrow₀) now
  · intro id record hrow
    exact h id record (hstore ▸ hrow)

end Steps

/-! ### A new process -/

/-- The call belongs to `start` or `stop`. -/
def CallPc.isControl : CallPc → Bool
  | .startEnter .back | .startLaunch _ .back | .stopEnter | .stopPut | .stopJoin | .done => true
  | _ => false

def AllFinal (s : State) : Prop :=
  ∀ id record, s.store.find id = some record → record.status.isFinal = true

/-- A process in which no `start` has returned yet. -/
structure Booting (s : State) : Prop where
  calls : ∀ pc ∈ s.calls, pc.isControl = true
  workers : ∀ pc ∈ s.workers, pc = .created
  final : s.workers ≠ [] → AllFinal s

def Label.submits : Label → Bool
  | .invoke (.submit _) | .invoke (.runSync _) => true
  | _ => false

/-- A submission is made only after a `start` of this process has returned. -/
def AfterBoot (s : State) (l : Label) : Prop := l.submits = true → s.booted = true

instance (s : State) (l : Label) : Decidable (AfterBoot s l) :=
  inferInstanceAs (Decidable (_ → _))

section Boot

variable {cfg : Config} {s s₁ s' : State} {l : Label}

theorem Booting.not_alive (h : Booting s) : s.alive = false := by
  unfold State.alive
  cases hpc : s.thread.bind fun t => s.workers[t]? with
  | none => rfl
  | some pc =>
    obtain ⟨t, -, hget⟩ := Option.bind_eq_some_iff.mp hpc
    rw [h.workers pc (List.mem_of_getElem? hget)]
    rfl

theorem Booting.fresh (store : RunTable PersistedCanaryRun) (issued : List String) :
    Booting (State.fresh store issued) where
  calls _ hpc := absurd hpc List.not_mem_nil
  workers _ hpc := absurd hpc List.not_mem_nil
  final hne := absurd rfl hne

/-- A step of `start` or `stop` in a process that has not booted. -/
theorem Booting.callStep {pc pc' : CallPc} {a : Answer} (h : Booting s)
    (hpc : pc.isControl = true) (hstep : Manager.callStep cfg s pc a = some (s₁, pc')) :
    pc'.isControl = true ∧
      (s₁.booted = s.booted ∧ (∀ w ∈ s₁.workers, w = .created) ∧
          (s₁.workers ≠ [] → AllFinal s₁) ∨
        s₁.booted = true ∧ AllFinal s₁) := by
  have hdead := h.not_alive
  -- a step that leaves the store and the workers alone
  have same : s₁.store = s.store → s₁.workers = s.workers → s₁.booted = s.booted →
      (s₁.booted = s.booted ∧ (∀ w ∈ s₁.workers, w = .created) ∧
          (s₁.workers ≠ [] → AllFinal s₁) ∨
        s₁.booted = true ∧ AllFinal s₁) := by
    intro hstore hworkers hbooted
    refine .inl ⟨hbooted, hworkers ▸ h.workers, fun hne id record hrow => ?_⟩
    exact h.final (hworkers ▸ hne) id record (hstore ▸ hrow)
  cases callStep_cases hstep with
  | ends => exact ⟨rfl, same rfl rfl rfl⟩
  | alive halive => rw [hdead] at halive; cases halive
  | @recover after now =>
    have hafter : after = .back := by
      cases after with
      | back => rfl
      | submit => cases hpc
    subst hafter
    refine ⟨rfl, .inl ⟨rfl, ?_, fun _ id record hrow => ?_⟩⟩
    · intro w hw
      rcases List.mem_append.mp hw with hw | hw
      · exact h.workers w hw
      · exact List.mem_singleton.mp hw
    · have hrow : (failStaleRuns staleReason now s.store).find id = some record := hrow
      rw [find_recovered] at hrow
      obtain ⟨record₀, -, rfl⟩ := Option.map_eq_some_iff.mp hrow
      exact recovered_isFinal now record₀
  | @launch tid after now hcreated =>
    have hne : s.workers ≠ [] := List.ne_nil_of_mem (List.mem_of_getElem? hcreated)
    cases after with
    | back => exact ⟨rfl, .inr ⟨rfl, h.final hne⟩⟩
    | submit => cases hpc
  | stop hpc' =>
    subst hpc'
    exact ⟨by cases s.thread <;> rfl, same rfl rfl rfl⟩
  | putNone => exact ⟨rfl, same rfl rfl rfl⟩
  | _ => cases hpc

/-- As long as no `start` has returned, the process is booting; the step that ends
this leaves every stored run final. -/
theorem booting_step (h : s.booted = false → Booting s) (hafter : AfterBoot s l)
    (hstep : step cfg s l = some s') :
    (s'.booted = false → Booting s') ∧ (s.booted = false → s'.booted = true → AllFinal s') := by
  cases l with
  | invoke call =>
    obtain rfl := by simpa [step] using hstep
    refine ⟨fun hb => ?_, fun hb hb' => absurd (hb.symm.trans hb') (by simp)⟩
    have hboot := h hb
    refine ⟨fun pc hpc => ?_, hboot.workers, hboot.final⟩
    rcases List.mem_append.mp hpc with hpc | hpc
    · exact hboot.calls pc hpc
    · obtain rfl := List.mem_singleton.mp hpc
      cases call with
      | start | stop => rfl
      | submit | runSync => exact absurd (hb.symm.trans (hafter rfl)) (by simp)
  | call i a =>
    obtain ⟨pc, hpc, hmap⟩ := Option.bind_eq_some_iff.mp hstep
    obtain ⟨⟨s₁, pc'⟩, hcall, rfl⟩ := Option.map_eq_some_iff.mp hmap
    cases hb : s.booted with
    | true =>
      have hb₁ : s₁.booted = true := callStep_booted hcall hb
      exact ⟨fun hf => absurd (hb₁.symm.trans hf) (by simp), fun hf => by cases hf⟩
    | false =>
      have hboot := h hb
      obtain ⟨hcontrol, hcase⟩ :=
        hboot.callStep (hboot.calls pc (List.mem_of_getElem? hpc)) hcall
      rcases hcase with ⟨hsame, hworkers, hfinal⟩ | ⟨hb₁, hfinal⟩
      · have hb₁ : s₁.booted = false := hsame.trans hb
        refine ⟨fun _ => ⟨fun pc₁ hpc₁ => ?_, hworkers, hfinal⟩,
          fun _ hf => absurd (hb₁.symm.trans hf) (by simp)⟩
        rcases List.mem_or_eq_of_mem_set hpc₁ with hold | rfl
        · exact hboot.calls pc₁ ((callStep_move hcall).1 ▸ hold)
        · exact hcontrol
      · exact ⟨fun hf => absurd (hb₁.symm.trans hf) (by simp), fun _ _ => hfinal⟩
  | worker tid a =>
    obtain ⟨pc, hpc, hmap⟩ := Option.bind_eq_some_iff.mp hstep
    obtain ⟨⟨s₁, pc'⟩, hworker, rfl⟩ := Option.map_eq_some_iff.mp hmap
    cases hb : s.booted with
    | true =>
      have hb₁ : s₁.booted = true := (workerStep_booted hworker).trans hb
      exact ⟨fun hf => absurd (hb₁.symm.trans hf) (by simp), fun hf => by cases hf⟩
    | false =>
      rw [(h hb).workers pc (List.mem_of_getElem? hpc)] at hworker
      simp [workerStep] at hworker
  | crash =>
    obtain rfl := by simpa [step] using hstep
    exact ⟨fun _ => .fresh _ _, fun _ hb => by cases hb⟩

end Boot

/-- The conditions on a history: submissions after boot, and safe restarts. -/
def SafeHistory (s : State) (l : Label) : Prop := AfterBoot s l ∧ SafeRestart s l

instance (s : State) (l : Label) : Decidable (SafeHistory s l) :=
  inferInstanceAs (Decidable (_ ∧ _))

/-- In every history of calls, worker steps and crashes over a consistent store, in
which submissions come after boot and every restart is safe, every stored run is
consistent in every state, and a `start` that boots a process leaves no run queued
or running. -/
theorem stored_runs_consistent (cfg : Config) (store : RunTable PersistedCanaryRun)
    (issued : List String)
    (hissued : ∀ id record, store.find id = some record → id ∈ issued)
    (hconsistent : ∀ id record, store.find id = some record → Consistent record) (s : State)
    (hs : Reach (step cfg) SafeHistory (State.fresh store issued) s) :
    AllConsistent s ∧
    ∀ l s', SafeHistory s l → step cfg s l = some s' → s.booted = false → s'.booted = true →
      AllFinal s' := by
  have hinv : Held Unwritten s ∧ AllConsistent s ∧ (s.booted = false → Booting s) := by
    refine Reach.invariant
      (I := fun s => Held Unwritten s ∧ AllConsistent s ∧ (s.booted = false → Booting s))
      ⟨.fresh hissued, hconsistent, fun _ => .fresh store issued⟩ ?_ hs
    rintro s l s' ⟨hheld, hcons, hboot⟩ ⟨hafter, hsafe⟩ hstep
    refine ⟨?_, step_consistent hheld hcons hstep, (booting_step hboot hafter hstep).1⟩
    exact hheld.of_step unwritten_invariant hstep fun hr t ht =>
      undisturbed_of_read (hsafe hr t ht)
  refine ⟨hinv.2.1, fun l s' hl hstep hb hb' => ?_⟩
  exact (booting_step hinv.2.2 hl.1 hstep).2 hb hb'

/-! ### A restart under a half-way submission -/

def endlessRequest : CanaryProbeRequest where
  resourceType := .logicalSwitch
  timeoutS := .inf
  timeout_pos := rfl
  poll_ge := defaultPoll_ge

/-- The worker dies reading the row of an endless request while a second submission
has created its row; a third submission restarts the worker; then the second id is
put on the queue and taken up. -/
def restartUnderSubmit : List Label :=
  [.invoke .start, .call 0 (.go "t0"), .call 0 (.go "t0"),
   .invoke (.submit endlessRequest), .call 1 (.go "t1"), .call 1 (.prepared (switchProbe firstId)),
   .call 1 (.go "t1"), .call 1 (.go "t1"), .call 1 (.go "t1"), .call 1 (.go "t1"),
   .invoke (.submit switchRequest), .call 2 (.go "t2"),
   .call 2 (.prepared (switchProbe secondId)), .call 2 (.go "t2"), .call 2 (.go "t2"),
   .worker 0 (.go "t3"), .worker 0 .storeRaises,
   .invoke (.submit switchRequest), .call 3 (.go "t4"), .call 3 (.go "t4"),
   .call 2 (.go "t5"), .call 2 (.go "t5"),
   .worker 1 (.go "t6"), .worker 1 (.go "t6"), .worker 1 (.go "t6")]

theorem running_run_with_error :
    ∃ s, run (step smallConfig) AfterBoot (State.fresh emptyStore []) restartUnderSubmit = some s ∧
      (s.store.find secondId).map (fun record => (record.status, record.error, record.finishedAt)) =
        some (.running, some staleReason, some "t4") :=
  ⟨_, rfl, rfl⟩

/-- A run is taken up, the process crashes, and the next process marks it failed. -/
def crashWhileRunning : List Label :=
  [.invoke .start, .call 0 (.go "t0"), .call 0 (.go "t0"),
   .invoke (.submit switchRequest), .call 1 (.go "t1"), .call 1 (.prepared (switchProbe firstId)),
   .call 1 (.go "t1"), .call 1 (.go "t1"), .call 1 (.go "t1"), .call 1 (.go "t1"),
   .worker 0 (.go "t2"), .worker 0 (.go "t2"), .worker 0 (.go "t2"), .crash,
   .invoke .start, .call 0 (.go "t3"), .call 0 (.go "t3")]

theorem stored_runs_consistent_crash :
    ∃ s, run (step smallConfig) SafeHistory (State.fresh emptyStore []) crashWhileRunning =
        some s ∧
      (s.store.find firstId).map PersistedCanaryRun.status = some .failed ∧ AllConsistent s := by
  refine ⟨_, rfl, rfl, ?_⟩
  exact (stored_runs_consistent smallConfig emptyStore [] (fun _ _ h => by cases h)
    (fun _ _ h => by cases h) _ (run_reach crashWhileRunning rfl)).1

end OvnApi.Manager
