import OvnApi.Manager.Steps
import OvnApi.Store.Retention

/-! How many finished runs the manager keeps. In a sequential history each call
runs to its end before the next begins, and so does each completion by a worker.
An operation that gets to its pruning step leaves at most `max_runs` finished
runs. One that ends before it, at a call that raises or a row that is gone, leaves
what it found and what it has added: a `submit` that finds no worker alive has
made every stored run a finished one. -/

namespace OvnApi.Manager

open OvnApi.Core Lib Traces Store

/-! ### Operations -/

def CallPc.isDone : CallPc → Bool
  | .done => true
  | _ => false

def WorkerPc.isTaskDone : WorkerPc → Bool
  | .taskDone _ => true
  | _ => false

/-- The worker probes, or stores the outcome of its probe. -/
def WorkerPc.completing : WorkerPc → Bool
  | .probing _ | .loadFinal _ _ | .storeFinal _ _ _ | .pruneFinal _ | .emitFinal _ => true
  | _ => false

/-- A call to its end, the completion of a probe by a worker, any other step of a
worker, or the process starting anew. -/
inductive Op where
  | call (method : Call) (answers : List Answer)
  | complete (tid : ℕ) (answers : List Answer)
  | work (tid : ℕ) (answer : Answer)
  | restart

/-- A call run alone. -/
def runCall (cfg : Config) (s : State) (method : Call) (answers : List Answer) :
    Option (State × CallPc) :=
  alone (callStep cfg) CallPc.isDone s method.entry answers

/-- What a worker does from the end of its probe to `task_done`. -/
def runCompletion (cfg : Config) (s : State) (tid : ℕ) (answers : List Answer) :
    Option (State × WorkerPc) :=
  s.workers[tid]?.bind fun pc =>
    match pc with
    | .probing record =>
      alone (fun s => workerStep cfg s tid) WorkerPc.isTaskDone s (.probing record) answers
    | _ => none

def Op.step (cfg : Config) (s : State) : Op → Option State
  | .call method answers =>
    (runCall cfg s method answers).map fun r => { r.1 with calls := s.calls ++ [r.2] }
  | .complete tid answers =>
    (runCompletion cfg s tid answers).map fun r => { r.1 with workers := s.workers.set tid r.2 }
  | .work tid answer =>
    s.workers[tid]?.bind fun pc =>
      if pc.completing then none else Manager.step cfg s (.worker tid answer)
  | .restart => Manager.step cfg s .crash

def Op.settles : Op → Bool
  | .call (.submit _) _ | .call (.runSync _) _ | .complete _ _ => true
  | _ => false

/-! ### Sequential histories are runs of the manager -/

section Runs

variable {cfg : Config} {s s' : State}

/-- A call neither reads nor changes the list of calls. -/
theorem callStep_calls (calls : List CallPc) (pc : CallPc) (a : Answer) :
    callStep cfg { s with calls := calls } pc a =
      (callStep cfg s pc a).map fun r => ({ r.1 with calls := calls }, r.2) := by
  cases pc <;> cases a <;>
    simp only [callStep, State.alive, State.recover, State.prune, State.put, State.emit,
      Option.map_none, Option.map_some] <;>
    (try split) <;> simp_all

/-- A worker neither reads nor changes the list of workers. -/
theorem workerStep_workers (workers : List WorkerPc) (tid : ℕ) (pc : WorkerPc) (a : Answer) :
    workerStep cfg { s with workers := workers } tid pc a =
      (workerStep cfg s tid pc a).map fun r => ({ r.1 with workers := workers }, r.2) := by
  cases pc <;> cases a <;>
    simp only [workerStep, State.prune, State.emit, Option.map_none, Option.map_some] <;>
    (try split) <;> simp_all

theorem step_call_last {s₁ : State} {pc pc' : CallPc} {a : Answer} (calls : List CallPc)
    (h : callStep cfg s pc a = some (s₁, pc')) :
    step cfg { s with calls := calls ++ [pc] } (.call calls.length a) =
      some { s₁ with calls := calls ++ [pc'] } := by
  simp [step, callStep_calls, h]

theorem step_worker_at {s₁ : State} {pc pc' : WorkerPc} {a : Answer} {workers : List WorkerPc}
    {tid : ℕ} (htid : tid < workers.length) (h : workerStep cfg s tid pc a = some (s₁, pc')) :
    step cfg { s with workers := workers.set tid pc } (.worker tid a) =
      some { s₁ with workers := workers.set tid pc' } := by
  simp [step, workerStep_workers, h, htid]

theorem runCompletion_eq {tid : ℕ} {answers : List Answer} {r : State × WorkerPc}
    (h : runCompletion cfg s tid answers = some r) :
    ∃ record, s.workers[tid]? = some (.probing record) ∧
      alone (fun s => workerStep cfg s tid) WorkerPc.isTaskDone s (.probing record) answers =
        some r := by
  obtain ⟨pc, hpc, h⟩ := Option.bind_eq_some_iff.mp h
  cases pc with
  | probing record => exact ⟨record, hpc, h⟩
  | _ => cases h

/-- Every operation is a run of the concurrent system. -/
theorem Op.reach {op : Op} (h : op.step cfg s = some s') :
    Reach (Manager.step cfg) anyStep s s' := by
  cases op with
  | call method answers =>
    obtain ⟨⟨s₁, fin⟩, hrun, rfl⟩ := Option.map_eq_some_iff.mp h
    have hinvoke : Manager.step cfg s (.invoke method) =
        some { s with calls := s.calls ++ [method.entry] } := rfl
    refine (Reach.next .start trivial hinvoke).trans ?_
    exact reach_alone (fun t pc => { t with calls := s.calls ++ [pc] })
      (fun t pc a t' pc' hstep => .next .start trivial (step_call_last s.calls hstep)) hrun
  | complete tid answers =>
    obtain ⟨⟨s₁, fin⟩, hrun, rfl⟩ := Option.map_eq_some_iff.mp h
    obtain ⟨record, hpc, halone⟩ := runCompletion_eq hrun
    obtain ⟨htid, hget⟩ := List.getElem?_eq_some_iff.mp hpc
    have hself : { s with workers := s.workers.set tid (.probing record) } = s := by
      rw [← hget, List.set_getElem_self]
    have hreach := reach_alone (fun t pc => { t with workers := s.workers.set tid pc })
      (fun t pc a t' pc' hstep => .next .start trivial (step_worker_at htid hstep)) halone
    rwa [hself] at hreach
  | work tid answer =>
    obtain ⟨pc, -, h⟩ := Option.bind_eq_some_iff.mp h
    split_ifs at h
    exact .next .start trivial h
  | restart => exact .next .start trivial (show Manager.step cfg s .crash = some s' from h)

end Runs

/-! ### What an operation leaves -/

theorem finishedCount_prune_le (cfg : Config) (s : State) :
    finishedCount (s.prune cfg).store ≤ cfg.maxRuns := by
  rw [State.prune, finishedCount_prune]
  exact min_le_left _ _

section Calls

variable {cfg : Config} {s₀ s s' : State} {n : ℕ} {pc pc' : CallPc} {a : Answer}

/-- How many answers `start` takes: to its check, or to the recovery and the launch. -/
def State.started (s : State) : ℕ := if s.alive then 1 else 2

/-- The number of finished runs once `start` is through. -/
def State.afterStart (s : State) : ℕ :=
  if s.alive then finishedCount s.store else s.store.rows.length

/-- A `submit` begun in `s₀` has got to this point after `n` answers. -/
def SubmitAt (cfg : Config) (s₀ : State) (n : ℕ) (s : State) : CallPc → Prop
  | .startEnter (.submit _) => n = 0 ∧ s = s₀
  | .startLaunch _ (.submit _) =>
    n = 1 ∧ s₀.alive = false ∧ finishedCount s.store = s₀.store.rows.length
  | .submitPrepare _ => n = s₀.started ∧ finishedCount s.store = s₀.afterStart
  | .submitDepth _ _ => n = s₀.started + 1 ∧ finishedCount s.store = s₀.afterStart
  | .submitCreate _ _ _ _ => n = s₀.started + 2 ∧ finishedCount s.store = s₀.afterStart
  | .submitPrune _ => n = s₀.started + 3 ∧ finishedCount s.store = s₀.afterStart
  | .submitPut _ => n = s₀.started + 4 ∧ finishedCount s.store ≤ cfg.maxRuns
  | .submitEmit _ => n = s₀.started + 5 ∧ finishedCount s.store ≤ cfg.maxRuns
  | .submitGet _ => n = s₀.started + 6 ∧ finishedCount s.store ≤ cfg.maxRuns
  | _ => False

theorem SubmitAt.step (h : SubmitAt cfg s₀ n s pc) (hstep : callStep cfg s pc a = some (s', pc'))
    (hdone : pc'.isDone = false) : SubmitAt cfg s₀ (n + 1) s' pc' := by
  cases callStep_cases hstep with
  | ends => cases hdone
  | @alive after now halive =>
    cases after with
    | back => exact h.elim
    | submit request =>
      obtain ⟨rfl, rfl⟩ := h
      exact ⟨(if_pos halive).symm, (if_pos halive).symm⟩
  | @recover after now halive =>
    cases after with
    | back => exact h.elim
    | submit request =>
      obtain ⟨rfl, rfl⟩ := h
      exact ⟨rfl, halive, finishedCount_failStaleRuns _ _⟩
  | @launch tid after =>
    cases after with
    | back => exact h.elim
    | submit request =>
      obtain ⟨rfl, halive, hcount⟩ := h
      exact ⟨by simp [State.started, halive], by simpa [State.afterStart, halive] using hcount⟩
  | create hcreate =>
    exact ⟨congrArg (· + 1) h.1, (finishedCount_createRun hcreate rfl).trans h.2⟩
  | prune => exact ⟨congrArg (· + 1) h.1, finishedCount_prune_le cfg s⟩
  | prepare | depth | put | emit => exact ⟨congrArg (· + 1) h.1, h.2⟩
  | _ => exact h.elim

/-- The run has its row, which is not finished, and no other row is new. -/
def State.Opened (s s₀ : State) (prepared : PreparedProbe) : Prop :=
  finishedCount s.store = finishedCount s₀.store ∧
    ∃ row, s.store.find prepared.probeId = some row ∧ isFinished row = false

/-- A `run_sync` begun in `s₀` has got to this point after `n` answers. -/
def SyncAt (cfg : Config) (s₀ : State) (n : ℕ) (s : State) : CallPc → Prop
  | .syncInit _ => n = 0 ∧ finishedCount s.store = finishedCount s₀.store
  | .syncPrepare _ => n = 1 ∧ finishedCount s.store = finishedCount s₀.store
  | .syncCreate _ _ => n = 2 ∧ finishedCount s.store = finishedCount s₀.store
  | .syncEmit _ prepared _ => n = 3 ∧ s.Opened s₀ prepared
  | .syncProbe _ prepared _ => n = 4 ∧ s.Opened s₀ prepared
  | .syncUpdate _ prepared _ _ => n = 5 ∧ s.Opened s₀ prepared
  | .syncPrune _ => n = 6 ∧ finishedCount s.store = finishedCount s₀.store + 1
  | .syncEmitFinal _ => n = 7 ∧ finishedCount s.store ≤ cfg.maxRuns
  | _ => False

theorem SyncAt.step (h : SyncAt cfg s₀ n s pc) (hstep : callStep cfg s pc a = some (s', pc'))
    (hdone : pc'.isDone = false) : SyncAt cfg s₀ (n + 1) s' pc' := by
  cases callStep_cases hstep with
  | ends | emitFinal => cases hdone
  | initSync | prepareSync | emitSync | probeSync => exact ⟨congrArg (· + 1) h.1, h.2⟩
  | createSync hcreate =>
    exact ⟨congrArg (· + 1) h.1, (finishedCount_createRun hcreate rfl).trans h.2,
      _, createRun_self hcreate, rfl⟩
  | @closeSync request prepared now finishedAt outcome store hupdate =>
    obtain ⟨hn, hsame, row, hrow, hopen⟩ := h
    have hid : (closeBySync (syncRecord request prepared now) outcome finishedAt).probeId =
        prepared.probeId := markOutcome_probeId _ _ _ _
    have hcount := finishedCount_updateRun hupdate (hid ▸ hrow) (markOutcome_isFinal _ _ _ _)
    rw [hopen, hsame] at hcount
    exact ⟨congrArg (· + 1) hn, hcount⟩
  | pruneSync => exact ⟨congrArg (· + 1) h.1, finishedCount_prune_le cfg s⟩
  | _ => exact h.elim

/-- The step that ends a call does not touch the store. -/
theorem store_of_done (hstep : callStep cfg s pc a = some (s', pc')) (hdone : pc'.isDone = true) :
    s'.store = s.store := by
  cases callStep_cases hstep <;> first | rfl | cases hdone

/-- A call leaves the store as it is before its last answer. -/
theorem runCall_last {I : ℕ → State → CallPc → Prop} {method : Call} {answers : List Answer}
    (hentry : I 0 s method.entry)
    (hstep : ∀ n s pc a s' pc', I n s pc → callStep cfg s pc a = some (s', pc') →
      pc'.isDone = false → I (n + 1) s' pc')
    (h : runCall cfg s method answers = some (s', pc')) :
    ∃ m s₁ pc, answers.length = m + 1 ∧ I m s₁ pc ∧ s'.store = s₁.store := by
  obtain ⟨m, s₁, pc, a, hm, hat, hlast, hdone⟩ := alone_last hentry hstep h
  exact ⟨m, s₁, pc, by omega, hat, store_of_done hlast hdone⟩

end Calls

section Completions

variable {cfg : Config} {s₀ s s' : State} {tid n : ℕ} {id : String} {pc pc' : WorkerPc} {a : Answer}

/-- What the outcome of a run adds to the finished runs: nothing, if a restart has made it one. -/
def State.outcomeOf (s : State) (id : String) : ℕ := if (s.store.find id).any isFinished then 0 else 1

/-- The same, for the run that a worker probes. -/
def State.outcomeAt (s : State) (tid : ℕ) : ℕ :=
  match s.workers[tid]? with
  | some (.probing record) => s.outcomeOf record.probeId
  | _ => 0

/-- A completion of the run `id` begun in `s₀` has got to this point after `n` answers. -/
def CompletionAt (cfg : Config) (s₀ : State) (id : String) (n : ℕ) (s : State) : WorkerPc → Prop
  | .probing record => n = 0 ∧ record.probeId = id ∧ s.store = s₀.store
  | .loadFinal probeId _ => n = 1 ∧ probeId = id ∧ s.store = s₀.store
  | .storeFinal record _ _ => n = 2 ∧ s₀.store.find id = some record ∧ s.store = s₀.store
  | .pruneFinal _ => n = 3 ∧ finishedCount s.store = finishedCount s₀.store + s₀.outcomeOf id
  | .emitFinal _ => n = 4 ∧ finishedCount s.store ≤ cfg.maxRuns
  | _ => False

theorem CompletionAt.step (h : CompletionAt cfg s₀ id n s pc)
    (hstep : workerStep cfg s tid pc a = some (s', pc')) (hends : pc'.isTaskDone = false) :
    CompletionAt cfg s₀ id (n + 1) s' pc' := by
  cases workerStep_cases hstep with
  | probed => exact ⟨congrArg (· + 1) h.1, h.2⟩
  | reload hrecord =>
    obtain ⟨hn, rfl, hstore⟩ := h
    exact ⟨congrArg (· + 1) hn, hstore ▸ hrecord, hstore⟩
  | @close record outcome finishedAt now store hupdate =>
    obtain ⟨hn, hrecord, hstore⟩ := h
    obtain rfl : record.probeId = id := KeyedTable.key_of_find hrecord
    have hid : (closeByWorker record outcome finishedAt).probeId = record.probeId :=
      markOutcome_probeId _ _ _ _
    rw [hstore] at hupdate
    have hcount := finishedCount_updateRun hupdate (hid ▸ hrecord) (markOutcome_isFinal _ _ _ _)
    exact ⟨congrArg (· + 1) hn, by simpa [State.outcomeOf, hrecord] using hcount⟩
  | prune => exact ⟨congrArg (· + 1) h.1, finishedCount_prune_le cfg s⟩
  | emitFinal | unclosed | missing => cases hends
  | raises hraise =>
    cases pc with
    | loadFinal | storeFinal | pruneFinal => cases hraise; cases hends
    | load | markRunning => exact h.elim
    | _ => cases hraise
  | _ => exact h.elim

/-- The step that ends a completion does not touch the store. -/
theorem store_of_taskDone (hstep : workerStep cfg s tid pc a = some (s', pc'))
    (hends : pc'.isTaskDone = true) : s'.store = s.store := by
  cases workerStep_cases hstep <;> first | rfl | cases hends

end Completions

/-! ### Histories -/

/-- An operation ends with the answer that raises, unless it gets through, so the number of
its answers says how far it came: past its pruning, or the finished runs it leaves are not too
many. After `start`, a `submit` takes the answers of `prepare_probe`, `qsize`, `create_run` and
the pruning; a recovery that does not raise has made every stored run a finished one. The
outcome of a run counts where it is the pruning that raises. -/
def Op.PrunesOrFits (cfg : Config) (s : State) : Op → Prop
  | .call (.submit _) answers => s.started + 4 < answers.length ∨
    (if answers.length = 1 then finishedCount s.store else s.afterStart) ≤ cfg.maxRuns
  | .call (.runSync _) answers => 7 < answers.length ∨
    finishedCount s.store + (if answers.length = 7 then 1 else 0) ≤ cfg.maxRuns
  | .complete tid answers => 4 < answers.length ∨ finishedCount s.store +
    (if answers.length = 4 then s.outcomeAt tid else 0) ≤ cfg.maxRuns
  | _ => True

section Bound

variable {cfg : Config} {s s₁ s' : State} {n : ℕ}

theorem SubmitAt.bound_iff {pc : CallPc} (h : SubmitAt cfg s n s₁ pc) :
    finishedCount s₁.store ≤ cfg.maxRuns ↔ s.started + 4 < n + 1 ∨
      (if n + 1 = 1 then finishedCount s.store else s.afterStart) ≤ cfg.maxRuns := by
  have hstarted : 1 ≤ s.started := by
    unfold State.started
    split_ifs <;> omega
  cases pc with
  | startEnter after =>
    cases after with
    | back => exact h.elim
    | submit request =>
      obtain ⟨rfl, rfl⟩ := h
      simp
  | startLaunch tid after =>
    cases after with
    | back => exact h.elim
    | submit request =>
      obtain ⟨rfl, halive, hcount⟩ := h
      simp [State.started, State.afterStart, halive, hcount]
  | submitPrepare | submitDepth | submitCreate | submitPrune | submitPut | submitEmit | submitGet =>
    obtain ⟨rfl, hcount⟩ := h
    split_ifs <;> omega
  | _ => exact h.elim

theorem SyncAt.bound_iff {pc : CallPc} (h : SyncAt cfg s n s₁ pc) :
    finishedCount s₁.store ≤ cfg.maxRuns ↔ 7 < n + 1 ∨
      finishedCount s.store + (if n + 1 = 7 then 1 else 0) ≤ cfg.maxRuns := by
  cases pc with
  | syncInit | syncPrepare | syncCreate | syncPrune | syncEmitFinal =>
    obtain ⟨rfl, hcount⟩ := h
    simp [hcount]
  | syncEmit | syncProbe | syncUpdate =>
    obtain ⟨rfl, hcount, -⟩ := h
    simp [hcount]
  | _ => exact h.elim

theorem CompletionAt.bound_iff {id : String} {pc : WorkerPc} (h : CompletionAt cfg s id n s₁ pc) :
    finishedCount s₁.store ≤ cfg.maxRuns ↔ 4 < n + 1 ∨
      finishedCount s.store + (if n + 1 = 4 then s.outcomeOf id else 0) ≤ cfg.maxRuns := by
  cases pc with
  | pruneFinal | emitFinal =>
    obtain ⟨rfl, hcount⟩ := h
    simp [hcount]
  | probing | loadFinal | storeFinal =>
    obtain ⟨rfl, -, hstore⟩ := h
    simp [hstore]
  | _ => exact h.elim

theorem Op.bound_iff {op : Op} (hsettles : op.settles = true) (hstep : op.step cfg s = some s') :
    finishedCount s'.store ≤ cfg.maxRuns ↔ op.PrunesOrFits cfg s := by
  cases op with
  | call method answers =>
    obtain ⟨⟨s₁, fin⟩, hrun, rfl⟩ := Option.map_eq_some_iff.mp hstep
    cases method with
    | submit request =>
      have hentry : SubmitAt cfg s 0 s (Call.submit request).entry := ⟨rfl, rfl⟩
      obtain ⟨m, s₂, pc, hm, hat, hstore⟩ := runCall_last hentry
        (fun _ _ _ _ _ _ hat hstep hdone => hat.step hstep hdone) hrun
      simpa only [PrunesOrFits, hstore, hm] using hat.bound_iff
    | runSync request =>
      have hentry : SyncAt cfg s 0 s (Call.runSync request).entry := ⟨rfl, rfl⟩
      obtain ⟨m, s₂, pc, hm, hat, hstore⟩ := runCall_last hentry
        (fun _ _ _ _ _ _ hat hstep hdone => hat.step hstep hdone) hrun
      simpa only [PrunesOrFits, hstore, hm] using hat.bound_iff
    | _ => cases hsettles
  | complete tid answers =>
    obtain ⟨⟨s₁, fin⟩, hrun, rfl⟩ := Option.map_eq_some_iff.mp hstep
    obtain ⟨record, hprobing, halone⟩ := runCompletion_eq hrun
    have hentry : CompletionAt cfg s record.probeId 0 s (.probing record) := ⟨rfl, rfl, rfl⟩
    obtain ⟨m, s₂, pc, a, hm, hat, hlast, hends⟩ := alone_last hentry
      (fun _ _ _ _ _ _ hat hstep hends => hat.step hstep hends) halone
    have hm : answers.length = m + 1 := by omega
    simpa only [PrunesOrFits, State.outcomeAt, hprobing, store_of_taskDone hlast hends, hm] using
      hat.bound_iff
  | work tid answer => cases hsettles
  | restart => cases hsettles

end Bound

/-- In a sequential history at most `max_runs` finished runs are stored after every
`submit`, `run_sync` and completion exactly if each of them prunes or leaves no more
without it; and `prune_finished_runs` obeys its laws on every table. -/
theorem retention_bounded_iff (cfg : Config) (s : State) (ops : List Op) :
    (Along (Op.step cfg)
        (fun _ op s' => op.settles = true → finishedCount s'.store ≤ cfg.maxRuns) s ops ↔
      Along (Op.step cfg) (fun s op _ => op.settles = true → op.PrunesOrFits cfg s) s ops) ∧
    ∀ (ρ : Type) [RunRow ρ] (order : QueuedAtDesc ρ) (maxRuns : ℕ) (table : RunTable ρ),
      PruneLaws order maxRuns table := by
  refine ⟨along_congr (fun s op s' hstep => ?_) s ops, fun ρ _ => pruneLaws⟩
  exact imp_congr_right fun hsettles => Op.bound_iff hsettles hstep

/-! ### A restart with many runs queued -/

/-- A submission that is queued and not taken up, with a worker alive or not. -/
def queueUp (workerAlive : Bool) (i : ℕ) : Op :=
  .call (.submit switchRequest) ((if workerAlive then [.go "t0"] else [.go "t0", .go "t0"]) ++
    [.prepared (switchProbe ("run-" ++ toString i)), .go "t1", .go "t1", .go "t1", .go "t1",
      .go "t1", .go "t1"])

def queueAndRestart : List Op :=
  queueUp false 0 :: (List.range 20).map (fun i => queueUp true (i + 1)) ++ [.restart]

def unknownTarget : Op := .call (.submit switchRequest) [.go "t2", .go "t2", .prepareRaises]

/-- The start inside the submission marks all 21 runs failed, and nothing prunes them. -/
theorem recovery_exceeds_bound :
    ∃ s s', Reach (Op.step smallConfig) anyStep (State.fresh emptyStore []) s ∧
      unknownTarget.settles = true ∧ Op.step smallConfig s unknownTarget = some s' ∧
      finishedCount s'.store = 21 ∧ smallConfig.maxRuns = 20 := by
  obtain ⟨s, hreach, s', hstep, hcount⟩ : ∃ s, Reach (Op.step smallConfig) anyStep
      (State.fresh emptyStore []) s ∧
        ∃ s' ∈ Op.step smallConfig s unknownTarget, finishedCount s'.store = 21 :=
    exists_reach_of_mem_run queueAndRestart (by decide +kernel)
  exact ⟨s, s', hreach, rfl, hstep, hcount, rfl⟩

end OvnApi.Manager
