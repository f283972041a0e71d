import OvnApi.Manager.Workers

/-! One worker of the trace manager on its own queue. Between its steps the other
threads may change the store in any way and put ids on the queue; nobody stops or
restarts the manager. A probe may raise whatever it likes below `Exception`: the worker
notes it and goes on. A store call that raises ends the worker, wherever it is made. -/

namespace OvnApi.Manager

open OvnApi.Core Lib Traces Store

/-- How the worker was done with an id. -/
inductive Fate where
  /-- There was no row for it. -/
  | missing
  /-- The probe ran, and then the row was gone. -/
  | vanished
  /-- The probe ran, and its outcome was stored. -/
  | closed (status : RunStatus)
  deriving DecidableEq

/-- The worker with what it shares, and a record of what it did: the ids it took off
the queue, those it was done with, and its steps since it last stood at the queue. -/
structure Loop where
  state : State
  pc : WorkerPc
  taken : List String
  served : List (String × Fate)
  steps : ℕ

def Loop.begin (s : State) (ids : List String) : Loop where
  state := { s with stopEvent := false, queue := ids.map some, unfinishedTasks := ids.length }
  pc := .fetch
  taken := []
  served := []
  steps := 0

def taking : WorkerPc → WorkerPc → Option String
  | .fetch, .load probeId => some probeId
  | _, _ => none

def closing : WorkerPc → WorkerPc → Option (String × Fate)
  | .load probeId, .taskDone .again => some (probeId, .missing)
  | .loadFinal probeId _, .taskDone .again => some (probeId, .vanished)
  | .emitFinal record, .taskDone .again => some (record.probeId, .closed record.status)
  | _, _ => none

def Loop.move (L : Loop) (state : State) (pc : WorkerPc) : Loop where
  state := state
  pc := pc
  taken := L.taken ++ (taking L.pc pc).toList
  served := L.served ++ (closing L.pc pc).toList
  steps := match pc with
    | .fetch => 0
    | _ => L.steps + 1

inductive Event where
  | work (a : Answer)
  /-- The probe raises something that is no `Exception`, such as `SystemExit`. -/
  | abort
  /-- The other threads change the state, and put these ids. -/
  | others (state : State) (ids : List String)

/-- What the other threads leave alone: what is on the queue stays on it, the stop event
stays clear, and nobody else executes a probe. -/
def Peaceful (s : State) (ids : List String) (s' : State) : Prop :=
  s'.queue = s.queue ++ ids.map some ∧ s'.unfinishedTasks = s.unfinishedTasks + ids.length ∧
    s'.stopEvent = s.stopEvent ∧ s'.executed = s.executed

instance (s : State) (ids : List String) (s' : State) : Decidable (Peaceful s ids s') :=
  inferInstanceAs (Decidable (_ ∧ _ ∧ _ ∧ _))

def Loop.step (cfg : Config) (tid : ℕ) (L : Loop) : Event → Option Loop
  | .work a => (workerStep cfg L.state tid L.pc a).map fun r => L.move r.1 r.2
  | .abort =>
    match L.pc with
    | .probing _ => some (L.move L.state (.taskDone .leave))
    | _ => none
  | .others state ids => if Peaceful L.state ids state then some { L with state } else none

/-- The store call made in this step returns: it does not raise of itself, and
`update_run` finds its row. -/
def Loop.returns (L : Loop) : Event → Bool
  | .work .storeRaises | .abort => false
  | .work _ =>
    match L.pc with
    | .markRunning record | .storeFinal record _ _ =>
      (L.state.store.find record.probeId).isSome
    | _ => true
  | .others _ _ => true

/-! ### Where the worker stands -/

def WorkerPc.current : WorkerPc → Option String
  | .load probeId | .loadFinal probeId _ => some probeId
  | .markRunning record | .emitRunning record | .probe record | .probing record
  | .storeFinal record _ _ | .pruneFinal record | .emitFinal record => some record.probeId
  | _ => none

def WorkerPc.busy : WorkerPc → Bool
  | .taskDone _ => true
  | pc => pc.current.isSome

def WorkerPc.begun : WorkerPc → Bool
  | .probing _ | .loadFinal _ _ | .storeFinal _ _ _ | .pruneFinal _ | .emitFinal _ => true
  | _ => false

/-- How many steps the worker is away from the queue, at most. -/
def WorkerPc.depth : WorkerPc → ℕ
  | .checkStop | .load _ => 1
  | .markRunning _ => 2
  | .emitRunning _ => 3
  | .probe _ => 4
  | .probing _ => 5
  | .loadFinal _ _ => 6
  | .storeFinal _ _ _ => 7
  | .pruneFinal _ => 8
  | .emitFinal _ => 9
  | .taskDone _ => 10
  | .created | .fetch | .finished => 0

structure Steady (tid : ℕ) (L : Loop) : Prop where
  serves : L.pc.serves = true
  running : L.state.stopEvent = false
  ids : ∀ item ∈ L.state.queue, item.isSome = true
  tasks : L.state.unfinishedTasks = L.state.queue.length + L.pc.busy.toNat
  taken : L.taken = L.served.map Prod.fst ++ L.pc.current.toList
  steps : L.steps ≤ L.pc.depth
  ran : ∀ p ∈ L.served, p.2 ≠ .missing → (tid, p.1) ∈ L.state.executed
  begun : L.pc.begun = true → ∀ id ∈ L.pc.current, (tid, id) ∈ L.state.executed

/-! ### One step -/

section Step

variable {cfg : Config} {tid : ℕ} {L L' : Loop} {s' : State} {pc' : WorkerPc}

theorem steady_begin (s : State) (ids : List String) : Steady tid (.begin s ids) where
  serves := rfl
  running := rfl
  ids := by
    intro item hitem
    obtain ⟨id, -, rfl⟩ := List.mem_map.mp hitem
    rfl
  tasks := by simp [Loop.begin, WorkerPc.busy, WorkerPc.current]
  taken := rfl
  steps := Nat.zero_le _
  ran := by simp [Loop.begin]
  begun := by simp [Loop.begin, WorkerPc.begun]

theorem steps_move (h : L.steps ≤ L.pc.depth) (hdepth : pc' = .fetch ∨ L.pc.depth < pc'.depth) :
    (L.move s' pc').steps ≤ pc'.depth := by
  rcases hdepth with rfl | hlt
  · exact Nat.zero_le _
  · unfold Loop.move
    dsimp only
    split <;> omega

/-- What a step has to keep: the queue and its count of tasks, and what becomes of the id
in hand. -/
theorem Steady.move (h : Steady tid L) (hserves : pc'.serves = true)
    (hrunning : s'.stopEvent = false) (hids : ∀ item ∈ s'.queue, item.isSome = true)
    (htasks : s'.unfinishedTasks = s'.queue.length + pc'.busy.toNat)
    (hcurrent : L.pc.current.toList ++ (taking L.pc pc').toList =
      (closing L.pc pc').toList.map Prod.fst ++ pc'.current.toList)
    (hdepth : pc' = .fetch ∨ L.pc.depth < pc'.depth)
    (hexecuted : ∀ x ∈ L.state.executed, x ∈ s'.executed)
    (hclosing : ∀ p ∈ closing L.pc pc', p.2 ≠ .missing → (tid, p.1) ∈ s'.executed)
    (hbegun : pc'.begun = true → ∀ id ∈ pc'.current, (tid, id) ∈ s'.executed) :
    Steady tid (L.move s' pc') where
  serves := hserves
  running := hrunning
  ids := hids
  tasks := htasks
  taken := by
    change L.taken ++ (taking L.pc pc').toList = _
    rw [h.taken, List.append_assoc, hcurrent, ← List.append_assoc, ← List.map_append]
    rfl
  steps := steps_move h.steps hdepth
  ran p hp hfate := by
    rcases List.mem_append.mp hp with hold | hnew
    · exact hexecuted _ (h.ran p hold hfate)
    · exact hclosing p (by simpa using hnew) hfate
  begun := hbegun

/-- The store and the listeners aside, nothing changes. -/
structure SameBooks (s s' : State) : Prop where
  queue : s'.queue = s.queue
  tasks : s'.unfinishedTasks = s.unfinishedTasks
  stop : s'.stopEvent = s.stopEvent
  executed : s'.executed = s.executed

/-- A step that only moves on with the id in hand. -/
theorem Steady.onward (h : Steady tid L) (hsame : SameBooks L.state s')
    (hserves : pc'.serves = true) (hbusy : pc'.busy = L.pc.busy)
    (hcurrent : pc'.current = L.pc.current) (htaking : taking L.pc pc' = none)
    (hclosing : closing L.pc pc' = none) (hdepth : pc' = .fetch ∨ L.pc.depth < pc'.depth)
    (hbegun : pc'.begun = true → L.pc.begun = true) : Steady tid (L.move s' pc') := by
  have htasks : s'.unfinishedTasks = s'.queue.length + pc'.busy.toNat := by
    rw [hsame.tasks, hsame.queue, hbusy]
    exact h.tasks
  refine h.move hserves (hsame.stop ▸ h.running) (hsame.queue ▸ h.ids) htasks ?_ hdepth ?_ ?_ ?_
  · simp [htaking, hclosing, hcurrent]
  · simp [hsame.executed]
  · simp [hclosing]
  · intro hb
    rw [hcurrent, hsame.executed]
    exact h.begun (hbegun hb)

/-- The worker is done with the id in hand. -/
theorem Steady.close (h : Steady tid L) (hsame : SameBooks L.state s') (p : String × Fate)
    (hclosing : closing L.pc (.taskDone .again) = some p) (hcurrent : L.pc.current = some p.1)
    (hbusy : L.pc.busy = true) (hdepth : L.pc.depth < 10)
    (hfate : p.2 ≠ .missing → L.pc.begun = true) :
    Steady tid (L.move s' (.taskDone .again)) := by
  have htaking : taking L.pc (.taskDone .again) = none := by
    cases L.pc <;> rfl
  have htasks : s'.unfinishedTasks = s'.queue.length + 1 := by
    rw [hsame.tasks, hsame.queue, h.tasks, hbusy]
    rfl
  refine h.move rfl (hsame.stop ▸ h.running) (hsame.queue ▸ h.ids) htasks ?_ (.inr hdepth) ?_ ?_ ?_
  · rw [htaking, hclosing, hcurrent]
    rfl
  · simp [hsame.executed]
  · rw [hclosing, hsame.executed]
    rintro _ ⟨⟩ hne
    exact h.begun (hfate hne) _ hcurrent
  · simp [WorkerPc.begun]

/-- The worker takes an id off the queue. -/
theorem Steady.fetch (h : Steady tid L) (hpc : L.pc = .fetch) {id : String} {rest : List (Option String)}
    (hqueue : L.state.queue = some id :: rest) :
    Steady tid (L.move { L.state with queue := rest } (.load id)) := by
  have htasks : L.state.unfinishedTasks = rest.length + 1 := by
    simpa [hqueue, hpc, WorkerPc.busy, WorkerPc.current] using h.tasks
  refine h.move rfl h.running ?_ htasks ?_ ?_ (fun _ hx => hx) ?_ ?_
  · intro item hitem
    exact h.ids item (hqueue ▸ List.mem_cons_of_mem _ hitem)
  · simp [hpc, WorkerPc.current, taking, closing]
  · simp [hpc, WorkerPc.depth]
  · simp [hpc, closing]
  · simp [WorkerPc.begun]

/-- The task of the last id is marked done. -/
theorem Steady.taskDone (h : Steady tid L) (hpc : L.pc = .taskDone .again) :
    Steady tid (L.move { L.state with unfinishedTasks := L.state.unfinishedTasks - 1 } .fetch) := by
  have htasks : L.state.unfinishedTasks = L.state.queue.length + 1 := by
    simpa [hpc, WorkerPc.busy] using h.tasks
  refine h.move rfl h.running h.ids ?_ ?_ (.inl rfl) (fun _ hx => hx) ?_ ?_
  · simp [htasks, WorkerPc.busy, WorkerPc.current]
  · simp [hpc, WorkerPc.current, taking, closing]
  · simp [hpc, closing]
  · simp [WorkerPc.begun]

/-- The probe is begun. -/
theorem Steady.probe (h : Steady tid L) {record : PersistedCanaryRun} (hpc : L.pc = .probe record) :
    Steady tid (L.move
      { L.state with executed := L.state.executed ++ [(tid, record.probeId)] } (.probing record)) := by
  have htasks := h.tasks
  rw [hpc] at htasks
  refine h.move rfl h.running h.ids htasks ?_ ?_ ?_ ?_ ?_
  · simp [hpc, WorkerPc.current, taking, closing]
  · simp [hpc, WorkerPc.depth]
  · intro x hx
    exact List.mem_append_left _ hx
  · simp [hpc, closing]
  · simp [WorkerPc.current]

theorem Steady.work (h : Steady tid L) {a : Answer} (hreturns : L.returns (.work a) = true)
    (hstep : workerStep cfg L.state tid L.pc a = some (s', pc')) : Steady tid (L.move s' pc') := by
  obtain ⟨s, pc, taken, served, steps⟩ := L
  have hserves := h.serves
  cases workerStep_cases hstep with
  | empty =>
    exact h.onward ⟨rfl, rfl, rfl, rfl⟩ rfl rfl rfl rfl rfl (.inr Nat.one_pos) (fun hb => hb)
  | fetch hqueue => exact h.fetch rfl hqueue
  | sentinel hqueue => cases h.ids none (hqueue ▸ List.mem_cons_self)
  | checkStop hpc' =>
    have hrunning : s.stopEvent = false := h.running
    rw [hrunning] at hpc'
    subst hpc'
    exact h.onward ⟨rfl, rfl, rfl, rfl⟩ rfl rfl rfl rfl rfl (.inl rfl) (fun hb => hb)
  | load hfind =>
    obtain rfl := KeyedTable.key_of_find hfind
    exact h.onward ⟨rfl, rfl, rfl, rfl⟩ rfl rfl rfl rfl rfl (.inr (Nat.lt_succ_self _)) (fun hb => hb)
  | mark | emit =>
    exact h.onward ⟨rfl, rfl, rfl, rfl⟩ rfl rfl rfl rfl rfl (.inr (Nat.lt_succ_self _)) (fun hb => hb)
  | execute => exact h.probe rfl
  | probed | prune =>
    exact h.onward ⟨rfl, rfl, rfl, rfl⟩ rfl rfl rfl rfl rfl (.inr (Nat.lt_succ_self _)) (fun _ => rfl)
  | reload hfind =>
    obtain rfl := KeyedTable.key_of_find hfind
    exact h.onward ⟨rfl, rfl, rfl, rfl⟩ rfl rfl rfl rfl rfl (.inr (Nat.lt_succ_self _)) (fun _ => rfl)
  | close =>
    exact h.onward ⟨rfl, rfl, rfl, rfl⟩ rfl rfl (congrArg some (markOutcome_probeId _ _ _ _)) rfl rfl
      (.inr (Nat.lt_succ_self _)) (fun _ => rfl)
  | @emitFinal record =>
    exact h.close ⟨rfl, rfl, rfl, rfl⟩ (record.probeId, .closed record.status) rfl rfl rfl
      (Nat.lt_succ_self _) (fun _ => rfl)
  | @taskDone after =>
    cases after with
    | leave => cases hserves
    | again => exact h.taskDone rfl
  | untasked hnone =>
    have htasks : s.unfinishedTasks = s.queue.length + 1 := h.tasks
    exact absurd (htasks.symm.trans hnone) (Nat.succ_ne_zero _)
  | @missing pc probeId now hreads =>
    cases pc with
    | load =>
      cases hreads
      exact h.close ⟨rfl, rfl, rfl, rfl⟩ (probeId, .missing) rfl rfl rfl (by simp [WorkerPc.depth]) (by simp)
    | loadFinal =>
      cases hreads
      exact h.close ⟨rfl, rfl, rfl, rfl⟩ (probeId, .vanished) rfl rfl rfl (by simp [WorkerPc.depth]) (fun _ => rfl)
    | _ => cases hreads
  -- `update_run` finds its row
  | @unmarked record now e hupdate =>
    have hrow : (s.store.find (markRunning record now).probeId).isSome = true := hreturns
    obtain ⟨store, hok⟩ := updateRun_of_isSome hrow
    rw [hupdate] at hok
    cases hok
  | @unclosed record outcome finishedAt now e hupdate =>
    have hrow : (s.store.find record.probeId).isSome = true := hreturns
    rw [← markOutcome_probeId _ record outcome finishedAt] at hrow
    obtain ⟨store, hok⟩ := updateRun_of_isSome hrow
    rw [closeByWorker, hok] at hupdate
    cases hupdate
  | raises => cases hreturns

theorem steady_step (h : Steady tid L) {e : Event} (hreturns : L.returns e = true)
    (hstep : L.step cfg tid e = some L') : Steady tid L' := by
  cases e with
  | work a =>
    obtain ⟨⟨s', pc'⟩, hworker, rfl⟩ := Option.map_eq_some_iff.mp hstep
    exact h.work hreturns hworker
  | abort => cases hreturns
  | others state ids =>
    simp only [Loop.step] at hstep
    split_ifs at hstep with hpeace
    obtain rfl := Option.some.inj hstep
    obtain ⟨hqueue, htasks, hstop, hexecuted⟩ := hpeace
    have hold := h.tasks
    refine ⟨h.serves, hstop.trans h.running, ?_, ?_, h.taken, h.steps, ?_, ?_⟩
    · intro item hitem
      change item ∈ state.queue at hitem
      rw [hqueue] at hitem
      rcases List.mem_append.mp hitem with hold | hnew
      · exact h.ids item hold
      · obtain ⟨id, -, rfl⟩ := List.mem_map.mp hnew
        rfl
    · change state.unfinishedTasks = state.queue.length + L.pc.busy.toNat
      rw [hqueue, htasks, List.length_append, List.length_map]
      omega
    · intro p hp hfate
      change (tid, p.1) ∈ state.executed
      rw [hexecuted]
      exact h.ran p hp hfate
    · intro hbegun id hid
      change (tid, id) ∈ state.executed
      rw [hexecuted]
      exact h.begun hbegun id hid

/-- A worker inside its loop is never stuck. -/
theorem exists_work (h : Steady tid L) : ∃ a, (L.step cfg tid (.work a)).isSome = true := by
  have hserves := h.serves
  simp only [Loop.step, Option.isSome_map]
  cases hpc : L.pc with
  | created | finished =>
    rw [hpc] at hserves
    cases hserves
  | probing record => exact ⟨.probed (.raised (.http 500 "")), rfl⟩
  | _ =>
    refine ⟨.go "", ?_⟩
    simp only [workerStep]
    first
    | rfl
    | split <;> rfl

end Step

/-- As long as no store call of the worker raises, and the probes raise nothing beyond
`Exception`, the worker does not leave its loop; every id it has taken off the queue is
dealt with, all but the one in hand, and that one within ten steps. -/
theorem worker_survives (cfg : Config) (tid : ℕ) (s : State) (ids : List String) {L : Loop}
    (h : Reach (Loop.step cfg tid) (fun L e => L.returns e = true) (.begin s ids) L) :
    L.pc ≠ .finished ∧
    L.taken = L.served.map Prod.fst ++ L.pc.current.toList ∧
    (∀ p ∈ L.served, p.2 ≠ .missing → (tid, p.1) ∈ L.state.executed) ∧
    L.steps ≤ 10 ∧
    ∃ a, (L.step cfg tid (.work a)).isSome = true := by
  have hsteady : Steady tid L :=
    Reach.invariant (steady_begin s ids) (fun _ _ _ hL hok hstep => steady_step hL hok hstep) h
  refine ⟨?_, hsteady.taken, hsteady.ran, ?_, exists_work hsteady⟩
  · intro hpc
    have hserves := hsteady.serves
    rw [hpc] at hserves
    cases hserves
  · have hdepth : L.pc.depth ≤ 10 := by cases L.pc <;> simp [WorkerPc.depth]
    exact hsteady.steps.trans hdepth

/-! ### The worker inside the manager -/

section Manager

variable {cfg : Config} {tid : ℕ} {s s₁ s' : State} {pc pc' : CallPc} {a : Answer} {l : Label}

/-- The call stands at a step of `stop` that the worker is told of. -/
def CallPc.stops : CallPc → Bool
  | .stopEnter | .stopPut => true
  | _ => false

/-- A step of worker `tid`, or one of a call that neither stops nor restarts the manager. -/
def besides (tid : ℕ) (s : State) : Label → Bool
  | .invoke _ => true
  | .call i a => !restarts s (.call i a) && !s.calls[i]?.any CallPc.stops
  | .worker t _ => t = tid
  | .crash => false

theorem callStep_peaceful (h : callStep cfg s pc a = some (s₁, pc')) (hstops : pc.stops = false)
    (hrestarts : ∀ now, a = .go now → pc.entersStart = true → s.alive = true) :
    ∃ ids, Peaceful s ids s₁ := by
  have hquiet : ∀ {t : State}, t.queue = s.queue → t.unfinishedTasks = s.unfinishedTasks →
      t.stopEvent = s.stopEvent → t.executed = s.executed → ∃ ids, Peaceful s ids t := by
    intro t hqueue htasks hstop hexecuted
    exact ⟨[], by rw [hqueue, List.map_nil, List.append_nil], htasks, hstop, hexecuted⟩
  cases callStep_cases h with
  | recover hdead =>
    rw [hrestarts _ rfl rfl] at hdead
    cases hdead
  | put => exact ⟨[_], rfl, rfl, rfl, rfl⟩
  | stop | putNone => cases hstops
  | _ => exact hquiet rfl rfl rfl rfl

/-- The manager seen from one of its workers: its own steps are steps of the loop, and
so are those of the calls, unless they stop or restart the manager. -/
theorem exists_loop {w : WorkerPc} (h : step cfg s l = some s') (hl : besides tid s l = true)
    (hw : s.workers[tid]? = some w) (hstarted : w ≠ .created) (taken : List String)
    (served : List (String × Fate)) (steps : ℕ) :
    ∃ L, Reach (Loop.step cfg tid) anyStep ⟨s, w, taken, served, steps⟩ L ∧ L.state = s' ∧
      s'.workers[tid]? = some L.pc := by
  have hothers : ∀ (L : Loop) (ids : List String) (t : State), Peaceful L.state ids t →
      L.step cfg tid (.others t ids) = some { L with state := t } := by
    intro L ids t hpeace
    simp [Loop.step, hpeace]
  cases l with
  | invoke call =>
    obtain rfl := Option.some.inj h
    refine ⟨_, Reach.start.next trivial (hothers _ [] _ ?_), rfl, hw⟩
    simp [Peaceful]
  | call i a =>
    obtain ⟨pc, hpc, hmap⟩ := Option.bind_eq_some_iff.mp h
    obtain ⟨⟨s₁, pc'⟩, hstep, rfl⟩ := Option.map_eq_some_iff.mp hmap
    have hstops : pc.stops = false := by
      simp only [besides, hpc, Option.any_some, Bool.and_eq_true, Bool.not_eq_true'] at hl
      exact hl.2
    have hrestarts : ∀ now, a = .go now → pc.entersStart = true → s.alive = true := by
      rintro now rfl henters
      simp only [besides, restarts, hpc, Option.any_some, henters, Bool.true_and, Bool.and_eq_true,
        Bool.not_not] at hl
      exact hl.1
    obtain ⟨ids, hpeace⟩ := callStep_peaceful hstep hstops hrestarts
    have hkept := callStep_worker hstep hw hstarted
    exact ⟨_, Reach.start.next trivial
      (hothers _ ids { s₁ with calls := s₁.calls.set i pc' } hpeace), rfl, hkept⟩
  | worker t a =>
    obtain rfl : t = tid := by simpa [besides] using hl
    obtain ⟨w', hw', hmap⟩ := Option.bind_eq_some_iff.mp h
    obtain rfl : w' = w := Option.some.inj (hw'.symm.trans hw)
    obtain ⟨⟨s₁, pc'⟩, hstep, rfl⟩ := Option.map_eq_some_iff.mp hmap
    obtain ⟨-, hworkers, -⟩ := workerStep_move hstep
    have hwork : Loop.step cfg t ⟨s, w', taken, served, steps⟩ (.work a) =
        some (Loop.move ⟨s, w', taken, served, steps⟩ s₁ pc') := by
      simp [Loop.step, hstep]
    have hlt : t < s₁.workers.length := by
      rw [hworkers]
      exact (List.getElem?_eq_some_iff.mp hw).choose
    refine ⟨_, (Reach.start.next trivial hwork).next trivial (hothers _ [] _ ?_), rfl, ?_⟩
    · simp [Peaceful, Loop.move]
    · exact List.getElem?_set_self hlt
  | crash => cases hl

end Manager

/-! ### Where a raising store call ends the worker -/

def twoQueued : RunTable PersistedCanaryRun :=
  ⟨[queuedRecord switchRequest (switchProbe firstId) "t0" 1,
    queuedRecord switchRequest (switchProbe secondId) "t0" 2], by decide⟩

def twoOnQueue : Loop := .begin (.fresh twoQueued []) [firstId, secondId]

/-- The worker goes on, with no answer to be noted. -/
def proceed : Event := .work (.go "t1")

def secondServed : List Event :=
  List.replicate 5 proceed ++ .work (.probed (.raised (.http 503 "NB"))) ::
    List.replicate 5 proceed ++ List.replicate 5 proceed ++
    .work (.probed (.returned (switchResult secondId))) :: List.replicate 4 proceed

/-- The store raises at each of its calls in turn, for a probe that raised and for one
that returned, or the probe raises `SystemExit`. -/
def raisingRuns : List (List Event) :=
  let raise : Event := .work .storeRaises
  let begun := List.replicate 5 proceed
  let ends : List Event := [.work (.probed (.raised (.http 503 "NB"))),
    .work (.probed (.returned (switchResult firstId)))]
  [[proceed, raise], [proceed, proceed, raise], begun ++ [.abort, proceed]] ++
    ends.flatMap fun e => [begun ++ [e, raise, proceed], begun ++ [e, proceed, raise, proceed],
      begun ++ [e, proceed, proceed, raise, proceed]]

theorem worker_survives_second : ∃ L,
    Reach (Loop.step smallConfig 0) (fun L e => L.returns e = true) twoOnQueue L ∧
    L.taken = [firstId, secondId] ∧ L.pc ≠ .finished ∧
    L.taken = L.served.map Prod.fst ++ L.pc.current.toList := by
  obtain ⟨L, hL, htaken⟩ : ∃ L, Reach (Loop.step smallConfig 0) (fun L e => L.returns e = true)
      twoOnQueue L ∧ L.taken = [firstId, secondId] :=
    exists_reach_of_mem_run secondServed (by decide +kernel)
  obtain ⟨hpc, hserved, -⟩ := worker_survives _ _ _ _ hL
  exact ⟨L, hL, htaken, hpc, hserved⟩

/-- The worker is gone, with the other id on the queue and nobody having called `stop`. -/
def Loop.deserted (L : Loop) : Bool :=
  !L.pc.active && !L.state.stopEvent && L.state.queue == [some secondId]

/-- Every one of these runs deserts the queue. -/
theorem raising_store_ends_worker :
    (raisingRuns.all fun events =>
      (run (Loop.step smallConfig 0) anyStep twoOnQueue events).any Loop.deserted) = true ∧
    ∃ L, Reach (Loop.step smallConfig 0) anyStep twoOnQueue L ∧ L.deserted = true := by
  have heval : (raisingRuns.all fun events =>
      (run (Loop.step smallConfig 0) anyStep twoOnQueue events).any Loop.deserted) = true := by
    decide +kernel
  have hfirst : ∃ events, events ∈ raisingRuns := List.exists_mem_of_ne_nil _ (by simp [raisingRuns])
  obtain ⟨events, hevents⟩ := hfirst
  exact ⟨heval, exists_reach_of_run _ (List.all_eq_true.mp heval events hevents)⟩

end OvnApi.Manager
