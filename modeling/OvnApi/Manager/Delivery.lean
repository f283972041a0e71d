import Mathlib.Data.List.ReduceOption
import OvnApi.Manager.Finality

/-! Exactly-once execution. Once `start` has returned, and as long as nobody calls
`stop` and no store call raises, one worker serves the queue: the ids put on it
are, in this order, those already executed, the one in the worker's hands and
those still queued. Every queued id has a stored row, so nothing is skipped. -/

namespace OvnApi.Manager

open OvnApi.Core Lib Traces Store

/-- The step is not a crash, a call of `stop` or a store call that raises. -/
def Label.isCalm : Label → Bool
  | .crash | .invoke .stop | .call _ .storeRaises | .worker _ .storeRaises => false
  | _ => true

/-- Nobody stops the manager, no store call raises, the process goes on. -/
def Calm (_ : State) (l : Label) : Prop := l.isCalm = true

instance (s : State) (l : Label) : Decidable (Calm s l) :=
  inferInstanceAs (Decidable (_ = _))

/-- Taken off the queue and not yet passed to `run_prepared_probe`. -/
def WorkerPc.inHand : WorkerPc → List String
  | .load probeId => [probeId]
  | .markRunning record | .emitRunning record | .probe record => [record.probeId]
  | _ => []

def WorkerPc.openTasks : WorkerPc → ℕ
  | .created | .fetch | .checkStop | .finished => 0
  | _ => 1

/-- The call is neither a `stop` nor about to launch a thread. -/
def CallPc.serves : CallPc → Bool
  | .startLaunch _ _ | .stopEnter | .stopPut | .stopJoin => false
  | _ => true

structure Serving (s : State) (pc : WorkerPc) : Prop where
  serves : pc.serves = true
  stopEvent : s.stopEvent = false
  items : ∀ item ∈ s.queue, item.isSome = true
  tasks : s.unfinishedTasks = s.queue.length + pc.openTasks
  order : s.puts = s.executed.map Prod.snd ++ pc.inHand ++ s.queue.reduceOption
  worker : ∀ e ∈ s.executed, e.1 = 0

structure Delivering (s : State) (pc : WorkerPc) : Prop where
  thread : s.thread = some 0
  workers : s.workers = [pc]
  serving : Serving s pc
  calls : ∀ call ∈ s.calls, call.serves = true
  puts_nodup : s.puts.Nodup
  puts_issued : ∀ id ∈ s.puts, id ∈ s.issued
  unput : ∀ t ∈ s.calls.filterMap CallPc.token, t.1 ∉ s.puts

section Worker

variable {cfg : Config} {s s₁ : State} {pc pc' : WorkerPc} {a : Answer}

/-- The row of the run in the worker's hands is there. -/
theorem Held.row_of_worker (h : Held InStep s) (hworkers : s.workers = [pc]) {tok : Token}
    (htok : pc.token = some tok) : InStep tok.2 (s.store.find tok.1) := by
  apply h.fits
  simp [State.tokens, State.threadTokens, hworkers, htok]

theorem InStep.find {φ : Phase} {row : Option PersistedCanaryRun} {status : RunStatus}
    (h : InStep φ row) (hφ : φ.status = some status) :
    ∃ record, row = some record ∧ record.status = status := by
  obtain ⟨record, hrow, hstatus⟩ := Option.map_eq_some_iff.mp (h.trans hφ)
  exact ⟨record, hrow, hstatus⟩

theorem updateRun_of_find {store : RunTable PersistedCanaryRun} {row : PersistedCanaryRun}
    {id : String} (h : store.find id = some row) (record : PersistedCanaryRun)
    (hid : record.probeId = id) : ∃ store', updateRun store record = .ok store' := by
  apply updateRun_of_isSome
  rw [show RunRow.probeId record = id from hid, h]
  rfl

theorem workerStep_serving (h : Serving s pc) (hheld : Held InStep s) (hworkers : s.workers = [pc])
    (ha : a ≠ .storeRaises) (hstep : workerStep cfg s 0 pc a = some (s₁, pc')) :
    Serving s₁ pc' ∧ s₁.thread = s.thread ∧ s₁.puts = s.puts ∧ s₁.issued = s.issued := by
  obtain ⟨hserves, hstop, hitems, htasks, horder, hworker⟩ := h
  cases workerStep_cases hstep with
  | empty | mark | emit | probed | reload | close | prune | emitFinal =>
    exact ⟨⟨rfl, hstop, hitems, htasks, horder, hworker⟩, rfl, rfl, rfl⟩
  | fetch hqueue =>
    rw [hqueue] at hitems htasks horder
    refine ⟨⟨rfl, hstop, ?_, ?_, ?_, hworker⟩, rfl, rfl, rfl⟩
    · exact fun item hitem => hitems item (List.mem_cons_of_mem _ hitem)
    · simpa [WorkerPc.openTasks] using htasks
    · simpa [WorkerPc.inHand, List.reduceOption_cons_of_some] using horder
  | sentinel hqueue => simp [hqueue] at hitems
  | checkStop hpc' =>
    rw [hstop] at hpc'
    subst hpc'
    exact ⟨⟨rfl, hstop, hitems, htasks, horder, hworker⟩, rfl, rfl, rfl⟩
  | load hfind =>
    obtain rfl := KeyedTable.key_of_find hfind
    exact ⟨⟨rfl, hstop, hitems, htasks, horder, hworker⟩, rfl, rfl, rfl⟩
  | execute =>
    refine ⟨⟨rfl, hstop, hitems, htasks, ?_, ?_⟩, rfl, rfl, rfl⟩
    · simpa [WorkerPc.inHand] using horder
    · intro e he
      rcases List.mem_append.mp he with he | he
      · exact hworker e he
      · obtain rfl := List.mem_singleton.mp he
        rfl
  | @taskDone after =>
    cases after with
    | leave => cases hserves
    | again =>
      refine ⟨⟨rfl, hstop, hitems, ?_, horder, hworker⟩, rfl, rfl, rfl⟩
      change s.unfinishedTasks - 1 = _
      rw [htasks]
      rfl
  | untasked hnone =>
    rw [htasks] at hnone
    cases hnone
  -- the row of the run is there
  | missing hreads hnone =>
    obtain ⟨φ, htok⟩ : ∃ φ, pc.token = some (_, φ) ∧ φ.status.isSome := by
      cases pc <;> cases hreads <;> exact ⟨_, rfl, rfl⟩
    obtain ⟨status, hstatus⟩ := Option.isSome_iff_exists.mp htok.2
    obtain ⟨record, hfind, -⟩ := (hheld.row_of_worker hworkers htok.1).find hstatus
    rw [hnone] at hfind
    cases hfind
  | unmarked hupdate =>
    obtain ⟨row, hfind, -⟩ := (hheld.row_of_worker hworkers rfl).find rfl
    obtain ⟨store, hok⟩ := updateRun_of_find hfind (markRunning _ _) rfl
    rw [hupdate] at hok
    cases hok
  | unclosed hupdate =>
    obtain ⟨row, hfind, -⟩ := (hheld.row_of_worker hworkers rfl).find rfl
    obtain ⟨store, hok⟩ := updateRun_of_find hfind (closeByWorker _ _ _) (markOutcome_probeId _ _ _ _)
    rw [hupdate] at hok
    cases hok
  | raises => exact absurd rfl ha

end Worker

section Calls

variable {cfg : Config} {s s₁ : State} {pc pc' : CallPc} {a : Answer}

/-- Calls that serve, made while the worker is alive, start no thread, and touch the
queue only to put an accepted id on it. -/
theorem callStep_serving (halive : s.alive = true) (hserves : pc.serves = true)
    (hstep : callStep cfg s pc a = some (s₁, pc')) :
    pc'.serves = true ∧ s₁.thread = s.thread ∧ s₁.workers = s.workers ∧
      s₁.stopEvent = s.stopEvent ∧ s₁.executed = s.executed ∧
      (s₁.queue = s.queue ∧ s₁.unfinishedTasks = s.unfinishedTasks ∧ s₁.puts = s.puts ∨
        ∃ record, pc = .submitPut record ∧ pc'.token = none ∧ s₁.issued = s.issued ∧
          s₁.queue = s.queue ++ [some record.probeId] ∧
          s₁.unfinishedTasks = s.unfinishedTasks + 1 ∧ s₁.puts = s.puts ++ [record.probeId]) := by
  have hnext : ∀ after : After, after.next.serves = true := by
    intro after
    cases after <;> rfl
  cases callStep_cases hstep with
  | alive => exact ⟨hnext _, rfl, rfl, rfl, rfl, .inl ⟨rfl, rfl, rfl⟩⟩
  | recover hdead => rw [halive] at hdead; cases hdead
  | put => exact ⟨rfl, rfl, rfl, rfl, rfl, .inr ⟨_, rfl, rfl, rfl, rfl, rfl, rfl⟩⟩
  | launch | stop | putNone => cases hserves
  | _ => exact ⟨rfl, rfl, rfl, rfl, rfl, .inl ⟨rfl, rfl, rfl⟩⟩

end Calls

section Steps

variable {cfg : Config} {s s₁ s' : State} {pc : WorkerPc} {l : Label}

/-- A move never takes up an id that was put on the queue before. -/
theorem Move.unput {t t' : Option Token} {b b' : Books} {puts : List String}
    (h : Move cfg t t' b b') (hissued : ∀ id ∈ puts, id ∈ b.issued)
    (hown : ∀ tok ∈ t, tok.1 ∉ puts) :
    (∀ id ∈ b.issued, id ∈ b'.issued) ∧ ∀ tok ∈ t', tok.1 ∉ puts := by
  rcases h.ids with ⟨hsame, hids⟩ | ⟨-, new, hfresh, rfl, hcons⟩
  · refine ⟨fun id hid => hsame ▸ hid, fun tok htok => ?_⟩
    rcases hids with rfl | hids
    · cases htok
    · obtain ⟨tok₀, htok₀, heq⟩ := Option.mem_map.mp (hids ▸ Option.mem_map_of_mem Prod.fst htok)
      exact heq ▸ hown tok₀ htok₀
  · refine ⟨fun id hid => hcons ▸ List.mem_cons_of_mem _ hid, fun tok htok hput => ?_⟩
    obtain rfl : (new, Phase.reserved) = tok := Option.some.inj htok
    exact hfresh (hissued _ hput)

theorem Delivering.alive (h : Delivering s pc) : s.alive = true := by
  have hactive : pc.active = true := by
    have hserves := h.serving.serves
    cases pc with
    | created | finished => cases hserves
    | _ => rfl
  simp [State.alive, h.thread, h.workers, hactive]

/-- The worker's side of a put. -/
theorem Serving.put (h : Serving s pc) {id : String} (hstop : s₁.stopEvent = s.stopEvent)
    (hexecuted : s₁.executed = s.executed) (hqueue : s₁.queue = s.queue ++ [some id])
    (htasks : s₁.unfinishedTasks = s.unfinishedTasks + 1) (hputs : s₁.puts = s.puts ++ [id]) :
    Serving s₁ pc := by
  refine ⟨h.serves, hstop.trans h.stopEvent, ?_, ?_, ?_, hexecuted ▸ h.worker⟩
  · intro item hitem
    rw [hqueue] at hitem
    rcases List.mem_append.mp hitem with hitem | hitem
    · exact h.items item hitem
    · rw [List.mem_singleton.mp hitem]; rfl
  · rw [htasks, h.tasks, hqueue, List.length_append, List.length_singleton]
    omega
  · rw [hputs, h.order, hexecuted, hqueue, List.reduceOption_append, List.append_assoc]
    rfl

theorem Delivering.call_step (h : Delivering s pc) (hheld : Held InStep s) {i : ℕ} {a : Answer}
    (ha : a ≠ .storeRaises) (hstep : step cfg s (.call i a) = some s') : Delivering s' pc := by
  obtain ⟨call, hcall, hmap⟩ := Option.bind_eq_some_iff.mp hstep
  obtain ⟨⟨s₁, call'⟩, hcallStep, rfl⟩ := Option.map_eq_some_iff.mp hmap
  obtain ⟨hcalls, hmove⟩ := callStep_move hcallStep
  obtain ⟨hserves, hthread, hworkers, hstop, hexecuted, hqueue⟩ :=
    callStep_serving h.alive (h.calls call (List.mem_of_getElem? hcall)) hcallStep
  obtain ⟨rest, hold, hnew⟩ := filterMap_set_perm (f := CallPc.token) hcall
  have hallServe : ∀ c ∈ s₁.calls.set i call', c.serves = true := by
    intro c hc
    rcases List.mem_or_eq_of_mem_set hc with hc | rfl
    · exact h.calls c (hcalls ▸ hc)
    · exact hserves
  have hrest : ∀ t ∈ rest, t.1 ∉ s.puts := fun t ht =>
    h.unput t (hold.mem_iff.mpr (List.mem_append_right _ ht))
  have hown : ∀ t ∈ call.token, t.1 ∉ s.puts := fun t ht =>
    h.unput t (hold.mem_iff.mpr (List.mem_append_left _ (Option.mem_toList.mpr ht)))
  have hids : (∀ id ∈ s.issued, id ∈ s₁.issued) ∧ ∀ t ∈ call'.token, t.1 ∉ s.puts := by
    cases hmove with
    | inside _ _ hmove => exact hmove.unput h.puts_issued hown
    | put _ _ _ htoken hmove =>
      refine ⟨(hmove.unput h.puts_issued hown).1, fun t ht => ?_⟩
      rw [htoken] at ht
      cases ht
    | restart _ _ _ _ hdead => rw [h.alive] at hdead; cases hdead
  rcases hqueue with ⟨hqueue, htasks, hputs⟩ | ⟨record, rfl, htoken, hissued, hqueue, htasks, hputs⟩
  · refine ⟨hthread.trans h.thread, hworkers.trans h.workers, ?_, hallServe, ?_, ?_, ?_⟩
    · exact ⟨h.serving.serves, hstop.trans h.serving.stopEvent, hqueue ▸ h.serving.items,
        htasks.trans (hqueue ▸ h.serving.tasks),
        hputs.trans (hexecuted ▸ hqueue ▸ h.serving.order), hexecuted ▸ h.serving.worker⟩
    · exact hputs ▸ h.puts_nodup
    · exact fun id hid => hids.1 id (h.puts_issued id (hputs ▸ hid))
    · intro t ht
      have ht : t ∈ (s.calls.set i call').filterMap CallPc.token := hcalls ▸ ht
      change t.1 ∉ s₁.puts
      rw [hputs]
      rcases List.mem_append.mp ((hnew call').mem_iff.mp ht) with ht | ht
      · exact hids.2 t (Option.mem_toList.mp ht)
      · exact hrest t ht
  · have hfresh : record.probeId ∉ s.puts := hown _ rfl
    have hfocus := perm_focus_call (s.queue.filterMap queueToken)
      (s.workers.filterMap WorkerPc.token) hold
    refine ⟨hthread.trans h.thread, hworkers.trans h.workers, ?_, hallServe, ?_, ?_, ?_⟩
    · exact h.serving.put hstop hexecuted hqueue htasks hputs
    · change s₁.puts.Nodup
      rw [hputs]
      exact List.nodup_append.mpr ⟨h.puts_nodup, List.nodup_singleton _, by
        rintro a ha b hb rfl
        exact hfresh (List.mem_singleton.mp hb ▸ ha)⟩
    · intro id hid
      have hid : id ∈ s.puts ++ [record.probeId] := hputs ▸ hid
      apply hids.1
      rcases List.mem_append.mp hid with hid | hid
      · exact h.puts_issued id hid
      · rw [List.mem_singleton.mp hid]
        exact hheld.tokens_issued _ (hfocus.mem_iff.mpr List.mem_cons_self)
    · intro t ht
      have ht : t ∈ (s.calls.set i call').filterMap CallPc.token := hcalls ▸ ht
      have ht : t ∈ rest := by
        have ht := (hnew call').mem_iff.mp ht
        rwa [htoken] at ht
      change t.1 ∉ s₁.puts
      rw [hputs, List.mem_append, List.mem_singleton, not_or]
      refine ⟨hrest t ht, fun heq => ?_⟩
      have hdistinct := (hfocus.map Prod.fst).nodup_iff.mp hheld.distinct
      refine (List.nodup_cons.mp hdistinct).1 (List.mem_map.mpr ⟨t, ?_, heq⟩)
      exact List.mem_append_right _ (List.mem_append_right _ (List.mem_append_left _ ht))

theorem Delivering.worker_step (h : Delivering s pc) (hheld : Held InStep s) {tid : ℕ} {a : Answer}
    (ha : a ≠ .storeRaises) (hstep : step cfg s (.worker tid a) = some s') :
    ∃ pc', Delivering s' pc' := by
  obtain ⟨pc₀, hpc, hmap⟩ := Option.bind_eq_some_iff.mp hstep
  obtain ⟨⟨s₁, pc'⟩, hworker, rfl⟩ := Option.map_eq_some_iff.mp hmap
  rw [h.workers] at hpc
  obtain ⟨rfl, rfl⟩ : tid = 0 ∧ pc = pc₀ := by
    cases tid with
    | zero => exact ⟨rfl, Option.some.inj hpc⟩
    | succ n => simp at hpc
  obtain ⟨hserving, hthread, hputs, hissued⟩ :=
    workerStep_serving h.serving hheld h.workers ha hworker
  obtain ⟨hcalls, hworkers, -⟩ := workerStep_move hworker
  refine ⟨pc', hthread.trans h.thread, ?_, ?_, ?_, ?_, ?_, ?_⟩
  · change s₁.workers.set 0 pc' = [pc']
    rw [hworkers, h.workers]
    rfl
  · exact ⟨hserving.serves, hserving.stopEvent, hserving.items, hserving.tasks, hserving.order,
      hserving.worker⟩
  · exact fun call hcall => h.calls call (hcalls ▸ hcall)
  · exact hputs ▸ h.puts_nodup
  · exact fun id hid => hissued ▸ h.puts_issued id (hputs ▸ hid)
  · exact fun t ht => hputs ▸ h.unput t (hcalls ▸ ht)

theorem Delivering.of_step (h : Delivering s pc) (hheld : Held InStep s) (hcalm : Calm s l)
    (hstep : step cfg s l = some s') : ∃ pc', Delivering s' pc' := by
  cases l with
  | crash => cases hcalm
  | invoke call =>
    obtain rfl := by simpa [step] using hstep
    have hentry : call.entry.serves = true ∧ call.entry.token = none := by
      cases call with
      | stop => cases hcalm
      | _ => exact ⟨rfl, rfl⟩
    refine ⟨pc, h.thread, h.workers, ?_, ?_, h.puts_nodup, h.puts_issued, ?_⟩
    · exact ⟨h.serving.serves, h.serving.stopEvent, h.serving.items, h.serving.tasks,
        h.serving.order, h.serving.worker⟩
    · intro c hc
      rcases List.mem_append.mp hc with hc | hc
      · exact h.calls c hc
      · rw [List.mem_singleton.mp hc]; exact hentry.1
    · simpa [hentry.2] using h.unput
  | call i a =>
    exact ⟨pc, h.call_step hheld (fun ha => by subst ha; cases hcalm) hstep⟩
  | worker tid a =>
    exact h.worker_step hheld (fun ha => by subst ha; cases hcalm) hstep

/-- A manager that delivers does not restart. -/
theorem Delivering.quiet (h : Delivering s pc) (l : Label) : QuietRestart s l := by
  intro hr
  have halive := h.alive
  cases l with
  | call i a => cases a <;> simp_all [restarts]
  | _ => cases hr

end Steps

def startLabels (now now' : String) : List Label :=
  [.invoke .start, .call 0 (.go now), .call 0 (.go now')]

theorem run_startLabels {cfg : Config} {store : RunTable PersistedCanaryRun}
    {issued : List String} {now now' : String} {s₀ : State}
    (h : run (step cfg) anyStep (State.fresh store issued) (startLabels now now') = some s₀) :
    Delivering s₀ .fetch ∧ s₀.store = failStaleRuns staleReason now store ∧
      s₀.issued = issued ∧ s₀.tokens = [] := by
  obtain rfl := Option.some.inj h
  refine ⟨⟨rfl, rfl, ⟨rfl, rfl, ?_, rfl, rfl, ?_⟩, ?_, List.nodup_nil, ?_, ?_⟩, rfl, rfl, rfl⟩
  · exact fun _ hmem => absurd hmem List.not_mem_nil
  · exact fun _ hmem => absurd hmem List.not_mem_nil
  · intro call hcall
    rw [List.mem_singleton.mp hcall]
    rfl
  · exact fun _ hmem => absurd hmem List.not_mem_nil
  · exact fun _ hmem => absurd hmem List.not_mem_nil

/-- From the state after `start` has returned, along every calm run: the ids put on
the queue are distinct; they are, in order, the ids executed, at most one in the
worker's hands, and those still queued; the one worker executed them all; every id
on the queue has a stored row with status queued; and whenever the worker or a
completion handler reads a row, the row is there. -/
theorem submissions_execute_once (cfg : Config) (store : RunTable PersistedCanaryRun)
    (issued : List String)
    (hissued : ∀ id record, store.find id = some record → id ∈ issued) (now now' : String)
    (s₀ s : State)
    (hstart : run (step cfg) anyStep (State.fresh store issued) (startLabels now now') = some s₀)
    (hs : Reach (step cfg) Calm s₀ s) :
    ∃ pc, s.workers = [pc] ∧ pc.active = true ∧
      s.puts.Nodup ∧ pc.inHand.length ≤ 1 ∧
      s.puts = s.executed.map Prod.snd ++ pc.inHand ++ s.queue.reduceOption ∧
      (∀ e ∈ s.executed, e.1 = 0) ∧
      (∀ id, some id ∈ s.queue →
        ∃ record, s.store.find id = some record ∧ record.status = .queued) ∧
      (∀ id, pc = .load id →
        ∃ record, s.store.find id = some record ∧ record.status = .queued) ∧
      (∀ id outcome, pc = .loadFinal id outcome →
        ∃ record, s.store.find id = some record ∧ record.status = .running) := by
  obtain ⟨hdeliver₀, hstore₀, hissued₀, htokens₀⟩ := run_startLabels hstart
  have hheld₀ : Held InStep s₀ := by
    refine .of_idle htokens₀ fun id record hrow => ?_
    rw [hstore₀, find_recovered] at hrow
    obtain ⟨record₀, hrow₀, -⟩ := Option.map_eq_some_iff.mp hrow
    exact hissued₀ ▸ hissued id record₀ hrow₀
  have hinv : Held InStep s ∧ ∃ pc, Delivering s pc := by
    refine Reach.invariant (I := fun s => Held InStep s ∧ ∃ pc, Delivering s pc)
      ⟨hheld₀, .fetch, hdeliver₀⟩ ?_ hs
    rintro s l s' ⟨hheld, pc, hdeliver⟩ hcalm hstep
    exact ⟨held_step hheld (hdeliver.quiet l) hstep, hdeliver.of_step hheld hcalm hstep⟩
  obtain ⟨hheld, pc, hdeliver⟩ := hinv
  refine ⟨pc, hdeliver.workers, ?_, hdeliver.puts_nodup, ?_, hdeliver.serving.order,
    hdeliver.serving.worker, ?_, ?_, ?_⟩
  · have halive := hdeliver.alive
    simpa [State.alive, hdeliver.thread, hdeliver.workers] using halive
  · cases pc <;> simp [WorkerPc.inHand]
  · intro id hid
    have htok : (id, Phase.queued) ∈ s.tokens :=
      List.mem_append_left _ (List.mem_filterMap.mpr ⟨some id, hid, rfl⟩)
    exact (hheld.fits _ htok).find rfl
  · rintro id rfl
    exact (hheld.row_of_worker hdeliver.workers rfl).find rfl
  · rintro id outcome rfl
    exact (hheld.row_of_worker hdeliver.workers rfl).find rfl

/-- Two submissions, of which the first has been executed and the second is queued. -/
def twoSubmissions : List Label :=
  [.invoke (.submit switchRequest), .invoke (.submit switchRequest),
   .call 1 (.go "t1"), .call 2 (.go "t1"), .call 1 (.prepared (switchProbe firstId)),
   .call 2 (.prepared (switchProbe secondId)), .call 2 (.go "t2"), .call 1 (.go "t2"),
   .call 1 (.go "t2"), .call 2 (.go "t2"), .call 1 (.go "t2"), .call 2 (.go "t2"),
   .call 1 (.go "t2"), .worker 0 (.go "t3"), .call 2 (.go "t3"), .worker 0 (.go "t3"),
   .worker 0 (.go "t3"), .worker 0 (.go "t3"), .worker 0 (.go "t3")]

theorem submissions_execute_once_two :
    ∃ s₀ s, run (step smallConfig) anyStep (State.fresh emptyStore []) (startLabels "t0" "t0") =
        some s₀ ∧
      run (step smallConfig) Calm s₀ twoSubmissions = some s ∧
      s.executed = [(0, firstId)] ∧ s.queue = [some secondId] ∧
      ∃ record, s.store.find secondId = some record ∧ record.status = .queued := by
  have key : ∀ s₀ s,
      run (step smallConfig) anyStep (State.fresh emptyStore []) (startLabels "t0" "t0") =
        some s₀ →
      run (step smallConfig) Calm s₀ twoSubmissions = some s → s.queue = [some secondId] →
      ∃ record, s.store.find secondId = some record ∧ record.status = .queued := by
    intro s₀ s hstart hrun hqueue
    obtain ⟨pc, -, -, -, -, -, -, hqueued, -⟩ :=
      submissions_execute_once smallConfig emptyStore [] (fun _ _ h => by cases h) "t0" "t0" s₀ s
        hstart (run_reach twoSubmissions hrun)
    exact hqueued secondId (hqueue ▸ List.mem_cons_self)
  exact ⟨_, _, rfl, rfl, rfl, rfl, key _ _ rfl rfl rfl⟩

end OvnApi.Manager
