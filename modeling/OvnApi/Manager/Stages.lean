import OvnApi.Manager.Lifecycle

/-! How a run is announced. A run is announced by the `submit` or `run_sync` that accepts
it and by the worker that executes it, each at its own pace. Whoever has a run in hand is at
some stage of it; besides, the `submit` that has put a run on the queue has yet to announce
it as queued, whatever happens to the run in the meantime. A step of the manager is an act on
one run: it takes the run from one stage to the next, announces something or stores a
status. -/

namespace OvnApi.Manager

open OvnApi.Core Lib Traces Store

/-! ### Stages -/

/-- What has been done for a run, and what is announced next. -/
inductive Stage where
  /-- On the way to the queue, with the status it will be announced with. -/
  | submitting (status : RunStatus)
  | queued
  /-- Off the queue, not yet stored as running. -/
  | fetched
  /-- Stored as running and about to be announced so. -/
  | marked (status : RunStatus)
  /-- In `run_sync`, not yet announced. -/
  | starting
  | running
  /-- Stored with its final status and about to be announced so. -/
  | closed (status : RunStatus)
  deriving DecidableEq

abbrev Staged := String × Stage

def CallPc.stage : CallPc → Option Staged
  | .submitDepth _ prepared => some (prepared.probeId, .submitting .queued)
  | .submitCreate _ prepared _ _ => some (prepared.probeId, .submitting .queued)
  | .submitPrune record => some (record.probeId, .submitting record.status)
  | .submitPut record => some (record.probeId, .submitting record.status)
  | .syncCreate _ prepared => some (prepared.probeId, .starting)
  | .syncEmit _ prepared _ => some (prepared.probeId, .starting)
  | .syncProbe _ prepared _ => some (prepared.probeId, .running)
  | .syncUpdate _ prepared _ _ => some (prepared.probeId, .running)
  | .syncPrune record => some (record.probeId, .closed record.status)
  | .syncEmitFinal record => some (record.probeId, .closed record.status)
  | _ => none

def WorkerPc.stage : WorkerPc → Option Staged
  | .load probeId => some (probeId, .fetched)
  | .markRunning record => some (record.probeId, .fetched)
  | .emitRunning record => some (record.probeId, .marked record.status)
  | .probe record => some (record.probeId, .running)
  | .probing record => some (record.probeId, .running)
  | .loadFinal probeId _ => some (probeId, .running)
  | .storeFinal record _ _ => some (record.probeId, .running)
  | .pruneFinal record => some (record.probeId, .closed record.status)
  | .emitFinal record => some (record.probeId, .closed record.status)
  | _ => none

def queueStage (item : Option String) : Option Staged := item.map fun id => (id, .queued)

/-- A `submit` that has yet to announce the run it has put on the queue. -/
def CallPc.announces : CallPc → Option (String × RunStatus)
  | .submitEmit record => some (record.probeId, record.status)
  | _ => none

namespace State

def threadStages (s : State) : List Staged :=
  s.calls.filterMap CallPc.stage ++ s.workers.filterMap WorkerPc.stage

def stages (s : State) : List Staged := s.queue.filterMap queueStage ++ s.threadStages

def announcing (s : State) : List (String × RunStatus) := s.calls.filterMap CallPc.announces

def status (s : State) (id : String) : Option RunStatus :=
  (s.store.find id).map PersistedCanaryRun.status

end State

/-! ### Acts -/

/-- Nothing is announced of a run that is given up at this stage. -/
def Stage.silent : Stage → Bool
  | .submitting _ | .starting | .fetched | .running => true
  | _ => false

inductive Act where
  | pass (stage : Option Stage)
  | reserve
  | reserveSync
  | create
  | createSync
  | put (status : RunStatus)
  | announce (status : RunStatus)
  | fetch
  | mark
  | sayRunning (status : RunStatus)
  | saySync
  | close (status : RunStatus) (hfinal : status.isFinal = true)
  | sayFinal (status : RunStatus)
  | abandon (stage : Stage) (hsilent : stage.silent = true)
  /-- The run is closed, and its end is not announced. -/
  | skip (status : RunStatus)

namespace Act

def before : Act → Option Stage
  | .pass stage => stage
  | .reserve | .reserveSync | .announce _ => none
  | .create => some (.submitting .queued)
  | .createSync | .saySync => some .starting
  | .put status => some (.submitting status)
  | .fetch => some .queued
  | .mark => some .fetched
  | .sayRunning status => some (.marked status)
  | .close _ _ => some .running
  | .sayFinal status | .skip status => some (.closed status)
  | .abandon stage _ => some stage

def after : Act → Option Stage
  | .pass stage => stage
  | .reserve | .create => some (.submitting .queued)
  | .reserveSync | .createSync => some .starting
  | .put _ => some .queued
  | .fetch => some .fetched
  | .mark => some (.marked .running)
  | .sayRunning _ | .saySync => some .running
  | .close status _ => some (.closed status)
  | .announce _ | .sayFinal _ | .abandon _ _ | .skip _ => none

/-- The announcement a `submit` has to make before the act, and after it. -/
def dueBefore : Act → Option RunStatus
  | .announce status => some status
  | _ => none

def dueAfter : Act → Option RunStatus
  | .put status => some status
  | _ => none

def spoken : Act → Option RunStatus
  | .announce status | .sayRunning status | .sayFinal status => some status
  | .saySync => some .running
  | _ => none

def writes : Act → Option RunStatus
  | .create => some .queued
  | .createSync | .mark => some .running
  | .close status _ => some status
  | _ => none

def reserves : Act → Bool
  | .reserve | .reserveSync => true
  | _ => false

def puts : Act → Bool
  | .put _ => true
  | _ => false

/-- An act that leaves nothing in the books. -/
def quiet : Act → Bool
  | .pass _ | .fetch | .abandon _ _ | .skip _ => true
  | _ => false

end Act

/-- A token for a run, if there is anything to note. -/
def tagged {β : Type} (id : String) (note : Option β) : List (String × β) :=
  (note.map (Prod.mk id)).toList

/-- What an act on a run leaves in the books. -/
structure Records (s s' : State) (id : String) (act : Act) : Prop where
  emitted : s'.emitted = s.emitted ++ tagged id act.spoken
  puts : s'.puts = s.puts ++ if act.puts then [id] else []
  issued : s'.issued = (if act.reserves then [id] else []) ++ s.issued
  fresh : act.reserves = true → id ∉ s.issued
  rows : ∀ i, (i = id → act.writes = none) → s'.status i = s.status i ∨
    ∃ status, s.status i = some status ∧ status.isFinal = true ∧ s'.status i = none
  written : ∀ status, act.writes = some status → s'.status id = some status

structure Acts (s s' : State) (id : String) (act : Act) : Prop where
  stages : ∃ rest, s.stages.Perm (tagged id act.before ++ rest) ∧
    s'.stages.Perm (tagged id act.after ++ rest)
  announcing : ∃ rest, s.announcing.Perm (tagged id act.dueBefore ++ rest) ∧
    s'.announcing.Perm (tagged id act.dueAfter ++ rest)
  records : Records s s' id act

/-! ### The acts of a call -/

section Steps

variable {cfg : Config} {s s₁ s' : State} {id : String} {act : Act}

/-- The act leaves a closed run without an announcement of its end. -/
def Act.isSkip : Act → Bool
  | .skip _ => true
  | _ => false

/-- The `prune_finished_runs` of `run_sync` raises. -/
def CallPc.skips : CallPc → Answer → Bool
  | .syncPrune _, .storeRaises => true
  | _, _ => false

/-- What a step of a call does, seen from the run it is about. -/
inductive CallActs (s : State) (pc : CallPc) (a : Answer) (s₁ : State) (pc' : CallPc) : Prop where
  | inside (id : String) (act : Act) (hqueue : s₁.queue = s.queue)
      (hworkers : s₁.workers.filterMap WorkerPc.stage = s.workers.filterMap WorkerPc.stage)
      (hbefore : pc.stage = act.before.map (Prod.mk id))
      (hafter : pc'.stage = act.after.map (Prod.mk id))
      (hdue : pc.announces = act.dueBefore.map (Prod.mk id))
      (hdue' : pc'.announces = act.dueAfter.map (Prod.mk id))
      (hskip : act.isSkip = true → pc.skips a = true) (hrecords : Records s s₁ id act)
  | put (id : String) (act : Act) (item : Option String) (hqueue : s₁.queue = s.queue ++ [item])
      (hworkers : s₁.workers = s.workers) (hbefore : pc.stage = act.before.map (Prod.mk id))
      (hafter : queueStage item = act.after.map (Prod.mk id)) (hstage : pc'.stage = none)
      (hdue : pc.announces = act.dueBefore.map (Prod.mk id))
      (hdue' : pc'.announces = act.dueAfter.map (Prod.mk id)) (hskip : act.isSkip = false)
      (hrecords : Records s s₁ id act)
  | restart (now : String) (after : After) (hpc : pc = .startEnter after) (ha : a = .go now)
      (halive : s.alive = false) (hs : s₁ = s.recover now) (hstage : pc'.stage = none)
      (hdue' : pc'.announces = none)

theorem Act.of_quiet (h : act.quiet = true) :
    act.spoken = none ∧ act.puts = false ∧ act.reserves = false ∧ act.writes = none := by
  cases act with
  | pass | fetch | abandon | skip => exact ⟨rfl, rfl, rfl, rfl⟩
  | _ => cases h

theorem Records.of_quiet (hemitted : s₁.emitted = s.emitted) (hputs : s₁.puts = s.puts)
    (hissued : s₁.issued = s.issued) (hquiet : act.quiet = true)
    (hrows : ∀ i, s₁.status i = s.status i ∨
      ∃ status, s.status i = some status ∧ status.isFinal = true ∧ s₁.status i = none) :
    Records s s₁ id act := by
  obtain ⟨hspoken, hput, hreserves, hwrites⟩ := Act.of_quiet hquiet
  constructor
  · rw [hemitted, hspoken]
    simp [tagged]
  · rw [hputs, hput]
    simp
  · rw [hissued, hreserves]
    simp
  · rw [hreserves]
    exact fun hfalse => absurd hfalse Bool.false_ne_true
  · exact fun i _ => hrows i
  · rw [hwrites]
    exact fun _ hnone => absurd hnone (Option.some_ne_none _).symm

theorem Records.of_same (hemitted : s₁.emitted = s.emitted) (hputs : s₁.puts = s.puts)
    (hissued : s₁.issued = s.issued) (hstore : s₁.store = s.store) (hquiet : act.quiet = true) :
    Records s s₁ id act :=
  .of_quiet hemitted hputs hissued hquiet fun i => .inl (by rw [State.status, hstore]; rfl)

theorem Records.of_prune (hquiet : act.quiet = true) : Records s (s.prune cfg) id act := by
  refine .of_quiet rfl rfl rfl hquiet fun i => ?_
  simp only [State.status, State.prune]
  cases hrow : s.store.find i with
  | none => exact .inl (by rw [find_pruneFinishedRuns_none hrow])
  | some record =>
    rcases find_pruneFinishedRuns cfg.order cfg.maxRuns hrow with hsame | ⟨hfinal, hnone⟩
    · exact .inl (by rw [hsame])
    · exact .inr ⟨record.status, rfl, hfinal, by rw [hnone]; rfl⟩

theorem Records.of_emit (record : PersistedCanaryRun) (hspoken : act.spoken = some record.status)
    (hput : act.puts = false) (hreserves : act.reserves = false) (hwrites : act.writes = none) :
    Records s (s.emit record) record.probeId act where
  emitted := by rw [hspoken]; rfl
  puts := by rw [hput]; simp [State.emit]
  issued := by rw [hreserves]; simp [State.emit]
  fresh := by rw [hreserves]; exact fun hfalse => absurd hfalse Bool.false_ne_true
  rows _ _ := .inl rfl
  written := by rw [hwrites]; exact fun _ hnone => absurd hnone (Option.some_ne_none _).symm

theorem Records.of_reserve (hnew : id ∉ s.issued) (hspoken : act.spoken = none)
    (hput : act.puts = false) (hreserves : act.reserves = true) (hwrites : act.writes = none) :
    Records s { s with issued := id :: s.issued } id act where
  emitted := by rw [hspoken]; simp [tagged]
  puts := by rw [hput]; simp
  issued := by rw [hreserves]; rfl
  fresh _ := hnew
  rows _ _ := .inl rfl
  written := by rw [hwrites]; exact fun _ hnone => absurd hnone (Option.some_ne_none _).symm

/-- A row is written: created or updated. -/
theorem Records.of_write {store : RunTable PersistedCanaryRun} {record : PersistedCanaryRun}
    (hfind : ∀ i, store.find i = if i = record.probeId then some record else s.store.find i)
    (hid : record.probeId = id) (hwrites : act.writes = some record.status)
    (hspoken : act.spoken = none) (hput : act.puts = false) (hreserves : act.reserves = false) :
    Records s { s with store } id act where
  emitted := by rw [hspoken]; simp [tagged]
  puts := by rw [hput]; simp
  issued := by rw [hreserves]; simp
  fresh := by rw [hreserves]; exact fun hfalse => absurd hfalse Bool.false_ne_true
  rows i hother := by
    have hi : i ≠ record.probeId := fun heq => by
      rw [hother (heq.trans hid)] at hwrites
      cases hwrites
    exact .inl (by rw [State.status, hfind, if_neg hi]; rfl)
  written status hstatus := by
    rw [hwrites] at hstatus
    rw [State.status, hfind, if_pos hid.symm]
    exact hstatus

/-- A call that has no run in hand goes on. -/
theorem CallActs.of_quiet {pc pc' : CallPc} {a : Answer} (hqueue : s₁.queue = s.queue)
    (hworkers : s₁.workers.filterMap WorkerPc.stage = s.workers.filterMap WorkerPc.stage)
    (hbefore : pc.stage = none) (hafter : pc'.stage = none) (hdue : pc.announces = none)
    (hdue' : pc'.announces = none) (hemitted : s₁.emitted = s.emitted)
    (hputs : s₁.puts = s.puts) (hissued : s₁.issued = s.issued) (hstore : s₁.store = s.store) :
    CallActs s pc a s₁ pc' :=
  .inside "" (.pass none) hqueue hworkers hbefore hafter hdue hdue' nofun
    (.of_same hemitted hputs hissued hstore rfl)

/-- A call with a run in hand goes on to the next operation, or gives the run up. -/
theorem CallActs.of_same {pc pc' : CallPc} {a : Answer} (id : String) (act : Act)
    (hbefore : pc.stage = act.before.map (Prod.mk id))
    (hafter : pc'.stage = act.after.map (Prod.mk id))
    (hdue : pc.announces = act.dueBefore.map (Prod.mk id))
    (hdue' : pc'.announces = act.dueAfter.map (Prod.mk id))
    (hskip : act.isSkip = true → pc.skips a = true) (hquiet : act.quiet = true) :
    CallActs s pc a s pc' :=
  .inside id act rfl rfl hbefore hafter hdue hdue' hskip (.of_same rfl rfl rfl rfl hquiet)

theorem After.next_stage (after : After) : after.next.stage = none := by
  cases after <;> rfl

theorem After.next_announces (after : After) : after.next.announces = none := by
  cases after <;> rfl

/-- A call that is over has given up the run it had in hand, if any. -/
theorem CallActs.of_ends {pc : CallPc} {a : Answer} (h : pc.ends a = true) : CallActs s pc a s .done := by
  cases pc <;> cases a <;>
    first
    | cases h; done
    | exact .of_quiet rfl rfl rfl rfl rfl rfl rfl rfl rfl rfl
    | exact .of_same _ (.abandon _ rfl) rfl rfl rfl rfl nofun rfl
    | exact .of_same _ (.skip _) rfl rfl rfl rfl (fun _ => rfl) rfl

theorem callStep_acts {pc pc' : CallPc} {a : Answer} (h : callStep cfg s pc a = some (s₁, pc')) :
    CallActs s pc a s₁ pc' := by
  cases callStep_cases h with
  | ends hends => exact .of_ends hends
  | alive => exact .of_quiet rfl rfl rfl (After.next_stage _) rfl (After.next_announces _) rfl rfl rfl rfl
  | recover halive => exact .restart _ _ rfl rfl halive rfl rfl rfl
  | launch hcreated =>
    exact .of_quiet rfl (filterMap_set_of_eq hcreated rfl) rfl (After.next_stage _) rfl
      (After.next_announces _) rfl rfl rfl rfl
  | prepare hnew =>
    exact .inside _ .reserve rfl rfl rfl rfl rfl rfl nofun (.of_reserve hnew rfl rfl rfl rfl)
  | depth => exact .of_same _ (.pass (some (.submitting .queued))) rfl rfl rfl rfl nofun rfl
  | create hcreate =>
    exact .inside _ .create rfl rfl rfl rfl rfl rfl nofun (.of_write (createRun_ok hcreate).2 rfl rfl rfl rfl rfl)
  | prune => exact .inside _ (.pass (some (.submitting _))) rfl rfl rfl rfl rfl rfl nofun (.of_prune rfl)
  | put =>
    exact .put _ (.put _) (some _) rfl rfl rfl rfl rfl rfl rfl rfl
      ⟨(List.append_nil _).symm, rfl, rfl, nofun, fun _ _ => .inl rfl, nofun⟩
  | emit => exact .inside _ (.announce _) rfl rfl rfl rfl rfl rfl nofun (.of_emit _ rfl rfl rfl rfl)
  | initSync => exact .of_quiet rfl rfl rfl rfl rfl rfl rfl rfl rfl rfl
  | prepareSync hnew =>
    exact .inside _ .reserveSync rfl rfl rfl rfl rfl rfl nofun (.of_reserve hnew rfl rfl rfl rfl)
  | createSync hcreate =>
    exact .inside _ .createSync rfl rfl rfl rfl rfl rfl nofun
      (.of_write (createRun_ok hcreate).2 rfl rfl rfl rfl rfl)
  | emitSync => exact .inside _ .saySync rfl rfl rfl rfl rfl rfl nofun (.of_emit (syncRecord _ _ _) rfl rfl rfl rfl)
  | probeSync => exact .of_same _ (.pass (some .running)) rfl rfl rfl rfl nofun rfl
  | @closeSync request prepared now finishedAt outcome store hupdate =>
    have hid : (closeBySync (syncRecord request prepared now) outcome finishedAt).probeId = prepared.probeId :=
      markOutcome_probeId _ _ _ _
    refine .inside prepared.probeId (.close _ (markOutcome_isFinal _ _ _ _)) rfl rfl rfl ?_ rfl rfl nofun
      (.of_write (updateRun_ok hupdate).2 hid rfl rfl rfl rfl)
    rw [CallPc.stage, hid]
    rfl
  | pruneSync => exact .inside _ (.pass (some (.closed _))) rfl rfl rfl rfl rfl rfl nofun (.of_prune rfl)
  | emitFinal => exact .inside _ (.sayFinal _) rfl rfl rfl rfl rfl rfl nofun (.of_emit _ rfl rfl rfl rfl)
  | stop hpc' =>
    subst hpc'
    cases s.thread <;> exact .of_quiet rfl rfl rfl rfl rfl rfl rfl rfl rfl rfl
  | putNone => exact .put "" (.pass none) none rfl rfl rfl rfl rfl rfl rfl rfl (.of_same rfl rfl rfl rfl rfl)

/-! ### The acts of a worker -/

def Act.isSayRunning : Act → Bool
  | .sayRunning _ => true
  | _ => false

def WorkerPc.announcesRunning : WorkerPc → Option String
  | .emitRunning record => some record.probeId
  | _ => none

/-- The `prune_finished_runs` after the end of a run raises. -/
def WorkerPc.skips : WorkerPc → Answer → Bool
  | .pruneFinal _, .storeRaises => true
  | _, _ => false

inductive WorkerActs (s : State) (pc : WorkerPc) (a : Answer) (s₁ : State) (pc' : WorkerPc) :
    Prop where
  | inside (id : String) (act : Act) (hqueue : s₁.queue = s.queue)
      (hbefore : pc.stage = act.before.map (Prod.mk id))
      (hafter : pc'.stage = act.after.map (Prod.mk id))
      (hdue : act.dueBefore = none ∧ act.dueAfter = none)
      (hskip : act.isSkip = true → pc.skips a = true)
      (hsay : act.isSayRunning = true → pc.announcesRunning = some id)
      (hrecords : Records s s₁ id act)
  | get (id : String) (act : Act) (item : Option String) (hqueue : s.queue = item :: s₁.queue)
      (hstage : pc.stage = none) (hbefore : queueStage item = act.before.map (Prod.mk id))
      (hafter : pc'.stage = act.after.map (Prod.mk id))
      (hdue : act.dueBefore = none ∧ act.dueAfter = none) (hskip : act.isSkip = false)
      (hsay : act.isSayRunning = false) (hrecords : Records s s₁ id act)

/-- A worker that has no run in hand goes on. -/
theorem WorkerActs.of_quiet {pc pc' : WorkerPc} {a : Answer} (hqueue : s₁.queue = s.queue)
    (hbefore : pc.stage = none) (hafter : pc'.stage = none) (hemitted : s₁.emitted = s.emitted)
    (hputs : s₁.puts = s.puts) (hissued : s₁.issued = s.issued) (hstore : s₁.store = s.store) :
    WorkerActs s pc a s₁ pc' :=
  .inside "" (.pass none) hqueue hbefore hafter ⟨rfl, rfl⟩ nofun nofun
    (.of_same hemitted hputs hissued hstore rfl)

/-- A worker with a run in hand goes on to the next operation, or gives the run up. -/
theorem WorkerActs.of_same {pc pc' : WorkerPc} {a : Answer} (id : String) (act : Act)
    (hbefore : pc.stage = act.before.map (Prod.mk id))
    (hafter : pc'.stage = act.after.map (Prod.mk id))
    (hskip : act.isSkip = true → pc.skips a = true) (hquiet : act.quiet = true) :
    WorkerActs s pc a s pc' := by
  obtain ⟨hdue, hsay⟩ : (act.dueBefore = none ∧ act.dueAfter = none) ∧
      act.isSayRunning = false := by
    cases act with
    | pass | fetch | abandon | skip => exact ⟨⟨rfl, rfl⟩, rfl⟩
    | _ => cases hquiet
  exact .inside id act rfl hbefore hafter hdue hskip (by rw [hsay]; exact nofun)
    (.of_same rfl rfl rfl rfl hquiet)

theorem AfterTask.next_stage (after : AfterTask) : after.next.stage = none := by
  cases after <;> rfl

theorem WorkerActs.of_raise {pc pc' : WorkerPc} (h : pc.onRaise = some pc') :
    WorkerActs s pc .storeRaises s pc' := by
  cases pc <;> cases h <;>
    first
    | exact .of_same _ (.abandon _ rfl) rfl rfl nofun rfl
    | exact .of_same _ (.skip _) rfl rfl (fun _ => rfl) rfl

theorem workerStep_acts {tid : ℕ} {pc pc' : WorkerPc} {a : Answer}
    (h : workerStep cfg s tid pc a = some (s₁, pc')) : WorkerActs s pc a s₁ pc' := by
  cases workerStep_cases h with
  | empty | untasked => exact .of_quiet rfl rfl rfl rfl rfl rfl rfl
  | fetch hqueue =>
    exact .get _ .fetch (some _) hqueue rfl rfl rfl ⟨rfl, rfl⟩ rfl rfl (.of_same rfl rfl rfl rfl rfl)
  | sentinel hqueue =>
    exact .get "" (.pass none) none hqueue rfl rfl rfl ⟨rfl, rfl⟩ rfl rfl (.of_same rfl rfl rfl rfl rfl)
  | checkStop hpc' =>
    subst hpc'
    cases s.stopEvent <;> exact .of_quiet rfl rfl rfl rfl rfl rfl rfl
  | load hfind =>
    obtain rfl := KeyedTable.key_of_find hfind
    exact .of_same _ (.pass (some .fetched)) rfl rfl nofun rfl
  | mark hupdate =>
    exact .inside _ .mark rfl rfl rfl ⟨rfl, rfl⟩ nofun nofun (.of_write (updateRun_ok hupdate).2 rfl rfl rfl rfl rfl)
  | unmarked => exact .of_same _ (.abandon .fetched rfl) rfl rfl nofun rfl
  | emit =>
    exact .inside _ (.sayRunning _) rfl rfl rfl ⟨rfl, rfl⟩ nofun (fun _ => rfl) (.of_emit _ rfl rfl rfl rfl)
  | execute =>
    exact .inside _ (.pass (some .running)) rfl rfl rfl ⟨rfl, rfl⟩ nofun nofun (.of_same rfl rfl rfl rfl rfl)
  | probed => exact .of_same _ (.pass (some .running)) rfl rfl nofun rfl
  | reload hfind =>
    obtain rfl := KeyedTable.key_of_find hfind
    exact .of_same _ (.pass (some .running)) rfl rfl nofun rfl
  | @close record outcome finishedAt now store hupdate =>
    have hid : (closeByWorker record outcome finishedAt).probeId = record.probeId := markOutcome_probeId _ _ _ _
    refine .inside record.probeId (.close _ (markOutcome_isFinal _ _ _ _)) rfl rfl ?_ ⟨rfl, rfl⟩ nofun nofun
      (.of_write (updateRun_ok hupdate).2 hid rfl rfl rfl rfl)
    rw [WorkerPc.stage, hid]
    rfl
  | unclosed => exact .of_same _ (.abandon .running rfl) rfl rfl nofun rfl
  | prune =>
    exact .inside _ (.pass (some (.closed _))) rfl rfl rfl ⟨rfl, rfl⟩ nofun nofun (.of_prune rfl)
  | emitFinal =>
    exact .inside _ (.sayFinal _) rfl rfl rfl ⟨rfl, rfl⟩ nofun nofun (.of_emit _ rfl rfl rfl rfl)
  | taskDone => exact .of_quiet rfl rfl (AfterTask.next_stage _) rfl rfl rfl rfl
  | missing hreads =>
    cases pc <;> cases hreads <;> exact .of_same _ (.abandon _ rfl) rfl rfl nofun rfl
  | raises hraise => exact .of_raise hraise

/-! ### The acts of the manager -/

def announcesRunning (s : State) : Label → Option String
  | .worker tid _ => s.workers[tid]?.bind WorkerPc.announcesRunning
  | _ => none

/-- The store raises between the closing of a run and the announcement of its end. -/
def skips (s : State) : Label → Bool
  | .call i a => s.calls[i]?.any fun pc => pc.skips a
  | .worker tid a => s.workers[tid]?.any fun pc => pc.skips a
  | _ => false

def recoveredStatus (status : RunStatus) : RunStatus := if status.isFinal then status else .failed

inductive Turn (s : State) (l : Label) (s' : State) : Prop where
  | act (id : String) (act : Act) (hacts : Acts s s' id act)
      (hskip : act.isSkip = true → skips s l = true)
      (hsay : act.isSayRunning = true → announcesRunning s l = some id)
  | restart (hrestarts : restarts s l = true) (hstages : s'.stages.Perm s.threadStages)
      (hannouncing : s'.announcing.Perm s.announcing) (hemitted : s'.emitted = s.emitted)
      (hputs : s'.puts = s.puts) (hissued : s'.issued = s.issued)
      (hrows : ∀ i, s'.status i = (s.status i).map recoveredStatus)
  | crash (hstages : s'.stages = []) (hannouncing : s'.announcing = [])
      (hemitted : s'.emitted = []) (hputs : s'.puts = []) (hissued : s'.issued = s.issued)
      (hrows : ∀ i, s'.status i = s.status i)

/-- Only a worker announces a run of the queue as running. -/
theorem CallPc.not_sayRunning {pc : CallPc} (h : pc.stage = act.before.map (Prod.mk id)) :
    act.isSayRunning = false := by
  cases act with
  | sayRunning status => cases pc <;> simp [CallPc.stage, Act.before] at h
  | _ => rfl

theorem status_recover (now i : String) :
    (s.recover now).status i = (s.status i).map recoveredStatus := by
  simp only [State.status, State.recover, find_recovered, Option.map_map]
  cases s.store.find i with
  | none => rfl
  | some record =>
    cases hfinal : record.status.isFinal with
    | true => simp [recovered_of_final hfinal, recoveredStatus, hfinal]
    | false => simp [recovered_of_open hfinal, recoveredStatus, hfinal, RunRow.markStale]

theorem filterMap_queueStage_cons (item : Option String) (queue : List (Option String)) :
    (item :: queue).filterMap queueStage =
      (queueStage item).toList ++ queue.filterMap queueStage := by
  cases item <;> rfl

theorem step_call_turn {i : ℕ} {a : Answer} (h : step cfg s (.call i a) = some s') :
    Turn s (.call i a) s' := by
  obtain ⟨pc, hpc, hmap⟩ := Option.bind_eq_some_iff.mp h
  obtain ⟨⟨s₁, pc'⟩, hstep, rfl⟩ := Option.map_eq_some_iff.mp hmap
  have hcalls : s₁.calls = s.calls := (callStep_move hstep).1
  obtain ⟨rest, hold, hnew⟩ := filterMap_set_perm (f := CallPc.stage) hpc
  obtain ⟨dues, hdues, hdues'⟩ := filterMap_set_perm (f := CallPc.announces) hpc
  have hnew := hnew pc'
  have hdues' := hdues' pc'
  have hskips : ∀ {act : Act}, (act.isSkip = true → pc.skips a = true) →
      act.isSkip = true → skips s (.call i a) = true := by
    intro act hskip htrue
    rw [skips, hpc]
    exact hskip htrue
  cases callStep_acts hstep with
  | inside id act hqueue hworkers hbefore hafter hdue hdue' hskip hrecords =>
    rw [hbefore] at hold
    rw [hdue] at hdues
    rw [hafter] at hnew
    rw [hdue'] at hdues'
    refine .act id act ⟨⟨_, perm_focus_call _ _ hold, ?_⟩, ⟨dues, hdues, ?_⟩, ?_⟩ (hskips hskip) ?_
    · simp only [State.stages, State.threadStages, hqueue, hcalls, hworkers]
      exact perm_focus_call _ _ hnew
    · simp only [State.announcing, hcalls]
      exact hdues'
    · exact { hrecords with }
    · rw [CallPc.not_sayRunning hbefore]
      exact nofun
  | put id act item hqueue hworkers hbefore hafter hstage hdue hdue' hskip hrecords =>
    rw [hbefore] at hold
    rw [hdue] at hdues
    rw [hstage] at hnew
    rw [hdue'] at hdues'
    refine .act id act ⟨⟨_, perm_focus_call _ _ hold, ?_⟩, ⟨dues, hdues, ?_⟩, ?_⟩
      (by rw [hskip]; exact nofun) ?_
    · simp only [State.stages, State.threadStages, hqueue, hcalls, hworkers, List.filterMap_append,
        filterMap_queueStage_cons, List.filterMap_nil, List.append_nil, List.append_assoc, hafter]
      apply (List.perm_append_comm_assoc _ _ _).trans
      exact ((hnew.append_right _).append_left _).append_left _
    · simp only [State.announcing, hcalls]
      exact hdues'
    · exact { hrecords with }
    · rw [CallPc.not_sayRunning hbefore]
      exact nofun
  | restart now after hpc' ha halive hs hstage hdue' =>
    subst hpc' ha hs
    rw [hstage] at hnew
    rw [hdue'] at hdues'
    refine .restart (by simp [restarts, hpc, CallPc.entersStart, halive]) ?_ ?_ rfl rfl rfl
      (status_recover now)
    · simp only [State.stages, State.threadStages, State.recover, List.filterMap_nil,
        List.nil_append, List.filterMap_append, List.filterMap_cons, WorkerPc.stage,
        List.append_nil]
      exact (hnew.trans hold.symm).append_right _
    · exact hdues'.trans hdues.symm

theorem step_worker_turn {tid : ℕ} {a : Answer} (h : step cfg s (.worker tid a) = some s') :
    Turn s (.worker tid a) s' := by
  obtain ⟨pc, hpc, hmap⟩ := Option.bind_eq_some_iff.mp h
  obtain ⟨⟨s₁, pc'⟩, hstep, rfl⟩ := Option.map_eq_some_iff.mp hmap
  obtain ⟨hcalls, hworkers, -⟩ := workerStep_move hstep
  obtain ⟨rest, hold, hnew⟩ := filterMap_set_perm (f := WorkerPc.stage) hpc
  have hnew := hnew pc'
  cases workerStep_acts hstep with
  | inside id act hqueue hbefore hafter hdue hskip hsay hrecords =>
    rw [hbefore] at hold
    rw [hafter] at hnew
    refine .act id act ⟨⟨_, perm_focus_worker _ _ hold, ?_⟩, ⟨s.announcing, ?_, ?_⟩, ?_⟩ ?_ ?_
    · simp only [State.stages, State.threadStages, hqueue, hcalls, hworkers]
      exact perm_focus_worker _ _ hnew
    · rw [hdue.1]
      exact .rfl
    · rw [hdue.2, State.announcing, hcalls]
      exact .rfl
    · exact { hrecords with }
    · intro htrue
      rw [skips, hpc]
      exact hskip htrue
    · intro htrue
      rw [announcesRunning, hpc]
      exact hsay htrue
  | get id act item hqueue hstage hbefore hafter hdue hskip hsay hrecords =>
    rw [hstage] at hold
    rw [hafter] at hnew
    refine .act id act ⟨⟨s₁.queue.filterMap queueStage ++ (s.calls.filterMap CallPc.stage ++ rest),
      ?_, ?_⟩, ⟨s.announcing, ?_, ?_⟩, ?_⟩ (by rw [hskip]; exact nofun)
      (by rw [hsay]; exact nofun)
    · simp only [State.stages, State.threadStages, hqueue, filterMap_queueStage_cons, hbefore,
        List.append_assoc]
      exact ((hold.append_left _).append_left _).append_left _
    · simp only [State.stages, State.threadStages, hcalls, hworkers]
      exact perm_focus_worker _ _ hnew
    · rw [hdue.1]
      exact .rfl
    · rw [hdue.2, State.announcing, hcalls]
      exact .rfl
    · exact { hrecords with }

/-- Every step is one of the turns. -/
theorem step_turn {l : Label} (h : step cfg s l = some s') : Turn s l s' := by
  cases l with
  | invoke call =>
    obtain rfl := by simpa [step] using h
    have hstage : call.entry.stage = none := by cases call <;> rfl
    have hdue : call.entry.announces = none := by cases call <;> rfl
    refine .act "" (.pass none) ⟨⟨s.stages, .rfl, ?_⟩, ⟨s.announcing, .rfl, ?_⟩, ?_⟩
      (absurd · Bool.false_ne_true) (absurd · Bool.false_ne_true)
    · simp [State.stages, State.threadStages, hstage, tagged, Act.after]
    · simp [State.announcing, hdue, tagged, Act.dueAfter]
    · exact .of_same rfl rfl rfl rfl rfl
  | call i a => exact step_call_turn h
  | worker tid a => exact step_worker_turn h
  | crash =>
    obtain rfl := by simpa [step] using h
    exact .crash rfl rfl rfl rfl rfl fun _ => rfl

end Steps

end OvnApi.Manager
