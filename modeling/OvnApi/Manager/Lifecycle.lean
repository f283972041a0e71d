import OvnApi.Lib.Threads
import OvnApi.Manager.Steps

/-! Which thread has which run in hand. A run that is not settled is held by one
token: a submitting or synchronous call, the queue, or a worker, with the phase
it is in. Every step of the manager moves at most one token and makes one of a
few changes to the store. The invariants of the manager are relations between
the phase of a token and the row of its run; they are proved on these moves and
carried to the transition system by `step_change`. -/

namespace OvnApi.Manager

open OvnApi.Core Lib Traces Store

/-! ### Tokens -/

/-- How far the holder of a run has come. -/
inductive Phase where
  /-- The id is given out, the row not yet created. -/
  | reserved
  /-- The row is created, the id not yet on the queue. -/
  | accepted
  | queued
  /-- Taken off the queue, the row not yet read. -/
  | fetched
  | loaded (record : PersistedCanaryRun)
  | running
  /-- The probe is over and the row has been read again. -/
  | closing (record : PersistedCanaryRun)
  | syncRunning

abbrev Token := String × Phase

def CallPc.token : CallPc → Option Token
  | .submitDepth _ prepared => some (prepared.probeId, .reserved)
  | .submitCreate _ prepared _ _ => some (prepared.probeId, .reserved)
  | .submitPrune record => some (record.probeId, .accepted)
  | .submitPut record => some (record.probeId, .accepted)
  | .syncCreate _ prepared => some (prepared.probeId, .reserved)
  | .syncEmit _ prepared _ => some (prepared.probeId, .syncRunning)
  | .syncProbe _ prepared _ => some (prepared.probeId, .syncRunning)
  | .syncUpdate _ prepared _ _ => some (prepared.probeId, .syncRunning)
  | _ => none

def WorkerPc.token : WorkerPc → Option Token
  | .load probeId => some (probeId, .fetched)
  | .markRunning record => some (record.probeId, .loaded record)
  | .emitRunning record => some (record.probeId, .running)
  | .probe record => some (record.probeId, .running)
  | .probing record => some (record.probeId, .running)
  | .loadFinal probeId _ => some (probeId, .running)
  | .storeFinal record _ _ => some (record.probeId, .closing record)
  | _ => none

def queueToken (item : Option String) : Option Token := item.map fun id => (id, .queued)

def State.threadTokens (s : State) : List Token :=
  s.calls.filterMap CallPc.token ++ s.workers.filterMap WorkerPc.token

def State.tokens (s : State) : List Token :=
  s.queue.filterMap queueToken ++ s.threadTokens

/-- Nothing of a run has been recorded as over. -/
def Clean (record : PersistedCanaryRun) : Prop :=
  record.result = none ∧ record.error = none ∧ record.finishedAt = none

/-! ### Moves -/

structure Books where
  store : RunTable PersistedCanaryRun
  issued : List String

def State.books (s : State) : Books := ⟨s.store, s.issued⟩

/-- The token before and after a move, with what the move does to the store. -/
inductive Move (cfg : Config) : Option Token → Option Token → Books → Books → Prop where
  | keep (t : Option Token) (b : Books) : Move cfg t t b b
  | reserve {id : String} {b : Books} (hnew : id ∉ b.issued) :
      Move cfg none (some (id, .reserved)) b ⟨b.store, id :: b.issued⟩
  | accept {record : PersistedCanaryRun} {b : Books} {store : RunTable PersistedCanaryRun}
      (hstatus : record.status = .queued) (hclean : Clean record)
      (hcreate : createRun "" b.store record = .ok store) :
      Move cfg (some (record.probeId, .reserved)) (some (record.probeId, .accepted)) b
        ⟨store, b.issued⟩
  | acceptSync {record : PersistedCanaryRun} {b : Books} {store : RunTable PersistedCanaryRun}
      (hstatus : record.status = .running) (hclean : Clean record)
      (hcreate : createRun "" b.store record = .ok store) :
      Move cfg (some (record.probeId, .reserved)) (some (record.probeId, .syncRunning)) b
        ⟨store, b.issued⟩
  | enqueue (id : String) (b : Books) :
      Move cfg (some (id, .accepted)) (some (id, .queued)) b b
  | fetch (id : String) (b : Books) : Move cfg (some (id, .queued)) (some (id, .fetched)) b b
  | load {id : String} {record : PersistedCanaryRun} {b : Books}
      (hfind : b.store.find id = some record) :
      Move cfg (some (id, .fetched)) (some (id, .loaded record)) b b
  | markRunning {record : PersistedCanaryRun} {now : String} {b : Books}
      {store : RunTable PersistedCanaryRun}
      (hupdate : updateRun b.store (Manager.markRunning record now) = .ok store) :
      Move cfg (some (record.probeId, .loaded record)) (some (record.probeId, .running)) b
        ⟨store, b.issued⟩
  | reload {id : String} {record : PersistedCanaryRun} {b : Books}
      (hfind : b.store.find id = some record) :
      Move cfg (some (id, .running)) (some (id, .closing record)) b b
  | close {record : PersistedCanaryRun} {outcome : ProbeOutcome} {finishedAt : String} {b : Books}
      {store : RunTable PersistedCanaryRun}
      (hupdate : updateRun b.store (closeByWorker record outcome finishedAt) = .ok store) :
      Move cfg (some (record.probeId, .closing record)) none b ⟨store, b.issued⟩
  | closeSync {record : PersistedCanaryRun} {outcome : ProbeOutcome} {finishedAt : String}
      {b : Books} {store : RunTable PersistedCanaryRun} (hclean : Clean record)
      (hupdate : updateRun b.store (closeBySync record outcome finishedAt) = .ok store) :
      Move cfg (some (record.probeId, .syncRunning)) none b ⟨store, b.issued⟩
  | drop (t : Token) (b : Books) : Move cfg (some t) none b b
  | prune (t : Option Token) (b : Books) :
      Move cfg t t b ⟨pruneFinishedRuns cfg.order cfg.maxRuns b.store, b.issued⟩

def CallPc.entersStart : CallPc → Bool
  | .startEnter _ => true
  | _ => false

/-- The step is a `start` that finds no worker alive. -/
def restarts (s : State) : Label → Bool
  | .call i (.go _) => s.calls[i]?.any CallPc.entersStart && !s.alive
  | _ => false

inductive Change (cfg : Config) (s : State) (l : Label) (s' : State) : Prop where
  | move (t t' : Option Token) (rest : List Token) (hold : s.tokens.Perm (t.toList ++ rest))
      (hnew : s'.tokens.Perm (t'.toList ++ rest)) (hmove : Move cfg t t' s.books s'.books)
  | restart (now : String) (hrestarts : restarts s l = true)
      (hstore : s'.store = failStaleRuns staleReason now s.store) (hissued : s'.issued = s.issued)
      (htokens : s'.tokens.Perm s.threadTokens)
  | crash (hcrash : l = .crash) (hstore : s'.store = s.store) (hissued : s'.issued = s.issued)
      (htokens : s'.tokens = [])

/-! ### The steps are moves -/

section Steps

variable {cfg : Config} {s s₁ s' : State}

/-- What a step of a call does, seen from the tokens. -/
inductive CallMove (cfg : Config) (s : State) (pc : CallPc) (a : Answer) (s₁ : State)
    (pc' : CallPc) : Prop where
  | inside (hqueue : s₁.queue = s.queue)
      (hworkers :
        (s₁.workers.filterMap WorkerPc.token).Perm (s.workers.filterMap WorkerPc.token))
      (hmove : Move cfg pc.token pc'.token s.books s₁.books)
  | put (item : Option String) (hqueue : s₁.queue = s.queue ++ [item])
      (hworkers : s₁.workers = s.workers) (htoken : pc'.token = none)
      (hmove : Move cfg pc.token (queueToken item) s.books s₁.books)
  | restart (now : String) (after : After) (hpc : pc = .startEnter after) (ha : a = .go now)
      (halive : s.alive = false) (hs : s₁ = s.recover now) (htoken : pc'.token = none)

theorem clean_queuedRecord (request : CanaryProbeRequest) (prepared : PreparedProbe)
    (now : String) (queueDepth : ℕ) : Clean (queuedRecord request prepared now queueDepth) :=
  ⟨rfl, rfl, rfl⟩

theorem clean_syncRecord (request : CanaryProbeRequest) (prepared : PreparedProbe)
    (now : String) : Clean (syncRecord request prepared now) :=
  ⟨rfl, rfl, rfl⟩

@[simp] theorem After.next_token (after : After) : after.next.token = none := by
  cases after <;> rfl

/-- Starting a thread that was only created moves no token. -/
theorem filterMap_token_launch {tid : ℕ} (h : s.workers[tid]? = some .created) :
    ((s.workers.set tid .fetch).filterMap WorkerPc.token).Perm
      (s.workers.filterMap WorkerPc.token) := by
  exact .of_eq (filterMap_set_of_eq h rfl)

/-- A token can be given up at any time. -/
theorem Move.release (t : Option Token) (b : Books) : Move cfg t none b b := by
  cases t with
  | none => exact .keep _ _
  | some t => exact .drop t b

theorem callStep_move {pc pc' : CallPc} {a : Answer}
    (h : callStep cfg s pc a = some (s₁, pc')) :
    s₁.calls = s.calls ∧ CallMove cfg s pc a s₁ pc' := by
  cases callStep_cases h with
  | ends => exact ⟨rfl, .inside rfl .rfl (.release _ _)⟩
  | alive => exact ⟨rfl, .inside rfl .rfl (by rw [After.next_token]; exact .keep _ _)⟩
  | recover halive => exact ⟨rfl, .restart _ _ rfl rfl halive rfl rfl⟩
  | launch hcreated =>
    exact ⟨rfl, .inside rfl (filterMap_token_launch hcreated) (by rw [After.next_token]; exact .keep _ _)⟩
  | prepare hnew | prepareSync hnew => exact ⟨rfl, .inside rfl .rfl (.reserve hnew)⟩
  | create hcreate =>
    exact ⟨rfl, .inside rfl .rfl (.accept rfl (clean_queuedRecord _ _ _ _) hcreate)⟩
  | createSync hcreate =>
    exact ⟨rfl, .inside rfl .rfl (.acceptSync rfl (clean_syncRecord _ _ _) hcreate)⟩
  | closeSync hupdate =>
    exact ⟨rfl, .inside rfl .rfl (.closeSync (clean_syncRecord _ _ _) hupdate)⟩
  | prune | pruneSync => exact ⟨rfl, .inside rfl .rfl (.prune _ _)⟩
  | put => exact ⟨rfl, .put (some _) rfl rfl rfl (.enqueue _ _)⟩
  | putNone => exact ⟨rfl, .put none rfl rfl rfl (.keep _ _)⟩
  | depth | emit | initSync | emitSync | probeSync | emitFinal =>
    exact ⟨rfl, .inside rfl .rfl (.keep _ _)⟩
  | stop hpc' =>
    subst hpc'
    refine ⟨rfl, .inside rfl .rfl ?_⟩
    cases s.thread <;> exact .keep _ _

theorem callStep_booted {pc pc' : CallPc} {a : Answer}
    (h : callStep cfg s pc a = some (s₁, pc')) (hb : s.booted = true) : s₁.booted = true := by
  cases callStep_cases h with
  | alive | launch => rfl
  | _ => exact hb

inductive WorkerMove (cfg : Config) (s : State) (pc : WorkerPc) (s₁ : State) (pc' : WorkerPc) :
    Prop where
  | inside (hqueue : s₁.queue = s.queue) (hmove : Move cfg pc.token pc'.token s.books s₁.books)
  | get (item : Option String) (hqueue : s.queue = item :: s₁.queue) (htoken : pc.token = none)
      (hmove : Move cfg (queueToken item) pc'.token s.books s₁.books)

@[simp] theorem AfterTask.next_token (after : AfterTask) : after.next.token = none := by
  cases after <;> rfl

theorem workerStep_booted {tid : ℕ} {pc pc' : WorkerPc} {a : Answer}
    (h : workerStep cfg s tid pc a = some (s₁, pc')) : s₁.booted = s.booted := by
  cases workerStep_cases h <;> rfl

theorem WorkerPc.token_onRaise {pc pc' : WorkerPc} (h : pc.onRaise = some pc') : pc'.token = none := by
  cases pc <;> cases h <;> rfl

theorem workerStep_move {tid : ℕ} {pc pc' : WorkerPc} {a : Answer}
    (h : workerStep cfg s tid pc a = some (s₁, pc')) :
    s₁.calls = s.calls ∧ s₁.workers = s.workers ∧ WorkerMove cfg s pc s₁ pc' := by
  cases workerStep_cases h with
  | fetch hqueue => exact ⟨rfl, rfl, .get (some _) hqueue rfl (.fetch _ _)⟩
  | sentinel hqueue => exact ⟨rfl, rfl, .get none hqueue rfl (.keep _ _)⟩
  | checkStop hpc' =>
    subst hpc'
    refine ⟨rfl, rfl, .inside rfl ?_⟩
    cases s.stopEvent <;> exact .keep _ _
  | load hfind =>
    obtain rfl := KeyedTable.key_of_find hfind
    exact ⟨rfl, rfl, .inside rfl (.load hfind)⟩
  | reload hfind =>
    obtain rfl := KeyedTable.key_of_find hfind
    exact ⟨rfl, rfl, .inside rfl (.reload hfind)⟩
  | mark hupdate => exact ⟨rfl, rfl, .inside rfl (.markRunning hupdate)⟩
  | close hupdate => exact ⟨rfl, rfl, .inside rfl (.close hupdate)⟩
  | prune => exact ⟨rfl, rfl, .inside rfl (.prune _ _)⟩
  | empty | emit | execute | probed | emitFinal => exact ⟨rfl, rfl, .inside rfl (.keep _ _)⟩
  | taskDone => exact ⟨rfl, rfl, .inside rfl (by rw [AfterTask.next_token]; exact .keep _ _)⟩
  | missing | unmarked | unclosed | untasked => exact ⟨rfl, rfl, .inside rfl (.release _ _)⟩
  | raises hraise => exact ⟨rfl, rfl, .inside rfl (by rw [WorkerPc.token_onRaise hraise]; exact .release _ _)⟩

section Focus

variable {α : Type} {calls workers rest t : List α}

/-- Bring the token of a call to the front. -/
theorem perm_focus_call (queue workers : List α) (h : calls.Perm (t ++ rest)) :
    (queue ++ (calls ++ workers)).Perm (t ++ (queue ++ (rest ++ workers))) := by
  apply ((h.append_right workers).append_left queue).trans
  rw [List.append_assoc]
  exact List.perm_append_comm_assoc queue t _

/-- Bring the token of a worker to the front. -/
theorem perm_focus_worker (queue calls : List α) (h : workers.Perm (t ++ rest)) :
    (queue ++ (calls ++ workers)).Perm (t ++ (queue ++ (calls ++ rest))) := by
  apply ((h.append_left calls).append_left queue).trans
  apply ((List.perm_append_comm_assoc calls t rest).append_left queue).trans
  exact List.perm_append_comm_assoc queue t _

end Focus

theorem filterMap_queueToken_cons (item : Option String) (queue : List (Option String)) :
    (item :: queue).filterMap queueToken =
      (queueToken item).toList ++ queue.filterMap queueToken := by
  cases item <;> rfl

theorem step_call_change {i : ℕ} {a : Answer} (h : step cfg s (.call i a) = some s') :
    Change cfg s (.call i a) s' := by
  obtain ⟨pc, hpc, hmap⟩ := Option.bind_eq_some_iff.mp h
  obtain ⟨⟨s₁, pc'⟩, hstep, rfl⟩ := Option.map_eq_some_iff.mp hmap
  obtain ⟨hcalls, hmove⟩ := callStep_move hstep
  obtain ⟨rest, hold, hnew⟩ := filterMap_set_perm (f := CallPc.token) hpc
  cases hmove with
  | inside hqueue hworkers hmove =>
    refine .move _ _ _ (perm_focus_call _ _ hold) ?_ hmove
    simp only [State.tokens, State.threadTokens, hqueue, hcalls]
    apply ((hworkers.append_left _).append_left _).trans
    exact perm_focus_call _ _ (hnew pc')
  | put item hqueue hworkers htoken hmove =>
    refine .move _ _ _ (perm_focus_call _ _ hold) ?_ hmove
    have hrest := hnew pc'
    rw [htoken] at hrest
    simp only [State.tokens, State.threadTokens, hqueue, hcalls, hworkers, List.filterMap_append,
      filterMap_queueToken_cons, List.filterMap_nil, List.append_nil, List.append_assoc]
    apply (List.perm_append_comm_assoc _ _ _).trans
    exact ((hrest.append_right _).append_left _).append_left _
  | restart now after hpc' ha halive hs htoken =>
    subst hpc' ha hs
    refine .restart now (by simp [restarts, hpc, CallPc.entersStart, halive]) rfl rfl ?_
    have hrest := hnew pc'
    rw [htoken] at hrest
    simp only [State.tokens, State.threadTokens, State.recover, List.filterMap_nil, List.nil_append,
      List.filterMap_append, List.filterMap_cons, WorkerPc.token, List.append_nil]
    exact (hrest.trans hold.symm).append_right _

theorem step_worker_change {tid : ℕ} {a : Answer} (h : step cfg s (.worker tid a) = some s') :
    Change cfg s (.worker tid a) s' := by
  obtain ⟨pc, hpc, hmap⟩ := Option.bind_eq_some_iff.mp h
  obtain ⟨⟨s₁, pc'⟩, hstep, rfl⟩ := Option.map_eq_some_iff.mp hmap
  obtain ⟨hcalls, hworkers, hmove⟩ := workerStep_move hstep
  obtain ⟨rest, hold, hnew⟩ := filterMap_set_perm (f := WorkerPc.token) hpc
  cases hmove with
  | inside hqueue hmove =>
    refine .move _ _ _ (perm_focus_worker _ _ hold) ?_ hmove
    simp only [State.tokens, State.threadTokens, hqueue, hcalls, hworkers]
    exact perm_focus_worker _ _ (hnew pc')
  | get item hqueue htoken hmove =>
    rw [htoken] at hold
    refine .move _ _ (s₁.queue.filterMap queueToken ++ (s.calls.filterMap CallPc.token ++ rest))
      ?_ ?_ hmove
    · simp only [State.tokens, State.threadTokens, hqueue, filterMap_queueToken_cons,
        List.append_assoc]
      exact ((hold.append_left _).append_left _).append_left _
    · simp only [State.tokens, State.threadTokens, hcalls, hworkers]
      exact perm_focus_worker _ _ (hnew pc')

/-- Every step is one of the changes. -/
theorem step_change {l : Label} (h : step cfg s l = some s') : Change cfg s l s' := by
  cases l with
  | invoke call =>
    obtain rfl := by simpa [step] using h
    have htoken : call.entry.token = none := by cases call <;> rfl
    refine .move none none s.tokens .rfl ?_ (.keep _ _)
    simp [State.tokens, State.threadTokens, htoken]
  | call i a => exact step_call_change h
  | worker tid a => exact step_worker_change h
  | crash =>
    obtain rfl := by simpa [step] using h
    exact .crash rfl rfl rfl rfl

end Steps

/-! ### Invariants between phases and rows -/

/-- A relation between the phase of a token and the row of its run that the moves keep. -/
structure PhaseInvariant (M : Phase → Option PersistedCanaryRun → Prop) : Prop where
  reserve : M .reserved none
  accept : ∀ record, record.status = .queued → Clean record → M .accepted (some record)
  acceptSync : ∀ record, record.status = .running → Clean record → M .syncRunning (some record)
  enqueue : ∀ row, M .accepted row → M .queued row
  fetch : ∀ row, M .queued row → M .fetched row
  load : ∀ record, M .fetched (some record) → M (.loaded record) (some record)
  markRunning : ∀ record now row, M (.loaded record) row →
    M .running (some (markRunning record now))
  reload : ∀ record, M .running (some record) → M (.closing record) (some record)
  prune : ∀ φ record, record.status.isFinal = true → M φ (some record) → M φ none

def recovered (now : String) (record : PersistedCanaryRun) : PersistedCanaryRun :=
  if isFinished record then record else RunRow.markStale staleReason now record

theorem find_recovered {now id : String} {store : RunTable PersistedCanaryRun} :
    (failStaleRuns staleReason now store).find id = (store.find id).map (recovered now) :=
  find_failStaleRuns

theorem recovered_of_final {now : String} {record : PersistedCanaryRun}
    (h : record.status.isFinal = true) : recovered now record = record := if_pos h

theorem recovered_of_open {now : String} {record : PersistedCanaryRun}
    (h : record.status.isFinal = false) :
    recovered now record = RunRow.markStale staleReason now record :=
  if_neg (by rw [isFinished]; exact ne_true_of_eq_false h)

theorem recovered_isFinal (now : String) (record : PersistedCanaryRun) :
    (recovered now record).status.isFinal = true := by
  cases h : record.status.isFinal with
  | true => rw [recovered_of_final h]; exact h
  | false => rw [recovered_of_open h]; rfl

/-- The recovery of stale runs does not disturb a holder in this phase. -/
def Undisturbed (M : Phase → Option PersistedCanaryRun → Prop) (φ : Phase) : Prop :=
  ∀ now row, M φ row → M φ (row.map (recovered now))

/-- Every unsettled run has one holder, and its row fits the holder's phase. -/
structure Held (M : Phase → Option PersistedCanaryRun → Prop) (s : State) : Prop where
  distinct : (s.tokens.map Prod.fst).Nodup
  tokens_issued : ∀ t ∈ s.tokens, t.1 ∈ s.issued
  rows_issued : ∀ id record, s.store.find id = some record → id ∈ s.issued
  fits : ∀ t ∈ s.tokens, M t.2 (s.store.find t.1)

section Held

variable {cfg : Config} {M : Phase → Option PersistedCanaryRun → Prop} {t t' : Option Token}
  {b b' : Books} {s s' : State} {l : Label}

theorem find_of_updateRun {store store' : RunTable PersistedCanaryRun}
    {record : PersistedCanaryRun} {id : String} (h : updateRun store record = .ok store')
    (hid : record.probeId = id) : store'.find id = some record := by
  subst hid
  exact updateRun_self h

/-- A move leaves the run of another token alone, or prunes it once it is finished. -/
theorem Move.find_other (h : Move cfg t t' b b') {id : String} (hid : ∀ tok ∈ t, tok.1 ≠ id) :
    b'.store.find id = b.store.find id ∨
      ∃ record, b.store.find id = some record ∧ record.status.isFinal = true ∧
        b'.store.find id = none := by
  cases h with
  | keep | reserve | enqueue | fetch | load | reload | drop => exact .inl rfl
  | accept _ _ hcreate | acceptSync _ _ hcreate =>
    have hne := hid _ rfl
    exact .inl (((createRun_ok hcreate).2 id).trans (if_neg hne.symm))
  | markRunning hupdate =>
    have hne := hid _ rfl
    exact .inl (((updateRun_ok hupdate).2 id).trans (if_neg hne.symm))
  | close hupdate | closeSync _ hupdate =>
    have hne := hid _ rfl
    refine .inl (((updateRun_ok hupdate).2 id).trans (if_neg fun heq => hne ?_))
    exact (heq.trans (markOutcome_probeId _ _ _ _)).symm
  | prune =>
    cases hrow : b.store.find id with
    | none => exact .inl (find_pruneFinishedRuns_none hrow)
    | some record =>
      rcases find_pruneFinishedRuns cfg.order cfg.maxRuns hrow with
        hsame | ⟨hfinal, hnone⟩
      · exact .inl hsame
      · exact .inr ⟨record, rfl, hfinal, hnone⟩

/-- The row of the moved token fits its new phase. -/
theorem Move.fits (hM : PhaseInvariant M) (h : Move cfg t t' b b')
    (hrows : ∀ id record, b.store.find id = some record → id ∈ b.issued)
    (hfits : ∀ tok ∈ t, M tok.2 (b.store.find tok.1)) :
    ∀ tok ∈ t', M tok.2 (b'.store.find tok.1) := by
  rintro ⟨id, φ⟩ rfl
  cases h with
  | keep => exact hfits _ rfl
  | reserve hnew =>
    have hnone : b.store.find id = none := by
      cases hrow : b.store.find id with
      | none => rfl
      | some record => exact absurd (hrows id record hrow) hnew
    rw [hnone]
    exact hM.reserve
  | @accept record _ store hstatus hclean hcreate =>
    have hself : store.find record.probeId = some record := createRun_self hcreate
    change M .accepted (store.find record.probeId)
    rw [hself]
    exact hM.accept _ hstatus hclean
  | @acceptSync record _ store hstatus hclean hcreate =>
    have hself : store.find record.probeId = some record := createRun_self hcreate
    change M .syncRunning (store.find record.probeId)
    rw [hself]
    exact hM.acceptSync _ hstatus hclean
  | enqueue => exact hM.enqueue _ (hfits _ rfl)
  | fetch => exact hM.fetch _ (hfits _ rfl)
  | load hfind =>
    have hold := hfits _ rfl
    rw [hfind] at hold ⊢
    exact hM.load _ hold
  | @markRunning record now _ store hupdate =>
    have hold := hfits _ rfl
    have hself : store.find record.probeId = some (Manager.markRunning record now) :=
      find_of_updateRun hupdate rfl
    change M .running (store.find record.probeId)
    rw [hself]
    exact hM.markRunning _ _ _ hold
  | reload hfind =>
    have hold := hfits _ rfl
    rw [hfind] at hold ⊢
    exact hM.reload _ hold
  | prune =>
    have hold := hfits _ rfl
    cases hrow : b.store.find id with
    | none =>
      rw [find_pruneFinishedRuns_none hrow]
      rwa [hrow] at hold
    | some record =>
      rw [hrow] at hold
      rcases find_pruneFinishedRuns cfg.order cfg.maxRuns hrow with
        hsame | ⟨hfinal, hnone⟩
      · rw [hsame]; exact hold
      · rw [hnone]; exact hM.prune _ _ hfinal hold

/-- A move keeps the id of its token or lets it go, unless it gives out a new one. -/
theorem Move.ids (h : Move cfg t t' b b') :
    b'.issued = b.issued ∧ (t' = none ∨ t'.map Prod.fst = t.map Prod.fst) ∨
      t = none ∧ ∃ id, id ∉ b.issued ∧ t' = some (id, .reserved) ∧ b'.issued = id :: b.issued := by
  cases h with
  | reserve hnew => exact .inr ⟨rfl, _, hnew, rfl, rfl⟩
  | close | closeSync | drop => exact .inl ⟨rfl, .inl rfl⟩
  | _ => exact .inl ⟨rfl, .inr rfl⟩

theorem Held.of_move (hM : PhaseInvariant M) (h : Held M s) {rest : List Token}
    (hold : s.tokens.Perm (t.toList ++ rest)) (hnew : s'.tokens.Perm (t'.toList ++ rest))
    (hmove : Move cfg t t' s.books s'.books) : Held M s' := by
  have hdistinct : ((t.toList ++ rest).map Prod.fst).Nodup := (hold.map _).nodup_iff.mp h.distinct
  have hmem : ∀ tok ∈ t.toList ++ rest, tok ∈ s.tokens := fun tok htok => hold.mem_iff.mpr htok
  have hrest : ∀ tok ∈ rest, tok ∈ s.tokens := fun tok htok =>
    hmem tok (List.mem_append_right _ htok)
  have hown : ∀ tok ∈ t, tok ∈ s.tokens := fun tok htok =>
    hmem tok (List.mem_append_left _ (Option.mem_toList.mpr htok))
  -- the id in hand is not held by anyone else
  have hother : ∀ tok ∈ rest, ∀ tok₀ ∈ t, tok₀.1 ≠ tok.1 := by
    rintro tok htok tok₀ rfl heq
    simp only [Option.toList_some, List.singleton_append, List.map_cons, List.nodup_cons] at hdistinct
    exact hdistinct.1 (heq ▸ List.mem_map_of_mem htok)
  have hgrow : ∀ id ∈ s.issued, id ∈ s'.issued := by
    intro id hid
    rcases hmove.ids with ⟨hsame, -⟩ | ⟨-, id', -, -, hcons⟩
    · exact (show s'.issued = s.issued from hsame) ▸ hid
    · exact (show s'.issued = id' :: s.issued from hcons) ▸ List.mem_cons_of_mem _ hid
  constructor
  · apply (hnew.map _).nodup_iff.mpr
    rcases hmove.ids with ⟨-, rfl | hsame⟩ | ⟨rfl, id, hid, rfl, -⟩
    · exact hdistinct.sublist ((List.sublist_append_right _ _).map _)
    · have hids : t'.toList.map Prod.fst = t.toList.map Prod.fst := by
        rw [← Option.toList_map, ← Option.toList_map, hsame]
      rw [List.map_append, hids, ← List.map_append]
      exact hdistinct
    · apply List.nodup_cons.mpr ⟨fun hin => ?_, hdistinct⟩
      obtain ⟨tok, htok, heq⟩ := List.mem_map.mp hin
      have hissued := h.tokens_issued tok (hrest tok (by simpa using htok))
      have hsame : tok.1 = id := heq
      rw [hsame] at hissued
      exact hid hissued
  · intro tok htok
    rcases List.mem_append.mp (hnew.mem_iff.mp htok) with htok | htok
    · rcases hmove.ids with ⟨-, rfl | hsame⟩ | ⟨-, id, -, rfl, hcons⟩
      · simp at htok
      · have hmap : tok.1 ∈ t.map Prod.fst := by
          rw [← hsame]
          exact Option.mem_map_of_mem _ (Option.mem_toList.mp htok)
        obtain ⟨tok₀, htok₀, heq⟩ := Option.mem_map.mp hmap
        exact hgrow _ (heq ▸ h.tokens_issued tok₀ (hown tok₀ htok₀))
      · obtain rfl : tok = (id, .reserved) := by simpa using htok
        exact (show s'.issued = id :: s.issued from hcons) ▸ List.mem_cons_self
    · exact hgrow _ (h.tokens_issued tok (hrest tok htok))
  · intro id record hrow
    by_cases hin : ∃ tok ∈ t, tok.1 = id
    · obtain ⟨tok, htok, rfl⟩ := hin
      exact hgrow _ (h.tokens_issued tok (hown tok htok))
    · have hne : ∀ tok ∈ t, tok.1 ≠ id := fun tok htok heq => hin ⟨tok, htok, heq⟩
      rcases hmove.find_other hne with hsame | ⟨_, -, -, hnone⟩
      · exact hgrow _ (h.rows_issued id record (hsame ▸ hrow))
      · cases hnone.symm.trans hrow
  · intro tok htok
    rcases List.mem_append.mp (hnew.mem_iff.mp htok) with htok | htok
    · exact hmove.fits hM h.rows_issued (fun tok₀ htok₀ => h.fits tok₀ (hown tok₀ htok₀)) tok
        (Option.mem_toList.mp htok)
    · have hfit := h.fits tok (hrest tok htok)
      rcases hmove.find_other (hother tok htok) with hsame | ⟨record, hrow, hfinal, hnone⟩
      · exact (show s'.store.find tok.1 = s.store.find tok.1 from hsame) ▸ hfit
      · rw [show s.store.find tok.1 = some record from hrow] at hfit
        rw [show s'.store.find tok.1 = none from hnone]
        exact hM.prune _ _ hfinal hfit

theorem Held.of_idle (hnone : s.tokens = [])
    (hrows : ∀ id record, s.store.find id = some record → id ∈ s.issued) : Held M s := by
  constructor
  · rw [hnone]; exact List.nodup_nil
  · intro tok htok; rw [hnone] at htok; cases htok
  · exact hrows
  · intro tok htok; rw [hnone] at htok; cases htok

/-- An invariant between phases and rows survives every step, if the recovery of
stale runs disturbs no call or worker that has a run in hand. -/
theorem Held.of_step (hM : PhaseInvariant M) (h : Held M s) (hstep : step cfg s l = some s')
    (hquiet : restarts s l = true → ∀ t ∈ s.threadTokens, Undisturbed M t.2) : Held M s' := by
  rcases step_change hstep with ⟨t, t', rest, hold, hnew, hmove⟩ |
    ⟨now, hrestarts, hstore, hissued, htokens⟩ | ⟨-, hstore, hissued, htokens⟩
  · exact h.of_move hM hold hnew hmove
  · have hsub : s.threadTokens.Sublist s.tokens := List.sublist_append_right _ _
    have hfind : ∀ id, s'.store.find id = (s.store.find id).map (recovered now) := by
      intro id
      rw [hstore, find_recovered]
    constructor
    · exact (htokens.map _).nodup_iff.mpr (h.distinct.sublist (hsub.map _))
    · intro tok htok
      rw [hissued]
      exact h.tokens_issued tok (hsub.subset (htokens.mem_iff.mp htok))
    · intro id record hrow
      rw [hissued]
      rw [hfind] at hrow
      obtain ⟨record₀, hrow₀, -⟩ := Option.map_eq_some_iff.mp hrow
      exact h.rows_issued id record₀ hrow₀
    · intro tok htok
      have htok := htokens.mem_iff.mp htok
      rw [hfind]
      exact hquiet hrestarts tok htok now _ (h.fits tok (hsub.subset htok))
  · exact .of_idle htokens (by rw [hissued, hstore]; exact h.rows_issued)

/-- A new process holds nothing. -/
theorem Held.fresh {store : RunTable PersistedCanaryRun} {issued : List String}
    (hissued : ∀ id record, store.find id = some record → id ∈ issued) :
    Held M (State.fresh store issued) :=
  .of_idle rfl hissued

end Held

end OvnApi.Manager
