import OvnApi.Manager.Lifecycle

/-! Finality of runs. A run moves from queued over running to one of the final
statuses and then stays as it is until it is pruned. This holds as long as no
`start` recovers stale runs while a call or a worker still has one in hand; such
a restart marks a living run as failed, and its holder then overwrites it. -/

namespace OvnApi.Manager

open OvnApi.Core Lib Traces Store

def rank : RunStatus → ℕ
  | .queued => 0
  | .running => 1
  | _ => 2

/-- `record'` is the same run at the same point or further on. -/
structure Onward (record record' : PersistedCanaryRun) : Prop where
  forward : rank record.status ≤ rank record'.status
  settled : record.status.isFinal = true →
    record'.status = record.status ∧ record'.result = record.result ∧
      record'.error = record.error ∧ record'.finishedAt = record.finishedAt

theorem Onward.refl (record : PersistedCanaryRun) : Onward record record :=
  ⟨le_rfl, fun _ => ⟨rfl, rfl, rfl, rfl⟩⟩

theorem rank_le_of_isFinal (status : RunStatus) {status' : RunStatus}
    (h : status'.isFinal = true) : rank status ≤ rank status' := by
  have hle : rank status ≤ 2 := by cases status <;> decide
  cases status' with
  | queued | running => cases h
  | _ => exact hle

theorem Onward.trans {r₁ r₂ r₃ : PersistedCanaryRun} (h : Onward r₁ r₂) (h' : Onward r₂ r₃) :
    Onward r₁ r₃ := by
  refine ⟨h.forward.trans h'.forward, fun hfinal => ?_⟩
  obtain ⟨hs, hr, he, hf⟩ := h.settled hfinal
  obtain ⟨hs', hr', he', hf'⟩ := h'.settled (hs ▸ hfinal)
  exact ⟨hs'.trans hs, hr'.trans hr, he'.trans he, hf'.trans hf⟩

/-- An unfinished run may be given any later status. -/
theorem Onward.of_rank_le {record record' : PersistedCanaryRun}
    (hopen : record.status.isFinal = false) (h : rank record.status ≤ rank record'.status) :
    Onward record record' :=
  ⟨h, fun hfinal => by rw [hopen] at hfinal; cases hfinal⟩

structure Forward (s s' : State) : Prop where
  moves : ∀ id record, s.store.find id = some record →
    (∃ record', s'.store.find id = some record' ∧ Onward record record') ∨
      record.status.isFinal = true ∧ s'.store.find id = none
  creates : ∀ id record', s.store.find id = none → s'.store.find id = some record' →
    Clean record' ∧ (record'.status = .queued ∨ record'.status = .running)

/-! ### The holder of a run knows its status -/

def Phase.status : Phase → Option RunStatus
  | .reserved => none
  | .accepted | .queued | .fetched | .loaded _ => some .queued
  | .running | .closing _ | .syncRunning => some .running

/-- The row has the status its holder left it in. -/
def InStep (φ : Phase) (row : Option PersistedCanaryRun) : Prop :=
  row.map PersistedCanaryRun.status = φ.status

theorem InStep.not_final {φ : Phase} {record : PersistedCanaryRun} (h : InStep φ (some record)) :
    record.status.isFinal = false := by
  have h : some record.status = φ.status := h
  cases φ <;> simp_all [Phase.status, RunStatus.isFinal]

theorem inStep_invariant : PhaseInvariant InStep where
  reserve := rfl
  accept _ hstatus _ := congrArg some hstatus
  acceptSync _ hstatus _ := congrArg some hstatus
  enqueue _ h := h
  fetch _ h := h
  load _ h := h
  markRunning _ _ _ _ := rfl
  reload _ h := h
  prune _ _ hfinal h := by
    rw [h.not_final] at hfinal
    cases hfinal

def Phase.isReserved : Phase → Bool
  | .reserved => true
  | _ => false

/-- If the step is a `start` that finds no worker alive, then no call and no worker
has a run in hand whose row is created and not yet closed: no `submit` stands
between `create_run` and its put, no `run_sync` between `create_run` and its last
`update_run`, and no worker between taking an id off the queue and closing it. -/
def QuietRestart (s : State) (l : Label) : Prop :=
  restarts s l = true → ∀ t ∈ s.threadTokens, t.2.isReserved = true

instance (s : State) (l : Label) : Decidable (QuietRestart s l) :=
  inferInstanceAs (Decidable (_ → _))

theorem undisturbed_reserved {φ : Phase} (h : φ.isReserved = true) : Undisturbed InStep φ := by
  cases φ with
  | reserved =>
    intro now row hrow
    have hnone : row = none := Option.map_eq_none_iff.mp hrow
    rw [hnone]
    rfl
  | _ => cases h

section Steps

variable {cfg : Config} {s s' : State} {l : Label}

theorem held_step (h : Held InStep s) (hquiet : QuietRestart s l)
    (hstep : step cfg s l = some s') : Held InStep s' :=
  h.of_step inStep_invariant hstep fun hr t ht => undisturbed_reserved (hquiet hr t ht)

/-- A move of a token whose row is in step writes nothing over a finished run. -/
theorem Move.moves {t t' : Option Token} {b b' : Books} (h : Move cfg t t' b b')
    (hfits : ∀ tok ∈ t, InStep tok.2 (b.store.find tok.1)) {id : String}
    {record : PersistedCanaryRun} (hrow : b.store.find id = some record) :
    (∃ record', b'.store.find id = some record' ∧ Onward record record') ∨
      record.status.isFinal = true ∧ b'.store.find id = none := by
  by_cases hin : ∃ tok ∈ t, tok.1 = id
  · obtain ⟨tok, htok, rfl⟩ := hin
    have hfit := hfits tok htok
    rw [hrow] at hfit
    have hopen := hfit.not_final
    cases h with
    | keep | enqueue | fetch | load | reload | drop =>
      exact .inl ⟨record, hrow, .refl record⟩
    | reserve => cases htok
    | accept _ _ hcreate | acceptSync _ _ hcreate =>
      cases htok
      exact absurd (hrow.symm.trans (createRun_ok hcreate).1) (by simp)
    | markRunning hupdate =>
      cases htok
      have hqueued : record.status = .queued := by simpa [InStep, Phase.status] using hfit
      have hle : rank record.status ≤ rank .running := by rw [hqueued]; decide
      exact .inl ⟨_, find_of_updateRun hupdate rfl, .of_rank_le hopen hle⟩
    | close hupdate | closeSync _ hupdate =>
      cases htok
      refine .inl ⟨_, find_of_updateRun hupdate (markOutcome_probeId _ _ _ _), ?_⟩
      exact .of_rank_le hopen (rank_le_of_isFinal _ (markOutcome_isFinal _ _ _ _))
    | prune =>
      rcases find_pruneFinishedRuns cfg.order cfg.maxRuns hrow with
        hsame | hpruned
      · exact .inl ⟨record, hsame, .refl record⟩
      · exact .inr hpruned
  · have hother : ∀ tok ∈ t, tok.1 ≠ id := fun tok htok heq => hin ⟨tok, htok, heq⟩
    rcases h.find_other hother with hsame | ⟨record', hrow', hfinal, hnone⟩
    · exact .inl ⟨record, hsame.trans hrow, .refl record⟩
    · obtain rfl : record' = record := Option.some.inj (hrow'.symm.trans hrow)
      exact .inr ⟨hfinal, hnone⟩

/-- A move creates a run as queued or running, with nothing recorded. -/
theorem Move.creates {t t' : Option Token} {b b' : Books} (h : Move cfg t t' b b') {id : String}
    {record' : PersistedCanaryRun} (hnone : b.store.find id = none)
    (hrow : b'.store.find id = some record') :
    Clean record' ∧ (record'.status = .queued ∨ record'.status = .running) := by
  cases h with
  | keep | reserve | enqueue | fetch | load | reload | drop => cases hnone.symm.trans hrow
  | accept hstatus hclean hcreate =>
    rw [(createRun_ok hcreate).2] at hrow
    split at hrow
    · cases hrow; exact ⟨hclean, .inl hstatus⟩
    · cases hnone.symm.trans hrow
  | acceptSync hstatus hclean hcreate =>
    rw [(createRun_ok hcreate).2] at hrow
    split at hrow
    · cases hrow; exact ⟨hclean, .inr hstatus⟩
    · cases hnone.symm.trans hrow
  | markRunning hupdate | close hupdate | closeSync _ hupdate =>
    obtain ⟨hsome, hfind⟩ := updateRun_ok hupdate
    rw [hfind] at hrow
    split at hrow
    next heq => rw [← heq, hnone] at hsome; cases hsome
    next => cases hnone.symm.trans hrow
  | prune => cases (find_pruneFinishedRuns_none hnone).symm.trans hrow

theorem step_forward (h : Held InStep s) (hstep : step cfg s l = some s') : Forward s s' := by
  rcases step_change hstep with ⟨t, t', rest, hold, hnew, hmove⟩ |
    ⟨now, -, hstore, -, -⟩ | ⟨-, hstore, -, -⟩
  · constructor
    · intro id record hrow
      refine hmove.moves (fun tok htok => h.fits tok ?_) hrow
      exact hold.mem_iff.mpr (List.mem_append_left _ (Option.mem_toList.mpr htok))
    · intro id record' hnone hrow
      exact hmove.creates hnone hrow
  · constructor
    · intro id record hrow
      rw [hstore, find_recovered, hrow]
      refine .inl ⟨_, rfl, ?_⟩
      cases hfinal : record.status.isFinal with
      | true => rw [recovered_of_final hfinal]; exact .refl record
      | false => exact .of_rank_le hfinal (rank_le_of_isFinal _ (recovered_isFinal now record))
    · intro id record' hnone hrow
      rw [hstore, find_recovered, hnone] at hrow
      cases hrow
  · constructor
    · intro id record hrow
      rw [hstore]
      exact .inl ⟨record, hrow, .refl record⟩
    · intro id record' hnone hrow
      rw [hstore, hnone] at hrow
      cases hrow

/-- The id is spent and no thread or queue entry holds it. -/
def Unheld (s : State) (id : String) : Prop :=
  id ∈ s.issued ∧ ∀ t ∈ s.tokens, t.1 ≠ id

theorem Unheld.of_step {id : String} (h : Unheld s id) (hstep : step cfg s l = some s') :
    Unheld s' id := by
  obtain ⟨hissued, hheld⟩ := h
  rcases step_change hstep with ⟨t, t', rest, hold, hnew, hmove⟩ |
    ⟨now, -, -, hsame, htokens⟩ | ⟨-, -, hsame, htokens⟩
  · have hrest : ∀ tok ∈ rest, tok.1 ≠ id := fun tok htok =>
      hheld tok (hold.mem_iff.mpr (List.mem_append_right _ htok))
    have hown : ∀ tok ∈ t, tok.1 ≠ id := fun tok htok =>
      hheld tok (hold.mem_iff.mpr (List.mem_append_left _ (Option.mem_toList.mpr htok)))
    rcases hmove.ids with ⟨hsame, hids⟩ | ⟨-, new, hfresh, rfl, hcons⟩
    · refine ⟨(show s'.issued = s.issued from hsame) ▸ hissued, fun tok htok => ?_⟩
      rcases List.mem_append.mp (hnew.mem_iff.mp htok) with htok | htok
      · rcases hids with rfl | hids
        · cases htok
        · have hmap : tok.1 ∈ t.map Prod.fst :=
            hids ▸ Option.mem_map_of_mem _ (Option.mem_toList.mp htok)
          obtain ⟨tok₀, htok₀, heq⟩ := Option.mem_map.mp hmap
          exact heq ▸ hown tok₀ htok₀
      · exact hrest tok htok
    · have hcons : s'.issued = new :: s.issued := hcons
      refine ⟨hcons ▸ List.mem_cons_of_mem _ hissued, fun tok htok heq => ?_⟩
      rcases List.mem_append.mp (hnew.mem_iff.mp htok) with htok | htok
      · obtain rfl : tok = (new, .reserved) := by simpa using htok
        have hsame : new = id := heq
        exact hfresh (hsame ▸ hissued)
      · exact hrest tok htok heq
  · refine ⟨hsame ▸ hissued, fun tok htok => ?_⟩
    exact hheld tok (List.mem_append_right _ (htokens.mem_iff.mp htok))
  · refine ⟨hsame ▸ hissued, fun tok htok => ?_⟩
    rw [htokens] at htok
    cases htok

/-- A step creates no row for an id that nobody holds. -/
theorem Unheld.find_none {id : String} (h : Unheld s id) (hnone : s.store.find id = none)
    (hstep : step cfg s l = some s') : s'.store.find id = none := by
  rcases step_change hstep with ⟨t, t', rest, hold, -, hmove⟩ |
    ⟨now, -, hstore, -, -⟩ | ⟨-, hstore, -, -⟩
  · have hown : ∀ tok ∈ t, tok.1 ≠ id := fun tok htok =>
      h.2 tok (hold.mem_iff.mpr (List.mem_append_left _ (Option.mem_toList.mpr htok)))
    rcases hmove.find_other hown with hsame | ⟨_, -, -, hnone'⟩
    · exact hsame.trans hnone
    · exact hnone'
  · rw [hstore, find_recovered, hnone]; rfl
  · rw [hstore, hnone]

/-- Nobody holds a finished run. -/
theorem Held.unheld (h : Held InStep s) {id : String} {record : PersistedCanaryRun}
    (hrow : s.store.find id = some record) (hfinal : record.status.isFinal = true) :
    Unheld s id := by
  refine ⟨h.rows_issued id record hrow, fun tok htok heq => ?_⟩
  have hfit := h.fits tok htok
  rw [heq, hrow] at hfit
  rw [hfit.not_final] at hfinal
  cases hfinal

end Steps

section Runs

variable {cfg : Config} {s s' : State} {id : String} {record : PersistedCanaryRun}

/-- Along a quiet run a stored run goes onward, or is pruned for good. -/
theorem onward_of_reach (h : Held InStep s) (hrow : s.store.find id = some record)
    (hreach : Reach (step cfg) QuietRestart s s') :
    Held InStep s' ∧ ((∃ record', s'.store.find id = some record' ∧ Onward record record') ∨
      s'.store.find id = none ∧ Unheld s' id) := by
  induction hreach with
  | start => exact ⟨h, .inl ⟨record, hrow, .refl record⟩⟩
  | next _ hquiet hstep ih =>
    obtain ⟨hheld, hrun⟩ := ih
    have hheld' := held_step hheld hquiet hstep
    refine ⟨hheld', ?_⟩
    rcases hrun with ⟨record₁, hrow₁, honward⟩ | ⟨hnone, hunheld⟩
    · rcases (step_forward hheld hstep).moves id record₁ hrow₁ with
        ⟨record₂, hrow₂, honward₂⟩ | ⟨hfinal, hnone⟩
      · exact .inl ⟨record₂, hrow₂, honward.trans honward₂⟩
      · exact .inr ⟨hnone, (hheld.unheld hrow₁ hfinal).of_step hstep⟩
    · exact .inr ⟨hunheld.find_none hnone hstep, hunheld.of_step hstep⟩

theorem held_of_reach {store : RunTable PersistedCanaryRun} {issued : List String}
    (hissued : ∀ id record, store.find id = some record → id ∈ issued)
    (h : Reach (step cfg) QuietRestart (State.fresh store issued) s) : Held InStep s :=
  Reach.invariant (Held.fresh hissued) (fun _ _ _ hs hquiet hstep => held_step hs hquiet hstep) h

/-- In every run of one process, over any stored content, in which every restart
is quiet: each step moves the stored runs forward, and a finished run stays as it
is in every later state until it is pruned, after which its row does not return. -/
theorem runs_are_final (cfg : Config) (store : RunTable PersistedCanaryRun) (issued : List String)
    (hissued : ∀ id record, store.find id = some record → id ∈ issued) (s : State)
    (hs : Reach (step cfg) QuietRestart (State.fresh store issued) s) :
    (∀ l s', QuietRestart s l → step cfg s l = some s' → Forward s s') ∧
    ∀ s', Reach (step cfg) QuietRestart s s' → ∀ id record, s.store.find id = some record →
      (∃ record', s'.store.find id = some record' ∧ Onward record record') ∨
        s'.store.find id = none ∧
          ∀ s'', Reach (step cfg) QuietRestart s' s'' → s''.store.find id = none := by
  have hheld := held_of_reach hissued hs
  refine ⟨fun l s' _ hstep => step_forward hheld hstep, fun s' hs' id record hrow => ?_⟩
  obtain ⟨-, honward | ⟨hnone, hunheld⟩⟩ := onward_of_reach hheld hrow hs'
  · exact .inl honward
  · refine .inr ⟨hnone, fun s'' hs'' => ?_⟩
    have hgone : s''.store.find id = none ∧ Unheld s'' id :=
      Reach.invariant (I := fun s => s.store.find id = none ∧ Unheld s id) ⟨hnone, hunheld⟩
        (fun _ _ _ hu _ hstep => ⟨hu.2.find_none hu.1 hstep, hu.2.of_step hstep⟩) hs''
    exact hgone.1

end Runs

/-! ### A restart under a living run -/

/-- `run_sync` has created its row; then `stop` and `start` are called. -/
def restartUnderSync : List Label :=
  [.invoke .start, .call 0 (.go "t0"), .call 0 (.go "t0"),
   .invoke (.runSync switchRequest), .call 1 (.go "t1"), .call 1 (.prepared (switchProbe firstId)),
   .call 1 (.go "t1"), .invoke .stop, .call 2 (.go "t2"), .invoke .start, .call 3 (.go "t3")]

/-- `run_sync` emits its update, runs its probe and stores the outcome. -/
def syncGoesOn : List Label :=
  [.call 1 (.go "t4"), .call 1 (.probed (.returned (switchResult firstId))), .call 1 (.go "t5")]

/-- The restart stores the run as failed; its own `run_sync` then makes it a success. -/
theorem failed_run_becomes_success :
    ∃ s s', run (step smallConfig) anyStep (State.fresh emptyStore []) restartUnderSync = some s ∧
      run (step smallConfig) anyStep s syncGoesOn = some s' ∧
      (s.store.find firstId).map (fun record => (record.status, record.error)) =
        some (.failed, some staleReason) ∧
      (s'.store.find firstId).map (fun record => (record.status, record.error)) =
        some (.success, none) :=
  ⟨_, _, rfl, rfl, rfl, rfl⟩

def submitAndComplete : List Label :=
  [.invoke .start, .call 0 (.go "t0"), .call 0 (.go "t0"),
   .invoke (.submit switchRequest), .call 1 (.go "t1"), .call 1 (.prepared (switchProbe firstId)),
   .call 1 (.go "t1"), .call 1 (.go "t1"), .call 1 (.go "t1"), .call 1 (.go "t1"),
   .worker 0 (.go "t2"), .worker 0 (.go "t2"), .worker 0 (.go "t2"), .worker 0 (.go "t2"),
   .worker 0 (.go "t3"), .worker 0 (.probed (.returned (switchResult firstId))),
   .worker 0 (.go "t4"), .worker 0 (.go "t4")]

theorem runs_are_final_submit :
    ∃ s, run (step smallConfig) QuietRestart (State.fresh emptyStore []) submitAndComplete =
        some s ∧
      (s.store.find firstId).map PersistedCanaryRun.status = some .success ∧
      ∀ s', Reach (step smallConfig) QuietRestart s s' → ∀ record, s.store.find firstId = some record →
        (∃ record', s'.store.find firstId = some record' ∧ Onward record record') ∨
          s'.store.find firstId = none := by
  refine ⟨_, rfl, rfl, fun s' hs' record hrow => ?_⟩
  have h := runs_are_final smallConfig emptyStore [] (fun _ _ h => by cases h) _
    (run_reach submitAndComplete rfl)
  rcases h.2 s' hs' firstId record hrow with hon | ⟨hnone, -⟩
  · exact .inl hon
  · exact .inr hnone

end OvnApi.Manager
