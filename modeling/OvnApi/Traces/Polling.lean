import Mathlib.Algebra.Order.Floor.Semiring
import OvnApi.Lib.Deadline
import OvnApi.Traces.Build
import OvnApi.Traces.Execute

/-! The two polling loops of a probe. Each goes round only before a deadline that is the
timeout away, and sleeps when it does; so with a finite timeout both end. The model of a
request admits every positive float, and the greatest of them is no deadline at all. -/

namespace OvnApi.Traces

open OvnApi.Core Lib Lib.Prog

variable {ω : Type}

/-- An environment whose operations end and whose clock does not go back, in which a sleep
takes at least the interval. -/
structure Env.Timed (env : Env ω) (clock : ω → ℚ) (interval : ℚ) : Prop where
  run : ∀ argv, Settles clock (env.run argv)
  nbIdl : Settles clock env.nbIdl
  sbIdl : Settles clock env.sbIdl
  dumpOpenflowFlows : ∀ bridge, Settles clock (env.dumpOpenflowFlows bridge)
  nowUtc : ∀ w, clock w ≤ clock (env.nowUtc w).2
  reading : ∀ w, clock w ≤ (env.perfCounter w).1
  perfCounter : ∀ w, (env.perfCounter w).1 ≤ clock (env.perfCounter w).2
  sleep : ∀ w, Ends (env.sleep interval) w ∧ clock w + interval ≤ clock (env.sleep interval w).2

/-- The condition of the `while`: a turn that begins so is a poll. -/
def Env.beforeDeadline (env : Env ω) (deadline : PyFloat) (w : ω) : Bool :=
  PyFloat.le (.fin (env.perfCounter w).1) deadline

/-! ### The turns -/

def setupReady (env : Env ω) (waitType waitName : String) : Prog ω Exc Bool := do
  match ← env.findNamedNbRow waitType waitName with
  | none => pure false
  | some row =>
    if waitType = "logical_switch" ∨ waitType = "logical_router" then
      let evidence ← env.findSbParentEvidence waitType row.uuid.text
      pure (!evidence.isEmpty)
    else pure false

theorem setupTurn_eq (env : Env ω) (prepared : PreparedProbe) (deadline : PyFloat)
    (waitType waitName : String) :
    setupTurn env prepared deadline waitType waitName =
      sleepingTurn env.perfCounter (fun t => PyFloat.le (.fin t) deadline)
        (setupReady env waitType waitName) (env.sleep prepared.pollIntervalS)
        (raise (.http 500 ("Temporary " ++ pyRepr waitType ++ " " ++ pyRepr waitName ++
          " did not become ready before the probe started."))) := rfl

def pollReady (env : Env ω) (prepared : PreparedProbe) (startPerf : ℚ) :
    Prog (PollState × ω) Exc Bool := do
  pollNb env prepared startPerf
  pollSb env prepared startPerf
  pollOpenflow env prepared startPerf
  let v ← locals
  pure (v.complete prepared)

theorem pollTurn_eq (env : Env ω) (prepared : PreparedProbe) (startPerf : ℚ)
    (deadline : PyFloat) :
    pollTurn env prepared startPerf deadline =
      sleepingTurn (fun w => ((env.perfCounter w.2).1, (w.1, (env.perfCounter w.2).2)))
        (fun t => PyFloat.le (.fin t) deadline) (pollReady env prepared startPerf)
        (lift (env.sleep prepared.pollIntervalS)) (pure false) := by
  simp only [sleepingTurn, pollReady, bind_bind]
  rfl

section Turns

variable {env : Env ω} {clock : ω → ℚ} {prepared : PreparedProbe}
  (ht : env.Timed clock prepared.pollIntervalS) (hpos : 0 ≤ prepared.pollIntervalS)

include ht

theorem Env.Timed.perf : Settles clock env.perf :=
  .read fun w => (ht.reading w).trans (ht.perfCounter w)

theorem Env.Timed.now : Settles clock env.now := .read ht.nowUtc

theorem Env.Timed.findNamedNbRow (resourceType name : String) :
    Settles clock (env.findNamedNbRow resourceType name) := ht.nbIdl.bind fun _ => .ofExcept _

theorem Env.Timed.findNbRow : Settles clock (env.findNbRow prepared) :=
  ht.nbIdl.bind fun _ => .ofExcept _

theorem Env.Timed.findSbEvidence (nbUuid : String) :
    Settles clock (env.findSbEvidence prepared nbUuid) := ht.sbIdl.bind fun _ => .ofExcept _

theorem Env.Timed.findSbParentEvidence (resourceType nbUuid : String) :
    Settles clock (env.findSbParentEvidence resourceType nbUuid) := ht.sbIdl.bind fun _ => .pure _

theorem Env.Timed.findOpenflowEvidence : Settles clock (env.findOpenflowEvidence prepared) :=
  (ht.dumpOpenflowFlows _).bind fun _ => .ofExcept _

theorem setupReady_settles (waitType waitName : String) :
    Settles clock (setupReady env waitType waitName) := by
  refine (ht.findNamedNbRow waitType waitName).bind fun found => ?_
  cases found with
  | none => exact .pure false
  | some row => exact .ite ((ht.findSbParentEvidence _ _).bind fun _ => .pure _) (.pure false)

theorem pollNb_settles (startPerf : ℚ) :
    Settles (fun w => clock w.2) (pollNb env prepared startPerf) := by
  refine Settles.locals.bind fun v => .ite (ht.findNbRow.lift.bind fun found => ?_) (.pure ())
  cases found with
  | none => exact .pure ()
  | some row => exact ht.perf.lift.bind fun _ => ht.now.lift.bind fun _ => .setLocals _

theorem pollSb_settles (startPerf : ℚ) :
    Settles (fun w => clock w.2) (pollSb env prepared startPerf) := by
  refine Settles.locals.bind fun v => ?_
  rcases v.nbUuid with _ | nbUuid
  · exact .pure ()
  · cases v.sbSeenAt with
    | some _ => exact .pure ()
    | none =>
      exact (ht.findSbEvidence nbUuid).lift.bind fun _ => .ite (.pure ())
        (ht.perf.lift.bind fun _ => ht.now.lift.bind fun _ => .setLocals _)

theorem pollOpenflow_settles (startPerf : ℚ) :
    Settles (fun w => clock w.2) (pollOpenflow env prepared startPerf) :=
  Settles.locals.bind fun _ => .ite
    (ht.findOpenflowEvidence.lift.bind fun _ => .ite (.pure ())
      (ht.perf.lift.bind fun _ => ht.now.lift.bind fun _ => .setLocals _))
    (.pure ())

theorem pollReady_settles (startPerf : ℚ) :
    Settles (fun w => clock w.2) (pollReady env prepared startPerf) :=
  (pollNb_settles ht startPerf).bind fun _ => (pollSb_settles ht startPerf).bind fun _ =>
    (pollOpenflow_settles ht startPerf).bind fun _ => Settles.locals.bind fun _ => .pure _

include hpos

theorem setupTurn_timed (deadline : ℚ) (waitType waitName : String) :
    TimedTurn clock (setupTurn env prepared (.fin deadline) waitType waitName)
      (env.beforeDeadline (.fin deadline)) deadline prepared.pollIntervalS := by
  rw [setupTurn_eq]
  exact sleepingTurn_timed ht.reading (fun w => (ht.reading w).trans (ht.perfCounter w))
    (fun t h => by simpa using h) (setupReady_settles ht waitType waitName) (.raise _) hpos
    (fun _ _ h => by cases h) ht.sleep

theorem pollTurn_timed (startPerf deadline : ℚ) :
    TimedTurn (fun w => clock w.2) (pollTurn env prepared startPerf (.fin deadline))
      (fun w => env.beforeDeadline (.fin deadline) w.2) deadline prepared.pollIntervalS := by
  rw [pollTurn_eq]
  exact sleepingTurn_timed (fun w => ht.reading w.2)
    (fun w => (ht.reading w.2).trans (ht.perfCounter w.2)) (fun t h => by simpa using h)
    (pollReady_settles ht startPerf) (.pure false) hpos (fun _ _ h => by cases h)
    fun w => ht.sleep w.2

end Turns

/-! ### The loops -/

/-- At most `timeout_s / poll_interval_s + 1` polls. -/
def PreparedProbe.WithinPolls (prepared : PreparedProbe) (n : ℕ) : Prop :=
  PyFloat.le (.fin (((n : ℚ) - 1) * prepared.pollIntervalS)) prepared.timeoutS = true

/-- Both loops end. The deadline is the timeout after a reading `t` that was made before the
loop began, and a turn that begins before the deadline is a poll. -/
structure PollingEndsIn (env : Env ω) (clock : ω → ℚ) (prepared : PreparedProbe) : Prop where
  setup : ∃ fuel₀, ∀ fuel ≥ fuel₀, ∀ w, Ends (runSetup env fuel prepared) w
  probe : ∃ fuel₀, ∀ fuel ≥ fuel₀, ∀ w, Ends (executeProbe env fuel prepared) w
  setupPolls : ∀ waitType waitName t n w, t ≤ clock w →
    let deadline := PyFloat.addExact (.fin t) prepared.timeoutS
    prepared.WithinPolls
      (turns (env.beforeDeadline deadline) (setupTurn env prepared deadline waitType waitName) n w)
  probePolls : ∀ t n v w, t ≤ clock w →
    let deadline := PyFloat.addExact (.fin t) prepared.timeoutS
    prepared.WithinPolls
      (turns (fun w => env.beforeDeadline deadline w.2) (pollTurn env prepared t deadline) n (v, w))

/-- Both loops end in every environment that takes its time over a sleep. -/
def PollingEnds (prepared : PreparedProbe) : Prop :=
  ∀ (ω : Type) (env : Env ω) (clock : ω → ℚ), env.Timed clock prepared.pollIntervalS →
    PollingEndsIn env clock prepared

section Loops

variable {env : Env ω} {clock : ω → ℚ} {prepared : PreparedProbe} {timeout : ℚ}
  (ht : env.Timed clock prepared.pollIntervalS) (hpos : 0 < prepared.pollIntervalS)
  (htimeout : prepared.timeoutS = .fin timeout)

/-- The turns a loop needs at most. -/
def PreparedProbe.enough (prepared : PreparedProbe) (timeout : ℚ) : ℕ :=
  ⌊timeout / prepared.pollIntervalS⌋₊ + 2

include hpos in
theorem lt_of_enough {fuel : ℕ} (h : prepared.enough timeout ≤ fuel) {t now : ℚ} (hnow : t ≤ now) :
    ∃ n, fuel = n + 1 ∧ t + timeout < now + n * prepared.pollIntervalS := by
  obtain ⟨n, rfl⟩ := Nat.exists_eq_add_of_le' (show 1 ≤ fuel by unfold PreparedProbe.enough at h; omega)
  refine ⟨n, rfl, ?_⟩
  have hn : ⌊timeout / prepared.pollIntervalS⌋₊ + 1 ≤ n := by
    unfold PreparedProbe.enough at h
    omega
  have hlt : timeout / prepared.pollIntervalS < n :=
    (Nat.lt_floor_add_one _).trans_le (by exact_mod_cast hn)
  rw [div_lt_iff₀ hpos] at hlt
  linarith

include htimeout in
/-- The bound of a loop that began at `now`, when the timeout had been running since `t`. -/
theorem within_of_turns {t now deadline : ℚ} {n : ℕ} (hnow : t ≤ now) (hdeadline : deadline = t + timeout)
    (htimeout₀ : 0 ≤ timeout) (hpos₀ : 0 ≤ prepared.pollIntervalS)
    (h : n ≠ 0 → ((n : ℚ) - 1) * prepared.pollIntervalS ≤ deadline - now) :
    prepared.WithinPolls n := by
  unfold PreparedProbe.WithinPolls
  rw [htimeout, PyFloat.le_fin, decide_eq_true_eq]
  by_cases hn : n = 0
  · subst hn
    norm_num
    linarith
  · linarith [h hn]

include ht hpos htimeout

theorem runSetup_ends {fuel : ℕ} (h : prepared.enough timeout ≤ fuel) (w : ω) :
    Ends (runSetup env fuel prepared) w := by
  refine (Settles.forEach ht.run _ w).1.bind fun _ w₁ _ => ?_
  cases hwait : prepared.setupWait with
  | none => exact ok_ne_outOfFuel ()
  | some wait =>
    obtain ⟨n, rfl, hlt⟩ := lt_of_enough hpos h (ht.perfCounter w₁)
    have hloop := (setupTurn_timed ht hpos.le _ wait.1 wait.2).ends_whileFuel hlt
    rw [htimeout]
    exact hloop

theorem executeProbe_ends {fuel : ℕ} (h : prepared.enough timeout ≤ fuel) (w : ω) :
    Ends (executeProbe env fuel prepared) w := by
  refine (ht.now w).1.bind fun startedAt w₁ _ => (ht.perf w₁).1.bind fun startPerf w₂ hperf => ?_
  have hstart : startPerf ≤ clock w₂ := by
    obtain ⟨hreading, rfl⟩ := Prod.mk.inj hperf
    exact Outcome.ok.inj hreading ▸ ht.perfCounter w₁
  have hcreate : Settles clock (attempt Exc.httpDetail (env.run prepared.createCommand)) :=
    (ht.run _).attempt
  refine (hcreate w₂).1.bind fun answer w₃ hanswer => ?_
  have hafter : startPerf ≤ clock w₃ := hstart.trans (by simpa only [hanswer] using (hcreate w₂).2)
  cases answer with
  | error detail => exact (ht.perf w₃).1.bind fun _ _ _ => ok_ne_outOfFuel _
  | ok _ =>
    refine (ht.perf w₃).1.bind fun commandAt w₄ hcommand => ?_
    have hbegin : startPerf ≤ clock w₄ :=
      hafter.trans (by simpa only [hcommand] using (ht.perf w₃).2)
    obtain ⟨n, rfl, hlt⟩ := lt_of_enough hpos h hbegin
    rw [htimeout]
    have hloop := (pollTurn_timed ht hpos.le startPerf (startPerf + timeout)).ends_whileFuel
      (w := (PollState.start prepared, w₄)) hlt
    refine hloop.attemptWith.bind fun polled w₅ _ => (ht.perf w₅).1.bind fun finished w₆ _ => ?_
    cases polled.2 <;> exact ok_ne_outOfFuel _

theorem pollingEndsIn (htimeout₀ : 0 ≤ timeout) : PollingEndsIn env clock prepared where
  setup := ⟨_, fun _ h w => runSetup_ends ht hpos htimeout h w⟩
  probe := ⟨_, fun _ h w => executeProbe_ends ht hpos htimeout h w⟩
  setupPolls waitType waitName t n w hnow := by
    simp only [htimeout]
    exact within_of_turns htimeout hnow rfl htimeout₀ hpos.le fun hne =>
      (setupTurn_timed ht hpos.le (t + timeout) waitType waitName).turns_le n w hne
  probePolls t n v w hnow := by
    simp only [htimeout]
    exact within_of_turns htimeout hnow rfl htimeout₀ hpos.le fun hne =>
      (pollTurn_timed ht hpos.le t (t + timeout)).turns_le n (v, w) hne

end Loops

/-! ### A request without a deadline -/

/-- Every command succeeds, nothing ever appears, and a sleep takes just its time. -/
def silentEnv : Env ℚ where
  run _ := pure ()
  nbIdl := pure {}
  sbIdl := pure {}
  dumpOpenflowFlows _ := pure ""
  sleep t := Prog.read fun now => ((), now + t)
  perfCounter now := (now, now)
  nowUtc now := ("", now)

theorem silentEnv_timed (interval : ℚ) : silentEnv.Timed id interval where
  run _ := .pure ()
  nbIdl := .pure _
  sbIdl := .pure _
  dumpOpenflowFlows _ := .pure ""
  nowUtc _ := le_rfl
  reading _ := le_rfl
  perfCounter _ := le_rfl
  sleep _ := ⟨ok_ne_outOfFuel (), le_rfl⟩

section Silent

variable {prepared : PreparedProbe} (hfind : findNbRow prepared {} = .ok none) (startPerf now : ℚ)

include hfind

theorem pollReady_silent :
    pollReady silentEnv prepared startPerf (PollState.start prepared, now) =
      (.ok false, (PollState.start prepared, now)) := by
  have hnb : pollNb silentEnv prepared startPerf (PollState.start prepared, now) =
      (.ok (), (PollState.start prepared, now)) := by
    have hrow : lift (silentEnv.findNbRow prepared) (PollState.start prepared, now) =
        (.ok none, (PollState.start prepared, now)) := by
      change lift (Prog.ofExcept (findNbRow prepared {})) _ = _
      rw [hfind]
      rfl
    exact (bind_of_ok rfl).trans ((congrFun (if_pos rfl) _).trans (bind_of_ok hrow))
  have hopenflow : pollOpenflow silentEnv prepared startPerf (PollState.start prepared, now) =
      (.ok (), (PollState.start prepared, now)) := by
    have hnot : ¬ (prepared.openflowExpected && (PollState.start prepared).sbSeenAt.isSome &&
        (PollState.start prepared).ofSeenAt.isNone) = true := by
      simp [PollState.start]
    exact (bind_of_ok rfl).trans (congrFun (if_neg hnot) _)
  exact (bind_of_ok hnb).trans ((bind_of_ok rfl).trans ((bind_of_ok hopenflow).trans rfl))

theorem pollTurn_silent :
    pollTurn silentEnv prepared startPerf .inf (PollState.start prepared, now) =
      (.ok true, (PollState.start prepared, now + prepared.pollIntervalS)) := by
  rw [pollTurn_eq]
  exact (bind_of_ok rfl).trans ((bind_of_ok (pollReady_silent hfind startPerf now)).trans rfl)

/-- Where nothing is found and there is no deadline, the poll loop goes round for ever. -/
theorem executeProbe_silent (htimeout : prepared.timeoutS = .inf) (fuel : ℕ) :
    (executeProbe silentEnv fuel prepared now).1 = .outOfFuel := by
  have hloop : (whileFuel (pollTurn silentEnv prepared now .inf) fuel
      (PollState.start prepared, now)).1 = .outOfFuel :=
    whileFuel_outOfFuel (I := fun w => ∃ t, w = (PollState.start prepared, t))
      (by rintro _ ⟨t, rfl⟩; exact ⟨_, pollTurn_silent hfind now t, _, rfl⟩) fuel ⟨now, rfl⟩
  have htried := attemptWith_outOfFuel Exc.httpDetail hloop
  have hadd : PyFloat.addExact (.fin now) prepared.timeoutS = .inf := by rw [htimeout]; rfl
  refine (congrArg Prod.fst (bind_of_ok rfl)).trans ((congrArg Prod.fst (bind_of_ok rfl)).trans
    ((congrArg Prod.fst (bind_of_ok rfl)).trans ((congrArg Prod.fst (bind_of_ok rfl)).trans ?_)))
  exact bind_outOfFuel (hadd ▸ htried)

end Silent

section Built

variable {nb : Except Exc NbIdl} {probeId : Uuid} {request : CanaryProbeRequest}
  {prepared : PreparedProbe}

theorem findNbRow_empty (h : buildProbe nb probeId request = .ok prepared) :
    findNbRow prepared {} = .ok none := by
  obtain ⟨resolved, plan, hplanned, hresolved, rfl⟩ := buildProbe_planned h
  cases hplanned <;> (unfold findNbRow; rw [hresolved]; rfl)

end Built

def nbWith (name : String) : NbIdl where
  logicalSwitch := [⟨.uniform 1, name, [], [], []⟩]
  logicalRouter := [⟨.uniform 2, name, [], [], []⟩]

theorem resolveTarget_nbWith {tableName : String}
    (htable : tableName = "Logical_Switch" ∨ tableName = "Logical_Router")
    (noun addCommand delCommand temporary : String) (targetName : Option String) :
    ∃ target, resolveTarget tableName noun addCommand delCommand
      (.ok (nbWith (targetName.getD ""))) targetName temporary = .ok target := by
  cases targetName with
  | none => exact ⟨_, rfl⟩
  | some name =>
    have hfind : ∃ row, findNamedOrUuidRow (nbWith name) tableName name = .ok (some row) := by
      rcases htable with rfl | rfl
      · exact ⟨_, by simp [findNamedOrUuidRow, NbIdl.rows, nbWith, NbRow.getattr]; rfl⟩
      · exact ⟨_, by simp [findNamedOrUuidRow, NbIdl.rows, nbWith, NbRow.getattr]; rfl⟩
    obtain ⟨row, hrow⟩ := hfind
    refine ⟨{ ref := row.uuid.text }, ?_⟩
    simp [resolveTarget, requireNbRow, hrow, bind, Except.bind, pure, Except.pure]

theorem exists_built (request : CanaryProbeRequest) :
    ∃ nb probeId prepared, buildProbe nb probeId request = .ok prepared := by
  let nb : Except Exc NbIdl := .ok (nbWith (request.targetName.getD ""))
  have hswitch : ∃ target, resolveSwitchTarget nb request.targetName
      (Uuid.uniform 0).firstSegment = .ok target :=
    resolveTarget_nbWith (.inl rfl) _ _ _ _ request.targetName
  have hrouter : ∃ target, resolveRouterTarget nb request.targetName
      (Uuid.uniform 0).firstSegment = .ok target :=
    resolveTarget_nbWith (.inr rfl) _ _ _ _ request.targetName
  obtain ⟨switch, hswitch⟩ := hswitch
  obtain ⟨router, hrouter⟩ := hrouter
  have hplan : ∃ plan, planOf (.uniform 0) nb request
      (resolveResourceType request.resourceType).1 = .ok plan := by
    cases (resolveResourceType request.resourceType).1 <;>
      simp [planOf, hswitch, hrouter, bind, Except.bind, pure, Except.pure]
  obtain ⟨plan, hplan⟩ := hplan
  exact ⟨nb, .uniform 0, assemble (.uniform 0) request plan, by simp [buildProbe, hplan, Except.map]⟩

/-! ### The requests of the model -/

theorem exists_timeout (request : CanaryProbeRequest) (h : request.timeoutS ≠ .inf) :
    ∃ timeout, request.timeoutS = .fin timeout ∧ 0 < timeout := by
  have hpos := request.timeout_pos
  cases htimeout : request.timeoutS with
  | fin timeout => exact ⟨timeout, rfl, by simpa [htimeout] using hpos⟩
  | inf => exact absurd htimeout h
  | ninf => simp [htimeout, PyFloat.lt] at hpos
  | nan => simp [htimeout, PyFloat.lt] at hpos

theorem pollInterval_pos (request : CanaryProbeRequest) :
    (0 : ℚ) < request.pollIntervalMs / 1000 := by
  have hpoll : (50 : ℚ) ≤ request.pollIntervalMs := by exact_mod_cast request.poll_ge
  linarith

/-- Polling ends for a request exactly if its timeout is not infinite. -/
theorem polling_ends_iff (request : CanaryProbeRequest) :
    (∀ nb probeId prepared, buildProbe nb probeId request = .ok prepared →
      ∀ wait, PollingEnds { prepared with setupWait := wait }) ↔ request.timeoutS ≠ .inf := by
  constructor
  · intro hends hinf
    obtain ⟨nb, probeId, prepared, hbuild⟩ := exists_built request
    have htimeout : prepared.timeoutS = .inf := by
      obtain ⟨plan, -, rfl⟩ := buildProbe_ok hbuild
      exact hinf
    obtain ⟨fuel, hfuel⟩ :=
      (hends nb probeId prepared hbuild prepared.setupWait ℚ silentEnv id (silentEnv_timed _)).probe
    exact hfuel fuel le_rfl 0 (executeProbe_silent (findNbRow_empty hbuild) 0 htimeout fuel)
  · intro hfinite nb probeId prepared hbuild wait ω env clock ht
    obtain ⟨plan, -, rfl⟩ := buildProbe_ok hbuild
    obtain ⟨timeout, htimeout, hpositive⟩ := exists_timeout request hfinite
    exact pollingEndsIn ht (pollInterval_pos request) htimeout hpositive.le

theorem infiniteTimeout_pos : PyFloat.lt (.fin 0) .inf = true := rfl

/-- A canary switch whose timeout is infinite, as `Infinity` in the body of a request gives it. -/
def unboundedRequest : CanaryProbeRequest where
  resourceType := .logicalSwitch
  timeoutS := .inf
  timeout_pos := infiniteTimeout_pos
  poll_ge := defaultPoll_ge

/-- The switch never appears, and no number of polls is enough. -/
theorem infinite_timeout_polls_forever :
    ∃ prepared, buildProbe (.ok {}) (.uniform 0) unboundedRequest = .ok prepared ∧
      silentEnv.Timed id prepared.pollIntervalS ∧
      ∀ fuel now, (executeProbe silentEnv fuel prepared now).1 = .outOfFuel :=
  ⟨_, rfl, silentEnv_timed _, fun fuel now => executeProbe_silent rfl now rfl fuel⟩

end OvnApi.Traces
