import OvnApi.Traces.Execute

/-! The order of a probe's commands. Setup commands run until one fails; if all
succeed the canary is created; whatever happened, every cleanup command is tried.
Reads, dumps and clocks come in between and are told apart from commands only.
The rule carries a predicate per phase through `run_prepared_probe`. -/

namespace OvnApi.Traces

open OvnApi.Core Lib Lib.Prog

variable {ω : Type}

/-- The commands still to come; `clean` says that no cleanup command has failed. -/
inductive Phase where
  | setup (todo : List (List String))
  | cleanup (todo : List (List String)) (clean : Bool)
  deriving DecidableEq

def Phase.next (prepared : PreparedProbe) : Phase → Bool → Phase
  | .setup (_ :: rest), true => .setup rest
  | .setup _, _ => .cleanup prepared.cleanupCommands true
  | .cleanup (_ :: rest) clean, ok => .cleanup rest (clean && ok)
  | .cleanup [] clean, _ => .cleanup [] clean

def Phase.command (prepared : PreparedProbe) : Phase → Option (List String)
  | .setup [] => some prepared.createCommand
  | .setup (argv :: _) => some argv
  | .cleanup [] _ => none
  | .cleanup (argv :: _) _ => some argv

/-- The predicate is kept by everything but commands, and a command takes it from
one phase to the next. -/
structure Guides (env : Env ω) (prepared : PreparedProbe) (I : Phase → ω → Prop) : Prop where
  perfCounter : ∀ φ w, I φ w → I φ (env.perfCounter w).2
  nowUtc : ∀ φ w, I φ w → I φ (env.nowUtc w).2
  nbIdl : ∀ φ, Keeps (I φ) env.nbIdl
  sbIdl : ∀ φ, Keeps (I φ) env.sbIdl
  dumpOpenflowFlows : ∀ φ bridge, Keeps (I φ) (env.dumpOpenflowFlows bridge)
  sleep : ∀ φ t, Keeps (I φ) (env.sleep t)
  /-- The wait after the setup commands may give up. -/
  abandon : ∀ w, I (.setup []) w → I (.cleanup prepared.cleanupCommands true) w
  command : ∀ φ argv w, φ.command prepared = some argv → I φ w →
    wp (env.run argv) (fun _ w' => I (φ.next prepared true) w')
      (fun _ w' => I (φ.next prepared false) w') w

namespace Guides

variable {env : Env ω} {prepared : PreparedProbe} {I : Phase → ω → Prop} {w : ω} {φ : Phase}

theorem perf (h : Guides env prepared I) (φ : Phase) : Keeps (I φ) env.perf :=
  .of_world (h.perfCounter φ)

theorem now (h : Guides env prepared I) (φ : Phase) : Keeps (I φ) env.now := .of_world (h.nowUtc φ)

theorem steady (h : Guides env prepared I) (φ : Phase) :
    env.Steady prepared (I φ) fun _ => True where
  perf := h.perf φ
  now := h.now φ
  findNbRow := (h.nbIdl φ).bind fun _ => .ofExcept fun _ _ => trivial
  findNamedNbRow _ _ := (h.nbIdl φ).bind fun _ => .ofExcept fun _ _ => trivial
  findSbEvidence _ := (h.sbIdl φ).bind fun _ => .ofExcept fun _ _ => trivial
  findSbParentEvidence _ _ := (h.sbIdl φ).bind fun _ => .pure _
  findOpenflowEvidence := (h.dumpOpenflowFlows φ _).bind fun _ => .ofExcept fun _ _ => trivial
  sleep := h.sleep φ

/-! ### Setup, creation and cleanup -/

theorem runSetup (h : Guides env prepared I) (fuel : ℕ) (h0 : I (.setup prepared.setupCommands) w) :
    wp (Traces.runSetup env fuel prepared) (fun _ w' => I (.setup []) w')
      (fun _ w' => I (.cleanup prepared.cleanupCommands true) w') w := by
  have hcommands : ∀ todo w, I (.setup todo) w →
      wp (forEach env.run todo) (fun _ w' => I (.setup []) w')
        (fun _ w' => I (.cleanup prepared.cleanupCommands true) w') w := by
    intro todo
    induction todo with
    | nil => exact fun w hw => hw
    | cons argv rest ih =>
      intro w hw
      simp only [forEach, wp_bind]
      exact wp_mono (h.command _ argv w rfl hw) (fun _ w' hw' => ih w' hw') fun _ _ he => he
  rw [Traces.runSetup, wp_bind]
  apply wp_mono (hcommands _ w h0) _ fun _ _ he => he
  intro _ w' hw'
  cases prepared.setupWait with
  | none => exact hw'
  | some wait =>
    have hwait : Keeps (I (.setup [])) (do
        let t ← env.perf
        whileFuel (Traces.setupTurn env prepared (PyFloat.addExact (.fin t) prepared.timeoutS)
          wait.1 wait.2) fuel) :=
      (h.perf _).bind fun _ => .whileFuel ((h.steady _).setupTurn (fun _ => trivial) _ _ _) fuel
    exact wp_mono (hwait.wp hw') (fun _ _ he => he) fun _ w'' he => h.abandon w'' he

theorem executeProbe (h : Guides env prepared I) (fuel : ℕ) (h0 : I (.setup []) w) :
    wp (Traces.executeProbe env fuel prepared)
      (fun _ w' => I (.cleanup prepared.cleanupCommands true) w')
      (fun _ w' => I (.cleanup prepared.cleanupCommands true) w') w := by
  rw [Traces.executeProbe, wp_bind]
  apply wp_mono ((h.now _).wp h0) _ fun _ w' hw' => h.abandon w' hw'
  intro startedAt w₁ hw₁
  rw [wp_bind]
  apply wp_mono ((h.perf _).wp hw₁) _ fun _ w' hw' => h.abandon w' hw'
  intro startPerf w₂ hw₂
  rw [wp_bind, wp_attempt]
  apply wp_mono (h.command _ _ w₂ rfl hw₂)
  · intro _ w₃ hw₃
    -- the canary is created: everything from here on only reads
    refine Safe.wp (I := I (.cleanup prepared.cleanupCommands true)) (P := fun _ => True) ?_ hw₃
    refine (h.perf _).bind fun t => ?_
    refine Safe.bind (.attemptWith (.whileFuel ((h.steady _).pollTurn _ _) fuel) fun _ _ _ => trivial)
      fun polled => ?_
    refine (h.perf _).bind fun finishedPerf => ?_
    cases polled.2 <;> exact .pure _
  · intro e w₃ hw₃
    cases hdetail : Exc.httpDetail e with
    | none => exact hw₃
    | some detail =>
      simp only [wp_bind]
      exact wp_mono ((h.perf _).wp hw₃) (fun _ _ hw' => hw') fun _ _ he => he

theorem cleanupErrors (h : Guides env prepared I) (todo : List (List String)) (clean : Bool)
    (h0 : I (.cleanup todo clean) w) :
    wp (Traces.cleanupErrors env todo)
      (fun errors w' => ∃ ok, I (.cleanup [] (clean && ok)) w' ∧ (errors = [] → ok = true))
      (fun _ w' => ∃ φ, I φ w') w := by
  induction todo generalizing clean w with
  | nil => exact ⟨true, by rwa [Bool.and_true], fun _ => rfl⟩
  | cons argv rest ih =>
    simp only [Traces.cleanupErrors, wp_bind, wp_attempt]
    apply wp_mono (h.command _ argv w rfl h0)
    · intro _ w₁ hw₁
      apply wp_mono (ih (clean && true) hw₁) _ fun _ _ he => he
      rintro errors w₂ ⟨ok, hw₂, herrors⟩
      exact ⟨ok, by rwa [Bool.and_true] at hw₂, herrors⟩
    · intro e w₁ hw₁
      cases hdetail : Exc.httpDetail e with
      | none => exact ⟨_, hw₁⟩
      | some detail =>
        apply wp_mono (ih (clean && false) hw₁) _ fun _ _ he => he
        rintro errors w₂ ⟨ok, hw₂, -⟩
        refine ⟨false, ?_, fun hnil => absurd hnil (List.cons_ne_nil _ _)⟩
        simpa using hw₂

theorem runCleanup (h : Guides env prepared I) (h0 : I (.cleanup prepared.cleanupCommands true) w) :
    wp (Traces.runCleanup env prepared)
      (fun stage w' => ∃ clean, I (.cleanup [] clean) w' ∧
        (stage.status = .observed → clean = true))
      (fun _ w' => ∃ φ, I φ w') w := by
  unfold Traces.runCleanup
  rw [wp_ite]
  constructor
  · intro hempty
    rw [List.isEmpty_iff.mp hempty] at h0
    exact ⟨true, h0, fun _ => rfl⟩
  · intro _
    rw [wp_bind]
    apply wp_mono (h.cleanupErrors _ true h0) _ fun _ _ he => he
    rintro errors w₁ ⟨ok, hw₁, herrors⟩
    rw [wp_ite]
    constructor
    · intro hempty
      rw [herrors (List.isEmpty_iff.mp hempty)] at hw₁
      rw [wp_bind]
      exact wp_mono ((h.now _).wp hw₁) (fun _ w₂ hw₂ => ⟨true, hw₂, fun _ => rfl⟩)
        fun _ w₂ hw₂ => ⟨_, hw₂⟩
    · intro _
      exact ⟨_, hw₁, fun hstatus => by cases hstatus⟩

/-- However the body of a probe ends, cleanup is next. -/
theorem probeBody (h : Guides env prepared I) (fuel : ℕ)
    (h0 : I (.setup prepared.setupCommands) w) :
    wp (Traces.probeBody env fuel prepared)
      (fun _ w' => I (.cleanup prepared.cleanupCommands true) w')
      (fun _ w' => I (.cleanup prepared.cleanupCommands true) w') w := by
  simp only [Traces.probeBody, wp_bind, wp_attempt]
  apply wp_mono (h.runSetup fuel h0)
  · exact fun _ w₁ hw₁ => h.executeProbe fuel hw₁
  · intro e w₁ hw₁
    cases hdetail : Exc.httpDetail e with
    | none => exact hw₁
    | some detail => exact wp_mono ((h.now _).wp hw₁) (fun _ _ hw' => hw') fun _ _ he => he

/-- A predicate that follows the phases holds when the probe is over, and the
cleanup stage is observed only if no cleanup command has failed. -/
theorem runPreparedProbe (h : Guides env prepared I) (fuel : ℕ)
    (h0 : I (.setup prepared.setupCommands) w) :
    wp (Traces.runPreparedProbe env fuel prepared)
      (fun result w' => ∃ clean, I (.cleanup [] clean) w' ∧
        (result.cleanup.status = .observed → clean = true))
      (fun _ w' => ∃ φ, I φ w') w := by
  simp only [Traces.runPreparedProbe, wp_bind, wp_tryFinally]
  apply wp_mono (h.probeBody fuel h0)
  · intro result w₁ hw₁
    apply wp_mono (h.runCleanup hw₁) _ fun _ _ he => he
    rintro stage w₂ ⟨clean, hw₂, hclean⟩
    exact wp_mono ((h.now _).wp hw₂) (fun _ w₃ hw₃ => ⟨clean, hw₃, hclean⟩) fun _ w₃ hw₃ => ⟨_, hw₃⟩
  · intro e w₁ hw₁
    apply wp_mono (h.runCleanup hw₁) _ fun _ _ he => he
    rintro stage w₂ ⟨clean, hw₂, -⟩
    exact ⟨_, hw₂⟩

end Guides

end OvnApi.Traces
