import OvnApi.Lib.Lists
import OvnApi.Traces.Build
import OvnApi.Traces.Verdict

/-! The latencies of a probe. Every stage that the poll loop saw carries the time of a clock
reading, the first stage it did not see carries the reading after the loop, and the stages
behind that carry none. The times are readings of the clock in the order in which they were
made, after the one that ended the create command, so with a clock that does not go back
the latencies are ordered and the phases add up to the total. -/

namespace OvnApi.Traces

open OvnApi.Core Lib Lib.Prog

variable {ω : Type}

/-! ### Stages with a time -/

/-- The stage was observed at this time. -/
structure Seen (startPerf : ℚ) (stage : CanaryProbeStage) (t : ℚ) : Prop where
  status : stage.status = .observed
  latencyMs : stage.latencyMs = some (elapsedMs startPerf t)

/-- The stage was observed or given up at this time. -/
structure Ended (startPerf : ℚ) (stage : CanaryProbeStage) (t : ℚ) : Prop where
  status : stage.status ≠ .skipped
  latencyMs : stage.latencyMs = some (elapsedMs startPerf t)

theorem Seen.ended {startPerf t : ℚ} {stage : CanaryProbeStage} (h : Seen startPerf stage t) :
    Ended startPerf stage t :=
  ⟨by rw [h.status]; decide, h.latencyMs⟩

/-- The loop still waits for the stage. -/
structure Pending (stage : CanaryProbeStage) : Prop where
  status : stage.status = .timeout
  latencyMs : stage.latencyMs = none

structure Blank (stage : CanaryProbeStage) : Prop where
  status : stage.status = .skipped
  latencyMs : stage.latencyMs = none

/-- How far the loop has come, with the times of what it saw. -/
inductive Progress (expected : Bool) (startPerf : ℚ) (v : PollState) : List ℚ → Prop where
  | nothing (hu : v.nbUuid = none) (hs : v.sbSeenAt = none) (ho : v.ofSeenAt = none)
      (nb : Pending v.nbStage) (sb : Pending v.sbStage)
      (of : if expected then Pending v.openflowStage else Blank v.openflowStage) :
      Progress expected startPerf v []
  | nb {t : ℚ} (hu : v.nbUuid ≠ none) (hs : v.sbSeenAt = none) (ho : v.ofSeenAt = none)
      (nb : Seen startPerf v.nbStage t) (sb : Pending v.sbStage)
      (of : if expected then Pending v.openflowStage else Blank v.openflowStage) :
      Progress expected startPerf v [t]
  | sb {t t' : ℚ} (hu : v.nbUuid ≠ none) (hs : v.sbSeenAt ≠ none) (ho : v.ofSeenAt = none)
      (nb : Seen startPerf v.nbStage t) (sb : Seen startPerf v.sbStage t')
      (of : if expected then Pending v.openflowStage else Blank v.openflowStage) :
      Progress expected startPerf v [t, t']
  | of {t t' t'' : ℚ} (he : expected = true) (hu : v.nbUuid ≠ none) (hs : v.sbSeenAt ≠ none)
      (ho : v.ofSeenAt ≠ none) (nb : Seen startPerf v.nbStage t)
      (sb : Seen startPerf v.sbStage t') (of : Seen startPerf v.openflowStage t'') :
      Progress expected startPerf v [t, t', t'']

/-- How far a probe came in the end. The last stage with a time may have been given up, the
ones before it were observed, and the ones behind it are blank. -/
inductive Reached (expected : Bool) (startPerf : ℚ) (nb sb of : CanaryProbeStage) :
    List ℚ → Prop where
  | nb {t : ℚ} (hnb : Ended startPerf nb t) (hmissed : nb.status ≠ .observed) (hsb : Blank sb)
      (hof : Blank of) : Reached expected startPerf nb sb of [t]
  | sb {t t' : ℚ} (hnb : Seen startPerf nb t) (hsb : Ended startPerf sb t')
      (hmissed : expected = true → sb.status ≠ .observed) (hof : Blank of) :
      Reached expected startPerf nb sb of [t, t']
  | of {t t' t'' : ℚ} (he : expected = true) (hnb : Seen startPerf nb t)
      (hsb : Seen startPerf sb t') (hof : Ended startPerf of t'') :
      Reached expected startPerf nb sb of [t, t', t'']

def AllObserved (expected : Bool) (nb sb of : CanaryProbeStage) : Prop :=
  nb.status = .observed ∧ sb.status = .observed ∧ (expected = true → of.status = .observed)

/-- The stages with which the loop was left lead to this end: the loop had seen everything,
or the first stage it had not seen is given up at the time `t` after it. -/
structure Finishes (prepared : PreparedProbe) (startPerf t : ℚ) (v v' : PollState)
    (times : List ℚ) : Prop where
  reached : Reached prepared.openflowExpected startPerf v'.nbStage v'.sbStage v'.openflowStage times ∨
    Reached prepared.openflowExpected startPerf v'.nbStage v'.sbStage v'.openflowStage
      (times ++ [t])
  complete : AllObserved prepared.openflowExpected v'.nbStage v'.sbStage v'.openflowStage ↔
    v.complete prepared = true

/-! ### After the loop -/

section Finish

variable {prepared : PreparedProbe} {startPerf t : ℚ} {v v' : PollState} {times : List ℚ}

theorem Pending.ended {stage : CanaryProbeStage} (h : Pending stage) (startPerf t : ℚ)
    (detail : Option String) :
    Ended startPerf (stageWithElapsedLatency stage startPerf t detail) t ∧
      (stageWithElapsedLatency stage startPerf t detail).status ≠ .observed := by
  have hstatus : (stageWithElapsedLatency stage startPerf t detail).status = .timeout := h.status
  refine ⟨⟨by rw [hstatus]; decide, ?_⟩, by rw [hstatus]; decide⟩
  simp [stageWithElapsedLatency, h.latencyMs]

theorem ended_failed (startPerf t : ℚ) (detail : String) :
    Ended startPerf (stageWithElapsedLatency { status := .failed, detail := some detail }
      startPerf t none) t :=
  ⟨StageStatus.noConfusion, rfl⟩

/-- A stage behind the one that was given up. -/
theorem blank_rest {expected : Bool} {stage : CanaryProbeStage} (detail : String)
    (h : if expected then Pending stage else Blank stage) :
    Blank (if expected then notEvaluated detail else stage) := by
  cases expected with
  | true => exact ⟨rfl, rfl⟩
  | false => exact h

theorem Progress.rest {expected : Bool} (h : Progress expected startPerf v times)
    (ho : v.ofSeenAt = none) :
    if expected then Pending v.openflowStage else Blank v.openflowStage := by
  cases h with
  | nothing _ _ _ _ _ of => exact of
  | nb _ _ _ _ _ of => exact of
  | sb _ _ _ _ _ of => exact of
  | of _ _ _ ho' => exact absurd ho ho'

theorem Progress.of_none {expected : Bool} (h : Progress expected startPerf v times)
    (hs : v.nbUuid = none ∨ v.sbSeenAt = none) : v.ofSeenAt = none := by
  cases h with
  | nothing _ _ ho => exact ho
  | nb _ _ ho => exact ho
  | sb _ _ ho => exact ho
  | of _ hu hs' => exact (hs.elim hu hs').elim

/-- The first stage that was not seen is given up. -/
theorem Progress.finishes (h : Progress prepared.openflowExpected startPerf v times)
    (hnb : v.nbUuid = none → Ended startPerf v'.nbStage t ∧ v'.nbStage.status ≠ .observed ∧
      Blank v'.sbStage ∧ Blank v'.openflowStage)
    (hsb : v.nbUuid ≠ none → v.sbSeenAt = none → v'.nbStage = v.nbStage ∧
      Ended startPerf v'.sbStage t ∧ v'.sbStage.status ≠ .observed ∧ Blank v'.openflowStage)
    (hof : v.nbUuid ≠ none → v.sbSeenAt ≠ none →
      prepared.openflowExpected = true ∧ v.ofSeenAt = none →
      v'.nbStage = v.nbStage ∧ v'.sbStage = v.sbStage ∧ Ended startPerf v'.openflowStage t ∧
        v'.openflowStage.status ≠ .observed)
    (hdone : v.nbUuid ≠ none → v.sbSeenAt ≠ none →
      ¬(prepared.openflowExpected = true ∧ v.ofSeenAt = none) → v' = v) :
    Finishes prepared startPerf t v v' times := by
  have hcomplete : v.complete prepared = true ↔ v.nbUuid ≠ none ∧ v.sbSeenAt ≠ none ∧
      (prepared.openflowExpected = true → v.ofSeenAt ≠ none) := by
    cases he : prepared.openflowExpected <;>
      simp [PollState.complete, he, Option.isSome_iff_ne_none, and_assoc]
  cases h with
  | nothing hu =>
    obtain ⟨hended, hmissed, hsb', hof'⟩ := hnb hu
    refine ⟨.inr (.nb hended hmissed hsb' hof'), ?_⟩
    rw [hcomplete]
    exact iff_of_false (fun h => hmissed h.1) fun h => h.1 hu
  | nb hu hs _ nb =>
    obtain ⟨hsame, hended, hmissed, hof'⟩ := hsb hu hs
    refine ⟨.inr (.sb (hsame ▸ nb) hended (fun _ => hmissed) hof'), ?_⟩
    rw [hcomplete]
    exact iff_of_false (fun h => hmissed h.2.1) fun h => h.2.1 hs
  | sb hu hs ho nb sb of =>
    by_cases he : prepared.openflowExpected = true
    · obtain ⟨hnb', hsb', hended, hmissed⟩ := hof hu hs ⟨he, ho⟩
      refine ⟨.inr (.of he (hnb' ▸ nb) (hsb' ▸ sb) hended), ?_⟩
      rw [hcomplete]
      exact iff_of_false (fun h => hmissed (h.2.2 he)) fun h => h.2.2 he ho
    · obtain rfl := hdone hu hs fun h => he h.1
      have hblank : Blank v'.openflowStage := by simpa [he] using of
      refine ⟨.inl (.sb nb sb.ended (fun h => absurd h he) hblank), ?_⟩
      rw [hcomplete]
      exact iff_of_true ⟨nb.status, sb.status, fun h => absurd h he⟩ ⟨hu, hs, fun h => absurd h he⟩
  | of he hu hs ho nb sb of =>
    obtain rfl := hdone hu hs fun h => ho h.2
    refine ⟨.inl (.of he nb sb of.ended), ?_⟩
    rw [hcomplete]
    exact iff_of_true ⟨nb.status, sb.status, fun _ => of.status⟩ ⟨hu, hs, fun _ => ho⟩

theorem Progress.finishes_onExit (h : Progress prepared.openflowExpected startPerf v times) :
    Finishes prepared startPerf t v (v.onExit prepared startPerf t) times := by
  have hpending : v.nbUuid = none → Pending v.nbStage := by
    intro hu
    cases h with
    | nothing _ _ _ nb => exact nb
    | nb hu' => exact absurd hu hu'
    | sb hu' => exact absurd hu hu'
    | of _ hu' => exact absurd hu hu'
  have hpending' : v.nbUuid ≠ none → v.sbSeenAt = none → Pending v.sbStage := by
    intro hu hs
    cases h with
    | nothing hu' => exact absurd hu' hu
    | nb _ _ _ _ sb => exact sb
    | sb _ hs' => exact absurd hs hs'
    | of _ _ hs' => exact absurd hs hs'
  apply h.finishes
  · intro hu
    rw [PollState.onExit, if_pos hu]
    exact ⟨((hpending hu).ended startPerf t _).1, ((hpending hu).ended startPerf t _).2,
      ⟨rfl, rfl⟩, blank_rest _ (h.rest (h.of_none (.inl hu)))⟩
  · intro hu hs
    rw [PollState.onExit, if_neg hu, if_pos hs]
    exact ⟨rfl, ((hpending' hu hs).ended startPerf t _).1, ((hpending' hu hs).ended startPerf t _).2,
      blank_rest _ (h.rest (h.of_none (.inr hs)))⟩
  · intro hu hs hmissing
    rw [PollState.onExit, if_neg hu, if_neg hs, if_pos hmissing]
    have hof : Pending v.openflowStage := by simpa [hmissing.1] using h.rest hmissing.2
    exact ⟨rfl, rfl, (hof.ended startPerf t _).1, (hof.ended startPerf t _).2⟩
  · intro hu hs hdone
    rw [PollState.onExit, if_neg hu, if_neg hs, if_neg hdone]

theorem Progress.finishes_onFailure (h : Progress prepared.openflowExpected startPerf v times)
    (detail : String) :
    Finishes prepared startPerf t v (v.onFailure prepared startPerf t detail) times := by
  apply h.finishes
  · intro hu
    rw [PollState.onFailure, if_pos hu]
    exact ⟨ended_failed startPerf t detail, StageStatus.noConfusion, ⟨rfl, rfl⟩,
      blank_rest _ (h.rest (h.of_none (.inl hu)))⟩
  · intro hu hs
    rw [PollState.onFailure, if_neg hu, if_pos hs]
    exact ⟨rfl, ended_failed startPerf t detail, StageStatus.noConfusion,
      blank_rest _ (h.rest (h.of_none (.inr hs)))⟩
  · intro hu hs hmissing
    rw [PollState.onFailure, if_neg hu, if_neg hs, if_pos hmissing]
    exact ⟨rfl, rfl, ended_failed startPerf t detail, StageStatus.noConfusion⟩
  · intro hu hs hdone
    rw [PollState.onFailure, if_neg hu, if_neg hs, if_neg hdone]

end Finish

/-! ### The loop -/

/-- `T times w`: the clock showed these times on the way to `w`. A reading may be added to
the times or left out. -/
structure Records (env : Env ω) (T : List ℚ → ω → Prop) : Prop where
  reading : ∀ times w, T times w → T (times ++ [(env.perfCounter w).1]) (env.perfCounter w).2
  skip : ∀ times w, T times w → T times (env.perfCounter w).2
  nowUtc : ∀ times w, T times w → T times (env.nowUtc w).2
  run : ∀ times argv, Keeps (T times) (env.run argv)
  nbIdl : ∀ times, Keeps (T times) env.nbIdl
  sbIdl : ∀ times, Keeps (T times) env.sbIdl
  dumpOpenflowFlows : ∀ times bridge, Keeps (T times) (env.dumpOpenflowFlows bridge)
  sleep : ∀ times t, Keeps (T times) (env.sleep t)

section Loop

variable {env : Env ω} {T : List ℚ → ω → Prop} {prepared : PreparedProbe} {startPerf : ℚ}
  {before : List ℚ} {s : PollState × ω}

/-- A stage that is observed takes a time and a date. -/
theorem Records.observed (hT : Records env T) {times : List ℚ} {w : ω} (h : T (before ++ times) w) :
    T (before ++ (times ++ [(env.perfCounter w).1])) (env.nowUtc (env.perfCounter w).2).2 := by
  rw [← List.append_assoc]
  exact hT.nowUtc _ _ (hT.reading _ _ h)

/-- The loop has come this far, and its times follow those before it. -/
def Polled (T : List ℚ → ω → Prop) (prepared : PreparedProbe) (startPerf : ℚ) (before : List ℚ)
    (s : PollState × ω) : Prop :=
  ∃ times, Progress prepared.openflowExpected startPerf s.1 times ∧ T (before ++ times) s.2

theorem progress_start (prepared : PreparedProbe) (startPerf : ℚ) :
    Progress prepared.openflowExpected startPerf (PollState.start prepared) [] := by
  refine .nothing rfl rfl rfl ⟨rfl, rfl⟩ ⟨rfl, rfl⟩ ?_
  cases he : prepared.openflowExpected with
  | true => exact ⟨by simp [PollState.start, he], by simp [PollState.start, he]⟩
  | false =>
    exact ⟨by simp [PollState.start, he, openflowDisabled],
      by simp [PollState.start, he, openflowDisabled]⟩

theorem pollNb_polled (hT : Records env T) (h : Polled T prepared startPerf before s) :
    wp (pollNb env prepared startPerf) (fun _ => Polled T prepared startPerf before)
      (fun _ => Polled T prepared startPerf before) s := by
  obtain ⟨v, w⟩ := s
  obtain ⟨times, hprogress, hrec⟩ := h
  simp only [pollNb, wp_bind, wp_locals, wp_ite]
  refine ⟨fun hnone => ?_, fun _ => ⟨times, hprogress, hrec⟩⟩
  have hfind : Keeps (T (before ++ times)) (env.findNbRow prepared) :=
    (hT.nbIdl _).bind fun _ => .ofExcept fun _ _ => trivial
  rw [wp_lift]
  apply wp_mono (hfind.wp hrec) _ fun _ w' hrec' => ⟨times, hprogress, hrec'⟩
  intro found w' hrec'
  cases found with
  | none => exact ⟨times, hprogress, hrec'⟩
  | some row =>
    cases hprogress with
    | nb hu => exact absurd hnone hu
    | sb hu => exact absurd hnone hu
    | of _ hu => exact absurd hnone hu
    | nothing hu hs ho nb sb of =>
      refine ⟨[(env.perfCounter w').1], .nb (Option.some_ne_none _) hs ho ⟨rfl, rfl⟩ sb of, ?_⟩
      exact hT.observed hrec'

theorem pollSb_polled (hT : Records env T) (h : Polled T prepared startPerf before s) :
    wp (pollSb env prepared startPerf) (fun _ => Polled T prepared startPerf before)
      (fun _ => Polled T prepared startPerf before) s := by
  obtain ⟨v, w⟩ := s
  obtain ⟨times, hprogress, hrec⟩ := h
  simp only [pollSb, wp_bind, wp_locals]
  split
  next nbUuid hnb hsb =>
    have hfind : Keeps (T (before ++ times)) (env.findSbEvidence prepared nbUuid) :=
      (hT.sbIdl _).bind fun _ => .ofExcept fun _ _ => trivial
    rw [wp_bind, wp_lift]
    apply wp_mono (hfind.wp hrec) _ fun _ w' hrec' => ⟨times, hprogress, hrec'⟩
    intro evidence w' hrec'
    rw [wp_ite]
    refine ⟨fun _ => ⟨times, hprogress, hrec'⟩, fun _ => ?_⟩
    cases hprogress with
    | nothing hu => exact absurd hu (by simp [hnb])
    | sb _ hs => exact absurd hsb hs
    | of _ _ hs => exact absurd hsb hs
    | @nb t hu hs ho nb sb of =>
      refine ⟨[t, (env.perfCounter w').1], .sb hu (Option.some_ne_none _) ho nb ⟨rfl, rfl⟩ of, ?_⟩
      exact hT.observed hrec'
  next => exact ⟨times, hprogress, hrec⟩

theorem pollOpenflow_polled (hT : Records env T) (h : Polled T prepared startPerf before s) :
    wp (pollOpenflow env prepared startPerf) (fun _ => Polled T prepared startPerf before)
      (fun _ => Polled T prepared startPerf before) s := by
  obtain ⟨v, w⟩ := s
  obtain ⟨times, hprogress, hrec⟩ := h
  simp only [pollOpenflow, wp_bind, wp_locals, wp_ite]
  refine ⟨fun hdue => ?_, fun _ => ⟨times, hprogress, hrec⟩⟩
  simp only [Bool.and_eq_true] at hdue
  obtain ⟨⟨hexpected, hsb⟩, hof⟩ := hdue
  have hseen : v.sbSeenAt ≠ none := Option.isSome_iff_ne_none.mp hsb
  have hfind : Keeps (T (before ++ times)) (env.findOpenflowEvidence prepared) :=
    (hT.dumpOpenflowFlows _ _).bind fun _ => .ofExcept fun _ _ => trivial
  rw [wp_lift]
  apply wp_mono (hfind.wp hrec) _ fun _ w' hrec' => ⟨times, hprogress, hrec'⟩
  intro evidence w' hrec'
  refine ⟨fun _ => ⟨times, hprogress, hrec'⟩, fun _ => ?_⟩
  cases hprogress with
  | nothing _ hs => exact absurd hs hseen
  | nb _ hs => exact absurd hs hseen
  | of _ _ _ ho => exact absurd (Option.isNone_iff_eq_none.mp hof) ho
  | @sb t t' hu hs ho nb sb of =>
    refine ⟨[t, t', (env.perfCounter w').1],
      .of hexpected hu hs (Option.some_ne_none _) nb sb ⟨rfl, rfl⟩, ?_⟩
    exact hT.observed hrec'

theorem pollTurn_polled (hT : Records env T) (deadline : PyFloat)
    (h : Polled T prepared startPerf before s) :
    wp (pollTurn env prepared startPerf deadline) (fun _ => Polled T prepared startPerf before)
      (fun _ => Polled T prepared startPerf before) s := by
  obtain ⟨times, hprogress, hrec⟩ := h
  have hstart : Polled T prepared startPerf before (s.1, (env.perfCounter s.2).2) :=
    ⟨times, hprogress, hT.skip _ _ hrec⟩
  simp only [pollTurn, wp_bind, wp_lift]
  change wp _ _ _ (s.1, (env.perfCounter s.2).2)
  rw [wp_ite]
  refine ⟨fun _ => ?_, fun _ => hstart⟩
  simp only [wp_bind]
  apply wp_mono (pollNb_polled hT hstart) _ fun _ _ he => he
  intro _ s₁ h₁
  apply wp_mono (pollSb_polled hT h₁) _ fun _ _ he => he
  intro _ s₂ h₂
  apply wp_mono (pollOpenflow_polled hT h₂) _ fun _ _ he => he
  intro _ s₃ h₃
  rw [wp_locals, wp_ite]
  refine ⟨fun _ => h₃, fun _ => ?_⟩
  obtain ⟨times₃, hprogress₃, hrec₃⟩ := h₃
  rw [wp_bind, wp_lift]
  exact wp_mono ((hT.sleep _ _).wp hrec₃) (fun _ w' hw' => ⟨times₃, hprogress₃, hw'⟩)
    fun _ w' hw' => ⟨times₃, hprogress₃, hw'⟩

theorem pollLoop_polled (hT : Records env T) (deadline : PyFloat) (fuel : ℕ)
    (h : Polled T prepared startPerf before s) :
    wp (whileFuel (pollTurn env prepared startPerf deadline) fuel)
      (fun _ => Polled T prepared startPerf before)
      (fun _ => Polled T prepared startPerf before) s := by
  refine wp_whileFuel (I := Polled T prepared startPerf before) _ (fun s hs => ?_) fuel s h
  apply wp_mono (pollTurn_polled hT deadline hs) _ fun _ _ he => he
  intro again s' hs'
  cases again <;> exact hs'

end Loop

/-! ### The result -/

section Result

variable {env : Env ω} {T : List ℚ → ω → Prop} {prepared : PreparedProbe}

/-- The result of a loop that was left with the local variables `v`, with the times of its
stages behind the readings around the create command. -/
def Measured (T : List ℚ → ω → Prop) (prepared : PreparedProbe) (v : PollState)
    (result : CanaryProbeResult) (w : ω) : Prop :=
  ∃ startPerf commandAt finishedAt v' startedAt status times,
    result = PollState.result v' prepared startedAt status (elapsedMs startPerf commandAt) ∧
    Finishes prepared startPerf finishedAt v v' times ∧
    T ([startPerf, commandAt] ++ times) w ∧ T ([startPerf, commandAt] ++ times ++ [finishedAt]) w

/-- The create command was carried out, with `J` for the loop after it, or it was refused. -/
theorem executeProbe_measured (hT : Records env T) (fuel : ℕ) (prepared : PreparedProbe) (w : ω)
    (h0 : T [] w) {J : ω → PollState × ω → Prop}
    (hJ : ∀ w₁ startPerf deadline,
      wp (whileFuel (pollTurn env prepared startPerf deadline) fuel) (fun _ => J w₁) (fun _ => J w₁)
        (PollState.start prepared, (env.perfCounter w₁).2)) :
    wp (executeProbe env fuel prepared)
      (fun result w' =>
        (∃ w₁ s, env.run prepared.createCommand (env.perfCounter (env.nowUtc w).2).2 = (.ok (), w₁) ∧
          J w₁ s ∧ w' = (env.perfCounter s.2).2 ∧ Measured T prepared s.1 result w') ∨
        ∃ e w₁ startedAt latency detail,
          env.run prepared.createCommand (env.perfCounter (env.nowUtc w).2).2 = (.raised e, w₁) ∧
          w' = (env.perfCounter w₁).2 ∧
          result = createFailedResult prepared startedAt latency detail)
      (fun _ _ => True) w := by
  have hstart := hT.reading _ _ (hT.nowUtc _ _ h0)
  simp only [executeProbe, wp_bind]
  change wp _ _ _ (env.perfCounter (env.nowUtc w).2).2
  rw [wp_attempt]
  apply wp_mono (wp_run ((hT.run _ _).wp hstart))
  · rintro _ w₁ ⟨hrec, hrun⟩
    have hcommand := hT.reading _ _ hrec
    simp only [wp_bind]
    change wp _ _ _ (env.perfCounter w₁).2
    rw [wp_attemptWith]
    have hpolled : Polled T prepared (env.perfCounter (env.nowUtc w).2).1
        [(env.perfCounter (env.nowUtc w).2).1, (env.perfCounter w₁).1]
        (PollState.start prepared, (env.perfCounter w₁).2) :=
      ⟨[], progress_start _ _, hcommand⟩
    apply wp_mono (wp_and (pollLoop_polled hT _ fuel hpolled) (hJ w₁ _ _))
    · rintro _ s ⟨⟨times, hprogress, hrec'⟩, hleft⟩
      refine .inl ⟨w₁, s, hrun, hleft, rfl, ?_⟩
      exact ⟨_, _, _, _, _, _, times, rfl, hprogress.finishes_onExit, hT.skip _ _ hrec',
        hT.reading _ _ hrec'⟩
    · rintro e s ⟨⟨times, hprogress, hrec'⟩, hleft⟩
      cases hdetail : Exc.httpDetail e with
      | none => trivial
      | some detail =>
        refine .inl ⟨w₁, s, hrun, hleft, rfl, ?_⟩
        exact ⟨_, _, _, _, _, _, times, rfl, hprogress.finishes_onFailure detail, hT.skip _ _ hrec',
          hT.reading _ _ hrec'⟩
  · rintro e w₁ ⟨hrec, hrun⟩
    cases hdetail : Exc.httpDetail e with
    | none => trivial
    | some detail => exact .inr ⟨e, w₁, _, _, _, hrun, rfl, rfl⟩

end Result

/-! ### Latencies add up -/

def CanaryProbeResult.stages (result : CanaryProbeResult) : List CanaryProbeStage :=
  [result.nbCommitted, result.sbRealized, result.openflowRealized]

/-- The latencies of a result are ordered, and its phases add up to its total, the latency
of the last stage that was not skipped. -/
structure Decomposed (result : CanaryProbeResult) (nb total : ℚ) : Prop where
  first : result.nbCommitted.latencyMs = some nb
  command_le : result.commandLatencyMs ≤ nb
  ordered : (result.stages.filterMap CanaryProbeStage.latencyMs).Pairwise (· ≤ ·)
  whole : result.totalLatencyMs = some total
  last : ((result.stages.filter (·.status ≠ .skipped)).getLast?.bind
    CanaryProbeStage.latencyMs) = some total
  sum : nb + result.nbToSbLatencyMs.getD 0 + result.sbToOpenflowLatencyMs.getD 0 = total

section Decomposed

variable {startPerf commandAt t t' : ℚ} {stage stage' : CanaryProbeStage}

theorem elapsedMs_mono (startPerf : ℚ) (h : t ≤ t') : elapsedMs startPerf t ≤ elapsedMs startPerf t' :=
  roundMillis_mono (by linarith)

/-- The difference of two latencies is exact. -/
theorem phaseDeltaMs_seen (h : Seen startPerf stage t) (h' : Ended startPerf stage' t')
    (hle : t ≤ t') :
    phaseDeltaMs stage stage' = some (elapsedMs startPerf t' - elapsedMs startPerf t) := by
  have hmono := elapsedMs_mono startPerf hle
  have hmax : max (elapsedMs startPerf t' - elapsedMs startPerf t) 0 =
      elapsedMs startPerf t' - elapsedMs startPerf t :=
    max_eq_left (by linarith)
  rw [phaseDeltaMs, if_neg (not_not.mpr h.status), h.latencyMs, h'.latencyMs]
  dsimp only
  rw [hmax]
  exact congrArg some (roundMillis_sub _ _)

theorem phaseDeltaMs_blank (h : Blank stage') : phaseDeltaMs stage stage' = none := by
  rw [phaseDeltaMs, h.latencyMs]
  split_ifs
  · rfl
  · cases stage.latencyMs <;> rfl

theorem phaseDeltaMs_unseen (h : stage.status ≠ .observed) : phaseDeltaMs stage stage' = none :=
  if_pos h

theorem decomposed_of_reached {v : PollState} {prepared : PreparedProbe} {times : List ℚ}
    (h : Reached prepared.openflowExpected startPerf v.nbStage v.sbStage v.openflowStage times)
    (hsorted : (commandAt :: times).Pairwise (· ≤ ·)) (startedAt : String) (status : TraceStatus) :
    ∃ nb total,
      Decomposed (v.result prepared startedAt status (elapsedMs startPerf commandAt)) nb total := by
  cases h with
  | @nb t hnb hmissed hsb hof =>
    have hle : commandAt ≤ t := by simpa using hsorted
    refine ⟨elapsedMs startPerf t, elapsedMs startPerf t, hnb.latencyMs, elapsedMs_mono _ hle, ?_, ?_,
      ?_, ?_⟩
    · simp [CanaryProbeResult.stages, PollState.result, PreparedProbe.result, hnb.latencyMs,
        hsb.latencyMs, hof.latencyMs]
    · simp [PollState.result, totalLatencyMs, hsb.status, hof.status, hnb.latencyMs]
    · simp [CanaryProbeResult.stages, PollState.result, PreparedProbe.result, hnb.status, hsb.status,
        hof.status, hnb.latencyMs]
    · simp [PollState.result, phaseDeltaMs_unseen hmissed, phaseDeltaMs_blank hof]
  | @sb t t' hnb hsb hmissed hof =>
    obtain ⟨hle, hle'⟩ : commandAt ≤ t ∧ t ≤ t' := by
      simp only [List.pairwise_cons, List.mem_cons, List.not_mem_nil, or_false] at hsorted
      exact ⟨hsorted.1 t (.inl rfl), hsorted.2.1 t' rfl⟩
    have hmono := elapsedMs_mono startPerf hle'
    refine ⟨elapsedMs startPerf t, elapsedMs startPerf t', hnb.latencyMs, elapsedMs_mono _ hle, ?_, ?_,
      ?_, ?_⟩
    · simp [CanaryProbeResult.stages, PollState.result, PreparedProbe.result, hnb.latencyMs,
        hsb.latencyMs, hof.latencyMs, hmono]
    · simp [PollState.result, totalLatencyMs, hsb.status, hof.status, hsb.latencyMs]
    · simp [CanaryProbeResult.stages, PollState.result, PreparedProbe.result, hnb.status, hsb.status,
        hof.status, hsb.latencyMs]
    · simp [PollState.result, phaseDeltaMs_seen hnb hsb hle', phaseDeltaMs_blank hof]
  | @of t t' t'' he hnb hsb hof =>
    obtain ⟨hle, hle', hle''⟩ : commandAt ≤ t ∧ t ≤ t' ∧ t' ≤ t'' := by
      simp only [List.pairwise_cons, List.mem_cons, List.not_mem_nil, or_false] at hsorted
      exact ⟨hsorted.1 t (.inl rfl), hsorted.2.1 t' (.inl rfl), hsorted.2.2.1 t'' rfl⟩
    have hmono := elapsedMs_mono startPerf hle'
    have hmono' := elapsedMs_mono startPerf hle''
    refine ⟨elapsedMs startPerf t, elapsedMs startPerf t'', hnb.latencyMs, elapsedMs_mono _ hle, ?_, ?_,
      ?_, ?_⟩
    · simp [CanaryProbeResult.stages, PollState.result, PreparedProbe.result, hnb.latencyMs,
        hsb.latencyMs, hof.latencyMs, hmono, hmono', hmono.trans hmono']
    · simp [PollState.result, totalLatencyMs, he, hof.status, hof.latencyMs]
    · simp [CanaryProbeResult.stages, PollState.result, PreparedProbe.result, hnb.status, hsb.status,
        hof.status, hof.latencyMs]
    · simp [PollState.result, phaseDeltaMs_seen hnb hsb.ended hle', phaseDeltaMs_seen hsb hof hle'']

end Decomposed

/-- The same environment with a record of the readings of its clock. -/
def Env.clocked (env : Env ω) : Env (List ℚ × ω) where
  run argv := lift (env.run argv)
  nbIdl := lift env.nbIdl
  sbIdl := lift env.sbIdl
  dumpOpenflowFlows bridge := lift (env.dumpOpenflowFlows bridge)
  sleep t := lift (env.sleep t)
  perfCounter w :=
    let reading := env.perfCounter w.2
    (reading.1, (w.1 ++ [reading.1], reading.2))
  nowUtc w := ((env.nowUtc w.2).1, (w.1, (env.nowUtc w.2).2))

theorem clocked_records (env : Env ω) :
    Records env.clocked fun times s => times.Sublist s.1 where
  reading _ _ h := h.append (List.Sublist.refl _)
  skip _ w h := h.trans (List.sublist_append_left w.1 _)
  nowUtc _ _ h := h
  run _ _ := .of_world fun _ h => h
  nbIdl _ := .of_world fun _ h => h
  sbIdl _ := .of_world fun _ h => h
  dumpOpenflowFlows _ _ := .of_world fun _ h => h
  sleep _ _ := .of_world fun _ h => h

/-- With a clock that does not go back, the latencies of a probe whose canary was created are
ordered and add up, however the poll loop ended. -/
theorem latencies_decompose (env : Env ω) (fuel : ℕ) (prepared : PreparedProbe) (w w₁ w' : ω)
    (readings : List ℚ) (result : CanaryProbeResult)
    (hcreate : env.run prepared.createCommand (env.perfCounter (env.nowUtc w).2).2 = (.ok (), w₁))
    (hrun : executeProbe env.clocked fuel prepared ([], w) = (.ok result, (readings, w')))
    (hclock : readings.Pairwise (· ≤ ·)) : ∃ nb total, Decomposed result nb total := by
  have hmeasured := executeProbe_measured (clocked_records env) fuel prepared ([], w)
    (List.Sublist.refl _) (J := fun _ _ => True) fun _ _ _ =>
      wp_any (fun _ _ _ => trivial) fun _ _ _ => trivial
  have hcreate' : env.clocked.run prepared.createCommand
      (env.clocked.perfCounter (env.clocked.nowUtc ([], w)).2).2 =
        (.ok (), ([(env.perfCounter (env.nowUtc w).2).1], w₁)) := by
    simp only [Env.clocked, lift, hcreate]
    rfl
  obtain ⟨_, v, -, -, -, hv⟩ | ⟨e, w₂, startedAt, latency, detail, hraised, -⟩ :=
    wp_ok hmeasured hrun
  case inr =>
    rw [hcreate'] at hraised
    cases hraised
  obtain ⟨startPerf, commandAt, finishedAt, v', startedAt, status, times, rfl, hfinish, htimes,
    htimes'⟩ := hv
  have hdrop : ∀ ts, ([startPerf, commandAt] ++ ts).Sublist readings →
      (commandAt :: ts).Pairwise (· ≤ ·) :=
    fun ts h => (hclock.sublist h).of_cons
  rcases hfinish.reached with hreached | hreached
  · exact decomposed_of_reached hreached (hdrop _ htimes) startedAt status
  · exact decomposed_of_reached hreached (hdrop _ (by rwa [List.append_assoc] at htimes'))
      startedAt status

def switchRequest : CanaryProbeRequest where
  resourceType := .logicalSwitch
  timeoutS := .fin 3
  timeout_pos := rfl
  poll_ge := defaultPoll_ge

def switchProbe : PreparedProbe :=
  assemble (.uniform 0) switchRequest (logicalSwitchPlan (.uniform 0) .logicalSwitch)

def switchNb : NbIdl where
  logicalSwitch := [⟨.uniform 1, "canary-ls-00000000", [], [], []⟩]

/-- Every command succeeds, the switch stands in the Northbound database at once, the
Southbound database stays as it is, and the clock advances by a second at each reading. -/
def tickingEnv (sb : SbIdl) : Env ℕ where
  run _ := pure ()
  nbIdl := pure switchNb
  sbIdl := pure sb
  dumpOpenflowFlows _ := pure ""
  sleep _ := pure ()
  perfCounter n := (n, n + 1)
  nowUtc n := ("", n)

def realizedSb : SbIdl where
  datapathBinding :=
    [⟨.uniform 2, ["logical-switch"], [], 1,
      [("logical-switch", "11111111-1111-1111-1111-111111111111")]⟩]

theorem latencies_decompose_realized :
    ∃ result readings w',
      executeProbe (tickingEnv realizedSb).clocked 2 switchProbe ([], 0) =
        (.ok result, (readings, w')) ∧
      ∃ nb total, Decomposed result nb total := by
  obtain ⟨result, s, hrun, hclock⟩ := exists_of_returns
    (m := executeProbe (tickingEnv realizedSb).clocked 2 switchProbe) (w := ([], 0))
    (p := fun _ s => decide (s.1.Pairwise (· ≤ ·))) (by decide +kernel)
  exact ⟨result, s.1, s.2, hrun, latencies_decompose (tickingEnv realizedSb) 2 switchProbe 0 1 s.2 s.1
    result rfl hrun (of_decide_eq_true hclock)⟩

/-! ### Which phases report a latency -/

/-- A phase reports a latency only if the stage it leads to was observed, and the total is
reported only if every required stage was. -/
structure OnlyRealised (result : CanaryProbeResult) : Prop where
  nbToSb : result.nbToSbLatencyMs.isSome → result.sbRealized.status = .observed
  sbToOpenflow : result.sbToOpenflowLatencyMs.isSome → result.openflowRealized.status = .observed
  total : result.totalLatencyMs.isSome → result.Converged

def Event.isCommand : Event → Bool
  | .command _ _ => true
  | _ => false

/-- The create command was carried out, behind as many commands as the setup has, and this was
read after it. -/
def ReadAfterCreate (prepared : PreparedProbe) (body reads : List Event) : Prop :=
  ∃ setup, body = setup ++ .command prepared.createCommand (.ok ()) :: reads ∧
    setup.countP Event.isCommand = prepared.setupCommands.length

/-- What a probe with this log read between its create command and its cleanup. -/
def PollReads (prepared : PreparedProbe) (log reads : List Event) : Prop :=
  ∃ body cleanup, log = body ++ cleanup ∧ cleanup.length = prepared.cleanupCommands.length ∧
    ReadAfterCreate prepared body reads

section Realised

variable {env : Env ω} {prepared : PreparedProbe} {startPerf t latency : ℚ} {v v' : PollState}
  {times : List ℚ} {startedAt : String} {status : TraceStatus}

theorem onlyRealised_of_none {result : CanaryProbeResult} (hnb : result.nbToSbLatencyMs = none)
    (hsb : result.sbToOpenflowLatencyMs = none) (htotal : result.totalLatencyMs = none) :
    OnlyRealised result := by
  constructor <;> simp [hnb, hsb, htotal]

theorem Reached.total_isSome {expected : Bool} {nb sb of : CanaryProbeStage}
    (h : Reached expected startPerf nb sb of times) : (totalLatencyMs expected nb sb of).isSome := by
  cases h with
  | nb hnb _ hsb hof => simp [totalLatencyMs, hsb.status, hof.status, hnb.latencyMs]
  | sb _ hsb _ hof => simp [totalLatencyMs, hsb.status, hof.status, hsb.latencyMs]
  | of he _ _ hof => simp [totalLatencyMs, he, hof.status, hof.latencyMs]

/-- A probe that polled always reports a total. -/
theorem Finishes.onlyRealised_iff (h : Finishes prepared startPerf t v v' times) :
    OnlyRealised (v'.result prepared startedAt status latency) ↔ v.complete prepared = true := by
  have hreached : ∃ times, Reached prepared.openflowExpected startPerf v'.nbStage v'.sbStage
      v'.openflowStage times := h.reached.elim (fun hr => ⟨_, hr⟩) fun hr => ⟨_, hr⟩
  obtain ⟨times', hr⟩ := hreached
  rw [← h.complete]
  constructor
  · intro honly
    exact honly.total hr.total_isSome
  · intro hall
    refine ⟨fun _ => hall.2.1, fun hsome => ?_, fun _ => hall⟩
    by_cases he : prepared.openflowExpected = true
    · exact hall.2.2 he
    · have hblank : Blank v'.openflowStage := by
        cases hr with
        | nb _ _ _ hof => exact hof
        | sb _ _ _ hof => exact hof
        | of he' => exact absurd he' he
      have hnone : phaseDeltaMs v'.sbStage v'.openflowStage = none := phaseDeltaMs_blank hblank
      have hsome : (phaseDeltaMs v'.sbStage v'.openflowStage).isSome := hsome
      rw [hnone] at hsome
      cases hsome

/-- Without a record of the clock. -/
theorem records_nothing (env : Env ω) : Records env fun _ _ => True where
  reading _ _ _ := trivial
  skip _ _ _ := trivial
  nowUtc _ _ _ := trivial
  run _ _ := .of_world fun _ _ => trivial
  nbIdl _ := .of_world fun _ _ => trivial
  sbIdl _ := .of_world fun _ _ => trivial
  dumpOpenflowFlows _ _ := .of_world fun _ _ => trivial
  sleep _ _ := .of_world fun _ _ => trivial

/-- What is read adds no command. -/
theorem logged_steady (env : Env ω) (prepared : PreparedProbe) (n : ℕ) :
    env.logged.Steady prepared (fun s => s.1.countP Event.isCommand = n) (fun _ => True) := by
  have hread {α : Type} {entry : Except Exc α → Event} {m : Prog ω Exc α}
      (h : ∀ answer, (entry answer).isCommand = false) :
      Keeps (fun s : List Event × ω => s.1.countP Event.isCommand = n) (logging entry m) := by
    refine .of_world fun s hs => ?_
    unfold logging
    rcases m s.2 with ⟨a | e | _, w'⟩ <;> simpa [h] using hs
  constructor
  case perf | now => exact .read fun _ h => h
  case findNbRow => exact (hread fun _ => rfl).bind fun _ => .ofExcept fun _ _ => trivial
  case findNamedNbRow => exact fun _ _ => (hread fun _ => rfl).bind fun _ => .ofExcept fun _ _ => trivial
  case findSbEvidence => exact fun _ => (hread fun _ => rfl).bind fun _ => .ofExcept fun _ _ => trivial
  case findSbParentEvidence => exact fun _ _ => (hread fun _ => rfl).bind fun _ => .pure _
  case findOpenflowEvidence => exact (hread fun _ => rfl).bind fun _ => .ofExcept fun _ _ => trivial
  case sleep => exact fun t => .of_world fun _ h => h

theorem forEach_commands (env : Env ω) (commands : List (List String)) (s : List Event × ω) :
    wp (forEach env.logged.run commands)
      (fun _ s' => s'.1.countP Event.isCommand = s.1.countP Event.isCommand + commands.length)
      (fun _ s' => s'.1.countP Event.isCommand ≤ s.1.countP Event.isCommand + commands.length) s := by
  induction commands generalizing s with
  | nil => exact rfl
  | cons command rest ih =>
    refine (wp_bind _ _).mpr (wp_logging (fun a w' _ => ?_) fun e w' _ => ?_)
    · refine wp_mono (ih _) (fun _ s' hs' => ?_) fun _ s' hs' => ?_
      · simp [hs', Event.isCommand]
        omega
      · simp [Event.isCommand] at hs' ⊢
        omega
    · simp [Event.isCommand]

/-- A setup that was carried out has run all its commands, one that was not has run no more. -/
theorem runSetup_commands (env : Env ω) (fuel : ℕ) (prepared : PreparedProbe) (w : ω) :
    wp (runSetup env.logged fuel prepared)
      (fun _ s => s.1.countP Event.isCommand = prepared.setupCommands.length)
      (fun _ s => s.1.countP Event.isCommand ≤ prepared.setupCommands.length) ([], w) := by
  refine (wp_bind _ _).mpr (wp_mono (forEach_commands env prepared.setupCommands ([], w)) ?_ ?_)
  · intro _ s hs
    replace hs : s.1.countP Event.isCommand = prepared.setupCommands.length := by simpa using hs
    cases prepared.setupWait with
    | none => exact hs
    | some wait =>
      have hsteady := logged_steady env prepared prepared.setupCommands.length
      have hwait := hsteady.perf.bind fun t =>
        Safe.whileFuel (hsteady.setupTurn (fun _ => trivial)
          (PyFloat.addExact (.fin t) prepared.timeoutS) wait.1 wait.2) fuel
      exact wp_mono (hwait.wp hs) (fun _ _ h => h) fun _ _ h => h.le
  · intro e s hs
    simpa using hs

theorem executeProbe_shown (env : Env ω) (fuel : ℕ) (prepared : PreparedProbe) (s : List Event × ω) :
    wp (executeProbe env.logged fuel prepared)
      (fun result s' => ∃ answer reads, s'.1 = s.1 ++ .command prepared.createCommand answer :: reads ∧
        (OnlyRealised result ↔ (answer = .ok () → Shown prepared reads)))
      (fun _ _ => True) s := by
  have hcommand : wp (env.logged.run prepared.createCommand)
      (fun _ s' => s'.1 = s.1 ++ [.command prepared.createCommand (.ok ())])
      (fun e s' => s'.1 = s.1 ++ [.command prepared.createCommand (.error e)])
      (env.logged.perfCounter (env.logged.nowUtc s).2).2 :=
    wp_logging (fun _ _ _ => rfl) fun _ _ _ => rfl
  have hmeasured := executeProbe_measured (records_nothing env.logged) fuel prepared s trivial
    (J := fun s₁ => Polling prepared s₁.1) fun s₁ _ _ =>
      pollLoop_inv _ _ fuel ⟨[], (List.append_nil _).symm, PollInv.start⟩
  refine wp_mono hmeasured ?_ fun _ _ _ => trivial
  rintro result s' (⟨s₁, left, hrun, ⟨reads, hlog, hinv⟩, rfl, hv⟩ |
    ⟨e, s₁, startedAt, latency, detail, hrun, rfl, rfl⟩)
  · have hs₁ := wp_ok hcommand hrun
    obtain ⟨startPerf, commandAt, finishedAt, v', startedAt, status, times, rfl, hfinish, -⟩ := hv
    refine ⟨.ok (), reads, ?_, ?_⟩
    · change left.2.1 = _
      rw [hlog, hs₁, List.append_assoc]
      rfl
    · rw [hfinish.onlyRealised_iff, hinv.complete_iff]
      simp
  · have hs₁ := wp_raised hcommand hrun
    exact ⟨.error e, [], hs₁, iff_of_true (onlyRealised_of_none rfl rfl rfl) nofun⟩

theorem probeBody_shown (env : Env ω) (fuel : ℕ) (prepared : PreparedProbe) (w : ω) :
    wp (probeBody env.logged fuel prepared)
      (fun result s => OnlyRealised result ↔
        ∀ reads, ReadAfterCreate prepared s.1 reads → Shown prepared reads)
      (fun _ _ => True) ([], w) := by
  simp only [probeBody, wp_bind, wp_attempt]
  refine wp_mono (runSetup_commands env fuel prepared w) ?_ ?_
  · intro _ s hsetup
    refine wp_mono (executeProbe_shown env fuel prepared s) ?_ fun _ _ _ => trivial
    rintro result s' ⟨answer, reads, hlog, hshown⟩
    rw [hshown]
    constructor
    · rintro h reads' ⟨setup, hlog', hcount⟩
      obtain ⟨-, hcreate, rfl⟩ := append_cons_inj_of_countP (hlog.symm.trans hlog')
        (hsetup.trans hcount.symm) rfl rfl
      exact h (Event.command.inj hcreate).2
    · rintro h rfl
      exact h reads ⟨s.1, hlog, hsetup⟩
  · intro e s hsetup
    cases hdetail : Exc.httpDetail e with
    | none => trivial
    | some detail =>
      refine iff_of_true (onlyRealised_of_none rfl rfl rfl) ?_
      rintro reads ⟨setup, hlog, hcount⟩
      change s.1 = _ at hlog
      rw [hlog, List.countP_append, hcount] at hsetup
      simp [Event.isCommand] at hsetup

end Realised

/-- The latencies of a result belong to realised phases exactly if what was read after the
create command, once that was carried out, shows everything the probe waits for. -/
theorem onlyRealised_iff_shown (env : Env ω) (fuel : ℕ) (prepared : PreparedProbe) (w w' : ω)
    (log : List Event) (result : CanaryProbeResult)
    (hrun : runPreparedProbe env.logged fuel prepared ([], w) = (.ok result, (log, w'))) :
    OnlyRealised result ↔ ∀ reads, PollReads prepared log reads → Shown prepared reads := by
  obtain ⟨body, answers, stage, finishedAt, result₀, rfl, hbody, hcleanup, -⟩ :=
    wp_ok (runPreparedProbe_closed (Q := fun result body => OnlyRealised result ↔
      ∀ reads, ReadAfterCreate prepared body reads → Shown prepared reads)
      (probeBody_shown env fuel prepared w)) hrun
  have hlog : log = body ++ cleanupEvents prepared.cleanupCommands answers := hcleanup.log
  have hlength : (cleanupEvents prepared.cleanupCommands answers).length =
      prepared.cleanupCommands.length := by simp [cleanupEvents, hcleanup.length]
  -- what is assigned after cleanup is no latency and no required stage
  have hclose : OnlyRealised (result₀.close stage finishedAt) ↔ OnlyRealised result₀ :=
    ⟨fun h => ⟨h.1, h.2, h.3⟩, fun h => ⟨h.1, h.2, h.3⟩⟩
  rw [hclose, hbody]
  constructor
  · rintro h reads ⟨body', cleanup, hsplit, hcleanup, hreads⟩
    obtain ⟨rfl, -⟩ := List.append_inj' (hlog.symm.trans hsplit) (hlength.trans hcleanup.symm)
    exact h reads hreads
  · intro h reads hreads
    exact h reads ⟨body, _, hlog, hlength, hreads⟩

/-- Two reads show the switch and its datapath. -/
theorem shown_realized : Shown switchProbe [.nbRead (.ok switchNb), .sbRead (.ok realizedSb)] := by
  refine ⟨⟨(Core.Uuid.uniform 1).text, ⟨switchNb, _, List.mem_cons_self, rfl, rfl⟩,
    ⟨realizedSb, _, List.mem_cons_of_mem _ List.mem_cons_self, rfl, ?_⟩⟩, nofun⟩
  decide +kernel

theorem onlyRealised_iff_shown_realized :
    ∃ result log w', runPreparedProbe (tickingEnv realizedSb).logged 2 switchProbe ([], 0) =
        (.ok result, (log, w')) ∧ result.totalLatencyMs = some 4000 ∧ OnlyRealised result := by
  obtain ⟨result, ⟨log, w'⟩, hrun, hresult⟩ := exists_of_returns
    (m := runPreparedProbe (tickingEnv realizedSb).logged 2 switchProbe) (w := ([], 0))
    (p := fun result s => decide (result.totalLatencyMs = some 4000 ∧
      s.1 = [.command switchProbe.createCommand (.ok ()), .nbRead (.ok switchNb),
        .sbRead (.ok realizedSb)] ++ switchProbe.cleanupCommands.map (.command · (.ok ()))))
    (by decide +kernel)
  obtain ⟨htotal, rfl⟩ := of_decide_eq_true hresult
  refine ⟨result, _, w', hrun, htotal,
    (onlyRealised_iff_shown (tickingEnv realizedSb) 2 switchProbe 0 w' _ result hrun).mpr ?_⟩
  rintro reads ⟨body, cleanup, hlog, hlength, setup, rfl, hcount⟩
  obtain ⟨hbody, -⟩ := List.append_inj' hlog (by simp [hlength])
  obtain ⟨-, -, rfl⟩ := append_cons_inj_of_countP (l := []) hbody hcount.symm rfl rfl
  exact shown_realized

/-- The switch never reaches the Southbound database: the wait for it is reported as the
latency from the Northbound to the Southbound database, and as the total. -/
theorem truncated_wait_reported :
    buildProbe (.error (.http 503 "OVN NB is not connected.")) (.uniform 0) switchRequest =
        .ok switchProbe ∧
      ∃ result w', runPreparedProbe (tickingEnv {}) 2 switchProbe 0 = (.ok result, w') ∧
        result.sbRealized.status = .timeout ∧ result.nbToSbLatencyMs = some 2000 ∧
        result.totalLatencyMs = some 5000 ∧ ¬OnlyRealised result := by
  obtain ⟨result, w', hrun, hresult⟩ := exists_of_returns
    (m := runPreparedProbe (tickingEnv {}) 2 switchProbe) (w := 0)
    (p := fun result _ => decide (result.sbRealized.status = .timeout ∧
      result.nbToSbLatencyMs = some 2000 ∧ result.totalLatencyMs = some 5000)) (by decide +kernel)
  obtain ⟨hstatus, hdelta, htotal⟩ := of_decide_eq_true hresult
  refine ⟨rfl, result, w', hrun, hstatus, hdelta, htotal, fun h => ?_⟩
  have hobserved := h.nbToSb (by rw [hdelta]; rfl)
  rw [hstatus] at hobserved
  cases hobserved

end OvnApi.Traces
