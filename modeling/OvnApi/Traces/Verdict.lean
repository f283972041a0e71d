import OvnApi.Lib.Deadline
import OvnApi.Traces.Execute

/-! The verdict of a probe. The invariant of the poll loop ties the stage
records to the local variables and to the reads made so far: a stage is observed
exactly when its variable is set, and that is when some read returned its evidence. On
every exit path a required stage is left skipped only behind one that failed or
timed out, so the verdict computed after cleanup is a success only for a
pipeline that converged. -/

namespace OvnApi.Traces

open OvnApi.Core Lib Lib.Prog

variable {ω : Type}

/-! ### Evidence in the log -/

/-- Some Northbound read of the log shows a row that the finder takes for the canary. -/
def NbFound (prepared : PreparedProbe) (log : List Event) (nbUuid : String) : Prop :=
  ∃ idl row, Event.nbRead (.ok idl) ∈ log ∧ findNbRow prepared idl = .ok (some row) ∧
    row.uuid.text = nbUuid

/-- Some Southbound read of the log shows evidence for this row. -/
def SbFound (prepared : PreparedProbe) (log : List Event) (nbUuid : String) : Prop :=
  ∃ idl evidence, Event.sbRead (.ok idl) ∈ log ∧
    findSbEvidence prepared idl nbUuid = .ok evidence ∧ evidence ≠ []

/-- Some flow dump of the log shows evidence. -/
def OpenflowFound (prepared : PreparedProbe) (log : List Event) : Prop :=
  ∃ raw evidence, Event.openflowRead prepared.bridge (.ok raw) ∈ log ∧
    findOpenflowEvidence prepared raw = .ok evidence ∧ evidence ≠ []

/-- The reads show everything the probe waits for. -/
def Shown (prepared : PreparedProbe) (reads : List Event) : Prop :=
  (∃ u, NbFound prepared reads u ∧ SbFound prepared reads u) ∧
    (prepared.openflowExpected = true → OpenflowFound prepared reads)

/-- An entry that shows nothing new, to a probe that looks for this Northbound row. -/
structure Silent (prepared : PreparedProbe) (nbUuid : Option String) (entry : Event) : Prop where
  nb : ∀ u, ¬NbFound prepared [entry] u
  sb : ∀ u, (∀ x ∈ nbUuid, x = u) → ¬SbFound prepared [entry] u
  of : ¬OpenflowFound prepared [entry]

section Found

variable {prepared : PreparedProbe} {log log' : List Event} {nbUuid : String} {u : Option String}

theorem NbFound.mono (h : NbFound prepared log nbUuid) (hsub : log ⊆ log') :
    NbFound prepared log' nbUuid := by
  obtain ⟨idl, row, hmem, hrow⟩ := h
  exact ⟨idl, row, hsub hmem, hrow⟩

theorem SbFound.mono (h : SbFound prepared log nbUuid) (hsub : log ⊆ log') :
    SbFound prepared log' nbUuid := by
  obtain ⟨idl, evidence, hmem, hev⟩ := h
  exact ⟨idl, evidence, hsub hmem, hev⟩

theorem OpenflowFound.mono (h : OpenflowFound prepared log) (hsub : log ⊆ log') :
    OpenflowFound prepared log' := by
  obtain ⟨raw, evidence, hmem, hev⟩ := h
  exact ⟨raw, evidence, hsub hmem, hev⟩

theorem nbFound_append : NbFound prepared (log ++ log') nbUuid ↔
    NbFound prepared log nbUuid ∨ NbFound prepared log' nbUuid := by
  simp only [NbFound, List.mem_append, or_and_right, exists_or]

theorem sbFound_append : SbFound prepared (log ++ log') nbUuid ↔
    SbFound prepared log nbUuid ∨ SbFound prepared log' nbUuid := by
  simp only [SbFound, List.mem_append, or_and_right, exists_or]

theorem openflowFound_append : OpenflowFound prepared (log ++ log') ↔
    OpenflowFound prepared log ∨ OpenflowFound prepared log' := by
  simp only [OpenflowFound, List.mem_append, or_and_right, exists_or]

theorem nbFound_nbRead {idl : NbIdl} : NbFound prepared [.nbRead (.ok idl)] nbUuid ↔
    ∃ row, findNbRow prepared idl = .ok (some row) ∧ row.uuid.text = nbUuid := by
  simp [NbFound]

theorem not_nbFound {entry : Event} (h : ∀ answer, entry ≠ .nbRead answer) :
    ¬NbFound prepared [entry] nbUuid := by
  rintro ⟨idl, row, hmem, -⟩
  exact h _ (List.mem_singleton.mp hmem).symm

theorem not_sbFound {entry : Event} (h : ∀ answer, entry ≠ .sbRead answer) :
    ¬SbFound prepared [entry] nbUuid := by
  rintro ⟨idl, evidence, hmem, -⟩
  exact h _ (List.mem_singleton.mp hmem).symm

theorem not_openflowFound {entry : Event} (h : ∀ bridge answer, entry ≠ .openflowRead bridge answer) :
    ¬OpenflowFound prepared [entry] := by
  rintro ⟨raw, evidence, hmem, -⟩
  exact h _ _ (List.mem_singleton.mp hmem).symm

theorem silent_nbRead {answer : Except Exc NbIdl}
    (h : ∀ idl row, answer = .ok idl → findNbRow prepared idl ≠ .ok (some row)) :
    Silent prepared u (.nbRead answer) := by
  refine ⟨?_, fun _ _ => not_sbFound (by simp), not_openflowFound (by simp)⟩
  rintro x ⟨idl, row, hmem, hrow, -⟩
  exact h idl row (Event.nbRead.inj (List.mem_singleton.mp hmem)).symm hrow

theorem silent_sbRead {answer : Except Exc SbIdl}
    (h : ∀ idl evidence, answer = .ok idl → findSbEvidence prepared idl nbUuid = .ok evidence →
      evidence = []) : Silent prepared (some nbUuid) (.sbRead answer) := by
  refine ⟨fun _ => not_nbFound (by simp), ?_, not_openflowFound (by simp)⟩
  rintro x hx ⟨idl, evidence, hmem, hev, hne⟩
  obtain rfl := hx nbUuid rfl
  exact hne (h idl evidence (Event.sbRead.inj (List.mem_singleton.mp hmem)).symm hev)

theorem silent_openflowRead {answer : Except Exc String}
    (h : ∀ raw evidence, answer = .ok raw → findOpenflowEvidence prepared raw = .ok evidence →
      evidence = []) : Silent prepared u (.openflowRead prepared.bridge answer) := by
  refine ⟨fun _ => not_nbFound (by simp), fun _ _ => not_sbFound (by simp), ?_⟩
  rintro ⟨raw, evidence, hmem, hev, hne⟩
  exact hne (h raw evidence (Event.openflowRead.inj (List.mem_singleton.mp hmem)).2.symm hev)

end Found

/-! ### What the operations of a logged environment do -/

section Logged

variable {env : Env ω} {prepared : PreparedProbe} {log : List Event} {w : ω}
  {E : Exc → List Event × ω → Prop}

theorem wp_logged_perf {R : ℚ → List Event × ω → Prop} (h : ∀ t w', R t (log, w')) :
    wp env.logged.perf R E (log, w) := h _ _

theorem wp_logged_now {R : String → List Event × ω → Prop} (h : ∀ t w', R t (log, w')) :
    wp env.logged.now R E (log, w) := h _ _

theorem wp_logged_sleep {t : ℚ} {R : Unit → List Event × ω → Prop} (h : ∀ w', R () (log, w'))
    (he : ∀ e w', E e (log, w')) : wp (env.logged.sleep t) R E (log, w) := by
  refine (wp_lift _ _ _ _).mpr (wp_any ?_ ?_)
  · intro _ w' _; exact h w'
  · intro e w' _; exact he e w'

/-- A read is logged, and then searched; a failure of either is silent. -/
theorem wp_logged_find {α β : Type} {read : Prog ω Exc α} {event : Except Exc α → Event}
    {find : α → Except Exc β} {u : Option String} {R : β → List Event × ω → Prop}
    (hsilent : ∀ answer, (∀ x y, answer = .ok x → find x ≠ .ok y) → Silent prepared u (event answer))
    (h : ∀ x y w', find x = .ok y → R y (log ++ [event (.ok x)], w'))
    (he : ∀ e entry w', Silent prepared u entry → E e (log ++ [entry], w')) :
    wp (logging event read >>= fun x => ofExcept (find x)) R E (log, w) := by
  refine (wp_bind _ _).mpr (wp_logging ?_ ?_)
  · intro x w' _
    refine (wp_ofExcept _).mpr ⟨fun y hy => h x y w' hy, fun e hfind => he e _ w' (hsilent _ ?_)⟩
    intro x' y heq
    simp [← Except.ok.inj heq, hfind]
  · intro e w' _
    exact he e _ w' (hsilent _ nofun)

theorem wp_logged_findNbRow (u : Option String) {R : Option NbRow → List Event × ω → Prop}
    (h : ∀ idl found w', findNbRow prepared idl = .ok found →
      R found (log ++ [.nbRead (.ok idl)], w'))
    (he : ∀ e entry w', Silent prepared u entry → E e (log ++ [entry], w')) :
    wp (env.logged.findNbRow prepared) R E (log, w) :=
  wp_logged_find (fun _ hnone => silent_nbRead fun idl _ heq => hnone idl _ heq) h he

theorem wp_logged_findSbEvidence {nbUuid : String} {R : List String → List Event × ω → Prop}
    (h : ∀ idl evidence w', findSbEvidence prepared idl nbUuid = .ok evidence →
      R evidence (log ++ [.sbRead (.ok idl)], w'))
    (he : ∀ e entry w', Silent prepared (some nbUuid) entry → E e (log ++ [entry], w')) :
    wp (env.logged.findSbEvidence prepared nbUuid) R E (log, w) :=
  wp_logged_find (fun _ hnone => silent_sbRead fun idl _ heq hev => absurd hev (hnone idl _ heq)) h he

theorem wp_logged_findOpenflowEvidence (u : Option String) {R : List String → List Event × ω → Prop}
    (h : ∀ raw evidence w', findOpenflowEvidence prepared raw = .ok evidence →
      R evidence (log ++ [.openflowRead prepared.bridge (.ok raw)], w'))
    (he : ∀ e entry w', Silent prepared u entry → E e (log ++ [entry], w')) :
    wp (env.logged.findOpenflowEvidence prepared) R E (log, w) :=
  wp_logged_find (fun _ hnone => silent_openflowRead fun raw _ heq hev => absurd hev (hnone raw _ heq))
    h he

end Logged

/-! ### The invariant of the poll loop -/

/-- The stage records agree with the local variables, and the variables with what the loop has
read. -/
structure PollInv (prepared : PreparedProbe) (v : PollState) (reads : List Event) : Prop where
  nb_status : v.nbStage.status = if v.nbUuid.isSome then .observed else .timeout
  sb_status : v.sbStage.status = if v.sbSeenAt.isSome then .observed else .timeout
  of_status : prepared.openflowExpected = true →
    v.openflowStage.status = if v.ofSeenAt.isSome then .observed else .timeout
  of_disabled : prepared.openflowExpected = false →
    v.openflowStage.status = .skipped ∧ v.ofSeenAt = none
  sb_after_nb : v.sbSeenAt.isSome → v.nbUuid.isSome
  of_after_sb : v.ofSeenAt.isSome → v.sbSeenAt.isSome
  nb_found : ∀ u, v.nbUuid = some u ↔ NbFound prepared reads u
  sb_found : ∀ u, (∀ x ∈ v.nbUuid, x = u) → (v.sbSeenAt.isSome ↔ SbFound prepared reads u)
  of_found : v.ofSeenAt.isSome ↔ OpenflowFound prepared reads

section Poll

variable {env : Env ω} {prepared : PreparedProbe} {v : PollState} {reads before : List Event}

theorem PollInv.start : PollInv prepared (PollState.start prepared) [] := by
  constructor <;>
    simp +contextual [PollState.start, openflowDisabled, NbFound, SbFound, OpenflowFound]

theorem PollInv.silent (h : PollInv prepared v reads) {entry : Event}
    (hs : Silent prepared v.nbUuid entry) : PollInv prepared v (reads ++ [entry]) :=
  { h with
    nb_found := fun u => by simp [h.nb_found u, nbFound_append, hs.nb u]
    sb_found := fun u hu => by simp [h.sb_found u hu, sbFound_append, hs.sb u hu]
    of_found := by simp [h.of_found, openflowFound_append, hs.of] }

theorem PollInv.sb_none (h : PollInv prepared v reads) (hnb : v.nbUuid = none) :
    v.sbSeenAt = none := by
  have := h.sb_after_nb
  simpa [hnb] using this

theorem PollInv.of_none (h : PollInv prepared v reads) (hsb : v.sbSeenAt = none) :
    v.ofSeenAt = none := by
  have := h.of_after_sb
  simpa [hsb] using this

/-- The loop has seen everything exactly if its reads show it. -/
theorem PollInv.complete_iff (h : PollInv prepared v reads) :
    v.complete prepared = true ↔ Shown prepared reads := by
  have hpair : (v.nbUuid.isSome ∧ v.sbSeenAt.isSome) ↔
      ∃ u, NbFound prepared reads u ∧ SbFound prepared reads u := by
    constructor
    · rintro ⟨hnb, hsb⟩
      obtain ⟨u, hu⟩ := Option.isSome_iff_exists.mp hnb
      exact ⟨u, (h.nb_found u).mp hu, (h.sb_found u (by simp [hu])).mp hsb⟩
    · rintro ⟨u, hnb, hsb⟩
      have hu := (h.nb_found u).mpr hnb
      exact ⟨by simp [hu], (h.sb_found u (by simp [hu])).mpr hsb⟩
  rw [Shown, ← hpair, ← h.of_found]
  cases he : prepared.openflowExpected <;> simp [PollState.complete, he]

/-- The invariant, over a log that began with `before`. -/
def Polling (prepared : PreparedProbe) (before : List Event) (s : PollState × List Event × ω) :
    Prop :=
  ∃ reads, s.2.1 = before ++ reads ∧ PollInv prepared s.1 reads

variable {s : PollState × List Event × ω}

theorem PollInv.polling {w : ω} (h : PollInv prepared v reads) :
    Polling prepared before (v, before ++ reads, w) := ⟨reads, rfl, h⟩

theorem PollInv.polling_silent {w : ω} {entry : Event} (h : PollInv prepared v reads)
    (hs : Silent prepared v.nbUuid entry) :
    Polling prepared before (v, before ++ reads ++ [entry], w) :=
  ⟨reads ++ [entry], List.append_assoc _ _ _, h.silent hs⟩

theorem pollNb_inv (startPerf : ℚ) (h : Polling prepared before s) :
    wp (pollNb env.logged prepared startPerf) (fun _ => Polling prepared before)
      (fun _ => Polling prepared before) s := by
  obtain ⟨v, log, w⟩ := s
  obtain ⟨reads, rfl, h : PollInv prepared v reads⟩ := h
  simp only [pollNb, wp_bind, wp_locals, wp_ite]
  refine ⟨fun hnone => ?_, fun _ => h.polling⟩
  refine (wp_lift _ _ _ _).mpr (wp_logged_findNbRow v.nbUuid ?_ fun _ _ _ hs => h.polling_silent hs)
  intro idl found w' hfound
  cases found with
  | none =>
    exact h.polling_silent (silent_nbRead fun _ _ heq => by simp [← Except.ok.inj heq, hfound])
  | some row =>
    simp only [wp_bind, wp_lift, wp_setLocals]
    refine wp_logged_perf fun t w₁ => wp_logged_now fun t' w₂ => ?_
    refine ⟨reads ++ [.nbRead (.ok idl)], List.append_assoc _ _ _, ?_⟩
    have hfirst : ∀ u, ¬NbFound prepared reads u := fun u => by simp [← h.nb_found u, hnone]
    have hsb : ∀ u, ¬SbFound prepared reads u := fun u => by
      simp [← h.sb_found u (by simp [hnone]), h.sb_none hnone]
    exact
      { h with
        nb_status := rfl
        sb_after_nb := fun _ => rfl
        nb_found := fun u => by simp [nbFound_append, nbFound_nbRead, hfirst u, hfound]
        sb_found := fun u _ => by
          simp [sbFound_append, hsb u, h.sb_none hnone, not_sbFound]
        of_found := by simp [h.of_found, openflowFound_append, not_openflowFound] }

theorem eq_nil_of_found {α β : Type} {find : α → Except Exc (List β)} {x : α} {evidence : List β}
    (hfound : find x = .ok evidence) (hempty : evidence.isEmpty = true) (x' : α) (evidence' : List β)
    (heq : (Except.ok x : Except Exc α) = .ok x') (h : find x' = .ok evidence') : evidence' = [] := by
  rw [← Except.ok.inj heq, hfound] at h
  rw [← Except.ok.inj h]
  exact List.isEmpty_iff.mp hempty

theorem pollSb_inv (startPerf : ℚ) (h : Polling prepared before s) :
    wp (pollSb env.logged prepared startPerf) (fun _ => Polling prepared before)
      (fun _ => Polling prepared before) s := by
  obtain ⟨v, log, w⟩ := s
  obtain ⟨reads, rfl, h : PollInv prepared v reads⟩ := h
  simp only [pollSb, wp_bind, wp_locals]
  split
  next nbUuid hnb hsb =>
    change v.nbUuid = some nbUuid at hnb
    simp only [wp_bind, wp_lift]
    refine wp_logged_findSbEvidence ?_ fun _ _ _ hs => h.polling_silent (hnb ▸ hs)
    intro idl evidence w' hfound
    simp only [wp_ite]
    refine ⟨fun hempty => h.polling_silent ?_, fun hne => ?_⟩
    · exact hnb ▸ silent_sbRead (eq_nil_of_found hfound hempty)
    · simp only [wp_bind, wp_lift, wp_setLocals]
      refine wp_logged_perf fun t w₁ => wp_logged_now fun t' w₂ => ?_
      refine ⟨reads ++ [.sbRead (.ok idl)], List.append_assoc _ _ _, ?_⟩
      exact
        { h with
          sb_status := rfl
          sb_after_nb := fun _ => by simp [hnb]
          of_after_sb := fun _ => rfl
          nb_found := fun u => by simp [h.nb_found u, nbFound_append, not_nbFound]
          sb_found := fun u hu => by
            obtain rfl : nbUuid = u := hu nbUuid hnb
            refine iff_of_true rfl (sbFound_append.mpr (.inr ?_))
            exact ⟨idl, evidence, List.mem_singleton_self _, hfound, by simpa using hne⟩
          of_found := by simp [h.of_found, openflowFound_append, not_openflowFound] }
  next => exact h.polling

theorem pollOpenflow_inv (startPerf : ℚ) (h : Polling prepared before s) :
    wp (pollOpenflow env.logged prepared startPerf) (fun _ => Polling prepared before)
      (fun _ => Polling prepared before) s := by
  obtain ⟨v, log, w⟩ := s
  obtain ⟨reads, rfl, h : PollInv prepared v reads⟩ := h
  simp only [pollOpenflow, wp_bind, wp_locals, wp_ite]
  refine ⟨fun hdue => ?_, fun _ => h.polling⟩
  simp only [Bool.and_eq_true] at hdue
  obtain ⟨⟨hexpected, hsb⟩, _⟩ := hdue
  refine (wp_lift _ _ _ _).mpr (wp_logged_findOpenflowEvidence v.nbUuid ?_ fun _ _ _ hs =>
    h.polling_silent hs)
  intro raw evidence w' hfound
  refine ⟨fun hempty => h.polling_silent ?_, fun hne => ?_⟩
  · exact silent_openflowRead (eq_nil_of_found hfound hempty)
  · simp only [wp_lift, wp_setLocals]
    refine wp_logged_perf fun t w₁ => wp_logged_now fun t' w₂ => ?_
    refine ⟨reads ++ [.openflowRead prepared.bridge (.ok raw)], List.append_assoc _ _ _, ?_⟩
    exact
      { h with
        of_status := fun _ => rfl
        of_disabled := fun hoff => by simp [hexpected] at hoff
        of_after_sb := fun _ => hsb
        nb_found := fun u => by simp [h.nb_found u, nbFound_append, not_nbFound]
        sb_found := fun u hu => by simp [h.sb_found u hu, sbFound_append, not_sbFound]
        of_found := by
          refine iff_of_true rfl (openflowFound_append.mpr (.inr ?_))
          exact ⟨raw, evidence, List.mem_singleton_self _, hfound, by simpa using hne⟩ }

theorem pollTurn_inv (startPerf : ℚ) (deadline : PyFloat) (h : Polling prepared before s) :
    wp (pollTurn env.logged prepared startPerf deadline) (fun _ => Polling prepared before)
      (fun _ => Polling prepared before) s := by
  simp only [pollTurn, wp_bind, wp_lift]
  refine wp_logged_perf fun t w₁ => ?_
  simp only [wp_ite, wp_bind, wp_locals, wp_lift, wp_pure]
  refine ⟨fun _ => ?_, fun _ => h⟩
  refine wp_mono (pollNb_inv startPerf h) (fun _ s₁ h₁ => ?_) fun _ _ he => he
  refine wp_mono (pollSb_inv startPerf h₁) (fun _ s₂ h₂ => ?_) fun _ _ he => he
  refine wp_mono (pollOpenflow_inv startPerf h₂) (fun _ s₃ h₃ => ?_) fun _ _ he => he
  exact ⟨fun _ => h₃, fun _ => wp_logged_sleep (fun _ => h₃) fun _ _ => h₃⟩

theorem pollLoop_inv (startPerf : ℚ) (deadline : PyFloat) (fuel : ℕ) (h : Polling prepared before s) :
    wp (whileFuel (pollTurn env.logged prepared startPerf deadline) fuel)
      (fun _ => Polling prepared before) (fun _ => Polling prepared before) s := by
  refine wp_whileFuel (I := Polling prepared before) _ (fun s hs => ?_) fuel s h
  refine wp_mono (pollTurn_inv startPerf deadline hs) (fun again s' hs' => ?_) fun _ _ he => he
  cases again <;> exact hs'

end Poll

/-! ### Every exit path -/

/-- What holds of a result before cleanup, on whichever path it was built. -/
structure Settled (prepared : PreparedProbe) (result : CanaryProbeResult) (log : List Event) :
    Prop where
  expected : result.openflowExpected = prepared.openflowExpected
  nb_not_skipped : result.nbCommitted.status ≠ .skipped
  sb_skipped : result.sbRealized.status = .skipped → result.nbCommitted.status ≠ .observed
  of_skipped : result.openflowExpected = true → result.openflowRealized.status = .skipped →
    result.sbRealized.status ≠ .observed
  sb_after_nb : result.sbRealized.status = .observed → result.nbCommitted.status = .observed
  of_after_sb : result.openflowRealized.status = .observed →
    result.sbRealized.status = .observed
  nb_uuid : result.nbUuid.isSome ↔ result.nbCommitted.status = .observed
  nb_found : ∀ u, result.nbUuid = some u → NbFound prepared log u
  sb_found : ∀ u, result.nbUuid = some u → result.sbRealized.status = .observed →
    SbFound prepared log u
  of_found : result.openflowRealized.status = .observed → OpenflowFound prepared log

section Exits

variable {env : Env ω} {prepared : PreparedProbe} {v : PollState} {log : List Event}

theorem Settled.mono {result : CanaryProbeResult} {log' : List Event}
    (h : Settled prepared result log) (hsub : log ⊆ log') : Settled prepared result log' :=
  { h with
    nb_found := fun u hu => (h.nb_found u hu).mono hsub
    sb_found := fun u hu hs => (h.sb_found u hu hs).mono hsub
    of_found := fun ho => (h.of_found ho).mono hsub }

/-- A result in which every required stage failed. -/
theorem settled_of_failed {result : CanaryProbeResult}
    (he : result.openflowExpected = prepared.openflowExpected) (hu : result.nbUuid = none)
    (hnb : result.nbCommitted.status = .failed) (hsb : result.sbRealized.status = .failed)
    (hof : result.openflowRealized.status ≠ .observed) : Settled prepared result log := by
  constructor <;> simp_all

theorem setupFailedResult_settled (startedAt detail : String) :
    Settled prepared (setupFailedResult prepared startedAt detail) log := by
  refine settled_of_failed rfl rfl rfl rfl ?_
  simp only [setupFailedResult, PreparedProbe.result, openflowDisabled]
  split <;> simp

theorem createFailedResult_settled (startedAt detail : String) (latency : ℚ) :
    Settled prepared (createFailedResult prepared startedAt latency detail) log := by
  refine settled_of_failed rfl rfl rfl rfl ?_
  simp only [createFailedResult, PreparedProbe.result, openflowDisabled]
  split <;> simp

/-- The stages after the loop: what was seen is observed, the first stage not
seen has the status `missing`, and those behind it are skipped. -/
structure Graded (prepared : PreparedProbe) (v : PollState) (missing : StageStatus)
    (v' : PollState) : Prop where
  nbUuid : v'.nbUuid = v.nbUuid
  nb : v'.nbStage.status = if v.nbUuid.isSome then .observed else missing
  sb : v'.sbStage.status =
    if v.sbSeenAt.isSome then .observed else if v.nbUuid.isSome then missing else .skipped
  of : v'.openflowStage.status =
    if v.ofSeenAt.isSome then .observed
    else if prepared.openflowExpected && v.sbSeenAt.isSome then missing else .skipped

/-- Nothing was seen. -/
theorem PollInv.graded_nb {v' : PollState} {missing : StageStatus} (h : PollInv prepared v log)
    (hu : v.nbUuid = none) (huuid : v'.nbUuid = v.nbUuid) (hnb : v'.nbStage.status = missing)
    (hsb : v'.sbStage.status = .skipped) (hof : v'.openflowStage.status = .skipped) :
    Graded prepared v missing v' := by
  have hs := h.sb_none hu
  have ho := h.of_none hs
  exact ⟨huuid, by simp [hu, hnb], by simp [hu, hs, hsb], by simp [hs, ho, hof]⟩

/-- Only the Northbound row was seen. -/
theorem PollInv.graded_sb {v' : PollState} {missing : StageStatus} (h : PollInv prepared v log)
    (hu : v.nbUuid ≠ none) (hs : v.sbSeenAt = none) (huuid : v'.nbUuid = v.nbUuid)
    (hnb : v'.nbStage = v.nbStage) (hsb : v'.sbStage.status = missing)
    (hof : v'.openflowStage.status = .skipped) : Graded prepared v missing v' := by
  have ho := h.of_none hs
  have hu' : v.nbUuid.isSome := Option.isSome_iff_ne_none.mpr hu
  exact ⟨huuid, by rw [hnb, h.nb_status]; simp [hu'], by simp [hu', hs, hsb],
    by simp [hs, ho, hof]⟩

/-- The Northbound and the Southbound rows were seen. -/
theorem PollInv.graded_of {v' : PollState} {missing : StageStatus} (h : PollInv prepared v log)
    (hu : v.nbUuid ≠ none) (hs : v.sbSeenAt ≠ none) (huuid : v'.nbUuid = v.nbUuid)
    (hnb : v'.nbStage = v.nbStage) (hsb : v'.sbStage = v.sbStage)
    (hof : v'.openflowStage.status =
      if v.ofSeenAt.isSome then .observed
      else if prepared.openflowExpected then missing else .skipped) :
    Graded prepared v missing v' := by
  have hu' : v.nbUuid.isSome := Option.isSome_iff_ne_none.mpr hu
  have hs' : v.sbSeenAt.isSome := Option.isSome_iff_ne_none.mpr hs
  exact ⟨huuid, by rw [hnb, h.nb_status]; simp [hu'], by rw [hsb, h.sb_status]; simp [hs'],
    by simp [hs', hof]⟩

theorem PollInv.skipped_rest (h : PollInv prepared v log) (detail : String) :
    (if prepared.openflowExpected then notEvaluated detail else v.openflowStage).status =
      .skipped := by
  cases he : prepared.openflowExpected with
  | true => rfl
  | false => exact (h.of_disabled he).1

/-- The OpenFlow stage of a loop that was not waiting for it any more. -/
theorem PollInv.of_status_done (h : PollInv prepared v log) (missing : StageStatus)
    (hdone : ¬(prepared.openflowExpected = true ∧ v.ofSeenAt = none)) :
    v.openflowStage.status =
      if v.ofSeenAt.isSome then .observed
      else if prepared.openflowExpected then missing else .skipped := by
  cases he : prepared.openflowExpected with
  | true =>
    have ho : v.ofSeenAt.isSome := Option.isSome_iff_ne_none.mpr fun hn => hdone ⟨he, hn⟩
    simp [h.of_status he, ho]
  | false => simp [h.of_disabled he]

theorem onFailure_graded (h : PollInv prepared v log) (startPerf finishedPerf : ℚ)
    (detail : String) :
    Graded prepared v .failed (v.onFailure prepared startPerf finishedPerf detail) := by
  by_cases hu : v.nbUuid = none
  · rw [PollState.onFailure, if_pos hu]
    exact h.graded_nb hu rfl rfl rfl (h.skipped_rest _)
  by_cases hs : v.sbSeenAt = none
  · rw [PollState.onFailure, if_neg hu, if_pos hs]
    exact h.graded_sb hu hs rfl rfl rfl (h.skipped_rest _)
  by_cases hm : prepared.openflowExpected = true ∧ v.ofSeenAt = none
  · rw [PollState.onFailure, if_neg hu, if_neg hs, if_pos hm]
    exact h.graded_of hu hs rfl rfl rfl (by simp [hm, stageWithElapsedLatency])
  · rw [PollState.onFailure, if_neg hu, if_neg hs, if_neg hm]
    exact h.graded_of hu hs rfl rfl rfl (h.of_status_done _ hm)

theorem onExit_graded (h : PollInv prepared v log) (startPerf finishedPerf : ℚ) :
    Graded prepared v .timeout (v.onExit prepared startPerf finishedPerf) := by
  by_cases hu : v.nbUuid = none
  · rw [PollState.onExit, if_pos hu]
    exact h.graded_nb hu rfl (by simp [stageWithElapsedLatency, h.nb_status, hu]) rfl
      (h.skipped_rest _)
  by_cases hs : v.sbSeenAt = none
  · rw [PollState.onExit, if_neg hu, if_pos hs]
    exact h.graded_sb hu hs rfl rfl (by simp [stageWithElapsedLatency, h.sb_status, hs])
      (h.skipped_rest _)
  by_cases hm : prepared.openflowExpected = true ∧ v.ofSeenAt = none
  · rw [PollState.onExit, if_neg hu, if_neg hs, if_pos hm]
    exact h.graded_of hu hs rfl rfl rfl (by simp [hm, stageWithElapsedLatency, h.of_status])
  · rw [PollState.onExit, if_neg hu, if_neg hs, if_neg hm]
    exact h.graded_of hu hs rfl rfl rfl (h.of_status_done _ hm)

theorem Graded.settled {v' : PollState} {missing : StageStatus} (h : PollInv prepared v log)
    (g : Graded prepared v missing v') (hm : missing ≠ .observed ∧ missing ≠ .skipped)
    (startedAt : String) (status : TraceStatus) (latency : ℚ) :
    Settled prepared (v'.result prepared startedAt status latency) log := by
  have hsb : v'.sbStage.status = .observed ↔ v.sbSeenAt.isSome := by
    rw [g.sb]; split_ifs <;> simp_all
  have hnb : v'.nbStage.status = .observed ↔ v.nbUuid.isSome := by
    rw [g.nb]; split_ifs <;> simp_all
  have hof : v'.openflowStage.status = .observed ↔ v.ofSeenAt.isSome := by
    rw [g.of]; split_ifs <;> simp_all
  exact
    { expected := rfl
      nb_not_skipped := by
        change v'.nbStage.status ≠ _
        rw [g.nb]
        split_ifs
        exacts [by simp, hm.2]
      sb_skipped := fun hskip => by
        change v'.nbStage.status ≠ _
        change v'.sbStage.status = _ at hskip
        rw [g.sb] at hskip
        split_ifs at hskip with h1 h2
        · exact absurd hskip hm.2
        · exact mt hnb.mp h2
      of_skipped := fun hexp hskip => by
        change v'.sbStage.status ≠ _
        change v'.openflowStage.status = _ at hskip
        rw [g.of] at hskip
        split_ifs at hskip with h1 h2
        · exact absurd hskip hm.2
        · refine mt hsb.mp ?_
          have : prepared.openflowExpected = true := hexp
          simpa [this] using h2
      sb_after_nb := fun ho => hnb.mpr (h.sb_after_nb (hsb.mp ho))
      of_after_sb := fun ho => hsb.mpr (h.of_after_sb (hof.mp ho))
      nb_uuid := by
        change v'.nbUuid.isSome ↔ _
        rw [g.nbUuid]
        exact hnb.symm
      nb_found := fun u hu => (h.nb_found u).mp (g.nbUuid ▸ hu)
      sb_found := fun u hu hs => by
        have hv : v.nbUuid = some u := g.nbUuid ▸ hu
        exact (h.sb_found u (by simp [hv])).mp (hsb.mp hs)
      of_found := fun ho => h.of_found.mp (hof.mp ho) }

theorem executeProbe_settled (fuel : ℕ) (s : List Event × ω) :
    wp (executeProbe env.logged fuel prepared) (fun result s' => Settled prepared result s'.1)
      (fun _ _ => True) s := by
  obtain ⟨log, w⟩ := s
  simp only [executeProbe, wp_bind]
  refine wp_logged_now fun startedAt w₁ => wp_logged_perf fun startPerf w₂ => ?_
  refine (wp_attempt _ _ _).mpr (wp_logging ?_ ?_)
  · intro _ w₃ _
    simp only [wp_bind]
    refine wp_logged_perf fun t w₄ => (wp_attemptWith _ _ _ _).mpr ?_
    have hstart : Polling prepared (log ++ [.command prepared.createCommand (.ok ())])
        (PollState.start prepared, _, w₄) := ⟨[], (List.append_nil _).symm, PollInv.start⟩
    refine wp_mono (pollLoop_inv startPerf _ fuel hstart) (fun _ s' hs' => ?_) (fun e s' hs' => ?_)
    · obtain ⟨reads, hlog, hs'⟩ := hs'
      refine wp_logged_perf fun finishedPerf w₅ => ?_
      have hsettled := (onExit_graded hs' startPerf finishedPerf).settled hs' (by decide)
      exact hlog ▸ (hsettled _ _ _).mono (List.subset_append_right _ _)
    · obtain ⟨reads, hlog, hs'⟩ := hs'
      cases e with
      | http code detail =>
        refine wp_logged_perf fun finishedPerf w₅ => ?_
        have hsettled := (onFailure_graded hs' startPerf finishedPerf detail).settled hs' (by decide)
        exact hlog ▸ (hsettled _ _ _).mono (List.subset_append_right _ _)
      | other kind message => trivial
  · intro e w₃ _
    cases e with
    | http code detail =>
      exact (wp_bind _ _).mpr (wp_logged_perf fun t w₄ => createFailedResult_settled _ _ _)
    | other kind message => trivial

theorem probeBody_settled (fuel : ℕ) (s : List Event × ω) :
    wp (probeBody env.logged fuel prepared) (fun result s' => Settled prepared result s'.1)
      (fun _ _ => True) s := by
  simp only [probeBody, wp_bind]
  refine (wp_attempt _ _ _).mpr (wp_any (fun _ s' _ => executeProbe_settled fuel s') ?_)
  intro e s' _
  cases e with
  | http code detail =>
    exact (wp_bind _ _).mpr (wp_logged_now fun _ _ => setupFailedResult_settled _ _)
  | other kind message => trivial

end Exits

/-! ### Cleanup -/

section Cleanup

variable {env : Env ω} {prepared : PreparedProbe}

/-- The cleanup commands stand in the log one after the other, each with its answer. -/
def cleanupEvents (commands : List (List String)) (answers : List (Except Exc Unit)) :
    List Event :=
  List.zipWith Event.command commands answers

/-- `answers` answer the commands one by one. -/
structure CleanupRun (commands : List (List String)) (answers : List (Except Exc Unit))
    (before after : List Event) : Prop where
  length : answers.length = commands.length
  log : after = before ++ cleanupEvents commands answers

theorem cleanupErrors_run (commands : List (List String)) (s : List Event × ω) :
    wp (cleanupErrors env.logged commands)
      (fun errors s' => ∃ answers, CleanupRun commands answers s.1 s'.1 ∧
        (errors = [] ↔ ∀ a ∈ answers, a = .ok ()))
      (fun _ _ => True) s := by
  induction commands generalizing s with
  | nil => exact ⟨[], ⟨rfl, by simp [cleanupEvents]⟩, by simp⟩
  | cons command rest ih =>
    obtain ⟨log, w⟩ := s
    simp only [cleanupErrors, wp_bind]
    refine (wp_attempt _ _ _).mpr (wp_logging ?_ ?_)
    · intro a w' _
      refine wp_mono (ih _) ?_ fun _ _ _ => trivial
      rintro errors s' ⟨answers, hrun, hall⟩
      refine ⟨.ok a :: answers, ⟨by simp [hrun.length], by simp [hrun.log, cleanupEvents]⟩, ?_⟩
      simpa using hall
    · intro e w' _
      cases e with
      | http code detail =>
        refine wp_mono (ih _) ?_ fun _ _ _ => trivial
        rintro errors s' ⟨answers, hrun, -⟩
        exact ⟨.error (.http code detail) :: answers,
          ⟨by simp [hrun.length], by simp [hrun.log, cleanupEvents]⟩, by simp⟩
      | other kind message => trivial

theorem runCleanup_run (s : List Event × ω) :
    wp (runCleanup env.logged prepared)
      (fun stage s' => ∃ answers, CleanupRun prepared.cleanupCommands answers s.1 s'.1 ∧
        (stage.status = .failed ↔ ∃ a ∈ answers, a ≠ .ok ()))
      (fun _ _ => True) s := by
  simp only [runCleanup, wp_ite, wp_bind, wp_pure]
  constructor
  · intro hempty
    have hnil : prepared.cleanupCommands = [] := by simpa using hempty
    exact ⟨[], ⟨by simp [hnil], by simp [cleanupEvents]⟩, by simp⟩
  · intro _
    refine wp_mono (cleanupErrors_run _ s) ?_ fun _ _ _ => trivial
    rintro errors ⟨log, w⟩ ⟨answers, hrun, hall⟩
    constructor
    · intro hempty
      have hok := hall.mp (by simpa using hempty)
      refine wp_logged_now fun _ _ => ⟨answers, hrun, ?_⟩
      simpa using hok
    · intro hne
      have hsome : ∃ a ∈ answers, a ≠ .ok () := by
        by_contra hno
        push Not at hno
        exact hne (by simp [hall.mpr hno])
      exact ⟨answers, hrun, by simpa using hsome⟩

end Cleanup

/-! ### What is raised -/

/-- Every operation of the probe returns or raises an `HTTPException`. -/
structure Env.HttpOnly (env : Env ω) (prepared : PreparedProbe) : Prop where
  run : ∀ argv, Raises Exc.IsHttp (env.run argv)
  reads : env.Steady prepared (fun _ => True) Exc.IsHttp

namespace Env.HttpOnly

variable {env : Env ω} {prepared : PreparedProbe}

theorem logged (h : env.HttpOnly prepared) : env.logged.HttpOnly prepared where
  run argv := (h.run argv).logging
  reads := {
    perf := .read fun _ _ => trivial
    now := .read fun _ _ => trivial
    findNbRow := h.reads.findNbRow.logging_bind
    findNamedNbRow := fun resourceType name => (h.reads.findNamedNbRow resourceType name).logging_bind
    findSbEvidence := fun nbUuid => (h.reads.findSbEvidence nbUuid).logging_bind
    findSbParentEvidence := fun resourceType nbUuid => Safe.logging_bind
      (g := fun idl => .ok (Traces.findSbParentEvidence idl resourceType nbUuid))
      (h.reads.findSbParentEvidence resourceType nbUuid)
    findOpenflowEvidence := h.reads.findOpenflowEvidence.logging_bind
    sleep := fun t => (h.reads.sleep t).lift }

/-- The handlers of the probe let no `HTTPException` pass. -/
theorem handled (e : Exc) (h : e.IsHttp) (hnone : e.httpDetail = none) : False :=
  h.httpDetail_ne_none hnone

theorem runSetup (h : env.HttpOnly prepared) (fuel : ℕ) :
    Raises Exc.IsHttp (Traces.runSetup env fuel prepared) := by
  refine (Safe.forEach h.run _).bind fun _ => ?_
  cases prepared.setupWait with
  | none => exact .pure _
  | some wait =>
    refine h.reads.perf.bind fun t => .whileFuel ?_ fuel
    exact h.reads.setupTurn (fun detail => ⟨500, detail, rfl⟩) _ _ _

theorem executeProbe (h : env.HttpOnly prepared) (fuel : ℕ) :
    Raises (fun _ => False) (Traces.executeProbe env fuel prepared) := by
  have hclock : Raises (fun _ => False) env.perf := .read fun _ _ => trivial
  refine Safe.bind (.read fun _ _ => trivial) fun startedAt => hclock.bind fun startPerf => ?_
  refine ((h.run _).attempt handled).bind fun created => ?_
  cases created with
  | error detail => exact hclock.bind fun t => .pure _
  | ok _ =>
    refine hclock.bind fun t => ?_
    refine (Safe.attemptWith (.whileFuel (h.reads.pollTurn _ _) fuel) handled).bind fun polled => ?_
    refine hclock.bind fun finishedPerf => ?_
    cases polled.2 <;> exact .pure _

theorem cleanupErrors (h : env.HttpOnly prepared) (commands : List (List String)) :
    Raises (fun _ => False) (Traces.cleanupErrors env commands) := by
  induction commands with
  | nil => exact .pure _
  | cons command rest ih =>
    refine ((h.run _).attempt handled).bind fun answer => ih.bind fun errors => ?_
    cases answer <;> exact .pure _

theorem runCleanup (h : env.HttpOnly prepared) :
    Raises (fun _ => False) (Traces.runCleanup env prepared) := by
  refine .ite (.pure _) ((h.cleanupErrors _).bind fun errors => .ite ?_ (.pure _))
  exact Safe.bind (.read fun _ _ => trivial) fun _ => .pure _

/-- Such an environment gets a result, whatever it refuses. -/
theorem runPreparedProbe (h : env.HttpOnly prepared) (fuel : ℕ) :
    Raises (fun _ => False) (Traces.runPreparedProbe env fuel prepared) := by
  have hbody : Raises (fun _ => False) (probeBody env fuel prepared) := by
    refine ((h.runSetup fuel).attempt handled).bind fun setup => ?_
    cases setup with
    | error detail => exact Safe.bind (.read fun _ _ => trivial) fun _ => .pure _
    | ok _ => exact h.executeProbe fuel
  exact (hbody.tryFinally h.runCleanup).bind fun done =>
    Safe.bind (.read fun _ _ => trivial) fun _ => .pure _

end Env.HttpOnly

/-! ### The verdict -/

/-- Every required stage was observed. -/
def CanaryProbeResult.Converged (result : CanaryProbeResult) : Prop :=
  result.nbCommitted.status = .observed ∧ result.sbRealized.status = .observed ∧
    (result.openflowExpected = true → result.openflowRealized.status = .observed)

/-- No required stage failed, and some required stage timed out. -/
def CanaryProbeResult.TimedOut (result : CanaryProbeResult) : Prop :=
  (∀ stage ∈ result.requiredStages, stage.status ≠ .failed) ∧
    ∃ stage ∈ result.requiredStages, stage.status = .timeout

section Verdict

variable {prepared : PreparedProbe} {result : CanaryProbeResult} {log : List Event}

theorem CanaryProbeResult.forall_requiredStages {P : CanaryProbeStage → Prop} :
    (∀ stage ∈ result.requiredStages, P stage) ↔
      P result.nbCommitted ∧ P result.sbRealized ∧
        (result.openflowExpected = true → P result.openflowRealized) := by
  cases h : result.openflowExpected <;> simp [requiredStages, h]

/-- A settled result has a required stage that failed or timed out unless all were observed. -/
theorem Settled.converged_of_none_missing (h : Settled prepared result log)
    (hfailed : ∀ stage ∈ result.requiredStages, stage.status ≠ .failed)
    (htimeout : ∀ stage ∈ result.requiredStages, stage.status ≠ .timeout) :
    result.Converged := by
  rw [CanaryProbeResult.forall_requiredStages] at hfailed htimeout
  have observed : ∀ status : StageStatus, status ≠ .failed → status ≠ .timeout →
      status ≠ .skipped → status = .observed := by
    intro status
    cases status <;> simp
  have hnb := observed _ hfailed.1 htimeout.1 h.nb_not_skipped
  have hsb := observed _ hfailed.2.1 htimeout.2.1 fun hs => h.sb_skipped hs hnb
  exact ⟨hnb, hsb, fun he =>
    observed _ (hfailed.2.2 he) (htimeout.2.2 he) fun ho => h.of_skipped he ho hsb⟩

theorem CanaryProbeResult.Converged.no_missing (h : result.Converged) :
    ∀ stage ∈ result.requiredStages, stage.status ≠ .failed ∧ stage.status ≠ .timeout := by
  rw [CanaryProbeResult.forall_requiredStages]
  exact ⟨by simp [h.1], by simp [h.2.1], fun he => by simp [h.2.2 he]⟩

/-- `_derive_status` of a settled result, whatever its cleanup stage. -/
theorem deriveStatus_cases (h : Settled prepared result log) :
    (deriveStatus result = .failed ∧ ¬result.Converged ∧ ¬result.TimedOut) ∨
    (deriveStatus result = .timeout ∧ ¬result.Converged ∧ result.TimedOut) ∨
    (deriveStatus result = .partialSuccess ∧ result.Converged ∧ ¬result.TimedOut ∧
      result.cleanup.status = .failed) ∨
    (deriveStatus result = .success ∧ result.Converged ∧ ¬result.TimedOut ∧
      result.cleanup.status ≠ .failed) := by
  unfold deriveStatus
  split_ifs with hfailed htimeout hcleanup
  · obtain ⟨stage, hmem, hst⟩ := List.any_eq_true.mp hfailed
    have hst : stage.status = .failed := by simpa using hst
    exact .inl ⟨rfl, fun hc => (hc.no_missing stage hmem).1 hst, fun ht => ht.1 stage hmem hst⟩
  · obtain ⟨stage, hmem, hst⟩ := List.any_eq_true.mp htimeout
    have hst : stage.status = .timeout := by simpa using hst
    have hnone : ∀ stage ∈ result.requiredStages, stage.status ≠ .failed := by
      simpa using hfailed
    exact .inr (.inl ⟨rfl, fun hc => (hc.no_missing stage hmem).2 hst, hnone, stage, hmem, hst⟩)
  all_goals
    have hnof : ∀ stage ∈ result.requiredStages, stage.status ≠ .failed := by simpa using hfailed
    have hnot : ∀ stage ∈ result.requiredStages, stage.status ≠ .timeout := by simpa using htimeout
    have hconv := h.converged_of_none_missing hnof hnot
    have hno : ¬result.TimedOut := fun ⟨_, stage, hmem, hst⟩ => hnot stage hmem hst
  · exact .inr (.inr (.inl ⟨rfl, hconv, hno, hcleanup⟩))
  · exact .inr (.inr (.inr ⟨rfl, hconv, hno, hcleanup⟩))

/-- The assignments after cleanup change nothing that a settled result speaks about. -/
theorem Settled.close (h : Settled prepared result log) (stage : CanaryProbeStage)
    (finishedAt : String) : Settled prepared (result.close stage finishedAt) log :=
  { h with }

theorem CanaryProbeResult.close_status (stage : CanaryProbeStage) (finishedAt : String) :
    (result.close stage finishedAt).status = deriveStatus (result.close stage finishedAt) := rfl

end Verdict

/-- What the probe has settled before its cleanup, the cleanup does not change. -/
theorem runPreparedProbe_closed {env : Env ω} {fuel : ℕ} {prepared : PreparedProbe}
    {s : List Event × ω} {Q : CanaryProbeResult → List Event → Prop}
    (hbody : wp (probeBody env.logged fuel prepared) (fun result s' => Q result s'.1)
      (fun _ _ => True) s) :
    wp (runPreparedProbe env.logged fuel prepared)
      (fun result s' => ∃ body answers stage finishedAt result₀,
        result = CanaryProbeResult.close result₀ stage finishedAt ∧ Q result₀ body ∧
        CleanupRun prepared.cleanupCommands answers body s'.1 ∧
        (stage.status = .failed ↔ ∃ a ∈ answers, a ≠ .ok ()))
      (fun _ _ => True) s := by
  simp only [runPreparedProbe, wp_bind]
  refine (wp_tryFinally _ _ _).mpr (wp_mono hbody ?_ ?_)
  · intro result₀ s₁ hresult
    refine wp_mono (runCleanup_run s₁) ?_ fun _ _ _ => trivial
    rintro stage ⟨log, w⟩ ⟨answers, hrun, hfailed⟩
    exact wp_logged_now fun finishedAt w' =>
      ⟨s₁.1, answers, stage, finishedAt, result₀, rfl, hresult, hrun, hfailed⟩
  · intro e s₁ _
    exact wp_any (fun _ _ _ => trivial) fun _ _ _ => trivial

/-- A probe whose operations return or raise `HTTPException` returns a result if its loops end,
and the result of a probe has this verdict. `log` holds what the probe did: first its own
commands and reads, then its cleanup commands with their `answers`. -/
theorem runPreparedProbe_verdict (env : Env ω) (fuel : ℕ) (prepared : PreparedProbe) (w : ω) :
    (env.HttpOnly prepared → Ends (runPreparedProbe env.logged fuel prepared) ([], w) →
      ∃ result s', runPreparedProbe env.logged fuel prepared ([], w) = (.ok result, s')) ∧
    ∀ result log w',
      runPreparedProbe env.logged fuel prepared ([], w) = (.ok result, (log, w')) →
      result.openflowExpected = prepared.openflowExpected ∧
      ((result.status = .success ∨ result.status = .partialSuccess) ↔ result.Converged) ∧
      (∃ body answers, CleanupRun prepared.cleanupCommands answers body log ∧
        (result.status = .partialSuccess ↔ result.Converged ∧ ∃ a ∈ answers, a ≠ .ok ())) ∧
      (result.status = .timeout ↔ result.TimedOut) ∧
      (result.status = .failed ↔ ¬result.Converged ∧ ¬result.TimedOut) ∧
      (result.nbUuid.isSome ↔ result.nbCommitted.status = .observed) ∧
      (∀ u, result.nbUuid = some u → NbFound prepared log u) ∧
      (result.sbRealized.status = .observed → result.nbCommitted.status = .observed ∧
        ∃ u, result.nbUuid = some u ∧ SbFound prepared log u) ∧
      (result.openflowRealized.status = .observed → result.sbRealized.status = .observed ∧
        OpenflowFound prepared log) := by
  refine ⟨fun hhttp hends => ?_, fun result log w' h => ?_⟩
  · rcases hrun : runPreparedProbe env.logged fuel prepared ([], w) with ⟨result | e | _, s'⟩
    · exact ⟨result, s', rfl⟩
    · exact ((hhttp.logged.runPreparedProbe fuel).of_raised hrun).elim
    · exact absurd (congrArg Prod.fst hrun) hends
  obtain ⟨body, answers, stage, finishedAt, result₀, rfl, hs, hrun, hfailed⟩ :=
    wp_ok (runPreparedProbe_closed (probeBody_settled fuel ([], w))) h
  have hlog : log = body ++ cleanupEvents prepared.cleanupCommands answers := hrun.log
  set result := result₀.close stage finishedAt
  have hc : Settled prepared result log :=
    hlog ▸ (hs.close stage finishedAt).mono (List.subset_append_left _ _)
  have hcleanup : result.cleanup.status = .failed ↔ ∃ a ∈ answers, a ≠ .ok () := hfailed
  have hstatus : result.status = deriveStatus result := CanaryProbeResult.close_status _ _
  refine ⟨hc.expected, ?_, ⟨body, answers, hrun, ?_⟩, ?_, ?_, hc.nb_uuid, hc.nb_found, ?_, ?_⟩
  · rcases deriveStatus_cases hc with h | h | h | h <;> simp [hstatus, h]
  · rw [← hcleanup]
    rcases deriveStatus_cases hc with h | h | h | h <;> simp [hstatus, h]
  · rcases deriveStatus_cases hc with h | h | h | h <;> simp [hstatus, h]
  · rcases deriveStatus_cases hc with h | h | h | h <;> simp [hstatus, h]
  · intro hobs
    have hnb := hc.sb_after_nb hobs
    obtain ⟨u, hu⟩ := Option.isSome_iff_exists.mp (hc.nb_uuid.mpr hnb)
    exact ⟨hnb, u, hu, hc.sb_found u hu hobs⟩
  · intro hobs
    exact ⟨hc.of_after_sb hobs, hc.of_found hobs⟩

/-- A switch port canary that stands in both databases at once. The commands that `refused`
names are refused. -/
def promptEnv (refused : List String → Bool) : Env Unit where
  run argv := if refused argv then raise (.http 500 "ovn-nbctl: no such switch") else pure ()
  nbIdl := pure { logicalSwitchPort := [⟨.uniform 0, "canary-lsp"⟩] }
  sbIdl := pure { portBinding := [⟨.uniform 1, "canary-lsp", "", .uniform 2, [], []⟩] }
  dumpOpenflowFlows _ := pure ""
  sleep _ := pure ()
  perfCounter _ := (0, ())
  nowUtc _ := ("", ())

def switchPortProbe : PreparedProbe where
  probeId := ""
  requestedResourceType := .logicalSwitchPort
  resolvedResourceType := .logicalSwitchPort
  resourceName := "canary-lsp"
  targetName := none
  bridge := "br-int"
  timeoutS := .inf
  pollIntervalS := 1
  openflowExpected := false
  note := none
  nbTable := "Logical_Switch_Port"
  context := [("port_name", "canary-lsp")]
  createCommand := ["lsp-add", "sw", "canary-lsp"]
  cleanupCommands := [["--if-exists", "lsp-del", "canary-lsp"]]

theorem promptEnv_httpOnly (refused : List String → Bool) :
    (promptEnv refused).HttpOnly switchPortProbe where
  run argv := .ite (.raise ⟨_, _, rfl⟩) (.pure _)
  reads := {
    perf := .read fun _ _ => trivial
    now := .read fun _ _ => trivial
    findNbRow := fun _ _ => ⟨trivial, trivial⟩
    findNamedNbRow := by
      intro resourceType name
      refine Safe.bind (.pure _) fun idl => ?_
      unfold Traces.findNamedNbRow
      split <;> exact fun _ _ => ⟨trivial, trivial⟩
    findSbEvidence := fun _ _ _ => ⟨trivial, trivial⟩
    findSbParentEvidence := fun _ _ _ _ => ⟨trivial, trivial⟩
    findOpenflowEvidence := fun _ _ => ⟨trivial, trivial⟩
    sleep := fun _ => .pure _ }

theorem runPreparedProbe_verdict_prompt :
    (∃ result log, runPreparedProbe (promptEnv fun _ => false).logged 1 switchPortProbe ([], ()) =
        (.ok result, (log, ())) ∧ result.status = .success ∧ result.Converged) ∧
    ∃ result s', runPreparedProbe (promptEnv (·.head? = some "lsp-add")).logged 1 switchPortProbe
      ([], ()) = (.ok result, s') ∧ result.status = .failed ∧ ¬result.Converged := by
  constructor
  · refine ⟨_, _, rfl, rfl, ?_⟩
    exact ((runPreparedProbe_verdict (promptEnv fun _ => false) 1 switchPortProbe ()).2 _ _ _
      rfl).2.1.mp (.inl rfl)
  · have hverdict :=
      runPreparedProbe_verdict (promptEnv (·.head? = some "lsp-add")) 1 switchPortProbe ()
    obtain ⟨result, s', hrun⟩ := hverdict.1 (promptEnv_httpOnly _) (by exact nofun)
    have hresult : _ = result := Outcome.ok.inj (congrArg Prod.fst hrun)
    have hfailed : result.status = .failed := hresult ▸ rfl
    exact ⟨result, s', hrun, hfailed, ((hverdict.2 _ _ _ hrun).2.2.2.2.1.mp hfailed).1⟩

end OvnApi.Traces
