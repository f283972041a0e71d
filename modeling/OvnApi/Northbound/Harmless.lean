import OvnApi.Lib.Threads
import OvnApi.Northbound.Foreign
import OvnApi.Northbound.Residue

/-! No probe touches a row of others, in any interleaving, if every launch is careful
about its target. Without that care the cleanup of a probe deletes rules that were
there before it. -/

namespace OvnApi.Northbound

open OvnApi.Core Lib Traces

/-! ### The job of a probe -/

theorem targetRef_injective {probeId : Uuid} {kind : DatapathKind} {target target' : Option Uuid}
    (h : targetRef probeId kind target = targetRef probeId kind target') : target = target' := by
  have hcanary := (canary_targetName probeId kind).fromString
  cases target with
  | none =>
    cases target' with
    | none => rfl
    | some t =>
      rw [show targetName probeId kind = t.text from h, Uuid.fromString_text] at hcanary
      cases hcanary
  | some t =>
    cases target' with
    | none =>
      rw [← show t.text = targetName probeId kind from h, Uuid.fromString_text] at hcanary
      cases hcanary
    | some t' => rw [Uuid.ext_text h]

/-- The creation command tells the job. -/
theorem create_injective {probeId : Uuid} {job job' : Job}
    (h : job.create probeId = job'.create probeId) : job = job' := by
  cases job with
  | root kind =>
    cases job' with
    | root kind' => cases kind <;> cases kind' <;> first | rfl | cases h
    | hang item' target' => cases kind <;> cases item' <;> cases h
  | hang item target =>
    cases job' with
    | root kind' => cases kind' <;> cases item <;> cases h
    | hang item' target' =>
      cases item <;> cases item' <;> simp only [Job.create, List.cons.injEq, Command.aclAdd.injEq,
        Command.lrNatAdd.injEq, Command.lspAdd.injEq, Command.lrpAdd.injEq, reduceCtorEq,
        false_and] at h
      · rw [targetRef_injective h.1.2.1]
      · rw [targetRef_injective h.1.1]
      · rw [targetRef_injective h.1.1]
      · rw [targetRef_injective h.1.1]

theorem datapath_of_found {db : NbDb} {kind : DatapathKind} {u : Uuid}
    (h : Found (.ok db.view) kind u) :
    ∃ d ∈ db.content.datapaths.rows, d.uuid = u ∧ d.kind = kind := by
  obtain ⟨idl, reference, row, hidl, hfind, rfl⟩ := h
  obtain rfl := Except.ok.inj hidl
  obtain ⟨rows, hrows, hfound⟩ := bind_eq_ok hfind
  have hmem := List.mem_of_find?_eq_some (Except.ok.inj hfound)
  cases kind with
  | switch =>
    obtain rfl := Except.ok.inj hrows
    obtain ⟨r, hr, rfl⟩ := List.mem_map.mp hmem
    obtain ⟨d, hd, hrow⟩ := List.mem_filterMap.mp hr
    cases hkind : d.kind with
    | switch =>
      simp only [Datapath.switchRow, hkind, Option.some.injEq] at hrow
      subst hrow
      exact ⟨d, hd, rfl, hkind⟩
    | router => simp [Datapath.switchRow, hkind] at hrow
  | router =>
    obtain rfl := Except.ok.inj hrows
    obtain ⟨r, hr, rfl⟩ := List.mem_map.mp hmem
    obtain ⟨d, hd, hrow⟩ := List.mem_filterMap.mp hr
    cases hkind : d.kind with
    | router =>
      simp only [Datapath.routerRow, hkind, Option.some.injEq] at hrow
      subst hrow
      exact ⟨d, hd, rfl, hkind⟩
    | switch => simp [Datapath.routerRow, hkind] at hrow

/-- The target of an accepted request is a datapath of the right kind. -/
theorem target_exists {db : NbDb} {probeId : Uuid} {request : CanaryProbeRequest}
    {prepared : PreparedProbe} {job : Job}
    (hbuild : buildProbe (.ok db.view) probeId request = .ok prepared)
    (hruns : Runs prepared probeId job) {t : Uuid} (ht : t ∈ job.target) :
    ∃ d ∈ db.content.datapaths.rows, d.uuid = t ∧ d.kind = job.kind := by
  obtain ⟨job', hruns', hfound⟩ := buildProbe_job hbuild
  have hcreate := hruns.create.symm.trans hruns'.create
  obtain rfl := create_injective (Option.some.inj hcreate)
  exact datapath_of_found (hfound t ht)

/-! ### Whole runs -/

/-- The target of a launched probe is not a row of a probe that is not finished, it
carries no rule the cleanup would take, and no such probe works on it with the same
key. -/
def Careful (lib : AddressLib) (s : System) : Label → Prop
  | .launch probeId _ (.hang item (some t)) =>
    (∀ q ∈ s.probes, q.finished = false → t ∉ q.own) ∧
      (item.column = .rules →
        (∀ d ∈ s.db.content.datapaths.rows, d.uuid = t → ∀ leaf ∈ s.db.content.leaves.rows,
          leaf.uuid ∈ d.column .rules → item.matching lib probeId leaf.columns = false) ∧
        ∀ q ∈ s.probes, q.finished = false → q.job = .hang item (some t) →
          item.key q.probeId ≠ item.key probeId)
  | _ => True

/-- Every probe is sound, and the probes are apart from each other. -/
structure Separated (lib : AddressLib) (s : System) : Prop where
  used : ∀ u ∈ s.db.content.uuids, u ∈ s.used
  sound : ∀ (i : ℕ) p, s.probes[i]? = some p → Sound lib s.db s.used p
  apart : ∀ (i j : ℕ) p q, i ≠ j → s.probes[i]? = some p → s.probes[j]? = some q → Apart p q

section Runs

variable {lib : AddressLib} {s s' s₀ : System} {i : ℕ} {p : Running}

theorem Separated.initial (h : s₀.Initial) : Separated lib s₀ where
  used := h.used
  sound i p hp := by
    rw [h.probes] at hp
    cases hp
  apart i j p q _ hp := by
    rw [h.probes] at hp
    cases hp

/-- One probe moves on, and the others stay sound and apart from it. -/
theorem Separated.replace (h : Separated lib s) {db : NbDb} {used : List Uuid} {p' : Running}
    (hused : ∀ u ∈ db.content.uuids, u ∈ used) (hself : Sound lib db used p')
    (hother : ∀ (j : ℕ) q, j ≠ i → s.probes[j]? = some q →
      Sound lib db used q ∧ Apart p' q ∧ Apart q p') :
    Separated lib { db, probes := s.probes.set i p', used } where
  used := hused
  sound j q hq := by
    rw [List.getElem?_set] at hq
    split_ifs at hq with hij hlt
    · obtain rfl := Option.some.inj hq
      exact hself
    · exact (hother j q (Ne.symm hij) hq).1
  apart j k q r hjk hq hr := by
    rw [List.getElem?_set] at hq hr
    split_ifs at hq hr with hij hlt hik hlt'
    · exact absurd (hij.symm.trans hik) hjk
    · obtain rfl := Option.some.inj hq
      exact (hother k r (Ne.symm hik) hr).2.1
    · obtain rfl := Option.some.inj hr
      exact (hother j q (Ne.symm hij) hq).2.2
    · exact h.apart j k q r hjk hq hr

/-- What is known of a step that issues a command. -/
theorem Separated.command (h : Separated lib s) {fault : Bool} {supply : List Uuid}
    (hp : s.probes[i]? = some p) (hstep : s.step lib (.command i fault supply) = some s') :
    p.finished = false ∧ (∀ u ∈ supply, u ∉ s.used) ∧
      Effect lib p supply s.db.content s'.db.content ∧
      ∃ ok, s' = ⟨s'.db, s.probes.set i (p.advance ok supply), s.used ++ supply⟩ := by
  simp only [System.step, hp, Option.bind_some] at hstep
  obtain ⟨argv, hcommand, hstep⟩ := Option.bind_eq_some_iff.mp hstep
  split_ifs at hstep with hfresh
  obtain rfl := Option.some.inj hstep
  have hactive := active_of_command hcommand
  refine ⟨hactive, hfresh, ?_, _, rfl⟩
  have hsound := h.sound i p hp
  unfold carryOut
  split_ifs with hfault
  · exact .refl lib p supply _
  · cases hrun : nbctl lib s.db supply argv with
    | error e => exact .refl lib p supply _
    | ok db' =>
      obtain ⟨commands, hcommands, hparse⟩ := hsound.next_command hcommand
      exact hsound.effect hactive h.used hfresh hcommands (nbctl_ok hparse hrun)

theorem Separated.step_command (h : Separated lib s) {fault : Bool} {supply : List Uuid}
    (hstep : s.step lib (.command i fault supply) = some s') : Separated lib s' := by
  cases hp : s.probes[i]? with
  | none => simp [System.step, hp] at hstep
  | some p =>
    obtain ⟨hactive, hfresh, heffect, ok, heq⟩ := h.command hp hstep
    have hsound := h.sound i p hp
    rw [heq]
    apply h.replace (heffect.uuids h.used) (hsound.self hactive h.used hfresh heffect ok)
    intro j q hij hq
    have hpq := h.apart i j p q (Ne.symm hij) hp hq
    have hqp := h.apart j i q p hij hq hp
    have hq := h.sound j q hq
    refine ⟨hq.other hpq hqp hactive h.used hfresh heffect, ?_, ?_⟩
    · exact hpq.advance_left hq.used hactive hfresh ok
    · exact hqp.advance_right hq.used (fun t ht => hq.target_used h.used ht) hactive hfresh ok

theorem Separated.step_giveUp (h : Separated lib s) (hstep : s.step lib (.giveUp i) = some s') : Separated lib s' := by
  cases hp : s.probes[i]? with
  | none => simp [System.step, hp] at hstep
  | some p =>
    simp only [System.step, hp, Option.bind_some] at hstep
    split_ifs at hstep with hphase
    obtain rfl := Option.some.inj hstep
    have hactive : p.finished = false := by
      unfold Running.finished
      rw [hphase]
    have hsound := h.sound i p hp
    apply h.replace h.used
    · exact {
        runs := hsound.runs
        script := fun _ hargv => hargv
        used := hsound.used
        target := hsound.target
        datapath := hsound.datapath
        port := hsound.port
        refs := fun _ => hsound.refs hactive
        rules := fun _ => hsound.rules hactive }
    · intro j q hij hq
      have hpq := h.apart i j p q (Ne.symm hij) hp hq
      have hqp := h.apart j i q p hij hq hp
      exact ⟨h.sound j q hq, ⟨hpq.own, hpq.tag, hpq.target, fun _ => hpq.key hactive⟩,
        ⟨hqp.own, hqp.tag, fun _ => hqp.target hactive, fun hq _ => hqp.key hq hactive⟩⟩

/-- A careful launch adds a sound probe, apart from the others. -/
theorem Separated.step_launch (h : Separated lib s) {probeId : Uuid} {request : CanaryProbeRequest}
    {job : Job} (hcareful : Careful lib s (.launch probeId request job))
    (hstep : s.step lib (.launch probeId request job) = some s') : Separated lib s' := by
  unfold System.step at hstep
  cases hbuild : buildProbe (.ok s.db.view) probeId request with
  | error e => simp [hbuild] at hstep
  | ok prepared =>
    simp only [hbuild] at hstep
    split_ifs at hstep with hguard
    obtain ⟨hruns, hunused, htags⟩ := hguard
    obtain rfl := Option.some.inj hstep
    set p : Running := ⟨probeId, job, prepared, .setup prepared.setupCommands, []⟩
    have hsound : Sound lib s.db s.used p := by
      refine ⟨hruns, fun _ hargv => hargv, fun _ hu => absurd hu List.not_mem_nil, ?_, ?_, ?_,
        fun _ _ _ hu => absurd hu List.not_mem_nil, ?_⟩
      · exact fun t ht => ⟨List.not_mem_nil, target_exists hbuild hruns ht⟩
      · intro d hd kind hname
        obtain ⟨htarget, hroot⟩ := hunused.datapath d hd kind
        rcases hname with hname | hname
        · exact absurd hname htarget
        · exact absurd hname hroot
      · exact fun leaf hleaf kind hname => absurd hname (hunused.port leaf hleaf kind).1
      · rintro - item t rfl hcolumn d hd hdt leaf hleaf hin hmatching
        have hfree := (hcareful.2 hcolumn).1 d hd hdt leaf hleaf hin
        rw [hfree] at hmatching
        cases hmatching
    have hnew : ∀ q ∈ s.probes, Apart p q ∧ Apart q p := by
      intro q hq
      refine ⟨⟨fun _ hu => absurd hu List.not_mem_nil, (htags q hq).symm, ?_, ?_⟩,
        ⟨fun _ _ => List.not_mem_nil, htags q hq, fun _ _ _ => List.not_mem_nil, ?_⟩⟩
      · intro hactive t ht
        cases job with
        | root kind => cases ht
        | hang item target =>
          obtain rfl : target = some t := ht
          exact hcareful.1 q hq hactive
      · rintro - hactive item t rfl hqjob hcolumn
        exact ((hcareful.2 hcolumn).2 q hq hactive hqjob).symm
      · rintro hactive - item t hqjob rfl hcolumn
        exact (hcareful.2 hcolumn).2 q hq hactive hqjob
    constructor
    · exact h.used
    · intro j q hq
      rcases getElem?_snoc hq with hold | ⟨-, rfl⟩
      · exact h.sound j q hold
      · exact hsound
    · intro j k q r hjk hq hr
      rcases getElem?_snoc hq with hq | ⟨rfl, rfl⟩
      · rcases getElem?_snoc hr with hr | ⟨-, rfl⟩
        · exact h.apart j k q r hjk hq hr
        · exact (hnew q (List.mem_of_getElem? hq)).2
      · rcases getElem?_snoc hr with hr | ⟨rfl, -⟩
        · exact (hnew r (List.mem_of_getElem? hr)).1
        · exact absurd rfl hjk

theorem separated_of_reach (hinit : s₀.Initial)
    (h : Reach (System.step lib) (Careful lib) s₀ s) : Separated lib s := by
  apply Reach.invariant (Separated.initial hinit) _ h
  intro s l s' hs hcareful hstep
  cases l with
  | launch probeId request job => exact hs.step_launch hcareful hstep
  | command i fault supply => exact hs.step_command hstep
  | giveUp i => exact hs.step_giveUp hstep

/-- In every interleaving of careful launches, no command deletes or changes a row the
probe did not create, up to references to its own rows. -/
theorem commands_leave_foreign_rows (hinit : s₀.Initial)
    (hreach : Reach (System.step lib) (Careful lib) s₀ s) {fault : Bool} {supply : List Uuid}
    (hp : s.probes[i]? = some p) (hstep : s.step lib (.command i fault supply) = some s') :
    Intact (· ∈ p.own) (· ∈ p.own ++ supply) s.db.content s'.db.content := by
  obtain ⟨-, -, heffect, -⟩ := (separated_of_reach hinit hreach).command hp hstep
  exact heffect.intact

end Runs

/-! ### Without care -/

instance (lib : AddressLib) (s : System) : ∀ label, Decidable (Careful lib s label)
  | .launch _ _ (.hang _ (some _)) => inferInstanceAs (Decidable (_ ∧ _))
  | .launch _ _ (.hang _ none) => .isTrue trivial
  | .launch _ _ (.root _) => .isTrue trivial
  | .command _ _ _ => .isTrue trivial
  | .giveUp _ => .isTrue trivial

def foreignAcl : Leaf where
  uuid := .uniform 2
  columns := .acl {
    name := none
    direction := "to-lport"
    priority := 2001
    matchText := aclMatchText (.uniform 0)
    action := "drop" }

def guardedSwitch : NbDb where
  content := {
    datapaths := ⟨[{ uuid := .uniform 1, kind := .switch, name := "web", rules := [.uniform 2] }],
      by decide⟩
    leaves := ⟨[foreignAcl], by decide⟩
    holders := [] }
  closed := by decide
  collected := by decide
  indexed := by decide

/-- A probe has been launched on the switch, and the creation of its ACL has been
tried. -/
def afterCreation (db : NbDb) (ok : System → Label → Prop) [∀ s l, Decidable (ok s l)] :
    Option System :=
  run (System.step plainAddresses) ok ⟨db, [], [.uniform 1, .uniform 2]⟩
    [.launch (.uniform 0) aclRequest (.hang .acl (some (.uniform 1))),
      .command 0 false [.uniform 3]]

theorem commands_leave_foreign_rows_acl : ∃ s p s',
    afterCreation oneSwitch (Careful plainAddresses) = some s ∧ s.probes[0]? = some p ∧
    s.step plainAddresses (.command 0 false []) = some s' ∧
    Intact (· ∈ p.own) (· ∈ p.own ++ []) s.db.content s'.db.content := by
  have heval : ((afterCreation oneSwitch (Careful plainAddresses)).bind fun s =>
      s.probes[0]?.bind fun _ => s.step plainAddresses (.command 0 false [])).isSome = true := by
    decide +kernel
  obtain ⟨s', hs'⟩ := Option.isSome_iff_exists.mp heval
  obtain ⟨s, hs, hs'⟩ := Option.bind_eq_some_iff.mp hs'
  obtain ⟨p, hp, hs'⟩ := Option.bind_eq_some_iff.mp hs'
  exact ⟨s, p, s', hs, hp, hs',
    commands_leave_foreign_rows ⟨rfl, by decide⟩ (run_reach _ hs) hp hs'⟩

/-- The creation fails because such an ACL is there, and the cleanup deletes it. -/
theorem cleanup_deletes_foreign_acl : ∃ s p s',
    System.Initial ⟨guardedSwitch, [], [.uniform 1, .uniform 2]⟩ ∧
    afterCreation guardedSwitch anyStep = some s ∧ s.probes[0]? = some p ∧
    s.step plainAddresses (.command 0 false []) = some s' ∧
    foreignAcl ∈ s.db.content.leaves.rows ∧ foreignAcl.uuid ∉ p.own ∧
    foreignAcl ∉ s'.db.content.leaves.rows := by
  have heval : ((afterCreation guardedSwitch anyStep).bind fun s => s.probes[0]?.bind fun p =>
      (s.step plainAddresses (.command 0 false [])).map fun s' =>
        decide (foreignAcl ∈ s.db.content.leaves.rows ∧ foreignAcl.uuid ∉ p.own ∧
          foreignAcl ∉ s'.db.content.leaves.rows)) = some true := by
    decide +kernel
  obtain ⟨s, hs, heval⟩ := Option.bind_eq_some_iff.mp heval
  obtain ⟨p, hp, heval⟩ := Option.bind_eq_some_iff.mp heval
  obtain ⟨s', hs', heval⟩ := Option.map_eq_some_iff.mp heval
  exact ⟨s, p, s', ⟨rfl, by decide⟩, hs, hp, hs', of_decide_eq_true heval⟩

end OvnApi.Northbound
