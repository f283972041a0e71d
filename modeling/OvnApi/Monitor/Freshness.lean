import OvnApi.Monitor.Refresh

/-! When live monitoring is up to date. A refresh takes the cached datapath measurement
for a new one: it clears the error and sets the time even if the collector has failed since,
or has not measured anew. Where refreshes do not overlap, a refresh reads the collector only
after a new success, the collector waits while a snapshot is being put together, and no
error is an empty text, every snapshot says how things are. -/

namespace OvnApi.Monitor

open OvnApi.Core Lib Scheduled

/-! ### Histories of attempts -/

section History

variable {α : Type} {attempts attempts' : List (Except Exc α)} {v : α} {exc : Exc}

@[simp] theorem lastSuccess_ok : lastSuccess (.ok v :: attempts) = some v := rfl

@[simp] theorem lastSuccess_error : lastSuccess (.error exc :: attempts) = lastSuccess attempts := rfl

@[simp] theorem successes_ok : successes (.ok v :: attempts) = successes attempts + 1 :=
  List.countP_cons_of_pos rfl

@[simp] theorem successes_error : successes (.error exc :: attempts) = successes attempts :=
  List.countP_cons_of_neg nofun

theorem successes_le (h : attempts' <:+ attempts) : successes attempts' ≤ successes attempts :=
  h.sublist.countP_le

theorem exists_lastSuccess (h : lastSucceeded attempts = true) :
    ∃ v, lastSuccess attempts = some v := by
  cases attempts with
  | nil => cases h
  | cons outcome attempts =>
    cases outcome with
    | ok v => exact ⟨v, rfl⟩
    | error exc => cases h

/-- A longer history that ends in a success has one success more. -/
theorem successes_lt (h : attempts' <:+ attempts) (hlength : attempts'.length < attempts.length)
    (hlast : lastSucceeded attempts = true) : successes attempts' < successes attempts := by
  cases attempts with
  | nil => cases hlast
  | cons outcome attempts =>
    cases outcome with
    | error exc => cases hlast
    | ok v =>
      rcases List.suffix_cons_iff.mp h with rfl | hrest
      · exact absurd hlength (lt_irrefl _)
      · rw [successes_ok]
        exact Nat.lt_succ_of_le (successes_le hrest)

end History

/-! ### The steps that keep snapshots fresh -/

/-- The order in which a refresh updates the components. -/
def Component.precedes : Component → Component → Bool
  | .capacity, .datapath | .capacity, .latency | .datapath, .latency => true
  | _, _ => false

def RefreshPc.isDone : RefreshPc → Bool
  | .done => true
  | _ => false

/-- The refresh has read the collector and not yet produced its snapshot. -/
def RefreshPc.holdsDatapath : RefreshPc → Bool
  | .update _ _ .capacity _ | .update _ _ .datapath .call | .done => false
  | _ => true

namespace Refreshing

/-- The collector has nothing to give, or it has measured anew, with success. -/
def datapathNew (s : Refreshing) : Bool :=
  s.collector.snapshot.isNone || lastSucceeded (s.attempts .datapath) &&
    s.produced.head?.all fun p => (p.attempts .datapath).length < (s.attempts .datapath).length

/-- The measurement does not fail with an empty text. -/
def speaks (s : Refreshing) (a : Measured) (c : Component) : Bool :=
  match s.measure a c with
  | .ok _ => true
  | .error exc => refreshError c exc != ""

def steady (s : Refreshing) : RefreshLabel → Bool
  | .begin .. => s.refreshes.all RefreshPc.isDone
  | .refresh i a =>
    match s.refreshes[i]? with
    | some (.update _ _ c .call) => s.speaks a c && (c != .datapath || s.datapathNew)
    | _ => true
  | .collect _ => s.refreshes.all fun pc => !pc.holdsDatapath

variable {s : Refreshing} {c c' : Component} {a : Measured}

/-! ### Invariants of one component -/

/-- The component shows its latest success, and an error if there was none since. -/
structure Ready (s : Refreshing) (c : Component) : Prop where
  data : (s.cells c).data = lastSuccess (s.attempts c)
  error : (s.cells c).error = none ↔ lastSucceeded (s.attempts c) = true

/-- The same, for a component that may not have been measured yet. -/
structure Settled (s : Refreshing) (c : Component) : Prop where
  data : (s.cells c).data = lastSuccess (s.attempts c)
  error : s.attempts c ≠ [] → ((s.cells c).error = none ↔ lastSucceeded (s.attempts c) = true)

/-- Its time differs from that of a snapshot only if it has succeeded since. -/
def Stamped (s : Refreshing) (c : Component) : Prop :=
  ∀ p ∈ s.produced, (s.cells c).updatedAt ≠ (p.snapshot.componentStatus c).updatedAt →
    successes (p.attempts c) < successes (s.attempts c)

/-- The latest attempt gave `v`, and there was none like it when a snapshot was produced. -/
structure Newest (s : Refreshing) (c : Component) (v : Measurement c) : Prop where
  value : lastSuccess (s.attempts c) = some v
  last : lastSucceeded (s.attempts c) = true
  since : ∀ p ∈ s.produced, successes (p.attempts c) < successes (s.attempts c)

theorem Ready.settled (h : Ready s c) : Settled s c := ⟨h.data, fun _ => h.error⟩

theorem Settled.ready (h : Settled s c) (hdata : (s.cells c).data ≠ none) : Ready s c := by
  refine ⟨h.data, h.error fun hnil => hdata ?_⟩
  rw [h.data, hnil]
  rfl

def Updating (s : Refreshing) (c : Component) : UpdatePc (Measurement c) → Prop
  | .call => Stamped s c ∧ (c ≠ .datapath → Settled s c)
  | .data v => Stamped s c ∧ (c ≠ .datapath → Settled s c) ∧ (c = .datapath → Newest s c v)
  | .stamp v | .clear v => (s.cells c).data = some v ∧ (c = .datapath → Newest s c v)

/-! ### Invariants of the service -/

structure Consistent (s : Refreshing) : Prop where
  collector : s.collector.snapshot = lastSuccess (s.attempts .datapath)
  known : (s.cells .datapath).data ≠ none → lastSuccess (s.attempts .datapath) ≠ none
  suffix : ∀ p ∈ s.produced, ∀ c, p.attempts c <:+ s.attempts c
  newer : s.produced.Pairwise fun later earlier => ∀ c, earlier.attempts c <:+ later.attempts c
  speaking : ∀ c, (s.cells c).error ≠ some ""
  fresh : s.Fresh

/-- What holds of the components where a refresh stands, when it is the only one. -/
def Phase (s : Refreshing) : RefreshPc → Prop
  | .update _ refreshLatency c pc =>
    (∀ c', c' ≠ c → Stamped s c' ∧ (c' ≠ .datapath → Settled s c') ∧
      (c'.precedes c = true → Ready s c')) ∧
    (refreshLatency = false → c ≠ .latency ∧ Ready s .latency) ∧ Updating s c pc
  | .assemble _ => ∀ c, Ready s c ∧ Stamped s c
  | .done => ∀ c, Stamped s c ∧ (c ≠ .datapath → Settled s c)

theorem Phase.of_all (h : ∀ c, Ready s c ∧ Stamped s c) : Phase s .done :=
  fun c => ⟨(h c).2, fun _ => (h c).1.settled⟩

/-! ### One update -/

section Update

variable {value : Measurement c} {f : ComponentState (Measurement c) → ComponentState (Measurement c)}
  {outcome : Except Exc (Measurement c)}

/-- What a component is judged by. -/
structure SameAt (s s' : Refreshing) (c : Component) : Prop where
  cell : s'.cells c = s.cells c
  attempts : s'.attempts c = s.attempts c
  produced : s'.produced = s.produced

variable {s' : Refreshing}

theorem SameAt.ready (h : SameAt s s' c) (hc : Ready s c) : Ready s' c := by
  constructor
  · rw [h.cell, h.attempts, hc.data]
  · rw [h.cell, h.attempts, hc.error]

theorem SameAt.settled (h : SameAt s s' c) (hc : Settled s c) : Settled s' c := by
  constructor
  · rw [h.cell, h.attempts, hc.data]
  · rw [h.cell, h.attempts]
    exact hc.error

theorem SameAt.stamped (h : SameAt s s' c) (hc : Stamped s c) : Stamped s' c := by
  intro p hp
  rw [h.cell, h.attempts]
  exact hc p (h.produced ▸ hp)

theorem attempts_conclude :
    (s.conclude c outcome).attempts c = if c = .datapath then s.attempts c
      else outcome :: s.attempts c := by
  unfold conclude
  split_ifs <;> simp [attempt]

theorem sameAt_setCell (hne : c' ≠ c) : SameAt s (s.setCell c f) c' :=
  ⟨Function.update_of_ne hne _ _, rfl, rfl⟩

theorem sameAt_conclude (hne : c' ≠ c) : SameAt s (s.conclude c outcome) c' := by
  unfold conclude
  split_ifs
  · exact ⟨rfl, rfl, rfl⟩
  · exact ⟨rfl, Function.update_of_ne hne _ _, rfl⟩

theorem SameAt.trans {s'' : Refreshing} (h : SameAt s s' c) (h' : SameAt s' s'' c) :
    SameAt s s'' c :=
  ⟨h'.cell.trans h.cell, h'.attempts.trans h.attempts, h'.produced.trans h.produced⟩

theorem updateStep_others {pc : UpdatePc (Measurement c)} (hne : c' ≠ c) :
    SameAt s (s.updateStep a c pc).1 c' := by
  cases pc with
  | call =>
    simp only [updateStep]
    split
    · exact ⟨rfl, rfl, rfl⟩
    · exact (sameAt_setCell hne).trans (sameAt_conclude hne)
  | data | stamp =>
    simp only [updateStep]
    exact sameAt_setCell hne
  | clear => exact (sameAt_setCell hne).trans (sameAt_conclude hne)

theorem cells_setCell : (s.setCell c f).cells c = f (s.cells c) := Function.update_self _ _ _

theorem cells_conclude : (s.conclude c outcome).cells = s.cells := by
  unfold conclude
  split_ifs <;> rfl

theorem produced_conclude : (s.conclude c outcome).produced = s.produced := by
  unfold conclude
  split_ifs <;> rfl

structure Updated (s : Refreshing) (c : Component) : Prop where
  ready : Ready s c
  stamped : Stamped s c

/-- A failed measurement leaves the data and the time as they were. -/
theorem updated_of_error {exc : Exc} (hs : Consistent s) (h : Updating s c .call)
    (hmeasure : s.measure a c = .error exc) :
    Updated ((s.setCell c fun cell => { cell with error := some (refreshError c exc) }).conclude c
      (.error exc)) c := by
  obtain ⟨hstamped, hsettled⟩ := h
  by_cases hc : c = .datapath
  · subst hc
    -- The collector has never succeeded, so neither has anything been read from it.
    have hnone : lastSuccess (s.attempts .datapath) = none := by
      rw [← hs.collector]
      simp only [measure, Collector.getSnapshot] at hmeasure
      split at hmeasure
      · cases hmeasure
      · assumption
    have hlast : lastSucceeded (s.attempts .datapath) = false := by
      by_contra hlast
      obtain ⟨v, hv⟩ := exists_lastSuccess (Bool.eq_true_of_not_eq_false hlast)
      rw [hnone] at hv
      cases hv
    have hdata : (s.cells .datapath).data = none := by
      by_contra hdata
      exact hs.known hdata hnone
    constructor
    · constructor <;> simp [conclude, setCell, hdata, hnone, hlast]
    · intro p hp hne
      simp only [conclude, if_true, setCell, Function.update_self] at hp hne ⊢
      exact hstamped p hp hne
  · have hset := hsettled hc
    constructor
    · constructor <;>
        simp [attempts_conclude, cells_conclude, hc, setCell, hset.data, lastSucceeded, Except.isOk,
          Except.toBool]
    · intro p hp hne
      rw [produced_conclude] at hp
      rw [cells_conclude, cells_setCell] at hne
      rw [attempts_conclude, if_neg hc, successes_error]
      exact hstamped p hp hne

theorem updated_of_ok (hs : Consistent s) (h : Updating s c (.clear value)) :
    Updated ((s.setCell c fun cell => { cell with error := none }).conclude c (.ok value)) c := by
  obtain ⟨hdata, hnewest⟩ := h
  by_cases hc : c = .datapath
  · have hnew := hnewest hc
    have hattempts : ((s.setCell c fun cell => { cell with error := none }).conclude c
        (.ok value)).attempts c = s.attempts c := by
      rw [attempts_conclude, if_pos hc]
      rfl
    constructor
    · constructor
      · rw [cells_conclude, cells_setCell, hattempts, hnew.value, hdata]
      · rw [cells_conclude, cells_setCell, hattempts, hnew.last]
        simp
    · intro p hp _
      rw [hattempts]
      rw [produced_conclude] at hp
      exact hnew.since p hp
  · have hattempts : ((s.setCell c fun cell => { cell with error := none }).conclude c
        (.ok value)).attempts c = .ok value :: s.attempts c := by
      rw [attempts_conclude, if_neg hc]
      rfl
    constructor
    · constructor
      · rw [cells_conclude, cells_setCell, hattempts, lastSuccess_ok, hdata]
      · rw [cells_conclude, cells_setCell, hattempts]
        simp [lastSucceeded, Except.isOk, Except.toBool]
    · intro p hp _
      rw [produced_conclude] at hp
      rw [hattempts, successes_ok]
      exact Nat.lt_succ_of_le (successes_le (hs.suffix p hp c))

/-- What is read from a collector that has measured anew. -/
theorem newest_of_datapathNew {v : DatapathMetrics} (hs : Consistent s)
    (hread : s.collector.getSnapshot = .ok v) (hnew : s.datapathNew = true) :
    Newest s .datapath v := by
  have hsnapshot : s.collector.snapshot = some v := by
    unfold Collector.getSnapshot at hread
    split at hread
    · cases hread
      assumption
    · cases hread
  simp only [datapathNew, hsnapshot, Option.isNone_some, Bool.false_or, Bool.and_eq_true] at hnew
  refine ⟨by rw [← hs.collector, hsnapshot], hnew.1, fun p hp => ?_⟩
  -- The last snapshot was produced after all the others.
  cases hproduced : s.produced with
  | nil => simp [hproduced] at hp
  | cons first rest =>
    have hlength : (first.attempts .datapath).length < (s.attempts .datapath).length := by
      simpa [hproduced] using hnew.2
    have hsuffix : p.attempts .datapath <:+ first.attempts .datapath := by
      have hnewer := hs.newer
      rw [hproduced] at hp hnewer
      rcases List.mem_cons.mp hp with rfl | hp
      · exact List.suffix_rfl
      · exact (List.pairwise_cons.mp hnewer).1 p hp .datapath
    exact successes_lt (hs.suffix p hp .datapath) (hsuffix.length_le.trans_lt hlength) hnew.1

theorem Newest.setCell {v : Measurement c} (h : Newest s c v) : Newest (s.setCell c f) c v :=
  ⟨h.value, h.last, h.since⟩

/-- One step of an update, to its end or not. -/
theorem updateStep_spec {pc : UpdatePc (Measurement c)} (hs : Consistent s) (h : Updating s c pc)
    (hnew : pc = .call → c = .datapath → s.datapathNew = true) :
    match s.updateStep a c pc with
    | (s', some pc') => Updating s' c pc'
    | (s', none) => Updated s' c := by
  cases pc with
  | call =>
    simp only [updateStep]
    cases hmeasure : s.measure a c with
    | error exc => exact updated_of_error hs h hmeasure
    | ok v =>
      refine ⟨h.1, h.2, ?_⟩
      rintro rfl
      exact newest_of_datapathNew hs hmeasure (hnew rfl rfl)
  | data v =>
    refine ⟨?_, fun hc => (h.2.2 hc).setCell⟩
    rw [cells_setCell]
  | stamp v =>
    refine ⟨?_, fun hc => (h.2 hc).setCell⟩
    rw [cells_setCell]
    exact h.1
  | clear v => exact updated_of_ok hs h

theorem Consistent.conclude (hs : Consistent s) : Consistent (s.conclude c outcome) := by
  have hsuffix : ∀ c', s.attempts c' <:+ (s.conclude c outcome).attempts c' := by
    intro c'
    by_cases hc : c' = c
    · subst hc
      rw [attempts_conclude]
      split_ifs
      · exact List.suffix_rfl
      · exact List.suffix_cons _ _
    · rw [(sameAt_conclude hc).attempts]
  have hdatapath : (s.conclude c outcome).attempts .datapath = s.attempts .datapath := by
    cases c <;> rfl
  have hcollector : (s.conclude c outcome).collector = s.collector := by
    cases c <;> rfl
  constructor
  · rw [hcollector, hdatapath, hs.collector]
  · rw [cells_conclude, hdatapath]
    exact hs.known
  · intro p hp c'
    rw [produced_conclude] at hp
    exact (hs.suffix p hp c').trans (hsuffix c')
  · rw [produced_conclude]
    exact hs.newer
  · rw [cells_conclude]
    exact hs.speaking
  · exact ⟨by rw [produced_conclude]; exact hs.fresh.each,
      by rw [produced_conclude]; exact hs.fresh.updated⟩

theorem Consistent.setCell (hs : Consistent s)
    (hdata : (f (s.cells c)).data = (s.cells c).data ∨
      (c = .datapath → lastSuccess (s.attempts .datapath) ≠ none))
    (herror : (f (s.cells c)).error ≠ some "") : Consistent (s.setCell c f) where
  collector := hs.collector
  known hne := by
    by_cases hc : .datapath = c
    · subst hc
      rw [cells_setCell] at hne
      rcases hdata with hsame | hsome
      · exact hs.known (hsame ▸ hne)
      · exact hsome rfl
    · rw [(sameAt_setCell hc).cell] at hne
      exact hs.known hne
  suffix := hs.suffix
  newer := hs.newer
  speaking c' := by
    by_cases hc : c' = c
    · subst hc
      rwa [cells_setCell]
    · rw [(sameAt_setCell hc).cell]
      exact hs.speaking c'
  fresh := ⟨hs.fresh.each, hs.fresh.updated⟩

theorem updateStep_consistent {pc : UpdatePc (Measurement c)} (hs : Consistent s)
    (h : Updating s c pc) (hspeaks : pc = .call → s.speaks a c = true) :
    Consistent (s.updateStep a c pc).1 := by
  cases pc with
  | call =>
    have hspeak := hspeaks rfl
    simp only [updateStep]
    cases hmeasure : s.measure a c with
    | ok v => exact hs
    | error exc =>
      simp only [speaks, hmeasure, bne_iff_ne] at hspeak
      exact (hs.setCell (.inl rfl) (by simpa using hspeak)).conclude
  | data v =>
    simp only [updateStep]
    refine hs.setCell (.inr ?_) (hs.speaking c)
    rintro rfl
    simp [(h.2.2 rfl).value]
  | stamp v =>
    simp only [updateStep]
    exact hs.setCell (.inl rfl) (hs.speaking c)
  | clear v =>
    simp only [updateStep]
    exact (hs.setCell (.inl rfl) (by simp)).conclude

end Update

/-! ### Whole refreshes -/

section Refresh

variable {pc pc' : RefreshPc} {s' : Refreshing}

/-- The components after the update of one of them has come to its end. -/
theorem phase_afterUpdate {now : ℚ} {refreshLatency : Bool}
    (hothers : ∀ c', c' ≠ c → Stamped s c' ∧ (c' ≠ .datapath → Settled s c') ∧
      (c'.precedes c = true → Ready s c'))
    (hlatency : refreshLatency = false → c ≠ .latency ∧ Ready s .latency) (hc : Updated s c) :
    Phase s (afterUpdate now refreshLatency c) := by
  cases c with
  | capacity =>
    refine ⟨fun c' hne => ?_, fun hfalse => ⟨nofun, (hlatency hfalse).2⟩,
      (hothers .datapath nofun).1, nofun⟩
    cases c' with
    | capacity => exact ⟨hc.stamped, fun _ => hc.ready.settled, fun _ => hc.ready⟩
    | datapath => exact absurd rfl hne
    | latency => exact ⟨(hothers .latency nofun).1, (hothers .latency nofun).2.1, nofun⟩
  | datapath =>
    have hcapacity := hothers .capacity nofun
    have hlat := hothers .latency nofun
    cases refreshLatency with
    | true =>
      refine ⟨fun c' hne => ?_, nofun, hlat.1, fun _ => hlat.2.1 nofun⟩
      cases c' with
      | capacity => exact ⟨hcapacity.1, hcapacity.2.1, fun _ => hcapacity.2.2 rfl⟩
      | datapath => exact ⟨hc.stamped, fun _ => hc.ready.settled, fun _ => hc.ready⟩
      | latency => exact absurd rfl hne
    | false =>
      intro c'
      cases c' with
      | capacity => exact ⟨hcapacity.2.2 rfl, hcapacity.1⟩
      | datapath => exact ⟨hc.ready, hc.stamped⟩
      | latency => exact ⟨(hlatency rfl).2, hlat.1⟩
  | latency =>
    intro c'
    cases c' with
    | capacity => exact ⟨(hothers .capacity nofun).2.2 rfl, (hothers .capacity nofun).1⟩
    | datapath => exact ⟨(hothers .datapath nofun).2.2 rfl, (hothers .datapath nofun).1⟩
    | latency => exact ⟨hc.ready, hc.stamped⟩

/-- A snapshot of components that are all up to date. -/
theorem fresh_collectSnapshot {now : ℚ} {around : Surroundings} (hs : Consistent s)
    (h : ∀ c, Ready s c ∧ Stamped s c) :
    Produced.Fresh ⟨collectSnapshot s.intervalS now around s.cells, s.attempts⟩ := by
  have herror : ∀ c, ((collectSnapshot s.intervalS now around s.cells).componentStatus c).error =
      (s.cells c).error := by
    intro c
    cases c <;> rfl
  have hline : ∀ c, (errorLine c ((collectSnapshot s.intervalS now around s.cells).componentStatus
      c)).toList = [] ↔ (s.cells c).error = none := by
    intro c
    rw [errorLine, given, herror]
    cases hcell : (s.cells c).error with
    | none => simp
    | some text =>
      have htext : text ≠ "" := fun heq => hs.speaking c (by rw [hcell, heq])
      simp [htext]
  refine ⟨fun c => ?_, fun c => ?_, ?_⟩
  · rw [← (h c).1.data]
    cases c <;> rfl
  · rw [herror]
    exact (h c).1.error
  · have hempty : (collectSnapshot s.intervalS now around s.cells).errors = [] ↔
        ∀ c, (s.cells c).error = none := by
      rw [collectSnapshot, List.append_eq_nil_iff, List.append_eq_nil_iff]
      constructor
      · rintro ⟨⟨hcapacity, hdatapath⟩, hlatency⟩ c
        cases c with
        | capacity => exact (hline .capacity).mp hcapacity
        | datapath => exact (hline .datapath).mp hdatapath
        | latency => exact (hline .latency).mp hlatency
      · intro hnone
        exact ⟨⟨(hline .capacity).mpr (hnone _), (hline .datapath).mpr (hnone _)⟩,
          (hline .latency).mpr (hnone _)⟩
    have hstatus : (collectSnapshot s.intervalS now around s.cells).status = .degraded ↔
        (collectSnapshot s.intervalS now around s.cells).errors ≠ [] := by
      simp only [collectSnapshot]
      split_ifs with herrors
      · exact iff_of_true rfl herrors
      · exact iff_of_false (by simp) herrors
    simp only [hstatus, ne_eq, hempty, herror, not_forall]

theorem updatedAt_collectSnapshot {now : ℚ} {around : Surroundings} (c : Component) :
    ((collectSnapshot s.intervalS now around s.cells).componentStatus c).updatedAt =
      (s.cells c).updatedAt := by
  cases c <;> rfl

/-- The snapshot is put together, with every component up to date. -/
theorem produce_spec {now : ℚ} {around : Surroundings} (hs : Consistent s)
    (h : ∀ c, Ready s c ∧ Stamped s c) :
    Consistent { s with produced :=
      ⟨collectSnapshot s.intervalS now around s.cells, s.attempts⟩ :: s.produced } ∧
    Phase { s with produced :=
      ⟨collectSnapshot s.intervalS now around s.cells, s.attempts⟩ :: s.produced } .done := by
  constructor
  · refine ⟨hs.collector, hs.known, fun p hp c => ?_, ?_, hs.speaking, fun p hp => ?_, ?_⟩
    · rcases List.mem_cons.mp hp with rfl | hp
      · exact List.suffix_rfl
      · exact hs.suffix p hp c
    · exact List.pairwise_cons.mpr ⟨hs.suffix, hs.newer⟩
    · rcases List.mem_cons.mp hp with rfl | hp
      · exact fresh_collectSnapshot hs h
      · exact hs.fresh.each p hp
    · refine List.pairwise_cons.mpr ⟨fun p hp c hne => ?_, hs.fresh.updated⟩
      rw [updatedAt_collectSnapshot] at hne
      exact (h c).2 p hp hne
  · intro c
    refine ⟨fun p hp hne => ?_, fun _ => ⟨(h c).1.data, fun _ => (h c).1.error⟩⟩
    rcases List.mem_cons.mp hp with rfl | hp
    · exact absurd (updatedAt_collectSnapshot c).symm hne
    · exact (h c).2 p hp hne

/-- A step of the only refresh under way. -/
theorem refreshStep_spec (hs : Consistent s) (h : Phase s pc)
    (hsteady : ∀ now refreshLatency c, pc = .update now refreshLatency c .call →
      s.speaks a c = true ∧ (c = .datapath → s.datapathNew = true))
    (hstep : s.refreshStep a pc = some (s', pc')) : Consistent s' ∧ Phase s' pc' := by
  cases pc with
  | done => cases hstep
  | assemble now =>
    simp only [refreshStep] at hstep
    cases haround : a.around with
    | error exc =>
      rw [haround] at hstep
      cases hstep
      exact ⟨hs, .of_all h⟩
    | ok around =>
      rw [haround] at hstep
      cases hstep
      exact produce_spec hs h
  | update now refreshLatency c pc =>
    obtain ⟨hothers, hlatency, hown⟩ := h
    have hconsistent := updateStep_consistent (a := a) hs hown
      (by rintro rfl; exact (hsteady now refreshLatency c rfl).1)
    have hspec := updateStep_spec (a := a) hs hown
      (by rintro rfl; exact (hsteady now refreshLatency c rfl).2)
    have hothers' : ∀ c', c' ≠ c → Stamped (s.updateStep a c pc).1 c' ∧
        (c' ≠ .datapath → Settled (s.updateStep a c pc).1 c') ∧
          (c'.precedes c = true → Ready (s.updateStep a c pc).1 c') := by
      intro c' hne
      have hsame : SameAt s (s.updateStep a c pc).1 c' := updateStep_others hne
      obtain ⟨hstamped, hsettled, hready⟩ := hothers c' hne
      exact ⟨hsame.stamped hstamped, fun hc => hsame.settled (hsettled hc),
        fun hc => hsame.ready (hready hc)⟩
    have hlatency' : refreshLatency = false →
        c ≠ .latency ∧ Ready (s.updateStep a c pc).1 .latency := by
      intro hfalse
      obtain ⟨hne, hready⟩ := hlatency hfalse
      exact ⟨hne, (updateStep_others (Ne.symm hne)).ready hready⟩
    simp only [refreshStep] at hstep
    rcases hupdate : s.updateStep a c pc with ⟨s₁, _ | pc₁⟩ <;>
      rw [hupdate] at hstep hspec hconsistent hothers' hlatency'
    · cases hstep
      exact ⟨hconsistent, phase_afterUpdate hothers' hlatency' hspec⟩
    · cases hstep
      exact ⟨hconsistent, hothers', hlatency', hspec⟩

/-- A refresh begins when there is no other. -/
theorem phase_begin {forceLatency : Bool} {monotonic now : ℚ} (h : Phase s .done) :
    Phase s (.update now (forceLatency || decide (s.nextLatencyRefreshAt ≤ monotonic) ||
      (s.cells .latency).data.isNone) .capacity .call) := by
  refine ⟨fun c' hne => ⟨(h c').1, (h c').2, ?_⟩, fun hfalse => ⟨nofun, ?_⟩, h .capacity⟩
  · intro hprecedes
    cases c' <;> cases hprecedes
  · have hdata : (s.cells .latency).data ≠ none := by
      intro hnone
      simp [hnone] at hfalse
    exact ((h .latency).2 nofun).ready hdata

/-! ### The collector -/

theorem lastSuccess_record (outcome : Except Exc DatapathMetrics)
    (h : s.collector.snapshot = lastSuccess (s.attempts .datapath)) :
    (s.collector.record outcome).snapshot = lastSuccess (outcome :: s.attempts .datapath) := by
  cases outcome with
  | ok data => rfl
  | error exc =>
    rw [lastSuccess_error, ← h]
    cases exc <;> rfl

theorem SameAt.newest {v : Measurement c} (h : SameAt s s' c) (hc : Newest s c v) :
    Newest s' c v := by
  refine ⟨by rw [h.attempts, hc.value], by rw [h.attempts, hc.last], fun p hp => ?_⟩
  rw [h.attempts]
  exact hc.since p (h.produced ▸ hp)

theorem SameAt.updating {pc : UpdatePc (Measurement c)} (h : SameAt s s' c)
    (hc : Updating s c pc) : Updating s' c pc := by
  cases pc with
  | call => exact ⟨h.stamped hc.1, fun hne => h.settled (hc.2 hne)⟩
  | data v =>
    exact ⟨h.stamped hc.1, fun hne => h.settled (hc.2.1 hne), fun heq => h.newest (hc.2.2 heq)⟩
  | stamp v => exact ⟨by rw [h.cell]; exact hc.1, fun heq => h.newest (hc.2 heq)⟩
  | clear v => exact ⟨by rw [h.cell]; exact hc.1, fun heq => h.newest (hc.2 heq)⟩

def collected (s : Refreshing) (outcome : Except Exc DatapathMetrics) : Refreshing :=
  { s with collector := s.collector.record outcome }.attempt .datapath outcome

variable {outcome : Except Exc DatapathMetrics}

theorem attempts_collected :
    (s.collected outcome).attempts .datapath = outcome :: s.attempts .datapath := by
  simp [collected, attempt]

theorem sameAt_collected (hc : c ≠ .datapath) : SameAt s (s.collected outcome) c :=
  ⟨rfl, Function.update_of_ne hc _ _, rfl⟩

theorem suffix_collected (c : Component) : s.attempts c <:+ (s.collected outcome).attempts c := by
  by_cases hc : c = .datapath
  · subst hc
    rw [attempts_collected]
    exact List.suffix_cons _ _
  · rw [(sameAt_collected hc).attempts]

theorem stamped_collected (h : Stamped s c) : Stamped (s.collected outcome) c := by
  intro p hp hne
  exact (h p hp hne).trans_le (successes_le (suffix_collected c))

theorem Consistent.collected (hs : Consistent s) : Consistent (s.collected outcome) where
  collector := by
    rw [attempts_collected]
    exact lastSuccess_record outcome hs.collector
  known hne := by
    rw [attempts_collected]
    cases outcome with
    | ok data => exact Option.some_ne_none data
    | error exc => exact hs.known hne
  suffix p hp c := (hs.suffix p hp c).trans (suffix_collected c)
  newer := hs.newer
  speaking := hs.speaking
  fresh := ⟨hs.fresh.each, hs.fresh.updated⟩

/-- A round of the collector while no refresh has read it and not yet produced a snapshot. -/
theorem phase_collected (h : Phase s pc) (hpc : pc.holdsDatapath = false) :
    Phase (s.collected outcome) pc := by
  cases pc with
  | done =>
    exact fun c => ⟨stamped_collected (h c).1, fun hc => (sameAt_collected hc).settled ((h c).2 hc)⟩
  | assemble now => cases hpc
  | update now refreshLatency c pc =>
    obtain ⟨hothers, hlatency, hown⟩ := h
    refine ⟨fun c' hne => ?_, fun hfalse => ⟨(hlatency hfalse).1,
      (sameAt_collected (by decide)).ready (hlatency hfalse).2⟩, ?_⟩
    · obtain ⟨hstamped, hsettled, hready⟩ := hothers c' hne
      refine ⟨stamped_collected hstamped, fun hc => (sameAt_collected hc).settled (hsettled hc), ?_⟩
      intro hprecedes
      -- The datapath comes before the latency only, and there the collector waits.
      have hc : c' ≠ .datapath := by
        rintro rfl
        cases c with
        | capacity | datapath => cases hprecedes
        | latency => cases pc <;> cases hpc
      exact (sameAt_collected hc).ready (hready hprecedes)
    · by_cases hc : c = .datapath
      · subst hc
        cases pc with
        | call => exact ⟨stamped_collected hown.1, fun hne => absurd rfl hne⟩
        | data | stamp | clear => cases hpc
      · exact (sameAt_collected hc).updating hown

end Refresh

/-! ### Whole runs -/

theorem Phase.congr {s' : Refreshing} {pc : RefreshPc} (hsame : ∀ c, SameAt s s' c)
    (h : Phase s pc) : Phase s' pc := by
  cases pc with
  | done => exact fun c => ⟨(hsame c).stamped (h c).1, fun hc => (hsame c).settled ((h c).2 hc)⟩
  | assemble now => exact fun c => ⟨(hsame c).ready (h c).1, (hsame c).stamped (h c).2⟩
  | update now refreshLatency c pc =>
    obtain ⟨hothers, hlatency, hown⟩ := h
    refine ⟨fun c' hne => ?_, fun hfalse => ⟨(hlatency hfalse).1,
      (hsame .latency).ready (hlatency hfalse).2⟩, (hsame c).updating hown⟩
    obtain ⟨hstamped, hsettled, hready⟩ := hothers c' hne
    exact ⟨(hsame c').stamped hstamped, fun hc => (hsame c').settled (hsettled hc),
      fun hc => (hsame c').ready (hready hc)⟩

/-- Which refreshes are under way makes no difference. -/
theorem Consistent.with_refreshes (hs : Consistent s) (next : ℚ) (refreshes : List RefreshPc) :
    Consistent { s with nextLatencyRefreshAt := next, refreshes } :=
  ⟨hs.collector, hs.known, hs.suffix, hs.newer, hs.speaking, ⟨hs.fresh.each, hs.fresh.updated⟩⟩

theorem Phase.with_refreshes {pc : RefreshPc} (h : Phase s pc) (next : ℚ)
    (refreshes : List RefreshPc) : Phase { s with nextLatencyRefreshAt := next, refreshes } pc := by
  have hsame : ∀ c, SameAt s { s with nextLatencyRefreshAt := next, refreshes } c :=
    fun _ => ⟨rfl, rfl, rfl⟩
  exact h.congr hsame

/-- There is at most one refresh under way, and the components are as far as it is. -/
inductive Alone (s : Refreshing) : Prop where
  | idle : (∀ pc ∈ s.refreshes, pc.isDone = true) → Phase s .done → Alone s
  | busy (i : ℕ) (pc : RefreshPc) : s.refreshes[i]? = some pc → Phase s pc →
      (∀ (j : ℕ) pc', s.refreshes[j]? = some pc' → j ≠ i → pc'.isDone = true) → Alone s

theorem consistent_init (intervalS latencyIntervalS : ℚ) :
    Consistent (init intervalS latencyIntervalS) where
  collector := rfl
  known h := absurd rfl h
  suffix _ hp := absurd hp List.not_mem_nil
  newer := .nil
  speaking _ h := by simp [init] at h
  fresh := ⟨fun _ hp => absurd hp List.not_mem_nil, .nil⟩

theorem alone_init (intervalS latencyIntervalS : ℚ) : Alone (init intervalS latencyIntervalS) :=
  .idle (fun _ hpc => absurd hpc List.not_mem_nil)
    fun _ => ⟨fun _ hp => absurd hp List.not_mem_nil, fun _ => ⟨rfl, fun h => absurd rfl h⟩⟩

theorem isDone_iff {pc : RefreshPc} : pc.isDone = true ↔ pc = .done := by
  cases pc <;> simp [RefreshPc.isDone]

theorem steady_step {s' : Refreshing} {l : RefreshLabel} (hs : Consistent s) (h : Alone s)
    (hsteady : s.steady l = true) (hstep : s.step l = some s') : Consistent s' ∧ Alone s' := by
  cases l with
  | begin forceLatency monotonic now =>
    obtain rfl := Option.some.inj hstep
    have hdone : ∀ pc ∈ s.refreshes, pc.isDone = true := List.all_eq_true.mp hsteady
    have hphase : Phase s .done := by
      cases h with
      | idle _ hphase => exact hphase
      | busy i pc hpc hphase _ =>
        rwa [isDone_iff.mp (hdone pc (List.mem_of_getElem? hpc))] at hphase
    refine ⟨hs.with_refreshes _ _, .busy s.refreshes.length _ List.getElem?_concat_length
      ((phase_begin hphase).with_refreshes _ _) fun j pc hpc hne => ?_⟩
    have hlt : j < s.refreshes.length := by
      have := (List.getElem?_eq_some_iff.mp hpc).choose
      simp [beginRefresh] at this
      omega
    simp only [beginRefresh, List.getElem?_append_left hlt] at hpc
    exact hdone pc (List.mem_of_getElem? hpc)
  | refresh i a =>
    obtain ⟨pc, hpc, hstep⟩ := Option.bind_eq_some_iff.mp hstep
    obtain ⟨⟨s₁, pc'⟩, hrefresh, hstep⟩ := Option.bind_eq_some_iff.mp hstep
    obtain rfl := Option.some.inj hstep
    have hactive : pc.isDone = false := by
      cases pc with
      | done => cases hrefresh
      | update | assemble => rfl
    cases h with
    | idle hdone _ => simp [hdone pc (List.mem_of_getElem? hpc)] at hactive
    | busy k own hown hphase hothers =>
      have hi : i = k := by
        by_contra hne
        simp [hothers i pc hpc hne] at hactive
      subst hi
      obtain rfl : own = pc := Option.some.inj (hown.symm.trans hpc)
      have hcall : ∀ now refreshLatency c, own = .update now refreshLatency c .call →
          s.speaks a c = true ∧ (c = .datapath → s.datapathNew = true) := by
        rintro now refreshLatency c rfl
        simpa [steady, hpc, or_iff_not_imp_left] using hsteady
      obtain ⟨hconsistent, hphase'⟩ := refreshStep_spec hs hphase hcall hrefresh
      refine ⟨hconsistent.with_refreshes _ _, .busy i pc' ?_ (hphase'.with_refreshes _ _) ?_⟩
      · exact List.getElem?_set_self (List.getElem?_eq_some_iff.mp hpc).choose
      · intro j pc'' hpc'' hne
        rw [List.getElem?_set_ne (Ne.symm hne)] at hpc''
        exact hothers j pc'' hpc'' hne
  | collect outcome =>
    obtain rfl := Option.some.inj hstep
    have hholds : ∀ pc ∈ s.refreshes, pc.holdsDatapath = false := by
      simpa [steady] using hsteady
    refine ⟨hs.collected, ?_⟩
    cases h with
    | idle hdone hphase => exact .idle hdone (phase_collected hphase rfl)
    | busy i pc hpc hphase hothers =>
      exact .busy i pc hpc (phase_collected hphase (hholds pc (List.mem_of_getElem? hpc))) hothers

end Refreshing

/-- Snapshots say how things are in every run in which refreshes do not overlap, each
reads the collector after a new success or before the first, the collector does not finish
a round while a snapshot is under way, and errors have a text. -/
theorem snapshots_fresh (intervalS latencyIntervalS : ℚ) {s : Refreshing}
    (h : Reach Refreshing.step (fun s l => s.steady l = true)
      (Refreshing.init intervalS latencyIntervalS) s) : s.Fresh := by
  have hinv : s.Consistent ∧ s.Alone := by
    refine Reach.invariant (I := fun s => s.Consistent ∧ s.Alone) ?_ ?_ h
    · exact ⟨Refreshing.consistent_init _ _, Refreshing.alone_init _ _⟩
    · rintro s l s' ⟨hs, halone⟩ hsteady hstep
      exact Refreshing.steady_step hs halone hsteady hstep
  exact hinv.1.fresh

/-! ### Two runs -/

def idleSurroundings : Surroundings where
  traceRuntime := ⟨0, true, 100⟩
  scheduledTraceMetrics := none
  apiRuntime := ⟨0, 0, 0, 0, 0, 0, 0, 0, 0⟩

def measuredAt (now : ℚ) : Measured where
  now
  capacity := .ok ⟨0, 0, 0, 0, 0, 0, 0, 0⟩
  latency := .ok ⟨⟨0, 0, 0, 0, 0, none, none, none, none⟩, ⟨1, 1, 1, 1⟩⟩
  around := .ok idleSurroundings

def collectSuccess (flows : ℕ) : RefreshLabel := .collect (.ok ⟨flows, 0, 0, 0, none, none⟩)

def firstRefresh : List RefreshLabel :=
  [collectSuccess 7, .begin true 0 0] ++ List.replicate 13 (.refresh 0 (measuredAt 0))

/-- The collector succeeds again; the next refresh cannot measure the capacity. -/
def degradedRefresh : List RefreshLabel :=
  [collectSuccess 8, .begin false 5 5,
    .refresh 1 { measuredAt 5 with capacity := .error (.http 503 "NB is not connected.") }] ++
  List.replicate 5 (.refresh 1 (measuredAt 5))

theorem snapshots_fresh_degraded : ∃ s, Reach Refreshing.step (fun s l => s.steady l = true)
    (Refreshing.init 5 30) s ∧
    s.produced.map (fun p => p.snapshot.status) = [.degraded, .ok] ∧ s.Fresh := by
  obtain ⟨s, hreach, hstatus⟩ : ∃ s, Reach Refreshing.step (fun s l => s.steady l = true)
      (Refreshing.init 5 30) s ∧
        s.produced.map (fun p => p.snapshot.status) = [.degraded, .ok] :=
    exists_reach_of_mem_run (firstRefresh ++ degradedRefresh) (by decide +kernel)
  exact ⟨s, hreach, hstatus, snapshots_fresh 5 30 hreach⟩

/-- The collector fails after a success; the next refresh measures the rest. -/
def staleRefresh : List RefreshLabel :=
  [.collect (.error (.http 500 "ovs-appctl failed.")), .begin false 5 5] ++
  List.replicate 9 (.refresh 1 (measuredAt 5))

/-- A snapshot that shows no error of the datapath, though the latest attempt failed. -/
def Produced.hidesFailure (p : Produced) : Bool :=
  p.snapshot.datapathStatus.error.isNone && !lastSucceeded (p.attempts .datapath)

/-- A later snapshot with a new time for the datapath, and no new success. -/
def Refreshing.restamps (s : Refreshing) : Bool :=
  match s.produced with
  | later :: earlier :: _ =>
    decide (later.snapshot.datapathStatus.updatedAt ≠ earlier.snapshot.datapathStatus.updatedAt) &&
      successes (later.attempts .datapath) == successes (earlier.attempts .datapath)
  | _ => false

theorem failed_collector_shown_fresh : ∃ s, Reach Refreshing.step anyStep (Refreshing.init 5 30) s ∧
    s.produced.any Produced.hidesFailure = true ∧ s.restamps = true ∧ ¬ s.Fresh := by
  obtain ⟨s, hreach, hhides, hrestamps⟩ : ∃ s, Reach Refreshing.step anyStep
      (Refreshing.init 5 30) s ∧ s.produced.any Produced.hidesFailure = true ∧ s.restamps = true :=
    exists_reach_of_mem_run (firstRefresh ++ staleRefresh) (by decide +kernel)
  refine ⟨s, hreach, hhides, hrestamps, fun hfresh => ?_⟩
  obtain ⟨p, hp, hhidden⟩ := List.any_eq_true.mp hhides
  obtain ⟨herror, hfailed⟩ := (Bool.and_eq_true _ _).mp hhidden
  have hlast := ((hfresh.each p hp).error .datapath).mp (Option.isNone_iff_eq_none.mp herror)
  simp [hlast] at hfailed

end OvnApi.Monitor
