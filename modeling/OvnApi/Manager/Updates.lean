import OvnApi.Lib.Lists
import OvnApi.Manager.Stages

/-! The updates of a run, as a listener sees them. For each run there is what its holder has
yet to do, what its `submit` has yet to announce, and what has been announced: the three fit
together in a few ways only, and every act takes one of them to another, as long as no worker
announces a run as running before its `submit` has announced it as queued. What a run was last
announced as is then its stored status, except between a change of the status and its
announcement, unless a restart fails it silently or its end is never announced. -/

namespace OvnApi.Manager

open OvnApi.Core Lib Traces Store

/-! ### The notes for one run -/

section Notes

variable {β : Type} {id i : String} {notes notes' : List (String × β)}

def notesOf (id : String) (notes : List (String × β)) : List β :=
  notes.filterMap fun note => if note.1 = id then some note.2 else none

theorem notesOf_append : notesOf id (notes ++ notes') = notesOf id notes ++ notesOf id notes' :=
  List.filterMap_append

theorem notesOf_perm (id : String) (h : notes.Perm notes') :
    (notesOf id notes).Perm (notesOf id notes') :=
  h.filterMap _

theorem notesOf_tagged (note : Option β) :
    notesOf i (tagged id note) = if i = id then note.toList else [] := by
  cases note with
  | none => simp [notesOf, tagged]
  | some note => by_cases h : i = id <;> simp [notesOf, tagged, h, Ne.symm]

/-- What a run has after an act on a run that may be another. -/
theorem notesOf_tagged_append (note : Option β) :
    notesOf i (tagged id note ++ notes) =
      (if i = id then note.toList else []) ++ notesOf i notes := by
  rw [notesOf_append, notesOf_tagged]

end Notes

/-- The statuses passed to a listener for a run. -/
def State.updates (s : State) (id : String) : List RunStatus := notesOf id s.emitted

/-! ### How the three fit together -/

def opening (submitted : Bool) : List RunStatus :=
  if submitted then [.queued, .running] else [.running]

/-- The first updates of queued, running, final, or of running, final. -/
def InOrder (submitted : Bool) (updates : List RunStatus) : Prop :=
  ∃ status : RunStatus, status.isFinal = true ∧ updates <+: opening submitted ++ [status]

/-- Submitted and not yet announced as running. -/
inductive Early : Stage → Prop where
  | queued : Early .queued
  | fetched : Early .fetched
  | marked : Early (.marked .running)

/-- A run that was submitted or not, the announcements its `submit` has yet to make, the
stages its holders are at, and what has been announced. -/
inductive Announced : Bool → List RunStatus → List Stage → List RunStatus → Prop where
  | idle {submitted : Bool} {updates : List RunStatus} (h : InOrder submitted updates) :
      Announced submitted [] [] updates
  | submitting : Announced false [] [.submitting .queued] []
  /-- Nobody has the run in hand any more. -/
  | due : Announced true [.queued] [] []
  | announcing {stage : Stage} (hearly : Early stage) : Announced true [.queued] [stage] []
  | waiting {stage : Stage} (hearly : Early stage) : Announced true [] [stage] [.queued]
  | starting : Announced false [] [.starting] []
  | running (submitted : Bool) : Announced submitted [] [.running] (opening submitted)
  | closed (submitted : Bool) {status : RunStatus} (hfinal : status.isFinal = true) :
      Announced submitted [] [.closed status] (opening submitted)

theorem InOrder.nil (submitted : Bool) : InOrder submitted [] := ⟨.failed, rfl, _, rfl⟩

theorem InOrder.queued : InOrder true [.queued] := ⟨.failed, rfl, [.running, .failed], rfl⟩

theorem InOrder.opening (submitted : Bool) : InOrder submitted (opening submitted) :=
  ⟨.failed, rfl, [.failed], rfl⟩

theorem InOrder.all {status : RunStatus} (submitted : Bool) (h : status.isFinal = true) :
    InOrder submitted (Manager.opening submitted ++ [status]) :=
  ⟨status, h, [], List.append_nil _⟩

section Announced

variable {submitted : Bool} {a a' ra : List RunStatus} {w w' rw : List Stage}
  {updates : List RunStatus} {status row : RunStatus} {φ φ' : Stage}

theorem Announced.inOrder (h : Announced submitted a w updates) : InOrder submitted updates := by
  cases h with
  | idle h => exact h
  | submitting | due | announcing | starting => exact .nil _
  | waiting => exact .queued
  | running | closed => exact .opening _

theorem Announced.length_le (h : Announced submitted a w updates) :
    a.length ≤ 1 ∧ w.length ≤ 1 := by
  cases h <;> simp

theorem Announced.perm (h : Announced submitted a w updates) (ha : a.Perm a') (hw : w.Perm w') :
    Announced submitted a' w' updates := by
  obtain rfl := eq_of_perm_of_length_le_one ha h.length_le.1
  obtain rfl := eq_of_perm_of_length_le_one hw h.length_le.2
  exact h

theorem Announced.put (h : Announced submitted a [.submitting status] updates) :
    Announced true (status :: a) [.queued] updates := by
  cases h with
  | submitting => exact .announcing .queued
  | announcing hearly | waiting hearly => cases hearly

/-- A `submit` announces its run, wherever that run is by now. -/
theorem Announced.announce (h : Announced submitted [status] w updates) :
    Announced submitted [] w (updates ++ [status]) := by
  cases h with
  | due => exact .idle .queued
  | announcing hearly => exact .waiting hearly

/-- An early stage follows on another. -/
theorem Announced.early (h : Announced submitted a [φ] updates) (hearly : Early φ)
    (hearly' : Early φ') : Announced submitted a [φ'] updates := by
  cases h with
  | announcing => exact .announcing hearly'
  | waiting => exact .waiting hearly'
  | submitting | starting | running | closed => cases hearly

theorem Announced.sayRunning (h : Announced submitted [] [.marked status] updates) :
    Announced submitted [] [.running] (updates ++ [status]) := by
  cases h with
  | waiting hearly =>
    cases hearly
    exact .running true

theorem Announced.saySync (h : Announced submitted a [.starting] updates) :
    Announced submitted a [.running] (updates ++ [.running]) := by
  cases h with
  | starting => exact .running false
  | announcing hearly | waiting hearly => cases hearly

theorem Announced.close (h : Announced submitted a [.running] updates)
    (hfinal : status.isFinal = true) : Announced submitted a [.closed status] updates := by
  cases h with
  | running => exact .closed _ hfinal
  | announcing hearly | waiting hearly => cases hearly

theorem Announced.sayFinal (h : Announced submitted a [.closed status] updates) :
    Announced submitted a [] (updates ++ [status]) := by
  cases h with
  | closed _ hfinal => exact .idle (.all _ hfinal)
  | announcing hearly | waiting hearly => cases hearly

/-- A run is given up, or its entry in the queue is dropped. -/
theorem Announced.abandon (h : Announced submitted a [φ] updates) :
    Announced submitted a [] updates := by
  cases h with
  | submitting | starting => exact .idle (.nil _)
  | announcing => exact .due
  | waiting => exact .idle .queued
  | running | closed => exact .idle (.opening _)

/-- There is no other holder beside the one that acts. -/
theorem Announced.alone_of_before {φ? : Option Stage}
    (h : Announced submitted a (φ?.toList ++ rw) updates) (hbefore : φ? ≠ none) : rw = [] := by
  obtain ⟨φ, rfl⟩ := Option.ne_none_iff_exists'.mp hbefore
  exact eq_nil_of_length_cons_le_one h.length_le.2

/-- An act takes one way of fitting together to another. -/
theorem Announced.of_act {act : Act} (h : Announced submitted a w updates)
    (ha : a.Perm (act.dueBefore.toList ++ ra)) (hw : w.Perm (act.before.toList ++ rw))
    (hfresh : act.reserves = true → submitted = false ∧ a = [] ∧ w = [] ∧ updates = [])
    (hsay : act.isSayRunning = true → a = []) :
    Announced (submitted || act.puts) (act.dueAfter.toList ++ ra) (act.after.toList ++ rw)
      (updates ++ act.spoken.toList) := by
  obtain rfl := eq_of_perm_of_length_le_one ha h.length_le.1
  obtain rfl := eq_of_perm_of_length_le_one hw h.length_le.2
  have hrw := h.alone_of_before
  cases act with
  | pass stage => simpa [Act.puts, Act.dueBefore, Act.dueAfter, Act.before, Act.after, Act.spoken] using h
  | reserve =>
    obtain ⟨rfl, ha, hw, rfl⟩ := hfresh rfl
    obtain rfl : ra = [] := ha
    obtain rfl : rw = [] := hw
    exact .submitting
  | reserveSync =>
    obtain ⟨rfl, ha, hw, rfl⟩ := hfresh rfl
    obtain rfl : ra = [] := ha
    obtain rfl : rw = [] := hw
    exact .starting
  | create | createSync =>
    simpa [Act.puts, Act.dueBefore, Act.dueAfter, Act.before, Act.after, Act.spoken] using h
  | put status =>
    obtain rfl := hrw (Option.some_ne_none _)
    simpa [Act.puts, Act.dueBefore, Act.dueAfter, Act.after, Act.spoken] using Announced.put h
  | announce status =>
    obtain rfl : ra = [] := eq_nil_of_length_cons_le_one h.length_le.1
    simpa [Act.puts, Act.before, Act.dueAfter, Act.after, Act.spoken] using Announced.announce h
  | fetch =>
    obtain rfl := hrw (Option.some_ne_none _)
    simpa [Act.puts, Act.dueBefore, Act.dueAfter, Act.after, Act.spoken] using
      Announced.early h .queued .fetched
  | mark =>
    obtain rfl := hrw (Option.some_ne_none _)
    simpa [Act.puts, Act.dueBefore, Act.dueAfter, Act.after, Act.spoken] using
      Announced.early h .fetched .marked
  | sayRunning status =>
    obtain rfl := hrw (Option.some_ne_none _)
    obtain rfl : ra = [] := hsay rfl
    simpa [Act.puts, Act.dueAfter, Act.after, Act.spoken] using Announced.sayRunning h
  | saySync =>
    obtain rfl := hrw (Option.some_ne_none _)
    simpa [Act.puts, Act.dueBefore, Act.dueAfter, Act.after, Act.spoken] using Announced.saySync h
  | close status hfinal =>
    obtain rfl := hrw (Option.some_ne_none _)
    simpa [Act.puts, Act.dueBefore, Act.dueAfter, Act.after, Act.spoken] using
      Announced.close h hfinal
  | sayFinal status =>
    obtain rfl := hrw (Option.some_ne_none _)
    simpa [Act.puts, Act.dueBefore, Act.dueAfter, Act.after, Act.spoken] using
      Announced.sayFinal h
  | abandon | skip =>
    obtain rfl := hrw (Option.some_ne_none _)
    simpa [Act.puts, Act.dueBefore, Act.dueAfter, Act.after, Act.spoken] using Announced.abandon h

/-! ### The stored status -/

/-- The status a run has at a stage. -/
def Stage.stored : Stage → RunStatus
  | .submitting _ | .queued | .fetched => .queued
  | .marked _ | .starting | .running => .running
  | .closed status => status

structure Agreed (a : List RunStatus) (w : List Stage) (updates : List RunStatus)
    (row : RunStatus) : Prop where
  held : ∀ φ ∈ w, row = φ.stored
  due : w = [] → a ≠ [] → row = .queued
  last : w = [] → a = [] → ∀ status, updates.getLast? = some status → row = status

theorem Agreed.of_holder (h : row = φ.stored) : Agreed a [φ] updates row where
  held := by simpa using h
  due := by simp
  last := by simp

theorem Agreed.of_due (h : row = .queued) (ha : a ≠ []) : Agreed a [] updates row where
  held := by simp
  due _ _ := h
  last _ hnil := absurd hnil ha

theorem Agreed.of_last (h : ∀ status, updates.getLast? = some status → row = status) :
    Agreed [] [] updates row where
  held := by simp
  due := by simp
  last _ _ := h

theorem getLast?_opening (submitted : Bool) : (opening submitted).getLast? = some .running := by
  cases submitted <;> rfl

/-- A run is given up before anything about it is announced. -/
theorem Agreed.of_abandon (hrow : row = φ.stored) (h : Announced submitted a [φ] updates)
    (hsilent : φ.silent = true) : Agreed a [] updates row := by
  cases h with
  | submitting | starting => exact .of_last (by simp)
  | announcing hearly =>
    cases hearly with
    | queued | fetched => exact .of_due hrow (by simp)
    | marked => cases hsilent
  | waiting hearly =>
    cases hearly with
    | queued | fetched => exact .of_last (by simpa [Stage.stored] using hrow)
    | marked => cases hsilent
  | running =>
    refine .of_last fun status hlast => ?_
    rw [getLast?_opening] at hlast
    exact hrow.trans (Option.some.inj hlast)
  | closed => cases hsilent

/-- The status an act stores fits. -/
theorem Announced.agreed_of_writes {act : Act} (h : Announced submitted a w updates)
    (hw : w.Perm (act.before.toList ++ rw)) (hwrites : act.writes = some row) :
    Agreed a' (act.after.toList ++ rw) (updates ++ act.spoken.toList) row := by
  have hlength := h.length_le.2
  rw [hw.length_eq] at hlength
  cases act with
  | create | createSync | mark | close =>
    obtain rfl : rw = [] := eq_nil_of_length_cons_le_one hlength
    obtain rfl := Option.some.inj hwrites
    exact .of_holder rfl
  | _ => cases hwrites

/-- An act that stores nothing leaves the status fitting, unless it is silent about an end. -/
theorem Agreed.of_act {act : Act} (hrow : Agreed a w updates row)
    (h : Announced submitted a w updates) (ha : a.Perm (act.dueBefore.toList ++ ra))
    (hw : w.Perm (act.before.toList ++ rw)) (hskip : act.isSkip = false)
    (hreserves : act.reserves = false) (hwrites : act.writes = none) :
    Agreed (act.dueAfter.toList ++ ra) (act.after.toList ++ rw) (updates ++ act.spoken.toList)
      row := by
  obtain rfl := eq_of_perm_of_length_le_one ha h.length_le.1
  obtain rfl := eq_of_perm_of_length_le_one hw h.length_le.2
  have hrw := h.alone_of_before
  cases act with
  | reserve | reserveSync => cases hreserves
  | create | createSync | mark | close => cases hwrites
  | skip => cases hskip
  | pass stage =>
    simpa [Act.dueBefore, Act.dueAfter, Act.before, Act.after, Act.spoken] using hrow
  | put status =>
    obtain rfl := hrw (Option.some_ne_none _)
    exact .of_holder (hrow.held (.submitting status) List.mem_cons_self)
  | announce status =>
    obtain rfl : ra = [] := eq_nil_of_length_cons_le_one h.length_le.1
    cases h with
    | due =>
      have hqueued : row = .queued := hrow.due rfl (by simp [Act.dueBefore])
      exact .of_last (by simpa [Act.spoken] using hqueued)
    | announcing hearly => exact .of_holder (hrow.held _ List.mem_cons_self)
  | fetch =>
    obtain rfl := hrw (Option.some_ne_none _)
    exact .of_holder (hrow.held .queued List.mem_cons_self)
  | sayRunning status =>
    obtain rfl := hrw (Option.some_ne_none _)
    exact .of_holder (hrow.held (.marked status) List.mem_cons_self)
  | saySync =>
    obtain rfl := hrw (Option.some_ne_none _)
    exact .of_holder (hrow.held .starting List.mem_cons_self)
  | sayFinal status =>
    obtain rfl := hrw (Option.some_ne_none _)
    have hstatus : row = status := hrow.held (.closed status) List.mem_cons_self
    cases h with
    | closed => exact .of_last (by simpa [Act.spoken] using hstatus)
    | announcing hearly | waiting hearly => cases hearly
  | abandon stage hsilent =>
    obtain rfl := hrw (Option.some_ne_none _)
    have hstatus : row = stage.stored := hrow.held stage List.mem_cons_self
    simpa [Act.dueBefore, Act.dueAfter, Act.after, Act.spoken] using
      Agreed.of_abandon hstatus h hsilent

end Announced

/-! ### Runs of the manager -/

section Runs

variable {cfg : Config} {s s' : State} {l : Label} {id i : String} {act : Act}

/-- The worker announces a run as running only after its `submit` has announced it. -/
def AnnouncedFirst (s : State) (l : Label) : Prop :=
  ∀ id ∈ announcesRunning s l, notesOf id s.announcing = []

/-- Nothing of the run has been announced in this process, and no thread has it in hand. -/
def State.Untouched (s : State) (id : String) : Prop :=
  notesOf id s.announcing = [] ∧ notesOf id s.stages = [] ∧ s.updates id = []

/-- No end goes unannounced: the store does not raise between the closing of a run and the
announcement of its end, and a `start` that finds no worker alive fails only runs that this
process has not touched. -/
def Accompanied (s : State) (l : Label) : Prop :=
  skips s l = false ∧ (restarts s l = true →
    ∀ record ∈ s.store.rows, record.status.isFinal = true ∨ s.Untouched record.probeId)

structure Reported (s : State) : Prop where
  announced : ∀ id, Announced (decide (id ∈ s.puts)) (notesOf id s.announcing)
    (notesOf id s.stages) (s.updates id)
  fresh : ∀ id, id ∉ s.issued → id ∉ s.puts ∧ s.Untouched id

theorem reported_init (store : RunTable PersistedCanaryRun) (issued : List String) :
    Reported (State.fresh store issued) where
  announced _ := .idle (.nil _)
  fresh _ _ := ⟨List.not_mem_nil, rfl, rfl, rfl⟩

/-- What an act does to the notes for a run. -/
theorem Acts.notes (h : Acts s s' id act) (i : String) :
    ∃ due held, (notesOf i s.announcing).Perm ((if i = id then act.dueBefore.toList else []) ++ due) ∧
      (notesOf i s'.announcing).Perm ((if i = id then act.dueAfter.toList else []) ++ due) ∧
      (notesOf i s.stages).Perm ((if i = id then act.before.toList else []) ++ held) ∧
      (notesOf i s'.stages).Perm ((if i = id then act.after.toList else []) ++ held) ∧
      s'.updates i = s.updates i ++ if i = id then act.spoken.toList else [] := by
  obtain ⟨held, hheld, hheld'⟩ := h.stages
  obtain ⟨due, hdue, hdue'⟩ := h.announcing
  refine ⟨notesOf i due, notesOf i held, ?_, ?_, ?_, ?_, ?_⟩
  · simpa only [notesOf_tagged_append] using notesOf_perm i hdue
  · simpa only [notesOf_tagged_append] using notesOf_perm i hdue'
  · simpa only [notesOf_tagged_append] using notesOf_perm i hheld
  · simpa only [notesOf_tagged_append] using notesOf_perm i hheld'
  · rw [State.updates, h.records.emitted, notesOf_append, notesOf_tagged]
    rfl

theorem Acts.mem_puts (h : Acts s s' id act) (i : String) :
    (decide (i ∈ s'.puts)) = (decide (i ∈ s.puts) || (decide (i = id) && act.puts)) := by
  rw [h.records.puts]
  cases act.puts <;> simp [Bool.decide_or]

/-- Only a new run is taken up from nothing. -/
theorem Act.eq_pass (hdue : act.dueBefore = none) (hbefore : act.before = none)
    (hreserves : act.reserves = false) : act = .pass none := by
  cases act with
  | pass stage =>
    obtain rfl : stage = none := hbefore
    rfl
  | reserve | reserveSync => cases hreserves
  | announce => cases hdue
  | _ => cases hbefore

theorem Reported.eq_pass (hs : Reported s) (h : Acts s s' id act) (hid : id ∉ s.issued)
    (hreserves : act.reserves = false) : act = .pass none := by
  obtain ⟨due, held, hdue, -, hheld, -, -⟩ := h.notes id
  obtain ⟨-, hnodue, hnoheld, -⟩ := hs.fresh id hid
  rw [hnodue, if_pos rfl] at hdue
  rw [hnoheld, if_pos rfl] at hheld
  have hdue := (List.append_eq_nil_iff.mp (List.nil_perm.mp hdue)).1
  have hheld := (List.append_eq_nil_iff.mp (List.nil_perm.mp hheld)).1
  exact Act.eq_pass (Option.toList_eq_nil_iff.mp hdue) (Option.toList_eq_nil_iff.mp hheld) hreserves

theorem reported_act (hs : Reported s) (h : Acts s s' id act)
    (hsay : act.isSayRunning = true → notesOf id s.announcing = []) : Reported s' := by
  constructor
  · intro i
    obtain ⟨due, held, hdue, hdue', hheld, hheld', hupdates⟩ := h.notes i
    rw [h.mem_puts, hupdates]
    by_cases hi : i = id
    · subst hi
      simp only [if_true] at hdue hdue' hheld hheld'
      have hnew := (hs.announced i).of_act hdue hheld (fun hreserves => ?_) hsay
      · simpa using hnew.perm hdue'.symm hheld'.symm
      · obtain ⟨hputs, hdue, hheld, hnone⟩ := hs.fresh i (h.records.fresh hreserves)
        exact ⟨by simpa using hputs, hdue, hheld, hnone⟩
    · simp only [if_neg hi, List.nil_append] at hdue hdue' hheld hheld'
      simpa [hi] using (hs.announced i).perm (hdue.trans hdue'.symm) (hheld.trans hheld'.symm)
  · intro i hi
    obtain ⟨due, held, hdue, hdue', hheld, hheld', hupdates⟩ := h.notes i
    rw [h.records.issued] at hi
    have hold : i ∉ s.issued := fun hin => hi (List.mem_append_right _ hin)
    obtain ⟨hputs, hnodue, hnoheld, hnone⟩ := hs.fresh i hold
    -- an act on a run that is not given out does nothing
    have hsame : i = id → act = .pass none := by
      rintro rfl
      refine hs.eq_pass h hold ?_
      cases hreserves : act.reserves with
      | false => rfl
      | true =>
        rw [hreserves] at hi
        exact absurd List.mem_cons_self hi
    have hmem := h.mem_puts i
    rw [hnodue] at hdue
    rw [hnoheld] at hheld
    rw [hnone] at hupdates
    by_cases hid : i = id
    · obtain rfl := hsame hid
      have hnodue' := (hdue.trans hdue'.symm).nil_eq.symm
      have hnoheld' := (hheld.trans hheld'.symm).nil_eq.symm
      refine ⟨?_, hnodue', hnoheld', ?_⟩
      · simpa [hputs, Act.puts] using hmem
      · simpa [Act.spoken] using hupdates
    · simp only [if_neg hid, List.nil_append, List.append_nil] at hdue hdue' hheld hheld' hupdates
      have hnodue' := (hdue.trans hdue'.symm).nil_eq.symm
      have hnoheld' := (hheld.trans hheld'.symm).nil_eq.symm
      refine ⟨?_, hnodue', hnoheld', hupdates⟩
      simpa [hputs, hid] using hmem

/-- The queue entries of a run, if any, are dropped. -/
theorem Announced.of_dropQueue {submitted : Bool} {a : List RunStatus} {queue w : List Stage}
    {updates : List RunStatus} (h : Announced submitted a (queue ++ w) updates)
    (hqueue : ∀ φ ∈ queue, φ = .queued) : Announced submitted a w updates := by
  cases queue with
  | nil => exact h
  | cons φ queue =>
    have hnil := List.append_eq_nil_iff.mp (eq_nil_of_length_cons_le_one (x := φ) h.length_le.2)
    rw [hnil.1, hnil.2] at h
    rw [hnil.2]
    exact h.abandon

theorem queued_of_mem_queue {φ : Stage} (h : φ ∈ notesOf i (s.queue.filterMap queueStage)) :
    φ = .queued := by
  obtain ⟨⟨_, _⟩, hnote, hφ⟩ := List.mem_filterMap.mp h
  obtain ⟨item, -, hitem⟩ := List.mem_filterMap.mp hnote
  obtain ⟨_, -, heq⟩ := Option.map_eq_some_iff.mp hitem
  cases heq
  split_ifs at hφ
  exact (Option.some.inj hφ).symm

theorem notesOf_stages (s : State) (i : String) : notesOf i s.stages =
    notesOf i (s.queue.filterMap queueStage) ++ notesOf i s.threadStages := notesOf_append

theorem reported_step (hs : Reported s) (hfirst : AnnouncedFirst s l)
    (hstep : step cfg s l = some s') : Reported s' := by
  cases step_turn hstep with
  | act id act hacts _ hsay =>
    exact reported_act hs hacts fun hrunning => hfirst id (hsay hrunning)
  | restart _ hstages hannouncing hemitted hputs hissued =>
    have hupdates : ∀ i, s'.updates i = s.updates i := fun i => by
      rw [State.updates, hemitted]
      rfl
    constructor
    · intro i
      have hold := hs.announced i
      rw [notesOf_stages] at hold
      rw [hputs, hupdates]
      exact (hold.of_dropQueue fun φ hφ => queued_of_mem_queue hφ).perm
        (notesOf_perm _ hannouncing.symm) (notesOf_perm _ hstages.symm)
    · intro i hi
      rw [hissued] at hi
      obtain ⟨hnoputs, hnodue, hnoheld, hnone⟩ := hs.fresh i hi
      rw [notesOf_stages] at hnoheld
      refine ⟨by rwa [hputs], ?_, ?_, by rwa [hupdates]⟩
      · exact List.perm_nil.mp (hnodue ▸ notesOf_perm _ hannouncing)
      · have hthread := (List.append_eq_nil_iff.mp hnoheld).2
        exact List.perm_nil.mp (hthread ▸ notesOf_perm _ hstages)
  | crash hstages hannouncing hemitted hputs =>
    have hnone : ∀ i, s'.Untouched i := fun i => by
      rw [State.Untouched, State.updates, hstages, hannouncing, hemitted]
      exact ⟨rfl, rfl, rfl⟩
    constructor
    · intro i
      obtain ⟨hnodue, hnoheld, hnoupdates⟩ := hnone i
      rw [hnodue, hnoheld, hnoupdates]
      exact .idle (.nil _)
    · intro i _
      rw [hputs]
      exact ⟨List.not_mem_nil, hnone i⟩

/-! ### The stored statuses -/

structure Kept (s : State) : Prop where
  agreed : ∀ id row, s.status id = some row →
    Agreed (notesOf id s.announcing) (notesOf id s.stages) (s.updates id) row
  issued : ∀ id row, s.status id = some row → id ∈ s.issued

theorem kept_init {store : RunTable PersistedCanaryRun} {issued : List String}
    (hissued : ∀ id record, store.find id = some record → id ∈ issued) :
    Kept (State.fresh store issued) where
  agreed _ _ _ := .of_last nofun
  issued id row hrow := by
    obtain ⟨record, hfind, -⟩ := Option.map_eq_some_iff.mp hrow
    exact hissued id record hfind

/-- Up to order, there is nothing to choose. -/
theorem Agreed.perm {a a' : List RunStatus} {w w' : List Stage} {updates : List RunStatus}
    {row : RunStatus} (h : Agreed a w updates row) (ha : a.Perm a') (hw : w.Perm w') :
    Agreed a' w' updates row where
  held φ hφ := h.held φ (hw.mem_iff.mpr hφ)
  due hnil hne := by
    refine h.due (List.perm_nil.mp (hnil ▸ hw)) fun hnil' => hne ?_
    exact List.nil_perm.mp (hnil' ▸ ha)
  last hnil hnil' := h.last (List.perm_nil.mp (hnil ▸ hw)) (List.perm_nil.mp (hnil' ▸ ha))

theorem kept_act (hs : Kept s) (hreported : Reported s) (h : Acts s s' id act)
    (hskip : act.isSkip = false) : Kept s' := by
  have hgrow : ∀ i ∈ s.issued, i ∈ s'.issued := fun i hi => by
    rw [h.records.issued]
    exact List.mem_append_right _ hi
  constructor
  · intro i row hrow
    obtain ⟨due, held, hdue, hdue', hheld, hheld', hupdates⟩ := h.notes i
    rw [hupdates]
    by_cases hi : i = id
    · subst hi
      simp only [if_true] at hdue hdue' hheld hheld' ⊢
      refine Agreed.perm ?_ hdue'.symm hheld'.symm
      cases hwrites : act.writes with
      | some status =>
        have hstatus := h.records.written status hwrites
        obtain rfl : status = row := Option.some.inj (hstatus.symm.trans hrow)
        exact (hreported.announced i).agreed_of_writes hheld hwrites
      | none =>
        rcases h.records.rows i fun _ => hwrites with hsame | ⟨_, -, -, hnone⟩
        · rw [hsame] at hrow
          have hreserves : act.reserves = false := by
            cases hreserves : act.reserves with
            | false => rfl
            | true => exact absurd (hs.issued i row hrow) (h.records.fresh hreserves)
          exact (hs.agreed i row hrow).of_act (hreported.announced i) hdue hheld hskip hreserves
            hwrites
        · cases hnone.symm.trans hrow
    · simp only [if_neg hi, List.nil_append, List.append_nil] at hdue hdue' hheld hheld' ⊢
      rcases h.records.rows i fun heq => absurd heq hi with hsame | ⟨_, -, -, hnone⟩
      · rw [hsame] at hrow
        exact (hs.agreed i row hrow).perm (hdue.trans hdue'.symm) (hheld.trans hheld'.symm)
      · cases hnone.symm.trans hrow
  · intro i row hrow
    by_cases hwritten : i = id → act.writes = none
    · rcases h.records.rows i hwritten with hsame | ⟨_, -, -, hnone⟩
      · exact hgrow i (hs.issued i row (hsame ▸ hrow))
      · cases hnone.symm.trans hrow
    · obtain ⟨rfl, hwrites⟩ := Classical.not_imp.mp hwritten
      by_contra hnew
      have hold : i ∉ s.issued := fun hin => hnew (hgrow i hin)
      have hreserves : act.reserves = false := by
        cases act with
        | reserve | reserveSync => exact absurd rfl hwrites
        | _ => rfl
      rw [hreported.eq_pass h hold hreserves] at hwrites
      exact hwrites rfl

theorem kept_step (hs : Kept s) (hreported : Reported s) (haccompanied : Accompanied s l)
    (hstep : step cfg s l = some s') : Kept s' := by
  obtain ⟨hskip, hrestart⟩ := haccompanied
  cases step_turn hstep with
  | act id act hacts hskips _ =>
    refine kept_act hs hreported hacts ?_
    cases hact : act.isSkip with
    | false => rfl
    | true =>
      rw [hskips hact] at hskip
      cases hskip
  | restart hrestarts hstages hannouncing hemitted _ hissued hrows =>
    have hupdates : ∀ i, s'.updates i = s.updates i := fun i => by
      rw [State.updates, hemitted]
      rfl
    constructor
    · intro i row' hrow'
      rw [hrows] at hrow'
      obtain ⟨row, hrow, rfl⟩ := Option.map_eq_some_iff.mp hrow'
      obtain ⟨record, hfind, hstatus⟩ := Option.map_eq_some_iff.mp hrow
      obtain rfl : record.probeId = i := KeyedTable.key_of_find hfind
      have hold := hs.agreed _ row hrow
      rw [notesOf_stages] at hold
      refine Agreed.perm ?_ (notesOf_perm _ hannouncing.symm) (notesOf_perm _ hstages.symm)
      rw [hupdates]
      rcases hrestart hrestarts record (KeyedTable.mem_of_find hfind) with
        hfinal | ⟨hnodue, hnoheld, hnone⟩
      · -- a finished run is not on the queue
        rw [hstatus] at hfinal
        have hqueue : notesOf record.probeId (s.queue.filterMap queueStage) = [] := by
          rw [List.eq_nil_iff_forall_not_mem]
          intro φ hφ
          have hrow := hold.held φ (List.mem_append_left _ hφ)
          rw [queued_of_mem_queue hφ] at hrow
          rw [hrow] at hfinal
          cases hfinal
        rw [hqueue, List.nil_append] at hold
        rwa [recoveredStatus, if_pos hfinal]
      · rw [notesOf_stages] at hnoheld
        rw [hnodue, (List.append_eq_nil_iff.mp hnoheld).2, hnone]
        exact .of_last (by simp)
    · intro i row' hrow'
      rw [hrows] at hrow'
      obtain ⟨row, hrow, -⟩ := Option.map_eq_some_iff.mp hrow'
      rw [hissued]
      exact hs.issued i row hrow
  | crash hstages hannouncing hemitted _ hissued hrows =>
    constructor
    · intro i row _
      rw [State.updates, hstages, hannouncing, hemitted]
      exact .of_last (by simp [notesOf])
    · intro i row hrow
      rw [hrows] at hrow
      rw [hissued]
      exact hs.issued i row hrow

/-- The stored status has changed and the change is yet to be announced. -/
def Stage.announcesNext : Stage → Bool
  | .marked _ | .closed _ => true
  | _ => false

def State.Pending (s : State) (id : String) : Prop :=
  notesOf id s.announcing ≠ [] ∨ ∃ φ ∈ notesOf id s.stages, φ.announcesNext = true

theorem Announced.stored_eq_last {submitted : Bool} {w : List Stage} {updates : List RunStatus}
    {row status : RunStatus} (h : Announced submitted [] w updates)
    (hrow : Agreed [] w updates row) (hnext : ∀ φ ∈ w, φ.announcesNext ≠ true)
    (hlast : updates.getLast? = some status) : row = status := by
  cases h with
  | idle => exact hrow.last rfl rfl status hlast
  | submitting | starting => simp at hlast
  | waiting hearly =>
    obtain rfl : .queued = status := by simpa using hlast
    have hstored := hrow.held _ List.mem_cons_self
    cases hearly with
    | queued | fetched => exact hstored
    | marked => exact absurd rfl (hnext _ List.mem_cons_self)
  | running =>
    rw [getLast?_opening] at hlast
    exact (hrow.held .running List.mem_cons_self).trans (Option.some.inj hlast)
  | closed => exact absurd rfl (hnext _ List.mem_cons_self)

/-- In every run in which a worker announces a run as running only after its `submit` has
announced it as queued, the updates of every run come in order. If moreover no end goes
unannounced, a run is stored with the status it was last announced with, unless a change of
the status is yet to be announced. -/
theorem updates_in_order (cfg : Config) (store : RunTable PersistedCanaryRun) (issued : List String)
    (hissued : ∀ id record, store.find id = some record → id ∈ issued) :
    (∀ s, Reach (step cfg) AnnouncedFirst (State.fresh store issued) s →
      ∀ id, InOrder (id ∈ s.puts) (s.updates id)) ∧
    ∀ s, Reach (step cfg) (fun s l => AnnouncedFirst s l ∧ Accompanied s l)
        (State.fresh store issued) s →
      ∀ id record status, s.store.find id = some record → ¬s.Pending id →
        (s.updates id).getLast? = some status → record.status = status := by
  constructor
  · intro s hs id
    have hreported : Reported s := hs.invariant (reported_init store issued)
      fun _ _ _ hreported hfirst hstep => reported_step hreported hfirst hstep
    exact (hreported.announced id).inOrder
  · intro s hs id record status hfind hpending hlast
    have hinv : Reported s ∧ Kept s := by
      refine hs.invariant (I := fun s => Reported s ∧ Kept s) ?_ ?_
      · exact ⟨reported_init store issued, kept_init hissued⟩
      · rintro s l s' ⟨hreported, hkept⟩ ⟨hfirst, haccompanied⟩ hstep
        exact ⟨reported_step hreported hfirst hstep, kept_step hkept hreported haccompanied hstep⟩
    have hrow : s.status id = some record.status := by rw [State.status, hfind]; rfl
    have hannounced := hinv.1.announced id
    have hagreed := hinv.2.agreed id _ hrow
    have hnodue : notesOf id s.announcing = [] := by
      by_contra hdue
      exact hpending (.inl hdue)
    rw [hnodue] at hannounced hagreed
    exact hannounced.stored_eq_last hagreed (fun φ hφ hnext => hpending (.inr ⟨φ, hφ, hnext⟩)) hlast

end Runs

/-! ### Runs -/

instance decidableAnnouncedFirst (s : State) (l : Label) : Decidable (AnnouncedFirst s l) :=
  inferInstanceAs (Decidable (∀ id ∈ announcesRunning s l, notesOf id s.announcing = []))

instance decidableUntouched (s : State) (id : String) : Decidable (s.Untouched id) :=
  inferInstanceAs (Decidable (_ ∧ _ ∧ _))

instance decidableAccompanied (s : State) (l : Label) : Decidable (Accompanied s l) :=
  inferInstanceAs (Decidable (_ ∧ (_ → _)))

instance decidablePending (s : State) (id : String) : Decidable (s.Pending id) :=
  inferInstanceAs (Decidable (_ ∨ _))

/-- The manager is started and a run is submitted, up to its place on the queue. -/
def submitted : List Label :=
  [.invoke .start, .call 0 (.go "t0"), .call 0 (.go "t0"), .invoke (.submit switchRequest),
    .call 1 (.go "t1"), .call 1 (.prepared (switchProbe firstId))] ++
  List.replicate 4 (.call 1 (.go "t1"))

def executed : List Label :=
  List.replicate 5 (.worker 0 (.go "t2")) ++
  .worker 0 (.probed (.returned (switchResult firstId))) ::
  List.replicate 4 (.worker 0 (.go "t3"))

def submitAnnounces : Label := .call 1 (.go "t1")

/-- `submit` stands still between its put and its announcement. -/
def announcedLast : List Label := submitted ++ executed ++ [submitAnnounces]

/-- The manager is stopped and started again while the run is on the queue. -/
def failedSilently : List Label :=
  submitted ++ [submitAnnounces, .invoke .stop, .call 2 (.go "t2"), .invoke .start,
    .call 3 (.go "t3")]

/-- The pruning at the end of `run_sync` raises. -/
def endSkipped : List Label :=
  [.invoke (.runSync switchRequest), .call 0 (.go "t0"), .call 0 (.prepared (switchProbe firstId)),
    .call 0 (.go "t0"), .call 0 (.go "t0"), .call 0 (.probed (.returned (switchResult firstId))),
    .call 0 (.go "t1"), .call 0 .storeRaises]

theorem updates_in_order_submit : ∃ s : State,
    s.updates firstId = [.queued, .running, .success] ∧
    InOrder (firstId ∈ s.puts) (s.updates firstId) ∧ s.status firstId = some .success ∧
    ∀ record, s.store.find firstId = some record → record.status = .success := by
  obtain ⟨s, hs, hupdates, hstatus, hpending⟩ : ∃ s, Reach (step smallConfig)
      (fun s l => AnnouncedFirst s l ∧ Accompanied s l) (State.fresh emptyStore []) s ∧
        s.updates firstId = [.queued, .running, .success] ∧ s.status firstId = some .success ∧
          ¬s.Pending firstId :=
    exists_reach_of_mem_run (submitted ++ submitAnnounces :: executed) (by decide +kernel)
  have hall := updates_in_order smallConfig emptyStore [] fun _ _ h => by cases h
  refine ⟨s, hupdates, hall.1 s (hs.mono fun _ _ h => h.1) firstId, hstatus, fun record hfind => ?_⟩
  exact hall.2 s hs firstId record .success hfind hpending (by rw [hupdates]; rfl)

/-- Some run ends with these updates and this stored status, and nothing left to announce. -/
def EndsWith (updates : List RunStatus) (row : RunStatus) : Prop :=
  ∃ s, Reach (step smallConfig) anyStep (State.fresh emptyStore []) s ∧
    decide (s.updates firstId = updates ∧ s.status firstId = some row ∧ ¬s.Pending firstId) = true

theorem updates_out_of_order :
    EndsWith [.running, .success, .queued] .success ∧ EndsWith [.queued] .failed ∧
      EndsWith [.running] .success := by
  refine ⟨exists_reach_of_run announcedLast ?_, exists_reach_of_run failedSilently ?_,
    exists_reach_of_run endSkipped ?_⟩
  · decide +kernel
  · decide +kernel
  · decide +kernel

end OvnApi.Manager
