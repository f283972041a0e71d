import OvnApi.Store.Table

/-! What `prune_finished_runs` keeps. The ids are sorted by queueing time and
those after the first `max_runs` deleted, so the finished rows that stay are the
first `max_runs` of the sorted ones. Whether a given run stays depends on the
finished runs queued at or after it, the database being free in the order of the
runs queued at the same time. -/

namespace OvnApi.Store

open OvnApi.Core Lib

section Lists

variable {α κ : Type} {key : α → κ} {l : List α} {m : ℕ}

theorem disjoint_take_drop (hnodup : (l.map key).Nodup) {x y : α} (hx : x ∈ l.take m)
    (hy : y ∈ l.drop m) : key x ≠ key y := by
  have hsplit : (l.take m).map key ++ (l.drop m).map key = l.map key := by
    rw [← List.map_append, List.take_append_drop]
  rw [← hsplit, List.nodup_append] at hnodup
  exact hnodup.2.2 _ (List.mem_map_of_mem hx) _ (List.mem_map_of_mem hy)

/-- Deleting by key what comes after the first `m` leaves the first `m`. -/
theorem filter_notMem_drop [DecidableEq κ] (hnodup : (l.map key).Nodup) :
    l.filter (fun x => key x ∉ (l.map key).drop m) = l.take m := by
  rw [← List.map_drop]
  have htake : (l.take m).filter (fun x => key x ∉ (l.drop m).map key) = l.take m := by
    apply List.filter_eq_self.mpr
    intro x hx
    simp only [decide_eq_true_eq, List.mem_map, not_exists, not_and]
    exact fun y hy heq => disjoint_take_drop hnodup hx hy heq.symm
  have hdrop : (l.drop m).filter (fun x => key x ∉ (l.drop m).map key) = [] := by
    apply List.filter_eq_nil_iff.mpr
    intro x hx
    simpa only [decide_not, Bool.not_eq_true, Bool.not_eq_false', decide_eq_true_eq] using
      List.mem_map_of_mem hx
  calc l.filter (fun x => key x ∉ (l.drop m).map key)
      = (l.take m ++ l.drop m).filter (fun x => key x ∉ (l.drop m).map key) := by
        rw [List.take_append_drop]
    _ = l.take m := by rw [List.filter_append, htake, hdrop, List.append_nil]

end Lists

section Prune

variable {ρ : Type} [RunRow ρ] {order : QueuedAtDesc ρ} {maxRuns : ℕ} {table : RunTable ρ}
  {row : ρ}

def finishedCount (table : RunTable ρ) : ℕ := table.rows.countP isFinished

def prunedCount (order : QueuedAtDesc ρ) (maxRuns : ℕ) (table : RunTable ρ) : ℕ :=
  if (removableProbeIds order maxRuns table).isEmpty then 0
  else (removableProbeIds order maxRuns table).length

/-- The finished rows as the query of `prune_finished_runs` lists them. -/
def finishedRows (order : QueuedAtDesc ρ) (table : RunTable ρ) : List ρ :=
  order.sort (table.rows.filter isFinished)

theorem mem_finishedRows :
    row ∈ finishedRows order table ↔ row ∈ table.rows ∧ isFinished row = true := by
  rw [finishedRows, (order.perm _).mem_iff, List.mem_filter]

theorem length_finishedRows : (finishedRows order table).length = finishedCount table := by
  rw [finishedRows, (order.perm _).length_eq, finishedCount, List.countP_eq_length_filter]

theorem nodup_finishedRows (order : QueuedAtDesc ρ) (table : RunTable ρ) :
    ((finishedRows order table).map RunRow.probeId).Nodup := by
  have hperm := (order.perm (table.rows.filter isFinished)).map RunRow.probeId
  exact hperm.nodup_iff.mpr (table.nodup.sublist (table.rows.filter_sublist.map _))

theorem removableProbeIds_eq : removableProbeIds order maxRuns table =
    ((finishedRows order table).drop maxRuns).map RunRow.probeId := by
  rw [removableProbeIds, finishedRows, List.map_drop]

theorem prunedCount_eq : prunedCount order maxRuns table = finishedCount table - maxRuns := by
  have hlength :
      (removableProbeIds order maxRuns table).length = finishedCount table - maxRuns := by
    rw [removableProbeIds_eq, List.length_map, List.length_drop, length_finishedRows]
  unfold prunedCount
  split_ifs with hempty
  · rw [← hlength, List.isEmpty_iff.mp hempty, List.length_nil]
  · exact hlength

/-- The finished rows that stay are the first of the sorted ones. -/
theorem perm_take_finishedRows :
    ((pruneFinishedRuns order maxRuns table).rows.filter isFinished).Perm
      ((finishedRows order table).take maxRuns) := by
  have hkept := filter_notMem_drop (m := maxRuns) (nodup_finishedRows order table)
  rw [← hkept]
  simp only [pruneFinishedRuns, KeyedTable.filter]
  rw [List.filter_comm]
  exact ((order.perm _).symm.filter _)

theorem finishedCount_prune :
    finishedCount (pruneFinishedRuns order maxRuns table) = min maxRuns (finishedCount table) := by
  rw [finishedCount, List.countP_eq_length_filter, perm_take_finishedRows.length_eq,
    List.length_take, length_finishedRows]

/-- A row that is gone was finished and sorted behind the first `max_runs`. -/
theorem mem_drop_of_pruned (hrow : row ∈ table.rows)
    (hgone : row ∉ (pruneFinishedRuns order maxRuns table).rows) :
    row ∈ (finishedRows order table).drop maxRuns := by
  have hid : RunRow.probeId row ∈ removableProbeIds order maxRuns table := by
    by_contra hnot
    exact hgone (List.mem_filter.mpr ⟨hrow, by simpa using hnot⟩)
  rw [removableProbeIds_eq] at hid
  obtain ⟨row', hrow', hsame⟩ := List.mem_map.mp hid
  have hin := (mem_finishedRows.mp (List.mem_of_mem_drop hrow')).1
  have heq : row' = row := List.inj_on_of_nodup_map table.nodup hin hrow hsame
  rwa [← heq]

theorem isFinished_of_pruned (hrow : row ∈ table.rows)
    (hgone : row ∉ (pruneFinishedRuns order maxRuns table).rows) : isFinished row = true :=
  (mem_finishedRows.mp (List.mem_of_mem_drop (mem_drop_of_pruned hrow hgone))).2

/-- No run that is deleted was queued after a finished one that is kept. -/
theorem queuedAt_le_of_pruned {kept : ρ} (hrow : row ∈ table.rows)
    (hgone : row ∉ (pruneFinishedRuns order maxRuns table).rows)
    (hkept : kept ∈ (pruneFinishedRuns order maxRuns table).rows)
    (hfin : isFinished kept = true) : RunRow.queuedAt row ≤ RunRow.queuedAt kept := by
  have hdrop := mem_drop_of_pruned hrow hgone
  have htake : kept ∈ (finishedRows order table).take maxRuns :=
    perm_take_finishedRows.mem_iff.mp (List.mem_filter.mpr ⟨hkept, hfin⟩)
  have hsorted := order.sorted (table.rows.filter isFinished)
  change (finishedRows order table).Pairwise _ at hsorted
  rw [← List.take_append_drop maxRuns (finishedRows order table), List.pairwise_append] at hsorted
  exact hsorted.2.2 kept htake row hdrop

/-- A table with at most `max_runs` finished rows is left as it is. -/
theorem prune_of_le (h : finishedCount table ≤ maxRuns) :
    pruneFinishedRuns order maxRuns table = table := by
  have hnone : removableProbeIds order maxRuns table = [] := by
    rw [removableProbeIds_eq, List.drop_eq_nil_of_le (by rw [length_finishedRows]; exact h),
      List.map_nil]
  apply KeyedTable.ext_rows
  simp [pruneFinishedRuns, KeyedTable.filter, hnone]

theorem length_prune : table.rows.length =
    (pruneFinishedRuns order maxRuns table).rows.length + prunedCount order maxRuns table := by
  have hopen : ∀ t : RunTable ρ, t.rows.length = finishedCount t + t.rows.countP (!isFinished ·) :=
    fun t => by
      simpa [finishedCount] using List.length_eq_countP_add_countP isFinished (l := t.rows)
  have hsame : (pruneFinishedRuns order maxRuns table).rows.countP (!isFinished ·) =
      table.rows.countP (!isFinished ·) := by
    simp only [pruneFinishedRuns, KeyedTable.filter, List.countP_filter]
    apply List.countP_congr
    intro row hrow
    have hstays : isFinished row = false →
        RunRow.probeId row ∉ removableProbeIds order maxRuns table :=
      fun hopen hmem => by
        simp [isFinished_of_mem_removable hmem (KeyedTable.find_of_mem hrow)] at hopen
    simpa using hstays
  rw [hopen table, hopen (pruneFinishedRuns order maxRuns table), hsame, finishedCount_prune,
    prunedCount_eq]
  omega

structure PruneLaws (order : QueuedAtDesc ρ) (maxRuns : ℕ) (table : RunTable ρ) : Prop where
  open_kept : ∀ row ∈ table.rows, isFinished row = false →
    row ∈ (pruneFinishedRuns order maxRuns table).rows
  finished_left : finishedCount (pruneFinishedRuns order maxRuns table) =
    min maxRuns (finishedCount table)
  oldest_removed : ∀ row ∈ table.rows, row ∉ (pruneFinishedRuns order maxRuns table).rows →
    ∀ kept ∈ (pruneFinishedRuns order maxRuns table).rows, isFinished kept = true →
      ¬ RunRow.queuedAt kept < RunRow.queuedAt row
  unchanged : (pruneFinishedRuns order maxRuns table).rows.Sublist table.rows
  returned : table.rows.length =
    (pruneFinishedRuns order maxRuns table).rows.length + prunedCount order maxRuns table
  idempotent : ∀ order' : QueuedAtDesc ρ,
    pruneFinishedRuns order' maxRuns (pruneFinishedRuns order maxRuns table) =
        pruneFinishedRuns order maxRuns table ∧
      prunedCount order' maxRuns (pruneFinishedRuns order maxRuns table) = 0

theorem pruneLaws (order : QueuedAtDesc ρ) (maxRuns : ℕ) (table : RunTable ρ) :
    PruneLaws order maxRuns table where
  open_kept row hrow hopen := by
    by_contra hgone
    simp [isFinished_of_pruned hrow hgone] at hopen
  finished_left := finishedCount_prune
  oldest_removed row hrow hgone kept hkept hfin :=
    not_lt.mpr (queuedAt_le_of_pruned hrow hgone hkept hfin)
  unchanged := table.rows.filter_sublist
  returned := length_prune
  idempotent order' := by
    have hle : finishedCount (pruneFinishedRuns order maxRuns table) ≤ maxRuns := by
      rw [finishedCount_prune]
      exact min_le_left _ _
    refine ⟨prune_of_le hle, ?_⟩
    rw [prunedCount_eq]
    omega

end Prune

/-! ### The number of finished runs -/

section Counts

variable {ρ : Type} [RunRow ρ] {cause : String} {table table' : RunTable ρ} {run row : ρ}

theorem finishedCount_createRun (h : createRun cause table run = .ok table')
    (hopen : isFinished run = false) : finishedCount table' = finishedCount table := by
  simp [finishedCount, rows_createRun h, hopen]

theorem finishedCount_updateRun (h : updateRun table run = .ok table')
    (hrow : table.find (RunRow.probeId run) = some row) (hfin : isFinished run = true) :
    finishedCount table' = finishedCount table + if isFinished row then 0 else 1 := by
  unfold updateRun at h
  cases hin : table.replace run with
  | none => simp [hin] at h
  | some t =>
    obtain rfl : t = table' := by simpa [hin] using h
    have hcount := KeyedTable.countP_replace hin hrow isFinished
    rw [if_pos hfin] at hcount
    unfold finishedCount
    split_ifs at hcount ⊢ <;> omega

/-- The recovery leaves every run finished. -/
theorem finishedCount_failStaleRuns {table : RunTable PersistedCanaryRun}
    (reason finishedAt : String) :
    finishedCount (failStaleRuns reason finishedAt table) = table.rows.length := by
  have hall : ∀ row ∈ (failStaleRuns reason finishedAt table).rows, isFinished row = true := by
    intro row hrow
    obtain ⟨record, -, rfl⟩ := List.mem_map.mp hrow
    split_ifs with hfin
    · exact hfin
    · rfl
  rw [finishedCount, List.countP_eq_length.mpr hall]
  exact List.length_map _

end Counts

/-! ### Whether one run stays -/

section Overtaken

variable {ρ : Type} [RunRow ρ] {order : QueuedAtDesc ρ} {maxRuns : ℕ} {table : RunTable ρ}
  {run : ρ}

/-- Another finished run, queued at the same time or later. -/
def overtakes (run row : ρ) : Bool :=
  isFinished row &&
    (RunRow.probeId row ≠ RunRow.probeId run ∧ RunRow.queuedAt run ≤ RunRow.queuedAt row)

/-- The number of finished runs queued with or after this one. -/
def overtakers (run : ρ) (table : RunTable ρ) : ℕ := table.rows.countP (overtakes run)

theorem overtakes_iff {row : ρ} : overtakes run row = true ↔ isFinished row = true ∧
    RunRow.probeId row ≠ RunRow.probeId run ∧ RunRow.queuedAt run ≤ RunRow.queuedAt row := by
  simp [overtakes]

theorem overtakers_eq (order : QueuedAtDesc ρ) :
    overtakers run table = (finishedRows order table).countP (overtakes run) := by
  rw [overtakers, finishedRows, (order.perm _).countP_eq, List.countP_filter]
  apply List.countP_congr
  intro row _
  simp only [overtakes, Bool.and_eq_true]
  tauto

/-- Queued later, or at the same time unless this puts the given run first. -/
def beforeOrTied (id : String) (a b : ρ) : Prop :=
  RunRow.queuedAt b < RunRow.queuedAt a ∨
    RunRow.queuedAt b = RunRow.queuedAt a ∧ (RunRow.probeId a = id → RunRow.probeId b = id)

instance beforeOrTied_decidable (id : String) (a b : ρ) : Decidable (beforeOrTied id a b) :=
  inferInstanceAs (Decidable (_ ∨ _))

theorem beforeOrTied_total (id : String) (a b : ρ) : beforeOrTied id a b ∨ beforeOrTied id b a := by
  rcases lt_trichotomy (RunRow.queuedAt a) (RunRow.queuedAt b) with hlt | heq | hgt
  · exact .inr (.inl hlt)
  · by_cases hb : RunRow.probeId b = id
    · exact .inl (.inr ⟨heq.symm, fun _ => hb⟩)
    · exact .inr (.inr ⟨heq, fun h => absurd h hb⟩)
  · exact .inl (.inl hgt)

theorem beforeOrTied_trans {id : String} {a b c : ρ} (hab : beforeOrTied id a b)
    (hbc : beforeOrTied id b c) : beforeOrTied id a c := by
  rcases hab with hab | ⟨hab, hlast⟩
  · rcases hbc with hbc | ⟨hbc, -⟩
    · exact .inl (hbc.trans hab)
    · exact .inl (hbc ▸ hab)
  · rcases hbc with hbc | ⟨hbc, hlast'⟩
    · exact .inl (hab ▸ hbc)
    · exact .inr ⟨hbc.trans hab, fun h => hlast' (hlast h)⟩

theorem pairwise_beforeOrTied (id : String) (rows : List ρ) :
    (rows.insertionSort (beforeOrTied id)).Pairwise (beforeOrTied id) := by
  have : Std.Total fun a b : ρ => beforeOrTied id a b := ⟨beforeOrTied_total id⟩
  have : IsTrans ρ fun a b => beforeOrTied id a b := ⟨fun _ _ _ => beforeOrTied_trans⟩
  exact List.pairwise_insertionSort _ rows

/-- The order that lists the given run after all that were queued with it. -/
def QueuedAtDesc.last (ρ : Type) [RunRow ρ] (id : String) : QueuedAtDesc ρ where
  sort := List.insertionSort (beforeOrTied id)
  perm := List.perm_insertionSort _
  sorted rows := (pairwise_beforeOrTied id rows).imp fun h => by
    rcases h with hlt | ⟨heq, -⟩
    · exact hlt.le
    · exact heq.le

/-- A finished run overtaken by fewer than `max_runs` others is kept, whatever the
order of ties. -/
theorem mem_prune_of_overtakers_lt (hrun : run ∈ table.rows)
    (hlt : overtakers run table < maxRuns) :
    run ∈ (pruneFinishedRuns order maxRuns table).rows := by
  by_contra hgone
  have hdrop := mem_drop_of_pruned hrun hgone
  have hnodup := nodup_finishedRows order table
  -- then the first `max_runs` of the sorted rows all overtake it
  have hall : ∀ row ∈ (finishedRows order table).take maxRuns, overtakes run row = true := by
    intro row hrow
    have hsorted := order.sorted (table.rows.filter isFinished)
    change (finishedRows order table).Pairwise _ at hsorted
    rw [← List.take_append_drop maxRuns (finishedRows order table), List.pairwise_append] at hsorted
    exact overtakes_iff.mpr ⟨(mem_finishedRows.mp (List.mem_of_mem_take hrow)).2,
      disjoint_take_drop hnodup hrow hdrop, hsorted.2.2 row hrow run hdrop⟩
  have hlong : maxRuns < (finishedRows order table).length := by
    have := List.length_pos_of_mem hdrop
    rw [List.length_drop] at this
    omega
  have hcount : maxRuns ≤ (finishedRows order table).countP (overtakes run) := by
    have htake : ((finishedRows order table).take maxRuns).countP (overtakes run) = maxRuns := by
      rw [List.countP_eq_length.mpr hall, List.length_take]
      omega
    rw [← htake]
    exact (List.take_sublist _ _).countP_le
  rw [overtakers_eq order] at hlt
  omega

/-- A finished run overtaken by `max_runs` others is deleted when it is listed last
among those queued with it. -/
theorem notMem_prune_last (hrun : run ∈ table.rows) (hfin : isFinished run = true)
    (hle : maxRuns ≤ overtakers run table) :
    run ∉ (pruneFinishedRuns (.last ρ (RunRow.probeId run)) maxRuns table).rows := by
  have hmem : run ∈ finishedRows (.last ρ (RunRow.probeId run)) table :=
    mem_finishedRows.mpr ⟨hrun, hfin⟩
  obtain ⟨before, after, hsplit⟩ := List.append_of_mem hmem
  have hsorted := pairwise_beforeOrTied (RunRow.probeId run) (table.rows.filter isFinished)
  change (finishedRows (.last ρ (RunRow.probeId run)) table).Pairwise _ at hsorted
  rw [hsplit, List.pairwise_append, List.pairwise_cons] at hsorted
  -- nothing listed behind the run overtakes it
  have hafter : (run :: after).countP (overtakes run) = 0 := by
    apply List.countP_eq_zero.mpr
    intro row hrow hover
    obtain ⟨-, hne, hqueued⟩ := overtakes_iff.mp hover
    rcases List.mem_cons.mp hrow with rfl | hrow
    · exact hne rfl
    · rcases hsorted.2.1.1 row hrow with hlt | ⟨-, hlast⟩
      · exact absurd hqueued (not_le.mpr hlt)
      · exact hne (hlast rfl)
  have hbefore : maxRuns ≤ before.length := by
    rw [overtakers_eq (.last ρ (RunRow.probeId run)), hsplit, List.countP_append, hafter] at hle
    exact hle.trans List.countP_le_length
  have hdrop : run ∈ (finishedRows (.last ρ (RunRow.probeId run)) table).drop maxRuns := by
    rw [hsplit, List.drop_append_of_le_length hbefore]
    exact List.mem_append_right _ List.mem_cons_self
  intro hkept
  have hid := (List.mem_filter.mp hkept).2
  rw [decide_eq_true_eq, removableProbeIds_eq] at hid
  exact hid (List.mem_map_of_mem hdrop)

/-- A finished run stays in every order of ties exactly when fewer than `max_runs`
other finished runs were queued with or after it. -/
theorem find_prune_iff {id : String} (hfind : table.find id = some run)
    (hfin : isFinished run = true) :
    (∀ order, (pruneFinishedRuns order maxRuns table).find id = some run) ↔
      overtakers run table < maxRuns := by
  obtain ⟨hrun, hid⟩ := KeyedTable.find_eq_some_iff.mp hfind
  constructor
  · intro hkept
    by_contra hge
    have hgone := notMem_prune_last hrun hfin (not_lt.mp hge)
    exact hgone (KeyedTable.mem_of_find (hkept (.last ρ (RunRow.probeId run))))
  · intro hlt order
    rw [KeyedTable.find_eq_some_iff]
    exact ⟨mem_prune_of_overtakers_lt hrun hlt, hid⟩

end Overtaken

end OvnApi.Store
