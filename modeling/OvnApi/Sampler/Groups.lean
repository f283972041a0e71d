import Mathlib.Algebra.BigOperators.Group.List.Basic
import OvnApi.Sampler.Readings

/-! The thread groups of a snapshot partition its threads. `_aggregate_groups` adds the
threads one by one to a table of totals; at every moment the table holds, for each key
seen so far, the totals of the threads with that key. -/

namespace OvnApi.Sampler

open OvnApi.Core Lib

/-! ### The table of totals -/

def totalsOf (threads : List ThreadRecord) : GroupTotals where
  totalPct := (threads.map fun thread => thread.cpu.totalPct).sum
  userPct := (threads.map fun thread => thread.cpu.userPct).sum
  systemPct := (threads.map fun thread => thread.cpu.systemPct).sum
  threads := threads.length

def threadsWithKey (threads : List ThreadRecord) (key : GroupKey) : List ThreadRecord :=
  threads.filter fun thread => thread.groupKey = key

theorem totalsOf_concat (threads : List ThreadRecord) (thread : ThreadRecord) :
    totalsOf (threads ++ [thread]) = (totalsOf threads).add thread := by
  simp [totalsOf, GroupTotals.add]

theorem totalsOf_perm {threads threads' : List ThreadRecord} (h : threads.Perm threads') :
    totalsOf threads = totalsOf threads' := by
  simp only [totalsOf, (h.map _).sum_eq, h.length_eq]

theorem addToGroup_of_ne {thread : ThreadRecord} {row : GroupKey × GroupTotals}
    (h : row.1 ≠ thread.groupKey) : addToGroup thread row = row := if_neg h

theorem find_addThread (table : GroupTable) (thread : ThreadRecord) (key : GroupKey) :
    (addThread table thread).find key =
      if key = thread.groupKey then
        some (key, (((table.find key).map Prod.snd).getD {}).add thread)
      else table.find key := by
  rw [addThread, KeyedTable.find_upsert fun row => addToGroup_of_ne]
  split_ifs with hkey
  · cases hrow : table.find key with
    | none => rw [hkey]; rfl
    | some row =>
      have hrowKey : row.1 = key := KeyedTable.key_of_find hrow
      simp [addToGroup, hrowKey, hkey]
  · rfl

/-- The invariant of the loop. -/
theorem find_groupTotals (threads : List ThreadRecord) (key : GroupKey) :
    (threads.foldl addThread emptyGroups).find key =
      if key ∈ threads.map ThreadRecord.groupKey then
        some (key, totalsOf (threadsWithKey threads key))
      else none := by
  -- on the threads already added
  induction threads using List.reverseRecOn with
  | nil => rfl
  | append_singleton threads thread ih =>
    rw [List.foldl_append, List.foldl_cons, List.foldl_nil, find_addThread, ih]
    by_cases hkey : key = thread.groupKey
    · subst hkey
      have hthreads : threadsWithKey (threads ++ [thread]) thread.groupKey =
          threadsWithKey threads thread.groupKey ++ [thread] := by simp [threadsWithKey]
      have hmem : thread.groupKey ∈ (threads ++ [thread]).map ThreadRecord.groupKey := by simp
      rw [if_pos rfl, if_pos hmem, hthreads, totalsOf_concat]
      by_cases hseen : thread.groupKey ∈ threads.map ThreadRecord.groupKey
      · rw [if_pos hseen]
        rfl
      · have hnone : threadsWithKey threads thread.groupKey = [] := by
          apply List.filter_eq_nil_iff.mpr
          intro other hother heq
          exact hseen (of_decide_eq_true heq ▸ List.mem_map_of_mem hother)
        rw [if_neg hseen, hnone]
        rfl
    · have hthreads : threadsWithKey (threads ++ [thread]) key = threadsWithKey threads key := by
        simp [threadsWithKey, Ne.symm hkey]
      rw [if_neg hkey, hthreads, List.map_append]
      simp [hkey]

/-- What every thread adds to its group, the groups have together. -/
theorem sum_groupTotals {M : Type} [AddCommMonoid M] {w : GroupTotals → M} {v : ThreadRecord → M}
    (hzero : w {} = 0) (hadd : ∀ totals thread, w (totals.add thread) = w totals + v thread)
    (threads : List ThreadRecord) :
    ((threads.foldl addThread emptyGroups).rows.map fun row => w row.2).sum =
      (threads.map v).sum := by
  induction threads using List.reverseRecOn with
  | nil => rfl
  | append_singleton threads thread ih =>
    have hfirst : w (({} : GroupTotals).add thread) = v thread := by rw [hadd, hzero, zero_add]
    rw [List.foldl_append, List.foldl_cons, List.foldl_nil, addThread,
      KeyedTable.sum_upsert fun row => addToGroup_of_ne, ih, hfirst]
    · simp
    · intro row hrow
      rw [addToGroup, if_pos hrow, hadd, hfirst]

/-! ### The records -/

def GroupRecord.key (group : GroupRecord) : GroupKey :=
  (group.component, group.category, group.threadGroup)

def groupRecord (row : GroupKey × GroupTotals) : GroupRecord where
  component := row.1.1
  category := row.1.2.1
  threadGroup := row.1.2.2
  threads := row.2.threads
  cpu := ⟨row.2.totalPct, row.2.userPct, row.2.systemPct⟩

def GroupRecord.sortKey (group : GroupRecord) : ℚ ×ₗ String ×ₗ String :=
  toLex (-group.cpu.totalPct, toLex (group.component, group.threadGroup))

theorem aggregateGroups_perm_rows (threads : List ThreadRecord) :
    (aggregateGroups threads).Perm
      ((threads.foldl addThread emptyGroups).rows.map groupRecord) := perm_sortOn _ _

theorem pairwise_aggregateGroups (threads : List ThreadRecord) :
    (aggregateGroups threads).Pairwise fun g g' => g.sortKey ≤ g'.sortKey := pairwise_sortOn _ _

theorem mem_aggregateGroups {threads : List ThreadRecord} {group : GroupRecord} :
    group ∈ aggregateGroups threads ↔
      group.key ∈ threads.map ThreadRecord.groupKey ∧
        group = groupRecord (group.key, totalsOf (threadsWithKey threads group.key)) := by
  rw [(aggregateGroups_perm_rows threads).mem_iff, List.mem_map]
  constructor
  · rintro ⟨⟨key, totals⟩, hrow, rfl⟩
    have hfind := KeyedTable.find_of_mem hrow
    rw [find_groupTotals] at hfind
    split_ifs at hfind with hkey
    refine ⟨hkey, ?_⟩
    rw [← Option.some.inj hfind]
    rfl
  · rintro ⟨hkey, hgroup⟩
    refine ⟨_, ?_, hgroup.symm⟩
    apply KeyedTable.mem_of_find (k := group.key)
    rw [find_groupTotals, if_pos hkey]

theorem sum_aggregateGroups {M : Type} [AddCommMonoid M] {w : GroupRecord → M}
    {u : GroupTotals → M} {v : ThreadRecord → M} (hw : ∀ row, w (groupRecord row) = u row.2)
    (hzero : u {} = 0) (hadd : ∀ totals thread, u (totals.add thread) = u totals + v thread)
    (threads : List ThreadRecord) :
    ((aggregateGroups threads).map w).sum = (threads.map v).sum := by
  rw [((aggregateGroups_perm_rows threads).map w).sum_eq, List.map_map, ← sum_groupTotals hzero hadd]
  congr 2
  funext row
  exact hw row

theorem nodup_keys_aggregateGroups (threads : List ThreadRecord) :
    ((aggregateGroups threads).map GroupRecord.key).Nodup := by
  have hperm := (aggregateGroups_perm_rows threads).map GroupRecord.key
  rw [List.map_map] at hperm
  exact hperm.nodup_iff.mpr (threads.foldl addThread emptyGroups).nodup

theorem mem_keys_aggregateGroups (threads : List ThreadRecord) (key : GroupKey) :
    key ∈ (aggregateGroups threads).map GroupRecord.key ↔
      key ∈ threads.map ThreadRecord.groupKey := by
  rw [List.mem_map]
  constructor
  · rintro ⟨group, hgroup, rfl⟩
    exact (mem_aggregateGroups.mp hgroup).1
  · intro hkey
    exact ⟨groupRecord (key, totalsOf (threadsWithKey threads key)),
      mem_aggregateGroups.mpr ⟨hkey, rfl⟩, rfl⟩

/-! ### The order of the input -/

theorem aggregateGroups_perm {threads threads' : List ThreadRecord} (h : threads'.Perm threads) :
    (aggregateGroups threads').Perm (aggregateGroups threads) := by
  have hrows : (threads'.foldl addThread emptyGroups).rows.Perm
      (threads.foldl addThread emptyGroups).rows := by
    apply KeyedTable.perm_of_find_eq
    intro key
    have hthreads : (threadsWithKey threads' key).Perm (threadsWithKey threads key) := h.filter _
    rw [find_groupTotals, find_groupTotals, totalsOf_perm hthreads]
    simp only [(h.map ThreadRecord.groupKey).mem_iff]
  exact (aggregateGroups_perm_rows threads').trans
    ((hrows.map groupRecord).trans (aggregateGroups_perm_rows threads).symm)

/-- The sort key decides between any two groups unless they differ in the category alone. -/
theorem aggregateGroups_eq_of_perm {threads threads' : List ThreadRecord}
    (h : threads'.Perm threads)
    (hcategory : ∀ t ∈ threads, ∀ t' ∈ threads, t.processComponent = t'.processComponent →
      t.threadGroup = t'.threadGroup → t.processCategory = t'.processCategory) :
    aggregateGroups threads' = aggregateGroups threads := by
  have hperm := aggregateGroups_perm h
  apply hperm.eq_of_pairwise _ (pairwise_aggregateGroups threads') (pairwise_aggregateGroups threads)
  intro g g' hg hg' hle hge
  obtain ⟨hkey, hg⟩ := mem_aggregateGroups.mp (hperm.mem_iff.mp hg)
  obtain ⟨hkey', hg'⟩ := mem_aggregateGroups.mp hg'
  have hsame : g.sortKey = g'.sortKey := le_antisymm hle hge
  obtain ⟨-, hrest⟩ := Prod.mk.inj (toLex.injective hsame)
  obtain ⟨hcomponent, hthreadGroup⟩ := Prod.mk.inj (toLex.injective hrest)
  obtain ⟨t, ht, htkey⟩ := List.mem_map.mp hkey
  obtain ⟨t', ht', htkey'⟩ := List.mem_map.mp hkey'
  simp only [ThreadRecord.groupKey, GroupRecord.key, Prod.mk.injEq] at htkey htkey'
  have hcat : t.processCategory = t'.processCategory :=
    hcategory t ht t' ht' (htkey.1.trans (hcomponent.trans htkey'.1.symm))
      (htkey.2.2.trans (hthreadGroup.trans htkey'.2.2.symm))
  have heq : g.key = g'.key := by
    simp only [GroupRecord.key, hcomponent, hthreadGroup, ← htkey.2.1, ← htkey'.2.1, hcat]
  rw [hg, hg', heq]

/-! ### The partition -/

/-- The groups of these threads: one record for each key that occurs, with the totals of
the threads that have it, by decreasing usage. -/
structure GroupsOf (threads : List ThreadRecord) (groups : List GroupRecord) : Prop where
  distinct : (groups.map GroupRecord.key).Nodup
  occurs : ∀ key, key ∈ groups.map GroupRecord.key ↔ key ∈ threads.map ThreadRecord.groupKey
  count : ∀ g ∈ groups, g.threads = (threadsWithKey threads g.key).length
  total : ∀ g ∈ groups, g.cpu.totalPct =
    ((threadsWithKey threads g.key).map fun thread => thread.cpu.totalPct).sum
  user : ∀ g ∈ groups, g.cpu.userPct =
    ((threadsWithKey threads g.key).map fun thread => thread.cpu.userPct).sum
  system : ∀ g ∈ groups, g.cpu.systemPct =
    ((threadsWithKey threads g.key).map fun thread => thread.cpu.systemPct).sum
  sum_count : (groups.map GroupRecord.threads).sum = threads.length
  sum_total : (groups.map fun g => g.cpu.totalPct).sum =
    (threads.map fun thread => thread.cpu.totalPct).sum
  sum_user : (groups.map fun g => g.cpu.userPct).sum =
    (threads.map fun thread => thread.cpu.userPct).sum
  sum_system : (groups.map fun g => g.cpu.systemPct).sum =
    (threads.map fun thread => thread.cpu.systemPct).sum
  decreasing : groups.Pairwise fun g g' => g'.cpu.totalPct ≤ g.cpu.totalPct

/-- The groups partition the threads, and the same records result for every order of the
threads. They also stand in the same order, unless two groups differ in the category
alone: the sort key leaves the category out. -/
theorem groups_partition_threads (threads : List ThreadRecord) :
    GroupsOf threads (aggregateGroups threads) ∧
      ∀ threads' : List ThreadRecord, threads'.Perm threads →
        (aggregateGroups threads').Perm (aggregateGroups threads) ∧
          ((∀ t ∈ threads, ∀ t' ∈ threads, t.processComponent = t'.processComponent →
              t.threadGroup = t'.threadGroup → t.processCategory = t'.processCategory) →
            aggregateGroups threads' = aggregateGroups threads) := by
  have hrecord : ∀ g ∈ aggregateGroups threads,
      g = groupRecord (g.key, totalsOf (threadsWithKey threads g.key)) := fun g hg =>
    (mem_aggregateGroups.mp hg).2
  refine ⟨⟨nodup_keys_aggregateGroups threads, mem_keys_aggregateGroups threads,
    fun g hg => congrArg GroupRecord.threads (hrecord g hg),
    fun g hg => congrArg (fun g => g.cpu.totalPct) (hrecord g hg),
    fun g hg => congrArg (fun g => g.cpu.userPct) (hrecord g hg),
    fun g hg => congrArg (fun g => g.cpu.systemPct) (hrecord g hg), ?_, ?_, ?_, ?_, ?_⟩,
    fun threads' h => ⟨aggregateGroups_perm h, aggregateGroups_eq_of_perm h⟩⟩
  · rw [sum_aggregateGroups (u := GroupTotals.threads) (v := fun _ => 1) (fun _ => rfl) rfl
      fun _ _ => rfl]
    simp
  · exact sum_aggregateGroups (u := GroupTotals.totalPct) (fun _ => rfl) rfl (fun _ _ => rfl) _
  · exact sum_aggregateGroups (u := GroupTotals.userPct) (fun _ => rfl) rfl (fun _ _ => rfl) _
  · exact sum_aggregateGroups (u := GroupTotals.systemPct) (fun _ => rfl) rfl (fun _ _ => rfl) _
  · refine (pairwise_aggregateGroups threads).imp fun {g g'} hle => ?_
    rcases Prod.Lex.toLex_le_toLex.mp hle with hlt | ⟨heq, -⟩
    · exact (neg_lt_neg_iff.mp hlt).le
    · exact (neg_injective heq).ge

end OvnApi.Sampler
