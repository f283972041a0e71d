import OvnApi.Lib.Regions
import OvnApi.Ovs.Monitor

/-! The client follows the server. An update that the server composes of a set of changes
takes a client that has the first state of the database to one that has the second, in each
version of the protocol, whatever order the rows and columns come in. In the versions that
send differences this needs columns of which the client can read every difference and knows
every default. -/

namespace OvnApi.Ovs

open OvnApi.Lib OvnApi.Lib.Prog OvnApi.Core

/-! ### Columns -/

/-- The row of the client is that of the server, in the columns that are asked for. -/
def Row.Is (table : TableSchema) (row : Row) (r : Server.Row) : Prop :=
  ∀ c ∈ table.monitored, (Row.datum row c).Is (r c.name)

def Server.RowConforms (table : TableSchema) (r : Server.Row) : Prop :=
  ∀ c ∈ table.monitored, Server.Conforms c.type (r c.name)

/-- The columns of which every difference and every default gets through. -/
def ColumnType.Replicable (type : ColumnType) : Prop :=
  (type.isMap = false ∨ type.nMin = 0) ∧ (type.nMax = none ∨ type.nMax = some 1)

section Columns

variable {table : TableSchema} {columns : List Column} {c : Column} {r old new : Server.Row} {row : Row}

theorem TableSchema.mem_monitored : c ∈ table.monitored ↔ c ∈ table.columns ∧ c.readonly = false := by
  simp [TableSchema.monitored]

theorem TableSchema.column_eq (hc : c ∈ table.columns) : table.column c.name = some c :=
  find?_eq_some_of_mem table.nodup hc

/-- A column is known by its name. -/
theorem TableSchema.eq_of_name {c' : Column} (hc : c ∈ table.columns) (hc' : c' ∈ table.columns)
    (h : c'.name = c.name) : c' = c := by
  have heq := table.column_eq hc'
  rw [h, table.column_eq hc] at heq
  exact (Option.some.inj heq).symm

theorem readColumn_eq {value : Value} {datum : Datum} (hc : c ∈ table.columns)
    (h : Datum.fromJson c.type value = .ok datum) : readColumn table (c.name, value) = .ok (some (c, datum)) := by
  rw [readColumn, table.column_eq hc]
  dsimp only
  rw [h]

/-- One turn of the loop over the members of an update, as a program. -/
def columnTurn {α : Type} (table : TableSchema) (body : α → Column × Datum → α) (m : Text × Value) :
    Prog α Fault Unit := fun acc =>
  match readColumn table m with
  | .ok item => (.ok (), (item.map (body acc)).getD acc)
  | .error fault => (.raised fault, acc)

theorem forColumns_of_forEach {α : Type} {body : α → Column × Datum → α} {members : List (Text × Value)}
    {acc acc' : α} {u : Unit} (h : Prog.forEach (columnTurn table body) members acc = (.ok u, acc')) :
    forColumns table body acc members = .ok acc' := by
  induction members generalizing acc with
  | nil =>
    cases h
    rfl
  | cons m members ih =>
    change Prog.bind (columnTurn table body m) (fun _ => Prog.forEach (columnTurn table body) members) acc
      = _ at h
    unfold Prog.bind columnTurn at h
    rw [forColumns, List.foldlM_cons]
    cases hread : readColumn table m with
    | error fault =>
      rw [hread] at h
      cases h
    | ok item =>
      rw [hread] at h
      exact ih h

/-- The members of an update, each of which does its work on a column of its own. -/
theorem forColumns_worksOn {α ν : Type} {look : α → Text → ν} {P Q : Text → ν → Prop}
    {body : α → Column × Datum → α} {members : List (Text × Value)} (hnodup : (members.map Prod.fst).Nodup)
    (hmembers : ∀ m ∈ members, ∃ read, readColumn table m = .ok read ∧ WorksOn look P Q {m.1}
      fun acc => ((.ok (), (read.map (body acc)).getD acc) : Outcome Fault Unit × α))
    (acc : α) (hacc : ∀ name ∈ members.map Prod.fst, P name (look acc name)) :
    ∃ acc', forColumns table body acc members = .ok acc' ∧
      (∀ name ∉ members.map Prod.fst, look acc' name = look acc name) ∧
      ∀ name ∈ members.map Prod.fst, Q name (look acc' name) := by
  have hturn : ∀ m ∈ members, WorksOn look P Q {m.1} (columnTurn table body m) := by
    intro m hm
    obtain ⟨read, hread, hworks⟩ := hmembers m hm
    have heq : columnTurn table body m = fun acc => (.ok (), (read.map (body acc)).getD acc) := by
      funext acc
      rw [columnTurn, hread]
    rw [heq]
    exact hworks
  have hdisjoint : members.Pairwise fun m m' => Disjoint ({m.1} : Set Text) {m'.1} := by
    rw [List.Nodup, List.pairwise_map] at hnodup
    exact hnodup.imp Set.disjoint_singleton.mpr
  have hregion : {name | ∃ m ∈ members, name ∈ ({m.1} : Set Text)} = {name | name ∈ members.map Prod.fst} := by
    ext name
    simp only [Set.mem_singleton_iff, Set.mem_ofPred_eq, List.mem_map, eq_comm]
  have hloop := WorksOn.forEach hturn hdisjoint
  rw [hregion] at hloop
  obtain ⟨_, acc', hrun, hout, hin⟩ := hloop acc hacc
  exact ⟨acc', forColumns_of_forEach hrun, hout, hin⟩

/-- The place of a column in a row of the client, which has what the server has. -/
def ColumnIs (table : TableSchema) (r : Server.Row) (name : Text) (v : Option Datum) : Prop :=
  ∀ c ∈ table.monitored, c.name = name → (v.getD (Datum.default c.type)).Is (r name)

theorem Row.is_iff : Row.Is table row r ↔ ∀ name, ColumnIs table r name (row.get name) := by
  constructor
  · rintro h _ c hc rfl
    exact h c hc
  · intro h c hc
    exact h c.name c hc rfl

theorem columnIs_of_mem {v : Option Datum} (hc : c ∈ table.monitored)
    (h : (v.getD (Datum.default c.type)).Is (r c.name)) : ColumnIs table r c.name v := by
  intro c' hc' hname
  obtain rfl := table.eq_of_name (TableSchema.mem_monitored.mp hc).1 (TableSchema.mem_monitored.mp hc').1 hname
  exact h

theorem Row.datum_set (row : Row) (c : Column) (datum : Datum) :
    Row.datum (row.set c.name datum) c = datum := by
  rw [Row.datum, Dict.get_set, if_pos rfl]
  rfl

/-- The column takes the datum that is read. -/
theorem updateColumn_worksOn {datum : Datum} (hc : c ∈ table.monitored) (h : datum.Is (r c.name)) :
    WorksOn (fun acc : Row × Bool => acc.1.get) (fun _ _ => True) (ColumnIs table r) {c.name}
      fun acc => ((.ok (), updateColumn acc (c, datum)) : Outcome Fault Unit × _) := by
  intro acc _
  refine ⟨(), _, rfl, ?_, ?_⟩
  · intro name hname
    unfold updateColumn
    split
    · rfl
    · exact (Dict.get_set ..).trans (if_neg hname)
  · rintro _ rfl
    refine columnIs_of_mem hc fun k => ?_
    unfold updateColumn
    split
    case isTrue hsame => exact (Dict.same_iff.mp hsame k).symm.trans (h k)
    case isFalse =>
      change (Row.datum (acc.1.set c.name datum) c).get k = _
      rw [Row.datum_set]
      exact h k

/-- The column goes from what the server had to what it has. -/
theorem diffColumn_worksOn {datum : Datum} (hc : c ∈ table.monitored)
    (h : ∀ self : Datum, self.Is (old c.name) → (Datum.diff c.type self datum).Is (new c.name)) :
    WorksOn (fun acc : Row × Row => acc.1.get) (ColumnIs table old) (ColumnIs table new) {c.name}
      fun acc => ((.ok (), diffColumn acc (c, datum)) : Outcome Fault Unit × _) := by
  intro acc hacc
  refine ⟨(), _, rfl, ?_, ?_⟩
  · intro name hname
    unfold diffColumn
    dsimp only
    split
    · rfl
    · exact (Dict.get_set ..).trans (if_neg hname)
  · rintro _ rfl
    have hnew := h (Row.datum acc.1 c) (hacc c.name rfl c hc rfl)
    refine columnIs_of_mem hc fun k => ?_
    unfold diffColumn
    dsimp only
    split
    case isTrue hsame => exact (Dict.same_iff.mp hsame k).symm.trans (hnew k)
    case isFalse =>
      change (Row.datum (acc.1.set c.name _) c).get k = _
      rw [Row.datum_set]
      exact hnew k

end Columns

/-! ### The columns of an update -/

section ColumnsOfUpdate

variable {type : ColumnType} {d : Server.Datum}

theorem Server.most_le_most (type : ColumnType) : Server.most type ≤ type.most := by
  unfold Server.most ColumnType.most
  cases type.nMax with
  | none => decide
  | some n => exact Nat.le_refl n

/-- What the server has in a column, the client can read. -/
theorem Server.Conforms.fromJson (h : Server.Conforms type d) :
    ∃ datum, Datum.fromJson type (Server.datumToJson type d) = .ok datum ∧ datum.Is d := by
  obtain ⟨datum, hread, hentries⟩ :=
    Datum.fromJson_datumToJson h.toTyped (.inr ⟨h.least, h.most.trans (Server.most_le_most type)⟩)
  exact ⟨datum, hread, Datum.is_of_entries hentries⟩

variable {table : TableSchema} {columns : List Column} {r old new : Server.Row} {row : Row}

theorem nodup_names (hcolumns : columns.Perm table.monitored) (p : Column → Bool) :
    ((columns.filter p).map Column.name).Nodup := by
  refine List.Nodup.sublist (List.filter_sublist.map _) ?_
  rw [(hcolumns.map _).nodup_iff]
  exact table.nodup.sublist (List.filter_sublist.map _)

theorem names_map (columns : List Column) (json : Column → Value) :
    (columns.map fun c => (c.name, json c)).map Prod.fst = columns.map Column.name := by
  rw [List.map_map]
  rfl

/-- The members of an update that give columns the data of the server. -/
theorem rowUpdate_members {members : List (Text × Value)} (hnodup : (members.map Prod.fst).Nodup)
    (hmembers : ∀ m ∈ members, ∃ c ∈ table.monitored, c.name = m.1 ∧
      ∃ datum, Datum.fromJson c.type m.2 = .ok datum ∧ datum.Is (r c.name)) (row : Row) :
    ∃ acc, rowUpdate table row members = .ok acc ∧
      (∀ name ∉ members.map Prod.fst, acc.1.get name = row.get name) ∧
      ∀ name ∈ members.map Prod.fst, ColumnIs table r name (acc.1.get name) := by
  have hworks : ∀ m ∈ members, ∃ item, readColumn table m = .ok item ∧
      WorksOn (fun acc : Row × Bool => acc.1.get) (fun _ _ => True) (ColumnIs table r) {m.1}
        fun acc => ((.ok (), (item.map (updateColumn acc)).getD acc) : Outcome Fault Unit × _) := by
    rintro ⟨_, value⟩ hm
    obtain ⟨c, hc, rfl, datum, hread, hdatum⟩ := hmembers _ hm
    exact ⟨_, readColumn_eq (TableSchema.mem_monitored.mp hc).1 hread, updateColumn_worksOn hc hdatum⟩
  exact forColumns_worksOn hnodup hworks (row, false) fun _ _ => trivial

/-- A row that is sent whole. -/
theorem rowUpdate_rowToJson (hcolumns : columns.Perm table.monitored) (hr : Server.RowConforms table r)
    (row : Row) :
    ∃ acc, rowUpdate table row (Server.rowToJson columns r) = .ok acc ∧ Row.Is table acc.1 r := by
  have hnames : (Server.rowToJson columns r).map Prod.fst = columns.map Column.name := names_map columns _
  have hnodup : ((Server.rowToJson columns r).map Prod.fst).Nodup := by
    rw [hnames]
    simpa using nodup_names hcolumns fun _ => true
  obtain ⟨acc, hrun, -, hin⟩ := rowUpdate_members hnodup (r := r) (by
    intro m hm
    obtain ⟨c, hc, rfl⟩ := List.mem_map.mp hm
    have hc := hcolumns.mem_iff.mp hc
    exact ⟨c, hc, rfl, (hr c hc).fromJson⟩) row
  refine ⟨acc, hrun, fun c hc => hin c.name ?_ c hc rfl⟩
  rw [hnames]
  exact List.mem_map_of_mem (hcolumns.mem_iff.mpr hc)

/-- A column of which nothing is sent and that gets no default is empty. -/
theorem columnIs_none {c : Column} (hc : c ∈ table.monitored) (hr : Server.RowConforms table r)
    (hmap : c.type.isMap = false ∨ c.type.nMin = 0)
    (hdefault : Server.datumIsDefault c.type (r c.name) = true)
    (hwants : c.type.nMin = 0 ∨ c.type.isMap = true) : ColumnIs table r c.name none := by
  have hmin : c.type.nMin = 0 := by
    rcases hwants with hwants | hwants
    · exact hwants
    · rcases hmap with hmap | hmap
      · rw [hwants] at hmap
        cases hmap
      · exact hmap
  refine columnIs_of_mem hc fun k => ?_
  obtain ⟨-, hempty⟩ | ⟨hone, -⟩ := (hr c hc).eq_default hdefault
  · rw [hempty, Option.getD_none, Datum.default, if_pos hmin]
    rfl
  · omega

/-- A row that is sent without its defaults. -/
theorem rowUpdate_insertToJson (hcolumns : columns.Perm table.monitored) (hr : Server.RowConforms table r)
    (hmap : ∀ c ∈ table.monitored, c.type.isMap = false ∨ c.type.nMin = 0) :
    ∃ acc, rowUpdate table Dict.empty (addDefault table (Server.insertToJson columns r)) = .ok acc ∧
      Row.Is table acc.1 r := by
  have hnames : (Server.insertToJson columns r).map Prod.fst =
      (columns.filter fun c => !Server.datumIsDefault c.type (r c.name)).map Column.name := names_map _ _
  have hadded : (addDefault table (Server.insertToJson columns r)).map Prod.fst =
      (Server.insertToJson columns r).map Prod.fst ++
        (table.columns.filter (wantsDefault (Server.insertToJson columns r))).map Column.name := by
    rw [addDefault, List.map_append, names_map]
  -- a column of which nothing is sent has the default
  have hdefault : ∀ c ∈ table.monitored, c.name ∉ (Server.insertToJson columns r).map Prod.fst →
      Server.datumIsDefault c.type (r c.name) = true := by
    intro c hc hout
    by_contra hne
    rw [hnames] at hout
    exact hout (List.mem_map_of_mem (List.mem_filter.mpr ⟨hcolumns.mem_iff.mpr hc, by simpa using hne⟩))
  have hwants : ∀ c, wantsDefault (Server.insertToJson columns r) c = true ↔
      c.name ∉ (Server.insertToJson columns r).map Prod.fst ∧ c.readonly = false ∧ c.type.nMin ≠ 0 ∧
        c.type.isMap = false := by
    intro c
    simp only [wantsDefault, Bool.and_eq_true, decide_eq_true_eq, Bool.not_eq_true', and_assoc]
  have hnodup : ((addDefault table (Server.insertToJson columns r)).map Prod.fst).Nodup := by
    rw [hadded, List.nodup_append]
    refine ⟨?_, table.nodup.sublist (List.filter_sublist.map _), ?_⟩
    · rw [hnames]
      exact nodup_names hcolumns _
    · rintro name hname _ hname' rfl
      obtain ⟨c, hc, rfl⟩ := List.mem_map.mp hname'
      exact ((hwants c).mp (List.mem_filter.mp hc).2).1 hname
  obtain ⟨acc, hrun, hout, hin⟩ := rowUpdate_members hnodup (r := r) (by
    intro m hm
    rcases List.mem_append.mp hm with hm | hm
    · obtain ⟨c, hc, rfl⟩ := List.mem_map.mp hm
      have hc := hcolumns.mem_iff.mp (List.mem_filter.mp hc).1
      exact ⟨c, hc, rfl, (hr c hc).fromJson⟩
    · obtain ⟨c, hc, rfl⟩ := List.mem_map.mp hm
      obtain ⟨hc, hw⟩ := List.mem_filter.mp hc
      obtain ⟨hname, hreadonly, hmin, hset⟩ := (hwants c).mp hw
      have hc := TableSchema.mem_monitored.mpr ⟨hc, hreadonly⟩
      obtain ⟨datum, hread, hentries⟩ :=
        Datum.fromJson_columnName (hr c hc) (hdefault c hc hname) hset hmin
      exact ⟨c, hc, rfl, datum, hread, Datum.is_of_entries hentries⟩) Dict.empty
  refine ⟨acc, hrun, Row.is_iff.mpr fun name => ?_⟩
  by_cases hname : name ∈ (addDefault table (Server.insertToJson columns r)).map Prod.fst
  · exact hin name hname
  · rw [hout name hname, Dict.get_empty]
    intro c hc hcname
    subst hcname
    rw [hadded, List.mem_append, not_or] at hname
    have hnot : ¬ wantsDefault (Server.insertToJson columns r) c = true := fun hw =>
      hname.2 (List.mem_map_of_mem (List.mem_filter.mpr ⟨(TableSchema.mem_monitored.mp hc).1, hw⟩))
    refine columnIs_none hc hr (hmap c hc) (hdefault c hc hname.1) ?_ c hc rfl
    rw [hwants] at hnot
    by_contra hcon
    rw [not_or, Bool.not_eq_true] at hcon
    exact hnot ⟨hname.1, (TableSchema.mem_monitored.mp hc).2, hcon⟩

/-- A row after a difference, for a client that cannot read differences of too many elements. -/
def Server.followed (table : TableSchema) (old new : Server.Row) : Server.Row := fun name =>
  match table.column name with
  | some c => if (Server.datumDiff c.type (old name) (new name)).length ≤ c.type.most then new name
    else old name
  | none => new name

theorem Server.followed_eq {c : Column} (hc : c ∈ table.monitored) :
    Server.followed table old new c.name =
      if (Server.datumDiff c.type (old c.name) (new c.name)).length ≤ c.type.most then new c.name
      else old c.name := by
  rw [Server.followed, table.column_eq (TableSchema.mem_monitored.mp hc).1]

/-- The turn for a column that changed. -/
theorem diffColumn_followed {c : Column} (hc : c ∈ table.monitored)
    (hold : Server.Conforms c.type (old c.name)) (hnew : Server.Conforms c.type (new c.name))
    (hne : old c.name ≠ new c.name) :
    ∃ item, readColumn table (c.name, Server.datumToJson c.type
        (Server.datumDiff c.type (old c.name) (new c.name))) = .ok item ∧
      WorksOn (fun acc : Row × Row => acc.1.get) (ColumnIs table old)
        (ColumnIs table (Server.followed table old new)) {c.name}
        fun acc => ((.ok (), (item.map (diffColumn acc)).getD acc) : Outcome Fault Unit × _) := by
  have hcolumn := (TableSchema.mem_monitored.mp hc).1
  by_cases hsize : (Server.datumDiff c.type (old c.name) (new c.name)).length ≤ c.type.most
  · obtain ⟨datum, hread, hentries⟩ := Datum.fromJson_datumToJson
      (hold.toTyped.datumDiff hnew.toTyped) (.inr ⟨hnew.nMin_le_datumDiff hne, hsize⟩)
    refine ⟨_, readColumn_eq hcolumn hread, diffColumn_worksOn hc fun self hself => ?_⟩
    rw [Server.followed_eq hc, if_pos hsize]
    exact Datum.diff_is hold.sorted hnew.sorted hself hentries
  · have hskip : readColumn table (c.name, Server.datumToJson c.type
        (Server.datumDiff c.type (old c.name) (new c.name))) = .ok none := by
      rw [readColumn, table.column_eq hcolumn]
      dsimp only
      rw [Datum.fromJson_refused hsize]
    refine ⟨none, hskip, fun acc hacc => ⟨(), acc, rfl, fun _ _ => rfl, ?_⟩⟩
    rintro _ rfl
    refine columnIs_of_mem hc ?_
    rw [Server.followed_eq hc, if_neg hsize]
    exact hacc c.name rfl c hc rfl

/-- The columns of a row that changed. -/
theorem applyDiff_modifyToJson (hcolumns : columns.Perm table.monitored)
    (hold : Server.RowConforms table old) (hnew : Server.RowConforms table new)
    (hrow : Row.Is table row old) :
    ∃ acc, applyDiff table row (Server.modifyToJson columns old new) = .ok acc ∧
      Row.Is table acc.1 (Server.followed table old new) := by
  have hnames : (Server.modifyToJson columns old new).map Prod.fst =
      (columns.filter fun c => old c.name ≠ new c.name).map Column.name := names_map _ _
  have hnodup : ((Server.modifyToJson columns old new).map Prod.fst).Nodup := by
    rw [hnames]
    exact nodup_names hcolumns _
  have hworks : ∀ m ∈ Server.modifyToJson columns old new, ∃ item, readColumn table m = .ok item ∧
      WorksOn (fun acc : Row × Row => acc.1.get) (ColumnIs table old)
        (ColumnIs table (Server.followed table old new)) {m.1}
        fun acc => ((.ok (), (item.map (diffColumn acc)).getD acc) : Outcome Fault Unit × _) := by
    intro m hm
    obtain ⟨c, hc, rfl⟩ := List.mem_map.mp hm
    obtain ⟨hc, hne⟩ := List.mem_filter.mp hc
    have hc := hcolumns.mem_iff.mp hc
    exact diffColumn_followed hc (hold c hc) (hnew c hc) (of_decide_eq_true hne)
  obtain ⟨acc, hrun, hout, hin⟩ := forColumns_worksOn hnodup hworks (row, Dict.empty)
    fun name _ => Row.is_iff.mp hrow name
  refine ⟨acc, hrun, fun c hc => ?_⟩
  by_cases hsame : old c.name = new c.name
  · -- nothing is sent of the column
    have hnot : c.name ∉ (Server.modifyToJson columns old new).map Prod.fst := by
      rw [hnames]
      intro hmem
      obtain ⟨c', hc', hname⟩ := List.mem_map.mp hmem
      have hne := of_decide_eq_true (List.mem_filter.mp hc').2
      rw [hname] at hne
      exact hne hsame
    have hkeep := hrow c hc
    unfold Row.datum at hkeep ⊢
    rw [hout c.name hnot, Server.followed_eq hc, ← hsame, ite_self]
    exact hkeep
  · refine hin c.name ?_ c hc rfl
    rw [hnames]
    exact List.mem_map_of_mem
      (List.mem_filter.mpr ⟨hcolumns.mem_iff.mpr hc, decide_eq_true hsame⟩)

/-- The old data of a row can be read. -/
theorem rowFromJson_changedToJson (hcolumns : columns.Perm table.monitored)
    (hold : Server.RowConforms table old) (new : Server.Row) :
    ∃ row, rowFromJson table (Server.changedToJson columns old new) = .ok row := by
  have hnames : (Server.changedToJson columns old new).map Prod.fst =
      (columns.filter fun c => old c.name ≠ new c.name).map Column.name := names_map _ _
  have hnodup : ((Server.changedToJson columns old new).map Prod.fst).Nodup := by
    rw [hnames]
    exact nodup_names hcolumns _
  have hworks : ∀ m ∈ Server.changedToJson columns old new, ∃ item, readColumn table m = .ok item ∧
      WorksOn (fun _ _ => ()) (fun _ _ => True) (fun _ _ => True) {m.1} fun row : Row =>
        ((.ok (), (item.map fun item => row.set item.1.name item.2).getD row) : Outcome Fault Unit × _) := by
    intro m hm
    obtain ⟨c, hc, rfl⟩ := List.mem_map.mp hm
    have hc := hcolumns.mem_iff.mp (List.mem_filter.mp hc).1
    obtain ⟨datum, hread, -⟩ := (hold c hc).fromJson
    exact ⟨_, readColumn_eq (TableSchema.mem_monitored.mp hc).1 hread,
      fun w _ => ⟨(), _, rfl, fun _ _ => rfl, fun _ _ => trivial⟩⟩
  obtain ⟨row, hrun, -⟩ := forColumns_worksOn hnodup hworks Dict.empty fun _ _ => trivial
  exact ⟨row, hrun⟩

end ColumnsOfUpdate

/-! ### Rows -/

/-- The stack of a UUID holds the row that the server has, if it has one. -/
def StackIs (table : TableSchema) (stack : Option (List Row)) : Option Server.Row → Prop
  | none => stack = none
  | some r => ∃ row, stack = some [row] ∧ Row.Is table row r

section Rows

variable {table : TableSchema} {columns : List Column} {rows : IndexedRows} {uuid : Uuid}
  {base now : Option Server.Row} {r old new : Server.Row} {row : Row}

theorem IndexedRows.getItem_eq (h : rows.get uuid = some [row]) : rows.getItem uuid = some row := by
  rw [IndexedRows.getItem, h]
  rfl

theorem IndexedRows.get_delItem (h : rows.get uuid = some [row]) (k : Uuid) :
    (rows.delItem uuid).get k = if k = uuid then none else rows.get k := by
  rw [IndexedRows.delItem, h]
  exact Dict.get_del ..

/-- A row that is set where there is none. -/
theorem IndexedRows.get_setItem (h : rows.get uuid = none) (row : Row) (k : Uuid) :
    (rows.setItem uuid row).get k = if k = uuid then some [row] else rows.get k := by
  rw [IndexedRows.setItem, h]
  exact Dict.get_set ..

/-- What both functions do before they write a row. -/
def IndexedRows.without (rows : IndexedRows) (uuid : Uuid) : IndexedRows :=
  if (rows.getItem uuid).isSome then rows.delItem uuid else rows

theorem IndexedRows.get_without (h : StackIs table (rows.get uuid) base) (k : Uuid) :
    (rows.without uuid).get k = if k = uuid then none else rows.get k := by
  unfold IndexedRows.without
  cases base with
  | none =>
    have hget : rows.get uuid = none := h
    rw [IndexedRows.getItem, hget, if_neg (by simp)]
    split
    case isTrue hk => rw [hk, hget]
    case isFalse => rfl
  | some r =>
    obtain ⟨row, hget, -⟩ := h
    rw [IndexedRows.getItem_eq hget]
    exact IndexedRows.get_delItem hget k

/-- What a program on the rows of a table has to do to those of a UUID. -/
abbrev Follows {α : Type} (table : TableSchema) (uuid : Uuid) (base now : Option Server.Row)
    (m : Prog IndexedRows Fault α) : Prop :=
  WorksOn Dict.get (fun _ stack => StackIs table stack base) (fun _ stack => StackIs table stack now)
    {uuid} m

/-- A row that is written after the one before it went. -/
theorem follows_write {α : Type} {m : Prog IndexedRows Fault α}
    (h : ∀ rows, StackIs table (rows.get uuid) base →
      ∃ a row, m rows = (.ok a, (rows.without uuid).setItem uuid row) ∧ Row.Is table row r) :
    Follows table uuid base (some r) m := by
  intro rows hrows
  have hbase : StackIs table (rows.get uuid) base := hrows uuid rfl
  obtain ⟨a, row, hrun, hrow⟩ := h rows hbase
  have hwithout := IndexedRows.get_without hbase
  have hget := IndexedRows.get_setItem ((hwithout uuid).trans (if_pos rfl)) row
  refine ⟨a, _, hrun, ?_, ?_⟩
  · intro k (hk : k ≠ uuid)
    rw [hget, if_neg hk, hwithout, if_neg hk]
  · intro k (hk : k = uuid)
    exact ⟨row, (hget k).trans (if_pos hk), hrow⟩

theorem follows_processDelete : Follows table uuid (some r) none (processDelete uuid) := by
  intro rows hrows
  obtain ⟨row, hget, -⟩ := hrows uuid rfl
  have hdel := IndexedRows.get_delItem hget
  refine ⟨some ⟨.delete, uuid, none⟩, IndexedRows.delItem rows uuid, ?_, ?_, ?_⟩
  · rw [processDelete, IndexedRows.getItem_eq hget]
  · intro k (hk : k ≠ uuid)
    rw [hdel, if_neg hk]
  · intro k (hk : k = uuid)
    exact (hdel k).trans (if_pos hk)

theorem follows_processInsert2 (hcolumns : columns.Perm table.monitored)
    (hr : Server.RowConforms table r)
    (hmap : ∀ c ∈ table.monitored, c.type.isMap = false ∨ c.type.nMin = 0) :
    Follows table uuid base (some r)
      (processInsert2 table uuid (.obj (Server.insertToJson columns r))) := by
  obtain ⟨⟨row, changed⟩, hrun, hrow⟩ := rowUpdate_insertToJson hcolumns hr hmap
  refine follows_write fun rows _ => ⟨if changed then some ⟨.create, uuid, none⟩ else none, row, ?_, hrow⟩
  unfold processInsert2
  dsimp only
  rw [hrun]
  rfl

theorem processModify2_followed (hcolumns : columns.Perm table.monitored)
    (hold : Server.RowConforms table old) (hnew : Server.RowConforms table new)
    (hget : rows.get uuid = some [row]) (hrow : Row.Is table row old) :
    ∃ row' updates, processModify2 table uuid (.obj (Server.modifyToJson columns old new)) rows =
        (.ok (some ⟨.update, uuid, some updates⟩), (rows.delItem uuid).setItem uuid row') ∧
      Row.Is table row' (Server.followed table old new) := by
  obtain ⟨⟨row', updates⟩, hrun, hrow'⟩ := applyDiff_modifyToJson hcolumns hold hnew hrow
  refine ⟨row', updates, ?_, hrow'⟩
  rw [processModify2, IndexedRows.getItem_eq hget]
  dsimp only
  rw [hrun]

theorem follows_processModify2 (hcolumns : columns.Perm table.monitored)
    (hold : Server.RowConforms table old) (hnew : Server.RowConforms table new)
    (hmax : ∀ c ∈ table.monitored, c.type.nMax = none ∨ c.type.nMax = some 1) :
    Follows table uuid (some old) (some new)
      (processModify2 table uuid (.obj (Server.modifyToJson columns old new))) := by
  refine follows_write fun rows hrows => ?_
  obtain ⟨row, hget, hrow⟩ := hrows
  obtain ⟨row', updates, hrun, hrow'⟩ := processModify2_followed hcolumns hold hnew hget hrow
  refine ⟨some ⟨.update, uuid, some updates⟩, row', ?_, fun c hc => ?_⟩
  · rw [hrun, IndexedRows.without, IndexedRows.getItem_eq hget]
    rfl
  · have hfollowed := hrow' c hc
    rwa [Server.followed_eq hc, if_pos ((hold c hc).length_datumDiff (hnew c hc) (hmax c hc))] at hfollowed

theorem follows_processWrite (hcolumns : columns.Perm table.monitored)
    (hr : Server.RowConforms table r) (found missing : Event) (updates : Option Row) :
    Follows table uuid base (some r)
      (processWrite table uuid (Server.rowToJson columns r) found missing (.ok updates)) := by
  refine follows_write fun rows _ => ?_
  obtain ⟨⟨row, changed⟩, hrun, hrow⟩ := rowUpdate_rowToJson hcolumns hr ((rows.getItem uuid).getD Dict.empty)
  unfold processWrite
  dsimp only
  rw [hrun]
  dsimp only
  split
  · exact ⟨_, row, rfl, hrow⟩
  · exact ⟨_, row, rfl, hrow⟩

end Rows

/-! ### The row of an update -/

section RowOfUpdate

variable {table : TableSchema} {uuid : Uuid}

theorem processUpdate2_insert (json : Value) :
    processUpdate2 table uuid [(codes "insert", json)] = processInsert2 table uuid json := rfl

theorem processUpdate2_initial (json : Value) :
    processUpdate2 table uuid [(codes "initial", json)] = processInsert2 table uuid json := rfl

theorem processUpdate2_modify (json : Value) :
    processUpdate2 table uuid [(codes "modify", json)] = processModify2 table uuid json := rfl

theorem processUpdate2_delete (json : Value) :
    processUpdate2 table uuid [(codes "delete", json)] = processDelete uuid := rfl

/-- A row that the server says has changed. A column stays as it was if its difference has more
elements than the column may have, and the client is told of an update all the same. -/
theorem row_difference_followed {columns : List Column} {old new : Server.Row} {rows : IndexedRows}
    {row : Row} (hcolumns : columns.Perm table.monitored) (hold : Server.RowConforms table old) (hnew : Server.RowConforms table new)
    (hget : rows.get uuid = some [row]) (hrow : Row.Is table row old) :
    ∃ row' updates, processUpdate2 table uuid
        [(codes "modify", .obj (Server.modifyToJson columns old new))] rows =
        (.ok (some ⟨.update, uuid, some updates⟩), (rows.delItem uuid).setItem uuid row') ∧
      ∀ c ∈ table.monitored, (Row.datum row' c).Is
        (if (Server.datumDiff c.type (old c.name) (new c.name)).length ≤ c.type.most then new c.name
          else old c.name) := by
  obtain ⟨row', updates, hrun, hrow'⟩ := processModify2_followed hcolumns hold hnew hget hrow
  refine ⟨row', updates, hrun, fun c hc => ?_⟩
  rw [← Server.followed_eq hc]
  exact hrow' c hc

theorem trunks_bounds : 0 ≤ 1 ∧ ∀ n ∈ some 2, 1 ≤ n :=
  ⟨Nat.zero_le 1, fun _ hn => Option.some.inj hn ▸ by decide⟩

theorem tag_bounds : 1 ≤ 1 ∧ ∀ n ∈ some 1, 1 ≤ n := ⟨Nat.le_refl 1, fun _ hn => (Option.some.inj hn).le⟩

def trunks : Column :=
  ⟨codes "trunks", ⟨⟨.integer, none, none, none, 0, 0⟩, none, 0, some 2, trunks_bounds⟩, true, false⟩

def tag : Column :=
  ⟨codes "tag", ⟨⟨.integer, none, none, none, 0, 0⟩, none, 1, some 1, tag_bounds⟩, true, false⟩

theorem port_nodup : ([trunks, tag].map Column.name).Nodup := by decide

def port : TableSchema := ⟨codes "Port", [trunks, tag], port_nodup⟩

def portRow (a b c : ℤ) : Server.Row := fun name =>
  if name = codes "tag" then [(.integer c, none)] else [(.integer a, none), (.integer b, none)]

theorem mem_port {c : Column} (hc : c ∈ port.monitored) : c = trunks ∨ c = tag := by
  simpa [port] using List.mem_of_mem_filter hc

theorem conforms_portRow :
    Server.RowConforms port (portRow 1 2 5) ∧ Server.RowConforms port (portRow 3 4 6) := by
  constructor <;> intro c hc <;> obtain rfl | rfl := mem_port hc <;>
    refine ⟨⟨?_, by decide, by decide⟩, by decide, by decide⟩
  case left.inl | right.inl => exact List.pairwise_pair.mpr rfl
  case left.inr | right.inr => exact List.pairwise_singleton _ _

def portData (a b c : ℤ) : Row :=
  (Dict.empty.set trunks.name ((Dict.empty.set (.value (.integer a)) none).set (.value (.integer b)) none)).set
    tag.name (Dict.empty.set (.value (.integer c)) none)

/-- Two integers are replaced by two others, which the client misses, and it takes the new tag. -/
theorem row_difference_followed_port : ∃ row' updates,
    processUpdate2 port (.uniform 0)
        [(codes "modify", .obj (Server.modifyToJson [trunks, tag] (portRow 1 2 5) (portRow 3 4 6)))]
        (Dict.empty.set (.uniform 0) [portData 1 2 5]) =
        (.ok (some ⟨.update, .uniform 0, some updates⟩),
          (IndexedRows.delItem (Dict.empty.set (.uniform 0) [portData 1 2 5]) (.uniform 0)).setItem
            (.uniform 0) row') ∧
      (Row.datum row' trunks).Is (portRow 1 2 6 trunks.name) ∧
      (Row.datum row' tag).Is (portRow 1 2 6 tag.name) := by
  have hrow : Row.Is port (portData 1 2 5) (portRow 1 2 5) := by
    intro c hc
    obtain rfl | rfl := mem_port hc
    · exact Datum.is_of_entries rfl
    · exact Datum.is_of_entries rfl
  have hcolumns : [trunks, tag].Perm port.monitored := .refl _
  have hget : (Dict.empty.set (Uuid.uniform 0) [portData 1 2 5]).get (.uniform 0) =
      some [portData 1 2 5] := rfl
  obtain ⟨row', updates, hrun, hdata⟩ := row_difference_followed hcolumns conforms_portRow.1
    conforms_portRow.2 hget hrow
  refine ⟨row', updates, hrun, hdata trunks ?_, hdata tag ?_⟩
  · exact List.mem_filter.mpr ⟨List.mem_cons_self, rfl⟩
  · exact List.mem_filter.mpr ⟨List.mem_cons_of_mem _ List.mem_cons_self, rfl⟩

theorem processRow_new {new : List (Text × Value)} (hnew : new ≠ []) :
    Tables.processRow .update table uuid [(codes "new", .obj new)] =
      processWrite table uuid new .create .create (.ok none) := by
  cases new with
  | nil => cases hnew rfl
  | cons m new => rfl

theorem processRow_old {old : List (Text × Value)} (hold : old ≠ []) :
    Tables.processRow .update table uuid [(codes "old", .obj old)] = processDelete uuid := by
  cases old with
  | nil => cases hold rfl
  | cons m old => rfl

theorem processRow_both {old new : List (Text × Value)} (hold : old ≠ []) (hnew : new ≠ []) :
    Tables.processRow .update table uuid [(codes "old", .obj old), (codes "new", .obj new)] =
      processWrite table uuid new .update .create ((rowFromJson table old).map some) := by
  cases old with
  | nil => cases hold rfl
  | cons m old =>
    cases new with
    | nil => cases hnew rfl
    | cons m' new => rfl

/-- What a version asks of a table: a row of the first version is not sent without columns, and in
the others every difference and every default gets through. -/
structure TableSchema.Replicable (version : Version) (table : TableSchema) : Prop where
  monitors : version = .update → table.monitored ≠ []
  types : version ≠ .update → ∀ c ∈ table.monitored, c.type.Replicable

variable {version : Version} {columns : List Column} {initial : Bool} {change : Server.Change}
  {base now : Option Server.Row} {old new : Server.Row}

theorem changedToJson_ne_nil (h : Server.columnsChanged columns old new = true) :
    Server.changedToJson columns old new ≠ [] := by
  obtain ⟨c, hc, hne⟩ := List.any_eq_true.mp h
  rw [Server.changedToJson, Server.rowToJson, ne_eq, List.map_eq_nil_iff]
  exact List.ne_nil_of_mem (List.mem_filter.mpr ⟨hc, hne⟩)

/-- A row whose columns did not change is the row that the client has. -/
theorem stackIs_of_not_columnsChanged (hcolumns : columns.Perm table.monitored)
    (h : Server.columnsChanged columns old new = false) {stack : Option (List Row)}
    (hstack : StackIs table stack (some old)) : StackIs table stack (some new) := by
  obtain ⟨row, hrow, his⟩ := hstack
  refine ⟨row, hrow, fun c hc => ?_⟩
  have hsame : old c.name = new c.name := by
    simpa using List.any_eq_false.mp h c (hcolumns.mem_iff.mpr hc)
  rw [← hsame]
  exact his c hc

/-- How a client takes what is composed of a row, which is nothing where it has the row already. -/
def Composed (version : Version) (table : TableSchema) (uuid : Uuid) (base now : Option Server.Row)
    (update : Option Value) : Prop :=
  (∀ value ∈ update, ∃ members, value = .obj members ∧
      Follows table uuid base now (Tables.processRow version table uuid members)) ∧
    (update = none → ∀ stack, StackIs table stack base → StackIs table stack now)

theorem composed_some {members : List (Text × Value)}
    (h : Follows table uuid base now (Tables.processRow version table uuid members)) :
    Composed version table uuid base now (some (.obj members)) := by
  refine ⟨fun value hvalue => ⟨members, (Option.some.inj hvalue).symm, h⟩, fun hnone => ?_⟩
  cases hnone

theorem composed_none (h : ∀ stack, StackIs table stack base → StackIs table stack now) :
    Composed version table uuid base now none := by
  refine ⟨fun value hvalue => ?_, fun _ => h⟩
  cases hvalue

variable (hcolumns : columns.Perm table.monitored) (hbase : ∀ r ∈ base, Server.RowConforms table r)
  (hnow : ∀ r ∈ now, Server.RowConforms table r) (hsome : base.isSome ∨ now.isSome)
  (hinitial : initial = true → base = none)

include hcolumns hbase hnow hsome hinitial

theorem composed_composeRowUpdate (hmonitors : table.monitored ≠ []) :
    Composed .update table uuid base now (Server.composeRowUpdate columns initial ⟨base, now⟩) := by
  have hne : ∀ r, Server.rowToJson columns r ≠ [] := by
    intro r hr
    rw [List.map_eq_nil_iff.mp hr] at hcolumns
    exact hmonitors hcolumns.nil_eq.symm
  cases base with
  | none =>
    cases now with
    | none => simp at hsome
    | some r =>
      have hwrite : Follows table uuid none (some r)
          (processWrite table uuid (Server.rowToJson columns r) .create .create (.ok none)) :=
        follows_processWrite hcolumns (hnow r rfl) _ _ _
      rw [← processRow_new (hne r)] at hwrite
      cases initial with
      | true => exact composed_some hwrite
      | false => exact composed_some hwrite
  | some old =>
    cases initial with
    | true => cases hinitial rfl
    | false =>
      cases now with
      | none =>
        refine composed_some ?_
        rw [processRow_old (hne _)]
        exact follows_processDelete
      | some new =>
        rw [Server.composeRowUpdate_modify]
        split
        case isTrue hchanged =>
          refine composed_some ?_
          obtain ⟨row, hrow⟩ := rowFromJson_changedToJson hcolumns (hbase old rfl) new
          rw [processRow_both (changedToJson_ne_nil hchanged) (hne new), hrow]
          exact follows_processWrite hcolumns (hnow new rfl) _ _ _
        case isFalse hsame =>
          refine composed_none fun stack => stackIs_of_not_columnsChanged hcolumns ?_
          exact Bool.eq_false_of_not_eq_true hsame

theorem composed_composeRowUpdate2 (hversion : version ≠ .update)
    (htypes : ∀ c ∈ table.monitored, c.type.Replicable) :
    Composed version table uuid base now (Server.composeRowUpdate2 columns initial ⟨base, now⟩) := by
  have hprocess : ∀ members, Tables.processRow version table uuid members =
      processUpdate2 table uuid members := by
    intro members
    cases version with
    | update => cases hversion rfl
    | update2 => rfl
    | update3 => rfl
  cases base with
  | none =>
    cases now with
    | none => simp at hsome
    | some r =>
      have hinsert : Follows table uuid none (some r)
          (processInsert2 table uuid (.obj (Server.insertToJson columns r))) :=
        follows_processInsert2 hcolumns (hnow r rfl) fun c hc => (htypes c hc).1
      cases initial with
      | true =>
        refine composed_some ?_
        rw [hprocess, processUpdate2_initial]
        exact hinsert
      | false =>
        refine composed_some ?_
        rw [hprocess, processUpdate2_insert]
        exact hinsert
  | some old =>
    cases initial with
    | true => cases hinitial rfl
    | false =>
      cases now with
      | none =>
        refine composed_some ?_
        rw [hprocess, processUpdate2_delete]
        exact follows_processDelete
      | some new =>
        rw [Server.composeRowUpdate2_modify]
        split
        case isTrue hchanged =>
          refine composed_some ?_
          rw [hprocess, processUpdate2_modify]
          exact follows_processModify2 hcolumns (hbase old rfl) (hnow new rfl) fun c hc => (htypes c hc).2
        case isFalse hsame =>
          refine composed_none fun stack => stackIs_of_not_columnsChanged hcolumns ?_
          exact Bool.eq_false_of_not_eq_true hsame

/-- A client that has the row follows it by what the server composes. -/
theorem composed_composeRow (htable : table.Replicable version) :
    Composed version table uuid base now (Server.composeRow version initial columns ⟨base, now⟩) := by
  cases version with
  | update =>
    exact composed_composeRowUpdate hcolumns hbase hnow hsome hinitial (htable.monitors rfl)
  | update2 =>
    have hversion : Version.update2 ≠ .update := Version.noConfusion
    exact composed_composeRowUpdate2 hcolumns hbase hnow hsome hinitial hversion (htable.types hversion)
  | update3 =>
    have hversion : Version.update3 ≠ .update := Version.noConfusion
    exact composed_composeRowUpdate2 hcolumns hbase hnow hsome hinitial hversion (htable.types hversion)

end RowOfUpdate

/-! ### Tables -/

namespace Tables

/-- The stack of a UUID in a table. -/
def place (w : Tables) (k : Text × Uuid) : Option (List Row) := (w.rows k.1).get k.2

/-- A place that holds what the database has there. -/
def CellIs (tables : List TableSchema) (db : Server.Database) (k : Text × Uuid)
    (stack : Option (List Row)) : Prop :=
  ∀ table ∈ tables, table.name = k.1 → StackIs table stack (db k.1 k.2)

/-- The tables of the client have what the database has. -/
def Mirrors (tables : List TableSchema) (w : Tables) (db : Server.Database) : Prop :=
  ∀ k, CellIs tables db k (w.place k)

end Tables

def Server.DatabaseConforms (tables : List TableSchema) (db : Server.Database) : Prop :=
  ∀ table ∈ tables, ∀ uuid, ∀ r ∈ db table.name uuid, Server.RowConforms table r

section TablesOfUpdate

variable {tables : List TableSchema} {table : TableSchema} {base now : Server.Database}

theorem Server.text_injective : Function.Injective fun uuid : Uuid => codes uuid.text :=
  fun _ _ h => Uuid.ext_text (codes_injective h)

theorem cellIs_iff (hnodup : (tables.map TableSchema.name).Nodup) (htable : table ∈ tables) (uuid : Uuid)
    {stack : Option (List Row)} : Tables.CellIs tables base (table.name, uuid) stack ↔
      StackIs table stack (base table.name uuid) := by
  constructor
  · intro h
    exact h table htable rfl
  · intro h table' htable' hname
    have hfind := find?_eq_some_of_mem hnodup htable'
    rw [hname, find?_eq_some_of_mem hnodup htable] at hfind
    obtain rfl := Option.some.inj hfind
    exact h

theorem Tables.looks_note (counts : Bool) (changes : Option Notice) :
    Looks Tables.place (Tables.note counts changes) := by
  intro w
  unfold Tables.note
  cases changes with
  | none => exact ⟨(), w, rfl, rfl⟩
  | some notice =>
    refine ⟨(), _, rfl, ?_⟩
    cases counts <;> rfl

/-- A program on the rows of a table that follows one of them. -/
theorem Tables.worksOn_inTable {α : Type} {m : Prog IndexedRows Fault α} {uuid : Uuid}
    (hnodup : (tables.map TableSchema.name).Nodup) (htable : table ∈ tables)
    (hm : Follows table uuid (base table.name uuid) (now table.name uuid) m) :
    WorksOn Tables.place (Tables.CellIs tables base) (Tables.CellIs tables now) {(table.name, uuid)}
      (Tables.inTable table.name m) := by
  intro w hw
  have hcell : StackIs table ((w.rows table.name).get uuid) (base table.name uuid) :=
    (cellIs_iff hnodup htable uuid).mp (hw _ rfl)
  obtain ⟨a, rows, hrun, hout, hin⟩ := hm (w.rows table.name) fun k hk => by
    obtain rfl : k = uuid := hk
    exact hcell
  refine ⟨a, { w with rows := Function.update w.rows table.name rows }, ?_, ?_, ?_⟩
  · rw [Tables.inTable, hrun]
  · rintro ⟨name, k⟩ hk
    unfold Tables.place
    by_cases hname : name = table.name
    · subst hname
      dsimp only
      rw [Function.update_self]
      exact hout k fun heq => hk (by rw [Set.mem_singleton_iff.mp heq]; rfl)
    · dsimp only
      rw [Function.update_of_ne hname]
  · rintro _ rfl
    refine (cellIs_iff hnodup htable uuid).mpr ?_
    unfold Tables.place
    dsimp only
    rw [Function.update_self]
    exact hin uuid rfl

/-- A set of changes from one state of the database to another that can be sent in a version. -/
structure Sends (version : Version) (tables : List TableSchema) (order : Server.Order) (initial : Bool)
    (changes : Server.ChangeSet) (base now : Server.Database) : Prop where
  nodup : (tables.map TableSchema.name).Nodup
  replicable : ∀ table ∈ tables, table.Replicable version
  conforms_base : Server.DatabaseConforms tables base
  conforms_now : Server.DatabaseConforms tables now
  tracks : Server.Tracks changes base now
  base_initial : initial = true → base = fun _ _ => none
  visits : order.Visits tables changes

variable {version : Version} {order : Server.Order} {initial : Bool} {changes : Server.ChangeSet}
  {uuid : Uuid} {change : Server.Change} {value : Value}

theorem Sends.composed (h : Sends version tables order initial changes base now) (htable : table ∈ tables)
    (hchange : changes table.name uuid = some change) :
    Composed version table uuid (base table.name uuid) (now table.name uuid)
      (Server.composeRow version initial (order.columns table.name) change) := by
  have hsays := h.tracks table.name uuid
  rw [hchange] at hsays
  obtain ⟨hold, hnew, hsome⟩ := hsays
  obtain ⟨old, new⟩ := change
  obtain rfl : old = base table.name uuid := hold
  obtain rfl : new = now table.name uuid := hnew
  exact composed_composeRow (h.visits.perm_columns table htable) (h.conforms_base table htable uuid)
    (h.conforms_now table htable uuid) hsome (fun hi => by rw [h.base_initial hi]) (h.replicable table htable)

/-- A row of which nothing is sent is the row that the client has. -/
theorem Sends.cellIs_of_not_sent (h : Sends version tables order initial changes base now)
    (htable : table ∈ tables)
    (hnot : ∀ change, changes table.name uuid = some change →
      Server.composeRow version initial (order.columns table.name) change = none)
    {stack : Option (List Row)} (hstack : Tables.CellIs tables base (table.name, uuid) stack) :
    Tables.CellIs tables now (table.name, uuid) stack := by
  rw [cellIs_iff h.nodup htable] at hstack ⊢
  cases hchange : changes table.name uuid with
  | none =>
    have hsays := h.tracks table.name uuid
    rw [hchange] at hsays
    have hsame : base table.name uuid = now table.name uuid := hsays
    rw [← hsame]
    exact hstack
  | some change => exact (h.composed htable hchange).2 (hnot change hchange) stack hstack

theorem Sends.worksOn_parseRow (h : Sends version tables order initial changes base now) (counts : Bool)
    (htable : table ∈ tables) (hchange : changes table.name uuid = some change)
    (hvalue : Server.composeRow version initial (order.columns table.name) change = some value) :
    WorksOn Tables.place (Tables.CellIs tables base) (Tables.CellIs tables now) {(table.name, uuid)}
      (Tables.parseRow counts version table (codes uuid.text, value)) := by
  obtain ⟨members, rfl, hfollows⟩ := (h.composed htable hchange).1 value hvalue
  have hrow : Tables.parseRow counts version table (codes uuid.text, .obj members) =
      Tables.inTable table.name (Tables.processRow version table uuid members) >>= Tables.note counts := by
    unfold Tables.parseRow
    dsimp only
    rw [uuidFromString_codes]
    rfl
  rw [hrow]
  exact (Tables.worksOn_inTable h.nodup htable hfollows).bind (Tables.looks_note counts)

/-- The rows of a table that are sent. -/
theorem mem_composeRows {m : Text × Value} (h : order.Visits tables changes) (htable : table ∈ tables) :
    m ∈ Server.composeRows version order initial changes table ↔ ∃ uuid change,
      changes table.name uuid = some change ∧
      Server.composeRow version initial (order.columns table.name) change = some m.2 ∧
      codes uuid.text = m.1 := by
  unfold Server.composeRows
  simp only [List.mem_filterMap, Option.bind_eq_some_iff, Option.map_eq_some_iff]
  constructor
  · rintro ⟨uuid, -, change, hchange, value, hvalue, rfl⟩
    exact ⟨uuid, change, hchange, hvalue, rfl⟩
  · rintro ⟨uuid, change, hchange, hvalue, hname⟩
    exact ⟨uuid, h.mem_rows table htable uuid (by rw [hchange]; rfl), change, hchange, m.2, hvalue,
      by rw [hname]⟩

theorem pairwise_composeRows (h : order.Visits tables changes) (htable : table ∈ tables) :
    (Server.composeRows version order initial changes table).Pairwise fun m m' => m.1 ≠ m'.1 := by
  refine List.pairwise_filterMap.mpr ((h.nodup_rows table htable).imp ?_)
  intro uuid uuid' hne m hm m' hm' heq
  obtain ⟨_, -, hvalue⟩ := Option.bind_eq_some_iff.mp hm
  obtain ⟨_, -, hvalue'⟩ := Option.bind_eq_some_iff.mp hm'
  obtain ⟨_, -, rfl⟩ := Option.map_eq_some_iff.mp hvalue
  obtain ⟨_, -, rfl⟩ := Option.map_eq_some_iff.mp hvalue'
  exact hne (Server.text_injective heq)

theorem Sends.worksOn_rows (h : Sends version tables order initial changes base now) (counts : Bool)
    (htable : table ∈ tables) :
    WorksOn Tables.place (Tables.CellIs tables base) (Tables.CellIs tables now) {k | k.1 = table.name}
      (Prog.forEach (Tables.parseRow counts version table)
        (Server.composeRows version order initial changes table)) := by
  have hbody : ∀ m ∈ Server.composeRows version order initial changes table,
      WorksOn Tables.place (Tables.CellIs tables base) (Tables.CellIs tables now)
        {k : Text × Uuid | k.1 = table.name ∧ codes k.2.text = m.1} (Tables.parseRow counts version table m) := by
    rintro ⟨_, value⟩ hm
    obtain ⟨uuid, change, hchange, hvalue, rfl⟩ := (mem_composeRows h.visits htable).mp hm
    have hregion : {k : Text × Uuid | k.1 = table.name ∧ codes k.2.text = codes uuid.text} =
        {(table.name, uuid)} := by
      ext ⟨name, k⟩
      simp only [Set.mem_ofPred_eq, Set.mem_singleton_iff, Prod.mk.injEq]
      exact and_congr_right fun _ => ⟨fun hk => Server.text_injective hk, fun hk => by rw [hk]⟩
    rw [hregion]
    exact h.worksOn_parseRow counts htable hchange hvalue
  have hdisjoint : (Server.composeRows version order initial changes table).Pairwise fun m m' =>
      Disjoint {k : Text × Uuid | k.1 = table.name ∧ codes k.2.text = m.1}
        {k : Text × Uuid | k.1 = table.name ∧ codes k.2.text = m'.1} := by
    refine (pairwise_composeRows h.visits htable).imp fun hne => ?_
    exact Set.disjoint_left.mpr fun k hk hk' => hne (hk.2.symm.trans hk'.2)
  refine (WorksOn.forEach hbody hdisjoint).mono ?_ ?_
  · rintro k ⟨m, -, hk, -⟩
    exact hk
  · -- the rows of the table that are not sent
    rintro ⟨_, uuid⟩ rfl hout stack hstack
    refine h.cellIs_of_not_sent htable (fun change hchange => ?_) hstack
    cases hvalue : Server.composeRow version initial (order.columns table.name) change with
    | none => rfl
    | some value =>
      exact absurd ⟨(codes uuid.text, value),
        (mem_composeRows h.visits htable).mpr ⟨uuid, change, hchange, hvalue, rfl⟩, rfl, rfl⟩ hout

/-- The tables that are sent. -/
theorem mem_composeTables {m : Text × Value} (h : order.Visits tables changes) :
    m ∈ Server.composeTables version order initial changes ↔ ∃ table ∈ tables, table.name = m.1 ∧
      Server.composeRows version order initial changes table ≠ [] ∧
      .obj (Server.composeRows version order initial changes table) = m.2 := by
  unfold Server.composeTables
  rw [List.mem_filterMap]
  simp only [List.isEmpty_iff, h.perm_tables.mem_iff]
  refine exists_congr fun table => and_congr_right fun _ => ?_
  split
  case isTrue hempty => simp [hempty]
  case isFalse hne => simp [hne, Prod.ext_iff]

theorem pairwise_composeTables (h : order.Visits tables changes)
    (hnodup : (tables.map TableSchema.name).Nodup) :
    (Server.composeTables version order initial changes).Pairwise fun m m' => m.1 ≠ m'.1 := by
  have horder : (order.tables.map TableSchema.name).Nodup := (h.perm_tables.map _).nodup_iff.mpr hnodup
  rw [List.Nodup, List.pairwise_map] at horder
  refine List.pairwise_filterMap.mpr (horder.imp ?_)
  intro table table' hne m hm m' hm'
  rw [Option.ite_none_left_eq_some] at hm hm'
  rw [← Option.some.inj hm.2, ← Option.some.inj hm'.2]
  exact hne

/-- All the tables of an update. -/
theorem Sends.worksOn_tables (h : Sends version tables order initial changes base now) (counts : Bool) :
    WorksOn Tables.place (Tables.CellIs tables base) (Tables.CellIs tables now) Set.univ
      (Prog.forEach (Tables.parseTable counts version tables)
        (Server.composeTables version order initial changes)) := by
  have hbody : ∀ m ∈ Server.composeTables version order initial changes,
      WorksOn Tables.place (Tables.CellIs tables base) (Tables.CellIs tables now)
        {k : Text × Uuid | k.1 = m.1} (Tables.parseTable counts version tables m) := by
    rintro ⟨_, _⟩ hm
    obtain ⟨table, htable, rfl, -, rfl⟩ := (mem_composeTables h.visits).mp hm
    have hparse : Tables.parseTable counts version tables
        (table.name, .obj (Server.composeRows version order initial changes table)) =
        Prog.forEach (Tables.parseRow counts version table)
          (Server.composeRows version order initial changes table) := by
      unfold Tables.parseTable
      dsimp only
      rw [find?_eq_some_of_mem h.nodup htable]
    rw [hparse]
    exact h.worksOn_rows counts htable
  have hdisjoint : (Server.composeTables version order initial changes).Pairwise fun m m' =>
      Disjoint {k : Text × Uuid | k.1 = m.1} {k : Text × Uuid | k.1 = m'.1} := by
    refine (pairwise_composeTables h.visits h.nodup).imp fun hne => ?_
    exact Set.disjoint_left.mpr fun k hk hk' => hne (hk.symm.trans hk')
  refine (WorksOn.forEach hbody hdisjoint).mono (Set.subset_univ _) ?_
  -- a place in no table that is sent
  rintro ⟨name, uuid⟩ - hout stack hstack table htable rfl
  refine h.cellIs_of_not_sent htable (fun change hchange => ?_) hstack table htable rfl
  cases hvalue : Server.composeRow version initial (order.columns table.name) change with
  | none => rfl
  | some value =>
    have hmem : (codes uuid.text, value) ∈ Server.composeRows version order initial changes table :=
      (mem_composeRows h.visits htable).mpr ⟨uuid, change, hchange, hvalue, rfl⟩
    exact absurd ⟨(table.name, .obj (Server.composeRows version order initial changes table)),
      (mem_composeTables h.visits).mpr ⟨table, htable, rfl, List.ne_nil_of_mem hmem, rfl⟩, rfl⟩ hout

/-- The update that is sent, or that would be sent if it were not empty. -/
theorem composeUpdate_getD (version : Version) (order : Server.Order) (initial : Bool)
    (changes : Server.ChangeSet) :
    (Server.composeUpdate version order initial changes).getD (.obj []) =
      .obj (Server.composeTables version order initial changes) := by
  unfold Server.composeUpdate
  dsimp only
  split
  case isTrue hempty => rw [List.isEmpty_iff.mp hempty, Option.getD_none]
  case isFalse => rfl

/-- An update takes the client from the first state of the database to the second. -/
theorem Sends.parseUpdate (h : Sends version tables order initial changes base now) (counts : Bool)
    {w : Tables} (hw : w.Mirrors tables base) :
    ∃ w', Tables.parseUpdate counts version tables
        ((Server.composeUpdate version order initial changes).getD (.obj [])) w = (.ok (), w') ∧
      w'.Mirrors tables now := by
  obtain ⟨_, w', hrun, -, hin⟩ := h.worksOn_tables counts { w with notices := [] } fun k _ => hw k
  refine ⟨{ w' with notices := [], notified := w'.notified ++ w'.notices }, ?_, fun k => hin k trivial⟩
  rw [composeUpdate_getD]
  change Prog.bind (attempt _ (Prog.bind _ _)) _ _ = _
  simp only [Prog.bind, attempt, hrun]
  rfl

/-- An update that is not sent because it is empty has nothing to say. -/
theorem Sends.mirrors_of_none (h : Sends version tables order initial changes base now)
    (hnone : Server.composeUpdate version order initial changes = none) {w : Tables}
    (hw : w.Mirrors tables base) : w.Mirrors tables now := by
  obtain ⟨w', hrun, hnow⟩ := h.parseUpdate true hw
  rw [hnone] at hrun
  have hempty : Tables.parseUpdate true version tables (.obj []) w =
      (.ok (), { w with notices := [], notified := w.notified ++ [] }) := rfl
  obtain rfl := congrArg Prod.snd (hempty.symm.trans hrun)
  exact hnow

end TablesOfUpdate

/-! ### The counter of changes -/

namespace Tables

variable {n : ℕ} {version : Version} {counts : Bool}

theorem keeps_parseRow (table : TableSchema) (m : Text × Value) :
    Keeps (fun w : Tables => n ≤ w.changeSeqno) (parseRow counts version table m) := by
  refine Safe.bind (.of_world ?_) fun uuid => ?_
  · intro w hw
    cases uuidFromString m.1 <;> exact hw
  · cases m.2 with
    | obj update =>
      refine Safe.bind (.of_world fun w hw => hw) fun changes => .of_world ?_
      intro w hw
      unfold note
      cases changes with
      | none => exact hw
      | some notice =>
        cases counts with
        | true => exact Nat.le_succ_of_le hw
        | false => exact hw
    | _ => exact .of_world fun w hw => hw

theorem keeps_parseTable (tables : List TableSchema) (m : Text × Value) :
    Keeps (fun w : Tables => n ≤ w.changeSeqno) (parseTable counts version tables m) := by
  unfold parseTable
  cases tables.find? fun table => table.name = m.1 with
  | none => exact .of_world fun w hw => hw
  | some table =>
    dsimp only
    cases m.2 with
    | obj rows => exact Safe.forEach (keeps_parseRow table) rows
    | _ => exact .of_world fun w hw => hw

/-- Changes are only ever counted up. -/
theorem le_changeSeqno_parseUpdate (w : Tables) (counts : Bool) (version : Version)
    (tables : List TableSchema) (update : Value) :
    w.changeSeqno ≤ (parseUpdate counts version tables update w).2.changeSeqno := by
  have hkeeps : Keeps (fun w' : Tables => w.changeSeqno ≤ w'.changeSeqno)
      (parseUpdate counts version tables update) := by
    refine Safe.bind (.of_world fun w' hw => hw) fun _ => Safe.bind
      (Safe.attempt (P := fun _ => True) ?_ fun _ _ _ => trivial) fun _ => .of_world fun w' hw => hw
    unfold doParseUpdate
    cases update with
    | obj members =>
      exact (Safe.forEach (keeps_parseTable tables) members).bind fun _ => .of_world fun w' hw => hw
    | _ => exact .of_world fun w' hw => hw
  exact (hkeeps w (Nat.le_refl _)).1

theorem mirrors_clear (tables : List TableSchema) (w : Tables) :
    (w.clear tables).Mirrors tables fun _ _ => none := by
  intro k table htable hname
  unfold place clear
  dsimp only
  rw [if_pos (hname ▸ List.mem_map_of_mem htable)]
  rfl

theorem le_changeSeqno_clear (tables : List TableSchema) (w : Tables) :
    w.changeSeqno ≤ (w.clear tables).changeSeqno := by
  unfold clear
  dsimp only
  split
  · exact Nat.le_succ _
  · exact Nat.le_refl _

end Tables

end OvnApi.Ovs
