import OvnApi.Northbound.Concurrent

/-! What a probe does to rows that are not its own. The cleanup deletes rules by what
they match and datapaths by their name, not by UUID, so a probe is harmless as long
as everything these keys can reach is its own. Careful launches keep it so. -/

namespace OvnApi.Northbound

open OvnApi.Core Lib Traces

/-! ### Names and keys -/

/-- What tells the row of an item from others of its kind. -/
def Item.key (probeId : Uuid) : Item → String
  | .acl => aclMatchText probeId
  | .nat => natLogicalIp probeId
  | .switchPort => portName probeId .switch
  | .routerPort => portName probeId .router

/-- A rule is taken by one item and one key. -/
theorem key_of_matching {lib : AddressLib} {p q : Uuid} {item item' : Item} {columns : Columns}
    (hcolumn : item.column = .rules) (h : item.matching lib p columns = true)
    (h' : item'.matching lib q columns = true) : item' = item ∧ item.key p = item'.key q := by
  cases columns with
  | switchPort name =>
    cases item with
    | acl | nat => cases h
    | switchPort | routerPort => cases hcolumn
  | routerPort port =>
    cases item with
    | acl | nat => cases h
    | switchPort | routerPort => cases hcolumn
  | acl rule =>
    cases item with
    | nat => cases h
    | switchPort | routerPort => cases hcolumn
    | acl =>
      cases item' with
      | nat => cases h'
      | switchPort | routerPort => simp [Item.matching, Columns.portName] at h'
      | acl =>
        simp only [Item.matching, aclDelMatching, Columns.isAcl, Bool.and_eq_true,
          decide_eq_true_eq] at h h'
        exact ⟨rfl, h.2.symm.trans h'.2⟩
  | nat rule =>
    cases item with
    | acl => cases h
    | switchPort | routerPort => cases hcolumn
    | nat =>
      cases item' with
      | acl => cases h'
      | switchPort | routerPort => simp [Item.matching, Columns.portName] at h'
      | nat =>
        refine ⟨rfl, ?_⟩
        cases hnet : lib.normalizeNet rule.logicalIp with
        | none => simp [Item.matching, natDelMatching, Columns.isNat, hnet] at h
        | some ip =>
          simp [Item.matching, natDelMatching, Columns.isNat, hnet] at h h'
          exact h.2.trans h'.2.symm

/-- Names end in the first segment of the probe's UUID. -/
def Tagged (probeId : Uuid) (name : String) : Prop := ∃ stem, name = stem ++ probeId.firstSegment

theorem Tagged.firstSegment {p q : Uuid} {name : String} (hp : Tagged p name)
    (hq : Tagged q name) : p.firstSegment = q.firstSegment := by
  obtain ⟨a, rfl⟩ := hp
  obtain ⟨b, hb⟩ := hq
  have hlists := congrArg String.toList hb
  rw [String.toList_append, String.toList_append] at hlists
  have hlength : p.firstSegment.toList.length = q.firstSegment.toList.length := by
    rw [length_firstSegment, length_firstSegment]
  exact String.toList_injective (List.append_inj' hlists hlength).2

theorem tagged_targetName (probeId : Uuid) (kind : DatapathKind) :
    Tagged probeId (targetName probeId kind) := by
  cases kind <;> exact ⟨_, rfl⟩

theorem tagged_rootName (probeId : Uuid) (kind : DatapathKind) :
    Tagged probeId (rootName probeId kind) := by
  cases kind <;> exact ⟨_, rfl⟩

theorem tagged_portName (probeId : Uuid) (kind : DatapathKind) :
    Tagged probeId (portName probeId kind) := by
  cases kind <;> exact ⟨_, rfl⟩

theorem tagged_anchorName (probeId : Uuid) (kind : DatapathKind) :
    Tagged probeId (anchorName probeId kind) := by
  cases kind <;> exact ⟨_, rfl⟩

/-- New datapaths carry the tag of their probe. -/
theorem tagged_of_footprint {lib : AddressLib} {probeId home : Uuid} {job : Job}
    {kind : DatapathKind} {name : String}
    (h : (job.footprint lib probeId home).datapath kind name) : Tagged probeId name := by
  cases job with
  | root k =>
    obtain ⟨-, rfl⟩ := h
    exact tagged_rootName probeId k
  | hang item target =>
    obtain ⟨-, -, rfl⟩ := h
    exact tagged_targetName probeId item.kind

/-- So do new ports. -/
theorem tagged_of_port {lib : AddressLib} {probeId home : Uuid} {job : Job} {columns : Columns}
    {kind : DatapathKind} {name : String} (h : (job.footprint lib probeId home).leaf columns)
    (hname : columns.portName kind = some name) : Tagged probeId name := by
  -- a port has a name for one kind of datapath only
  have hunique : ∀ {k : DatapathKind} {n : String}, columns.portName k = some n → n = name := by
    intro k n hn
    cases columns with
    | switchPort port =>
      simp only [Columns.portName, Option.ite_none_right_eq_some, Option.some.injEq] at hn hname
      exact hn.2.symm.trans hname.2
    | routerPort port =>
      simp only [Columns.portName, Option.ite_none_right_eq_some, Option.some.injEq] at hn hname
      exact hn.2.symm.trans hname.2
    | acl | nat => cases hname
  cases job with
  | root k =>
    rw [← hunique h]
    exact tagged_anchorName probeId k
  | hang item target =>
    have hrule : ∀ {p : Acl → Bool} {r : NatRule → Bool}, columns.isAcl p = true ∨
        columns.isNat r = true → False := by
      intro p r h'
      cases columns with
      | switchPort | routerPort => rcases h' with h' | h' <;> cases h'
      | acl | nat => cases hname
    cases item with
    | acl => exact (hrule (r := fun _ => false) (.inl h)).elim
    | nat => exact (hrule (p := fun _ => false) (.inr h)).elim
    | switchPort =>
      rw [← hunique (of_decide_eq_true h)]
      exact tagged_portName probeId .switch
    | routerPort =>
      rw [← hunique (of_decide_eq_true h)]
      exact tagged_portName probeId .router

theorem portName_of_matching {lib : AddressLib} {probeId : Uuid} {item : Item} {columns : Columns}
    (hcolumn : item.column = .ports) (h : item.matching lib probeId columns = true) :
    columns.portName item.kind = some (portName probeId item.kind) := by
  cases item with
  | acl | nat => cases hcolumn
  | switchPort | routerPort => exact of_decide_eq_true h

/-! ### What keeps a probe from harm -/

def Job.commands (probeId : Uuid) (job : Job) : List (List Command) :=
  job.setup probeId ++ job.create probeId :: job.cleanup probeId

/-- The commands still to come are those of the prepared probe. -/
def Running.OnScript (p : Running) : Prop :=
  match p.phase with
  | .setup todo => ∀ argv ∈ todo, argv ∈ p.prepared.setupCommands
  | .cleanup todo _ => ∀ argv ∈ todo, argv ∈ p.prepared.cleanupCommands

/-- Whatever the names and keys of a probe can reach is its own. -/
structure Sound (lib : AddressLib) (db : NbDb) (used : List Uuid) (p : Running) : Prop where
  runs : Runs p.prepared p.probeId p.job
  script : p.OnScript
  used : ∀ u ∈ p.own, u ∈ used
  target : ∀ t ∈ p.job.target, t ∉ p.own ∧
    ∃ d ∈ db.content.datapaths.rows, d.uuid = t ∧ d.kind = p.job.kind
  datapath : ∀ d ∈ db.content.datapaths.rows, ∀ kind,
    d.name = targetName p.probeId kind ∨ d.name = rootName p.probeId kind → d.uuid ∈ p.own
  port : ∀ leaf ∈ db.content.leaves.rows, ∀ kind,
    leaf.columns.portName kind = some (portName p.probeId kind) → leaf.uuid ∈ p.own
  refs : p.finished = false → ∀ d ∈ db.content.datapaths.rows, d.uuid ∈ p.own →
    ∀ u ∈ d.refs, u ∈ p.own
  rules : p.finished = false → ∀ item t, p.job = .hang item (some t) → item.column = .rules →
    ∀ d ∈ db.content.datapaths.rows, d.uuid = t → ∀ leaf ∈ db.content.leaves.rows,
      leaf.uuid ∈ d.column .rules → item.matching lib p.probeId leaf.columns = true →
        leaf.uuid ∈ p.own

/-- `p` does not work on rows of `q` that may go away, nor with its keys. -/
structure Apart (p q : Running) : Prop where
  own : ∀ u ∈ p.own, u ∉ q.own
  tag : p.probeId.firstSegment ≠ q.probeId.firstSegment
  target : q.finished = false → ∀ t ∈ p.job.target, t ∉ q.own
  key : p.finished = false → q.finished = false → ∀ item t, p.job = .hang item (some t) →
    q.job = .hang item (some t) → item.column = .rules → item.key p.probeId ≠ item.key q.probeId

/-- What a command of a probe does: it adds rows of its job, and leaves the rows of
others alone. -/
structure Effect (lib : AddressLib) (p : Running) (supply : List Uuid) (c c' : Content) : Prop where
  datapath : ∀ d' ∈ c'.datapaths.rows,
    (∃ d ∈ c.datapaths.rows, d.uuid = d'.uuid ∧ d.kind = d'.kind ∧ d.name = d'.name) ∨
      d'.uuid ∈ supply ∧ Tagged p.probeId d'.name
  ref : ∀ d' ∈ c'.datapaths.rows, ∀ col, ∀ u ∈ d'.column col,
    (∃ d ∈ c.datapaths.rows, d.uuid = d'.uuid ∧ u ∈ d.column col) ∨
      u ∈ supply ∧ (d'.uuid ∈ p.own ++ supply ∨ p.job.target = some d'.uuid)
  leaf : ∀ leaf ∈ c'.leaves.rows, leaf ∈ c.leaves.rows ∨
    leaf.uuid ∈ supply ∧ (p.job.footprint lib p.probeId p.probeId).leaf leaf.columns
  intact : Intact (· ∈ p.own) (· ∈ p.own ++ supply) c c'

section Effect

variable {lib : AddressLib} {db db' : NbDb} {used supply : List Uuid} {p q : Running}
  {c c' : Content} {home : Uuid}

theorem Effect.of_creates (h : Creates lib p.probeId p.job home supply c c')
    (hhome : home ∈ p.own ++ supply ∨ p.job.target = some home) : Effect lib p supply c c' where
  datapath d' hd' := by
    rcases h.grows.datapath d' hd' with hold | ⟨hissued, -, hname⟩
    · exact .inl hold
    · exact .inr ⟨hissued.1, tagged_of_footprint hname⟩
  ref d' hd' col u hu := by
    rcases h.grows.ref d' hd' col u hu with hold | ⟨-, hissued, hd'home⟩
    · exact .inl hold
    · refine .inr ⟨hissued.1, ?_⟩
      rw [hd'home, show (p.job.footprint lib p.probeId home).home = home by cases p.job <;> rfl]
      exact hhome
  leaf leaf hleaf := by
    rcases h.grows.leaf leaf hleaf with hold | ⟨hissued, hcolumns⟩
    · exact .inl hold
    · refine .inr ⟨hissued.1, ?_⟩
      cases hjob : p.job <;> rw [hjob] at hcolumns <;> exact hcolumns
  intact := h.intact.mono (fun _ hfalse => hfalse.elim)
    fun _ hissued => List.mem_append_right _ hissued.1

/-- A command that adds nothing. -/
theorem Effect.of_shrinking (F : Footprint) (hgrows : Grows F (fun _ => False) c c')
    (hintact : Intact (· ∈ p.own) (· ∈ p.own ++ supply) c c') : Effect lib p supply c c' where
  datapath d' hd' := (hgrows.datapath d' hd').imp_right fun h => h.1.elim
  ref d' hd' col u hu := (hgrows.ref d' hd' col u hu).imp_right fun h => h.2.1.elim
  leaf leaf hleaf := (hgrows.leaf leaf hleaf).imp_right fun h => h.1.elim
  intact := hintact

theorem Effect.refl (lib : AddressLib) (p : Running) (supply : List Uuid) (c : Content) :
    Effect lib p supply c c :=
  .of_shrinking (p.job.footprint lib p.probeId p.probeId) (.refl _ _ _) (.refl _ _ _)

theorem Effect.uuids (h : Effect lib p supply c c') (hused : ∀ u ∈ c.uuids, u ∈ used) :
    ∀ u ∈ c'.uuids, u ∈ used ++ supply := by
  refine forall_uuids (fun d' hd' => ?_) fun leaf hleaf => ?_
  · rcases h.datapath d' hd' with ⟨d, hd, huuid, -⟩ | ⟨hsupply, -⟩
    · rw [← huuid]
      exact List.mem_append_left _ (hused _ (uuid_of_datapath hd))
    · exact List.mem_append_right _ hsupply
  · rcases h.leaf leaf hleaf with hold | ⟨hsupply, -⟩
    · exact List.mem_append_left _ (hused _ (uuid_of_leaf hold))
    · exact List.mem_append_right _ hsupply

/-- The datapath the commands of an item refer to is the target, or its own. -/
theorem Sound.home_of_find (h : Sound lib db used p) {item : Item} {target : Option Uuid}
    (hjob : p.job = .hang item target) {d : Datapath}
    (hfind : findDatapath item.kind db.content (targetRef p.probeId item.kind target) =
      .ok (some d)) : d.uuid ∈ p.own ∨ target = some d.uuid := by
  cases target with
  | none =>
    left
    obtain ⟨hd, -, hfound⟩ := findDatapath_some hfind
    rcases hfound with huuid | hname
    · rw [targetRef, (canary_targetName p.probeId item.kind).fromString] at huuid
      cases huuid
    · exact h.datapath d hd item.kind (.inl hname)
  | some t =>
    right
    obtain ⟨-, e, he, rfl, hkind⟩ := h.target t (by rw [hjob]; rfl)
    rw [hjob] at hkind
    have hfind' := (findDatapath_of_uuid (Uuid.fromString_text e.uuid) he hkind).symm.trans hfind
    rw [Option.some.inj (Except.ok.inj hfind')]

theorem Sound.collect (h : Sound lib db used p) (hactive : p.finished = false)
    (hused : ∀ u ∈ db.content.uuids, u ∈ used) (hfresh : ∀ u ∈ supply, u ∉ used)
    (hintact : Intact (· ∈ p.own) (· ∈ p.own ++ supply) db.content c) :
    Intact (· ∈ p.own) (· ∈ p.own ++ supply) db.content c.collect := by
  apply hintact.collect
  · exact h.refs hactive
  · intro leaf hleaf hown
    rcases List.mem_append.mp hown with hown | hsupply
    · exact hown
    · exact absurd (hused _ (uuid_of_leaf hleaf)) (hfresh _ hsupply)

/-- The cleanup of an item drops references to rows of the probe only. -/
theorem Sound.removed_intact (h : Sound lib db used p) (hactive : p.finished = false) {item : Item}
    {target : Option Uuid} (hjob : p.job = .hang item target)
    (hremoved : Removed lib p.probeId item target db.content c) :
    Intact (· ∈ p.own) (· ∈ p.own ++ supply) db.content c := by
  cases hremoved with
  | nothing => exact .refl _ _ _
  | dropped d keep hd hlocated hsound _ =>
    apply Intact.of_filter
    intro e he heuuid u hu hdropped
    apply List.mem_append_left
    obtain ⟨leaf, hleaf, rfl, hmatching⟩ := hsound u hdropped
    cases hcolumn : item.column with
    | ports => exact h.port leaf hleaf item.kind (portName_of_matching hcolumn hmatching)
    | rules =>
      rcases hlocated with hfind | ⟨hports, -⟩
      · rw [hcolumn] at hu
        rcases h.home_of_find hjob hfind with hown | rfl
        · exact h.refs hactive e he (heuuid ▸ hown) _ (Datapath.mem_refs.mpr ⟨_, hu⟩)
        · exact h.rules hactive item _ hjob hcolumn e he heuuid leaf hleaf hu hmatching
      · rw [hcolumn] at hports
        cases hports

theorem Sound.item_effect (h : Sound lib db used p) (hactive : p.finished = false)
    (hused : ∀ u ∈ db.content.uuids, u ∈ used) (hfresh : ∀ u ∈ supply, u ∉ used) {item : Item}
    {target : Option Uuid} (hjob : p.job = .hang item target)
    (hrun : transact lib db supply [item.remove p.probeId target] = .ok db') :
    Effect lib p supply db.content db'.content := by
  obtain ⟨c, hremoved, heq⟩ := item_removes hrun
  have hgrows : Grows (p.job.footprint lib p.probeId p.probeId) (fun _ => False) db.content c := by
    cases hremoved with
    | nothing => exact .refl _ _ _
    | dropped d keep => exact .of_filter _ _ _ _ _ _
  rw [heq]
  exact .of_shrinking _ hgrows.collect
    (h.collect hactive hused hfresh (h.removed_intact hactive hjob hremoved))

theorem Sound.datapath_effect (h : Sound lib db used p) (hactive : p.finished = false)
    (hused : ∀ u ∈ db.content.uuids, u ∈ used) (hfresh : ∀ u ∈ supply, u ∉ used)
    {kind : DatapathKind} {name : String} (hcanary : Canary name)
    (hname : name = targetName p.probeId kind ∨ name = rootName p.probeId kind)
    (hrun : transact lib db supply [removeDatapath name kind] = .ok db') :
    Effect lib p supply db.content db'.content := by
  rcases datapath_removes hcanary hrun with ⟨-, heq⟩ | ⟨d, hd, -, hdname, -, heq⟩
  · rw [heq]
    exact .of_shrinking (p.job.footprint lib p.probeId p.probeId) (Grows.refl _ _ _).collect
      (h.collect hactive hused hfresh (.refl _ _ _))
  · rw [heq]
    have hown : d.uuid ∈ p.own := h.datapath d hd kind (by rwa [hdname])
    exact .of_shrinking (p.job.footprint lib p.probeId p.probeId)
      (Grows.of_removeDatapath _ _ _ _).collect
      (h.collect hactive hused hfresh (.of_removeDatapath hown))

/-- Every transaction of a sound probe has such an effect. -/
theorem Sound.effect (h : Sound lib db used p) (hactive : p.finished = false)
    (hused : ∀ u ∈ db.content.uuids, u ∈ used) (hfresh : ∀ u ∈ supply, u ∉ used)
    {commands : List Command} (hcommands : commands ∈ p.job.commands p.probeId)
    (hrun : transact lib db supply commands = .ok db') :
    Effect lib p supply db.content db'.content := by
  cases hjob : p.job with
  | root kind =>
    rw [hjob] at hcommands
    simp only [Job.commands, Job.setup, Job.cleanup, List.nil_append, List.mem_cons,
      List.not_mem_nil, or_false] at hcommands
    rcases hcommands with rfl | rfl
    · obtain ⟨-, home, hissued, hcreates⟩ := root_creates hrun
      exact .of_creates (hjob ▸ hcreates) (.inl (List.mem_append_right _ hissued.1))
    · exact h.datapath_effect hactive hused hfresh (canary_rootName _ _) (.inr rfl) hrun
  | hang item target =>
    have hcreate : ∀ {db' : NbDb}, transact lib db supply (Job.create p.probeId (.hang item target)) =
        .ok db' → Effect lib p supply db.content db'.content := by
      intro db' hrun
      obtain ⟨d, hfind, hcreates⟩ := hang_creates hrun
      apply Effect.of_creates (hjob ▸ hcreates)
      rw [hjob]
      exact (h.home_of_find hjob hfind).imp_left (List.mem_append_left _)
    rw [hjob] at hcommands
    cases target with
    | none =>
      simp only [Job.commands, Job.setup, Job.cleanup, List.cons_append, List.nil_append,
        List.mem_cons, List.not_mem_nil, or_false] at hcommands
      rcases hcommands with rfl | rfl | rfl | rfl
      · obtain ⟨-, home, hissued, hcreates⟩ := setup_creates hrun
        exact .of_creates (hjob ▸ hcreates) (.inl (List.mem_append_right _ hissued.1))
      · exact hcreate hrun
      · exact h.item_effect hactive hused hfresh hjob hrun
      · exact h.datapath_effect hactive hused hfresh (canary_targetName _ _) (.inl rfl) hrun
    | some t =>
      simp only [Job.commands, Job.setup, Job.cleanup, List.nil_append, List.mem_cons,
        List.not_mem_nil, or_false] at hcommands
      rcases hcommands with rfl | rfl
      · exact hcreate hrun
      · exact h.item_effect hactive hused hfresh hjob hrun

/-! ### One step -/

theorem Running.OnScript.advance (h : p.OnScript) (ok : Bool) (supply : List Uuid) :
    (p.advance ok supply).OnScript := by
  obtain ⟨probeId, job, prepared, φ, own⟩ := p
  cases φ with
  | setup todo =>
    cases todo with
    | nil => exact fun argv hargv => hargv
    | cons argv rest =>
      cases ok with
      | true => exact fun argv' hargv => h argv' (List.mem_cons_of_mem _ hargv)
      | false => exact fun argv' hargv => hargv
  | cleanup todo clean =>
    cases todo with
    | nil => exact h
    | cons argv rest => exact fun argv' hargv => h argv' (List.mem_cons_of_mem _ hargv)

/-- The next command of a probe is one of its job. -/
theorem Sound.next_command (h : Sound lib db used p) {argv : List String}
    (hcommand : p.phase.command p.prepared = some argv) :
    ∃ commands ∈ p.job.commands p.probeId, parse argv = some commands := by
  have hmem : ∀ {todo : List (List String)} {all : List (List Command)},
      todo.map parse = all.map some → argv ∈ todo → ∃ commands ∈ all, parse argv = some commands := by
    intro todo all hall hargv
    have hin : parse argv ∈ all.map some := hall ▸ List.mem_map_of_mem hargv
    obtain ⟨commands, hcommands, heq⟩ := List.mem_map.mp hin
    exact ⟨commands, hcommands, heq.symm⟩
  have hscript := h.script
  unfold Running.OnScript at hscript
  cases hphase : p.phase with
  | setup todo =>
    rw [hphase] at hcommand hscript
    cases todo with
    | nil =>
      obtain rfl := Option.some.inj hcommand
      exact ⟨_, List.mem_append_right _ List.mem_cons_self, h.runs.create⟩
    | cons argv' rest =>
      obtain rfl := Option.some.inj hcommand
      obtain ⟨commands, hin, hparse⟩ := hmem h.runs.setup (hscript argv' List.mem_cons_self)
      exact ⟨commands, List.mem_append_left _ hin, hparse⟩
  | cleanup todo clean =>
    rw [hphase] at hcommand hscript
    cases todo with
    | nil => cases hcommand
    | cons argv' rest =>
      obtain rfl := Option.some.inj hcommand
      obtain ⟨commands, hin, hparse⟩ := hmem h.runs.cleanup (hscript argv' List.mem_cons_self)
      exact ⟨commands, List.mem_append_right _ (List.mem_cons_of_mem _ hin), hparse⟩

theorem active_of_command {argv : List String}
    (h : p.phase.command p.prepared = some argv) : p.finished = false := by
  unfold Running.finished
  split
  · rename_i hphase
    rw [hphase] at h
    cases h
  · rfl

/-- A row that hangs on a datapath afterwards was given to the probe or was there. -/
theorem Effect.hung (h : Effect lib p supply db.content db'.content) {d' : Datapath}
    (hd' : d' ∈ db'.content.datapaths.rows) {col : Column} {leaf : Leaf}
    (hleaf : leaf ∈ db'.content.leaves.rows) (hin : leaf.uuid ∈ d'.column col)
    (hused : ∀ u ∈ db.content.uuids, u ∈ used) (hfresh : ∀ u ∈ supply, u ∉ used) :
    (leaf ∈ db.content.leaves.rows ∧
        ∃ d ∈ db.content.datapaths.rows, d.uuid = d'.uuid ∧ leaf.uuid ∈ d.column col) ∨
      leaf.uuid ∈ supply ∧ (p.job.footprint lib p.probeId p.probeId).leaf leaf.columns ∧
        (d'.uuid ∈ p.own ++ supply ∨ p.job.target = some d'.uuid) := by
  rcases h.ref d' hd' col _ hin with ⟨d, hd, huuid, hold⟩ | ⟨hsupply, hhome⟩
  · rcases h.leaf leaf hleaf with hleaf | ⟨hsupply, -⟩
    · exact .inl ⟨hleaf, d, hd, huuid, hold⟩
    · exact absurd (hused _ (db.uuid_of_column hd hold)) (hfresh _ hsupply)
  · rcases h.leaf leaf hleaf with hleaf | ⟨-, hcolumns⟩
    · exact absurd (hused _ (uuid_of_leaf hleaf)) (hfresh _ hsupply)
    · exact .inr ⟨hsupply, hcolumns, hhome⟩

/-- The target of a probe survives the commands of another, and its own. -/
theorem Effect.keeps_target (h : Effect lib p supply c c') {t : Uuid} {kind : DatapathKind}
    (hforeign : t ∉ p.own) (htarget : ∃ d ∈ c.datapaths.rows, d.uuid = t ∧ d.kind = kind) :
    ∃ d ∈ c'.datapaths.rows, d.uuid = t ∧ d.kind = kind := by
  obtain ⟨d, hd, rfl, rfl⟩ := htarget
  obtain ⟨d', hd', hsame⟩ := h.intact.datapath d hd hforeign
  exact ⟨d', hd', hsame.uuid, hsame.kind⟩

theorem Sound.target_used (h : Sound lib db used p) (hused : ∀ u ∈ db.content.uuids, u ∈ used)
    {t : Uuid} (ht : t ∈ p.job.target) : t ∈ used := by
  obtain ⟨-, d, hd, rfl, -⟩ := h.target t ht
  exact hused _ (uuid_of_datapath hd)

theorem Sound.self (h : Sound lib db used p) (hactive : p.finished = false)
    (hused : ∀ u ∈ db.content.uuids, u ∈ used) (hfresh : ∀ u ∈ supply, u ∉ used)
    (heffect : Effect lib p supply db.content db'.content) (ok : Bool) :
    Sound lib db' (used ++ supply) (p.advance ok supply) where
  runs := h.runs
  script := h.script.advance ok supply
  used u hu := by
    rcases List.mem_append.mp hu with hown | hsupply
    · exact List.mem_append_left _ (h.used u hown)
    · exact List.mem_append_right _ hsupply
  target t ht := by
    obtain ⟨hforeign, hexists⟩ := h.target t ht
    refine ⟨fun hin => ?_, heffect.keeps_target hforeign hexists⟩
    rcases List.mem_append.mp hin with hown | hsupply
    · exact hforeign hown
    · exact hfresh t hsupply (h.target_used hused ht)
  datapath d' hd' kind hname := by
    rcases heffect.datapath d' hd' with ⟨d, hd, huuid, -, heq⟩ | ⟨hsupply, -⟩
    · rw [← huuid]
      exact List.mem_append_left _ (h.datapath d hd kind (by rwa [heq]))
    · exact List.mem_append_right _ hsupply
  port leaf hleaf kind hname := by
    rcases heffect.leaf leaf hleaf with hold | ⟨hsupply, -⟩
    · exact List.mem_append_left _ (h.port leaf hold kind hname)
    · exact List.mem_append_right _ hsupply
  refs _ d' hd' hown u hu := by
    obtain ⟨col, hu⟩ := Datapath.mem_refs.mp hu
    rcases heffect.ref d' hd' col u hu with ⟨d, hd, huuid, hold⟩ | ⟨hsupply, -⟩
    · rcases List.mem_append.mp hown with hown | hsupply
      · apply List.mem_append_left
        exact h.refs hactive d hd (huuid ▸ hown) u (Datapath.mem_refs.mpr ⟨col, hold⟩)
      · rw [← huuid] at hsupply
        exact absurd (hused _ (uuid_of_datapath hd)) (hfresh _ hsupply)
    · exact List.mem_append_right _ hsupply
  rules _ item t hjob hcolumn d' hd' huuid leaf hleaf hin hmatching := by
    rcases heffect.hung hd' hleaf hin hused hfresh with ⟨hold, d, hd, hd', hin⟩ | ⟨hsupply, -⟩
    · apply List.mem_append_left
      exact h.rules hactive item t hjob hcolumn d hd (hd'.trans huuid) leaf hold hin hmatching
    · exact List.mem_append_right _ hsupply

theorem Sound.other (h : Sound lib db used q) (hpq : Apart p q) (hqp : Apart q p)
    (hactive : p.finished = false) (hused : ∀ u ∈ db.content.uuids, u ∈ used)
    (hfresh : ∀ u ∈ supply, u ∉ used) (heffect : Effect lib p supply db.content db'.content) :
    Sound lib db' (used ++ supply) q where
  runs := h.runs
  script := h.script
  used u hu := List.mem_append_left _ (h.used u hu)
  target t ht := by
    obtain ⟨hforeign, hexists⟩ := h.target t ht
    exact ⟨hforeign, heffect.keeps_target (hqp.target hactive t ht) hexists⟩
  datapath d' hd' kind hname := by
    rcases heffect.datapath d' hd' with ⟨d, hd, huuid, -, heq⟩ | ⟨-, htag⟩
    · rw [← huuid]
      exact h.datapath d hd kind (by rwa [heq])
    · have htag' : Tagged q.probeId d'.name := by
        rcases hname with hname | hname <;> rw [hname]
        · exact tagged_targetName q.probeId kind
        · exact tagged_rootName q.probeId kind
      exact absurd (htag.firstSegment htag') hpq.tag
  port leaf hleaf kind hname := by
    rcases heffect.leaf leaf hleaf with hold | ⟨-, hcolumns⟩
    · exact h.port leaf hold kind hname
    · have htag := tagged_of_port hcolumns hname
      exact absurd (htag.firstSegment (tagged_portName q.probeId kind)) hpq.tag
  refs hq d' hd' hown u hu := by
    obtain ⟨col, hu⟩ := Datapath.mem_refs.mp hu
    rcases heffect.ref d' hd' col u hu with ⟨d, hd, huuid, hold⟩ | ⟨-, hhome | htarget⟩
    · exact h.refs hq d hd (huuid ▸ hown) u (Datapath.mem_refs.mpr ⟨col, hold⟩)
    · rcases List.mem_append.mp hhome with hp | hsupply
      · exact absurd hp (hqp.own _ hown)
      · exact absurd (h.used _ hown) (hfresh _ hsupply)
    · exact absurd hown (hpq.target hq _ htarget)
  rules hq item t hjob hcolumn d' hd' huuid leaf hleaf hin hmatching := by
    rcases heffect.hung hd' hleaf hin hused hfresh with
      ⟨hold, d, hd, hd', hin⟩ | ⟨-, hcolumns, hhome⟩
    · exact h.rules hq item t hjob hcolumn d hd (hd'.trans huuid) leaf hold hin hmatching
    · -- the other probe hangs a rule of this key on the same target
      have ht : t ∈ q.job.target := by
        rw [hjob]
        rfl
      rw [huuid] at hhome
      rcases hhome with hhome | htarget
      · rcases List.mem_append.mp hhome with hp | hsupply
        · exact absurd hp (hqp.target hactive t ht)
        · exact absurd (h.target_used hused ht) (hfresh t hsupply)
      · cases hpjob : p.job with
        | root kind =>
          rw [hpjob] at htarget
          cases htarget
        | hang item' target =>
          rw [hpjob] at htarget hcolumns
          obtain rfl : target = some t := htarget
          obtain ⟨rfl, hkey⟩ := key_of_matching hcolumn hmatching hcolumns
          exact absurd hkey (hqp.key hq hactive item' t hjob hpjob hcolumn)

theorem Apart.advance_left (h : Apart p q) (hq : ∀ u ∈ q.own, u ∈ used)
    (hactive : p.finished = false) (hfresh : ∀ u ∈ supply, u ∉ used) (ok : Bool) :
    Apart (p.advance ok supply) q where
  own u hu hin := by
    rcases List.mem_append.mp hu with hown | hsupply
    · exact h.own u hown hin
    · exact hfresh u hsupply (hq u hin)
  tag := h.tag
  target := h.target
  key _ := h.key hactive

theorem Apart.advance_right (h : Apart q p) (hq : ∀ u ∈ q.own, u ∈ used)
    (htarget : ∀ t ∈ q.job.target, t ∈ used) (hactive : p.finished = false)
    (hfresh : ∀ u ∈ supply, u ∉ used) (ok : Bool) : Apart q (p.advance ok supply) where
  own u hu hin := by
    rcases List.mem_append.mp hin with hown | hsupply
    · exact h.own u hu hown
    · exact hfresh u hsupply (hq u hu)
  tag := h.tag
  target _ t ht hin := by
    rcases List.mem_append.mp hin with hown | hsupply
    · exact h.target hactive t ht hown
    · exact hfresh t hsupply (htarget t ht)
  key hq _ := h.key hq hactive

end Effect

end OvnApi.Northbound
