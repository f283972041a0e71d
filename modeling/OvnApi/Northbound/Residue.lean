import OvnApi.Northbound.Work
import OvnApi.Traces.Script

/-! A probe that reports an observed cleanup leaves none of its rows behind. Up to
the cleanup the database has grown within the footprint of the job, around one
datapath; each cleanup command that succeeds takes one layer of that growth back. -/

namespace OvnApi.Northbound

open OvnApi.Core Lib Lib.Prog Traces

section Probe

variable (lib : AddressLib) (probeId : Uuid) (job : Job) (db₀ : NbDb)

/-- The rows of the probe are those of its footprint, around one datapath. -/
structure Placed (home : Uuid) (c : Content) : Prop where
  grows : Grows (job.footprint lib probeId home) (· ∉ db₀.content.uuids) db₀.content c
  kept : ∀ u ∈ db₀.content.uuids, u ∈ c.uuids
  /-- New rows hang on a datapath of its own. -/
  rooted : ∀ kind, job = .root kind → ∀ d ∈ c.datapaths.rows, ∀ u ∈ d.refs,
    u ∉ db₀.content.uuids → d.uuid ∉ db₀.content.uuids
  /-- The reference the commands use still leads to that datapath. -/
  located : ∀ item target, job = .hang item target → ∀ d,
    findDatapath item.kind c (targetRef probeId item.kind target) = .ok (some d) → d.uuid = home

/-- Of the rows of the probe, at most its temporary target is left. -/
structure Bare (home : Uuid) (c : Content) : Prop where
  grows : Grows (job.footprint lib probeId home) (· ∉ db₀.content.uuids) db₀.content c
  leaf : ∀ leaf ∈ c.leaves.rows, leaf.uuid ∈ db₀.content.uuids

/-- What is left to undo, by the cleanup commands that are still to come. -/
inductive Undone : List (List Command) → Content → Prop where
  | placed {home : Uuid} {c : Content} (h : Placed lib probeId job db₀ home c) :
      Undone (job.cleanup probeId) c
  | bare {item : Item} {home : Uuid} {c : Content} (hjob : job = .hang item none)
      (h : Bare lib probeId job db₀ home c) :
      Undone [[removeDatapath (targetName probeId item.kind) item.kind]] c
  | clean {c : Content} (h : ∀ u ∈ c.uuids, u ∈ db₀.content.uuids) : Undone [] c

end Probe

section Growth

variable {lib : AddressLib} {probeId : Uuid} {job : Job} {db₀ db db' : NbDb} {home : Uuid}
  {c c' : Content} {supply : List Uuid} {item : Item} {target : Option Uuid}

/-! ### Setup and creation -/

theorem Creates.uuids (h : Creates lib probeId job home supply c c') {u : Uuid} (hu : u ∈ c.uuids) :
    u ∈ c'.uuids := by
  refine forall_uuids (fun d hd => ?_) (fun leaf hleaf => uuid_of_leaf (h.intact.leaf leaf hleaf not_false)) u hu
  obtain ⟨d', hd', hsame⟩ := h.intact.datapath d hd not_false
  rw [← hsame.uuid]
  exact uuid_of_datapath hd'

/-- A transaction that works on a datapath that was there adds no other. -/
theorem Creates.sameNames (h : Creates lib probeId job home supply c c') (hhome : home ∈ c.uuids) :
    SameNames c c' := by
  intro u kind name
  constructor
  · rintro ⟨d, hd, rfl, rfl, rfl⟩
    obtain ⟨d', hd', hsame⟩ := h.intact.datapath d hd not_false
    exact ⟨d', hd', hsame.uuid, hsame.kind, hsame.name⟩
  · rintro ⟨d', hd', rfl, rfl, rfl⟩
    rcases h.grows.datapath d' hd' with hold | ⟨hissued, huuid, -⟩
    · exact hold
    · have hfoot : (job.footprint lib probeId home).home = home := by cases job <;> rfl
      rw [huuid, hfoot] at hissued
      exact absurd hhome hissued.2

theorem Placed.start (lib : AddressLib) (probeId : Uuid) (job : Job) (db₀ : NbDb) :
    ∃ home, Placed lib probeId job db₀ home db₀.content := by
  have hrooted : ∀ kind, job = .root kind → ∀ d ∈ db₀.content.datapaths.rows, ∀ u ∈ d.refs,
      u ∉ db₀.content.uuids → d.uuid ∉ db₀.content.uuids := by
    intro kind _ d hd u hu hnew
    exact absurd (db₀.uuid_of_ref (Content.mem_references.mpr (.inl ⟨d, hd, hu⟩))) hnew
  cases job with
  | root kind => exact ⟨probeId, .refl _ _ _, fun _ hu => hu, hrooted, nofun⟩
  | hang item target =>
    cases hfind : findDatapath item.kind db₀.content (targetRef probeId item.kind target) with
    | error e =>
      refine ⟨probeId, .refl _ _ _, fun _ hu => hu, hrooted, ?_⟩
      rintro _ _ ⟨⟩ d hd
      rw [hfind] at hd
      cases hd
    | ok o =>
      refine ⟨(o.map Datapath.uuid).getD probeId, .refl _ _ _, fun _ hu => hu, hrooted, ?_⟩
      rintro _ _ ⟨⟩ d hd
      rw [hfind] at hd
      rw [Except.ok.inj hd]
      rfl

/-- A creation around the same datapath keeps what is placed. -/
theorem Placed.extend_grows (h : Placed lib probeId job db₀ home c)
    (hcreates : Creates lib probeId job home supply c c') :
    Grows (job.footprint lib probeId home) (· ∉ db₀.content.uuids) db₀.content c' := by
  apply h.grows.trans
  exact hcreates.grows.mono fun u hissued hin => hissued.2 (h.kept u hin)

theorem Placed.setup
    (h : transact lib db₀ supply [addDatapath (targetName probeId item.kind) item.kind] = .ok db') :
    ∃ home, Placed lib probeId (.hang item none) db₀ home db'.content := by
  obtain ⟨hfree, home, -, hcreates⟩ := setup_creates h
  refine ⟨home, hcreates.grows.mono fun _ hissued => hissued.2, fun _ => hcreates.uuids, nofun, ?_⟩
  rintro _ _ ⟨⟩ d hd
  obtain ⟨hmem, hkind, hfound⟩ := findDatapath_some hd
  have hname : d.name = targetName probeId item.kind := by
    rcases hfound with huuid | hname
    · rw [targetRef, (canary_targetName probeId item.kind).fromString] at huuid
      cases huuid
    · exact hname
  rcases hcreates.grows.datapath d hmem with ⟨e, he, -, hekind, hename⟩ | ⟨-, huuid, -⟩
  · exact absurd (hename.trans hname) (hfree e he (hekind.trans hkind))
  · exact huuid

theorem Placed.hang (h : Placed lib probeId (.hang item target) db₀ home db.content)
    (hcreate : transact lib db supply (Job.create probeId (.hang item target)) = .ok db') :
    Placed lib probeId (.hang item target) db₀ home db'.content := by
  obtain ⟨d, hfind, hcreates⟩ := hang_creates hcreate
  obtain rfl := h.located _ _ rfl d hfind
  refine ⟨h.extend_grows hcreates, fun u hu => hcreates.uuids (h.kept u hu), nofun, ?_⟩
  rintro _ _ ⟨⟩ d' hfind'
  have hsame := hcreates.sameNames (uuid_of_datapath (findDatapath_some hfind).1)
  exact findDatapath_congr hsame hfind hfind'

theorem Placed.root {kind : DatapathKind}
    (h : transact lib db₀ supply (Job.create probeId (.root kind)) = .ok db') :
    ∃ home, Placed lib probeId (.root kind) db₀ home db'.content := by
  obtain ⟨-, home, hissued, hcreates⟩ := root_creates h
  refine ⟨home, hcreates.grows.mono fun _ hi => hi.2, fun _ => hcreates.uuids, ?_, nofun⟩
  rintro _ - d hd u hu hnew
  obtain ⟨col, hu⟩ := Datapath.mem_refs.mp hu
  rcases hcreates.grows.ref d hd col u hu with ⟨e, he, -, hue⟩ | ⟨-, -, huuid⟩
  · exact absurd (db₀.uuid_of_column he hue) hnew
  · rw [huuid]
    exact hissued.2

/-! ### Cleanup -/

theorem Removed.grows (h : Removed lib probeId item target c c') (F : Footprint)
    (new : Uuid → Prop) : Grows F new c c' := by
  cases h with
  | nothing => exact .refl F new c
  | dropped d p => exact .of_filter F new c d.uuid item.column p

theorem Removed.leaves (h : Removed lib probeId item target c c') : c'.leaves = c.leaves := by
  cases h <;> rfl

/-- Rows of the probe's ports hang only on its datapath. -/
theorem Placed.home_of_port (hunused : Unused probeId db₀.content)
    (h : Placed lib probeId (.hang item target) db₀ home c) {d : Datapath}
    (hd : d ∈ c.datapaths.rows) {leaf : Leaf} (hleaf : leaf ∈ c.leaves.rows)
    (hin : leaf.uuid ∈ d.column item.column)
    (hname : leaf.columns.portName item.kind = some (portName probeId item.kind)) :
    d.uuid = home := by
  have hnew : leaf.uuid ∉ db₀.content.uuids := by
    rcases h.grows.leaf leaf hleaf with hold | ⟨hnew, -⟩
    · exact absurd hname (hunused.port leaf hold item.kind).1
    · exact hnew
  rcases h.grows.ref d hd _ _ hin with ⟨e, he, -, hine⟩ | ⟨-, -, hhome⟩
  · exact absurd (db₀.uuid_of_column he hine) hnew
  · exact hhome

theorem Placed.item_removed (hunused : Unused probeId db₀.content)
    (h : Placed lib probeId (.hang item target) db₀ home c)
    (hremoved : Removed lib probeId item target c c') :
    Bare lib probeId (.hang item target) db₀ home c'.collect := by
  have hgrows := h.grows.trans (hremoved.grows _ _)
  refine ⟨hgrows.collect, fun leaf hleaf => ?_⟩
  obtain ⟨hleaf', href⟩ := Content.mem_collect.mp hleaf
  by_contra hnew
  obtain ⟨-, hmatching⟩ := (hgrows.leaf leaf hleaf').resolve_left fun hold => hnew (uuid_of_leaf hold)
  rw [hremoved.leaves] at hleaf'
  rcases Content.mem_references.mp href with ⟨d', hd', hu⟩ | hholder
  · obtain ⟨col, hu⟩ := Datapath.mem_refs.mp hu
    obtain ⟨rfl, -, hhome'⟩ := (hgrows.ref d' hd' col _ hu).resolve_left
      fun ⟨e, he, _, hue⟩ => hnew (db₀.uuid_of_column he hue)
    cases hremoved with
    | nothing hnone =>
      have hno := hnone leaf hleaf'
      rw [show item.matching lib probeId leaf.columns = true from hmatching] at hno
      cases hno
    | dropped d p hd hlocated _ hcomplete =>
      have hhome : d.uuid = home := by
        rcases hlocated with hfind | ⟨-, port, hport, hin, hname⟩
        · exact h.located _ _ rfl d hfind
        · exact h.home_of_port hunused hd hport hin hname
      -- the reference was dropped from the only datapath that could hold it
      obtain ⟨e, he, rfl⟩ := Content.mem_modify.mp hd'
      have heq : e.uuid = d.uuid := by
        split_ifs at hhome' with heq
        · exact heq
        · exact hhome'.trans hhome.symm
      rw [if_pos heq] at hu
      change leaf.uuid ∈ (e.modify item.column _).column item.column at hu
      rw [Datapath.column_modify_self, List.mem_filter, hcomplete leaf hleaf' hmatching] at hu
      cases hu.2
  · apply hnew
    apply db₀.uuid_of_ref
    rw [Content.mem_references, ← hgrows.holders]
    exact .inr hholder

/-- Deleting a datapath by its name leaves only datapaths that were there before,
if all others have that name. -/
theorem datapaths_of_removed {name : String} {kind : DatapathKind} (hname : Canary name)
    (h : transact lib db supply [removeDatapath name kind] = .ok db')
    (hnamed : ∀ d ∈ db.content.datapaths.rows,
      d.uuid ∈ db₀.content.uuids ∨ d.kind = kind ∧ d.name = name) :
    (∀ d ∈ db'.content.datapaths.rows, d ∈ db.content.datapaths.rows ∧
      d.uuid ∈ db₀.content.uuids) ∧
    (∀ leaf ∈ db'.content.leaves.rows, leaf ∈ db.content.leaves.rows) ∧
    db'.content.holders = db.content.holders := by
  rcases datapath_removes hname h with ⟨hnone, heq⟩ | ⟨d, hd, hkind, hdname, hunique, heq⟩
  · rw [heq]
    refine ⟨fun d hd => ⟨hd, ?_⟩, fun leaf hleaf => (Content.mem_collect.mp hleaf).1, rfl⟩
    exact (hnamed d hd).resolve_right fun ⟨hkind, hdname⟩ => hnone d hd hkind hdname
  · rw [heq]
    refine ⟨fun e he => ?_, fun leaf hleaf => (Content.mem_collect.mp hleaf).1, rfl⟩
    obtain ⟨he, hne⟩ := Content.mem_removeDatapath.mp he
    refine ⟨he, (hnamed e he).resolve_right fun ⟨hekind, hename⟩ => hne ?_⟩
    rw [hunique e he hekind hename]

theorem Bare.target_removed (h : Bare lib probeId (.hang item none) db₀ home db.content)
    (hremove : transact lib db supply
      [removeDatapath (targetName probeId item.kind) item.kind] = .ok db') :
    ∀ u ∈ db'.content.uuids, u ∈ db₀.content.uuids := by
  have hnamed : ∀ d ∈ db.content.datapaths.rows, d.uuid ∈ db₀.content.uuids ∨
      d.kind = item.kind ∧ d.name = targetName probeId item.kind := by
    intro d hd
    rcases h.grows.datapath d hd with ⟨e, he, huuid, -⟩ | ⟨-, -, -, hkind, hname⟩
    · rw [← huuid]
      exact .inl (uuid_of_datapath he)
    · exact .inr ⟨hkind, hname⟩
  obtain ⟨hdatapaths, hleaves, -⟩ :=
    datapaths_of_removed (canary_targetName probeId item.kind) hremove hnamed
  exact forall_uuids (fun d hd => (hdatapaths d hd).2) fun leaf hleaf => h.leaf leaf (hleaves leaf hleaf)

/-- On a target of the request, there is no datapath to remove. -/
theorem Bare.clean {t : Uuid} (h : Bare lib probeId (.hang item (some t)) db₀ home c) :
    ∀ u ∈ c.uuids, u ∈ db₀.content.uuids := by
  refine forall_uuids (fun d hd => ?_) h.leaf
  rcases h.grows.datapath d hd with ⟨e, he, huuid, -⟩ | ⟨-, -, hnone, -⟩
  · rw [← huuid]
    exact uuid_of_datapath he
  · cases hnone

theorem Placed.root_removed {kind : DatapathKind}
    (h : Placed lib probeId (.root kind) db₀ home db.content)
    (hremove : transact lib db supply [removeDatapath (rootName probeId kind) kind] = .ok db') :
    ∀ u ∈ db'.content.uuids, u ∈ db₀.content.uuids := by
  have hnamed : ∀ d ∈ db.content.datapaths.rows, d.uuid ∈ db₀.content.uuids ∨
      d.kind = kind ∧ d.name = rootName probeId kind := by
    intro d hd
    rcases h.grows.datapath d hd with ⟨e, he, huuid, -⟩ | ⟨-, -, hkind, hname⟩
    · rw [← huuid]
      exact .inl (uuid_of_datapath he)
    · exact .inr ⟨hkind, hname⟩
  obtain ⟨hdatapaths, -, hholders⟩ :=
    datapaths_of_removed (canary_rootName probeId kind) hremove hnamed
  refine forall_uuids (fun d hd => (hdatapaths d hd).2) fun leaf hleaf => ?_
  -- a row that is left is referred to, and not from a datapath of the probe
  rcases Content.mem_references.mp (db'.collected leaf hleaf) with ⟨d, hd, href⟩ | hholder
  · obtain ⟨hold, huuid⟩ := hdatapaths d hd
    by_contra hnew
    exact h.rooted kind rfl d hold _ href hnew huuid
  · apply db₀.uuid_of_ref
    rw [Content.mem_references, ← h.grows.holders, ← hholders]
    exact .inr hholder

/-- A cleanup command that succeeds takes its part back. -/
theorem Undone.step (hunused : Unused probeId db₀.content) {commands : List Command}
    {rest : List (List Command)} (h : Undone lib probeId job db₀ (commands :: rest) db.content)
    (hrun : transact lib db supply commands = .ok db') :
    Undone lib probeId job db₀ rest db'.content := by
  generalize hall : commands :: rest = all at h
  generalize hc : db.content = c at h
  cases h with
  | placed hplaced =>
    subst hc
    cases job with
    | root kind =>
      obtain ⟨rfl, rfl⟩ := List.cons.inj hall
      exact .clean (hplaced.root_removed hrun)
    | hang item target =>
      cases target with
      | none =>
        obtain ⟨rfl, rfl⟩ := List.cons.inj hall
        obtain ⟨c', hremoved, heq⟩ := item_removes hrun
        rw [heq]
        exact .bare rfl (hplaced.item_removed hunused hremoved)
      | some t =>
        obtain ⟨rfl, rfl⟩ := List.cons.inj hall
        obtain ⟨c', hremoved, heq⟩ := item_removes hrun
        rw [heq]
        exact .clean (hplaced.item_removed hunused hremoved).clean
  | bare hjob hbare =>
    subst hc hjob
    obtain ⟨rfl, rfl⟩ := List.cons.inj hall
    exact .clean (hbare.target_removed hrun)
  | clean => cases hall

end Growth

/-! ### Whole probes -/

/-- The commands of the environment are transactions of `ovn-nbctl`: one that
returns was committed, one that raises left the database alone, with whatever
exception and for whatever reason. Nothing else changes the database. -/
structure Commits {ω : Type} (lib : AddressLib) (env : Env ω) (dbOf : ω → NbDb) : Prop where
  perfCounter : ∀ w, dbOf (env.perfCounter w).2 = dbOf w
  nowUtc : ∀ w, dbOf (env.nowUtc w).2 = dbOf w
  nbIdl : ∀ w, dbOf (env.nbIdl w).2 = dbOf w
  sbIdl : ∀ w, dbOf (env.sbIdl w).2 = dbOf w
  dumpOpenflowFlows : ∀ bridge w, dbOf (env.dumpOpenflowFlows bridge w).2 = dbOf w
  sleep : ∀ t w, dbOf (env.sleep t w).2 = dbOf w
  run : ∀ argv w,
    (∃ supply w', env.run argv w = (.ok (), w') ∧ nbctl lib (dbOf w) supply argv = .ok (dbOf w')) ∨
      ∃ e w', env.run argv w = (.raised e, w') ∧ dbOf w' = dbOf w

section Run

variable {lib : AddressLib} {probeId : Uuid} {job : Job} {prepared : PreparedProbe}
  {db₀ db db' : NbDb} {supply : List Uuid} {argv : List String}

def Stage (lib : AddressLib) (probeId : Uuid) (job : Job) (db₀ : NbDb) (φ : Phase) (db : NbDb) :
    Prop :=
  match φ with
  | .setup todo =>
    todo.map parse = (job.setup probeId).map some ∧ db = db₀ ∨
      todo = [] ∧ job.setup probeId ≠ [] ∧ ∃ home, Placed lib probeId job db₀ home db.content
  | .cleanup todo clean => clean = true →
    ∃ rest, todo.map parse = rest.map some ∧ Undone lib probeId job db₀ rest db.content

/-- Before the cleanup something of the job is placed, perhaps nothing. -/
theorem Stage.placed {todo : List (List String)}
    (h : Stage lib probeId job db₀ (.setup todo) db) :
    ∃ home, Placed lib probeId job db₀ home db.content := by
  rcases h with ⟨-, rfl⟩ | ⟨-, -, hplaced⟩
  · exact Placed.start lib probeId job db
  · exact hplaced

theorem Stage.abandon (hruns : Runs prepared probeId job) {todo : List (List String)}
    (h : Stage lib probeId job db₀ (.setup todo) db) :
    Stage lib probeId job db₀ (.cleanup prepared.cleanupCommands true) db := by
  intro _
  obtain ⟨home, hplaced⟩ := h.placed
  exact ⟨_, hruns.cleanup, .placed hplaced⟩

/-- A command that is refused ends the setup, and is remembered in the cleanup. -/
theorem Stage.refused (hruns : Runs prepared probeId job) {φ : Phase}
    (hcommand : φ.command prepared = some argv) (h : Stage lib probeId job db₀ φ db) :
    Stage lib probeId job db₀ (φ.next prepared false) db := by
  cases φ with
  | setup todo => cases todo <;> exact h.abandon hruns
  | cleanup todo clean =>
    cases todo with
    | nil => cases hcommand
    | cons argv' rest =>
      intro hclean
      rw [Bool.and_false] at hclean
      cases hclean

theorem Stage.created (hruns : Runs prepared probeId job)
    (hrun : transact lib db supply (job.create probeId) = .ok db')
    (h : Stage lib probeId job db₀ (.setup []) db) :
    Stage lib probeId job db₀ (.cleanup prepared.cleanupCommands true) db' := by
  intro _
  refine ⟨_, hruns.cleanup, ?_⟩
  cases job with
  | root kind =>
    rcases h with ⟨-, rfl⟩ | ⟨-, hsetup, -⟩
    · obtain ⟨home, hplaced⟩ := Placed.root hrun
      exact .placed hplaced
    · exact absurd rfl hsetup
  | hang item target =>
    obtain ⟨home, hplaced⟩ := h.placed
    exact .placed (hplaced.hang hrun)

/-- The only setup command makes the temporary target. -/
theorem Stage.targetMade {rest : List (List String)} (hrun : nbctl lib db supply argv = .ok db')
    (h : Stage lib probeId job db₀ (.setup (argv :: rest)) db) :
    Stage lib probeId job db₀ (.setup rest) db' := by
  obtain ⟨hparse, rfl⟩ := h.resolve_right fun ⟨hnil, _⟩ => List.cons_ne_nil _ _ hnil
  cases job with
  | root kind => cases hparse
  | hang item target =>
    cases target with
    | some t => cases hparse
    | none =>
      obtain ⟨hargv, hrest⟩ := List.cons.inj hparse
      have hplaced := Placed.setup (nbctl_ok hargv hrun)
      exact .inr ⟨List.map_eq_nil_iff.mp hrest, List.cons_ne_nil _ _, hplaced⟩

theorem Stage.carriedOut (hunused : Unused probeId db₀.content) (hruns : Runs prepared probeId job)
    {φ : Phase} (hcommand : φ.command prepared = some argv)
    (hrun : nbctl lib db supply argv = .ok db') (h : Stage lib probeId job db₀ φ db) :
    Stage lib probeId job db₀ (φ.next prepared true) db' := by
  cases φ with
  | setup todo =>
    cases todo with
    | nil =>
      obtain rfl := Option.some.inj hcommand
      exact h.created hruns (nbctl_ok hruns.create hrun)
    | cons argv' rest =>
      obtain rfl := Option.some.inj hcommand
      exact h.targetMade hrun
  | cleanup todo clean =>
    cases todo with
    | nil => cases hcommand
    | cons argv' rest =>
      obtain rfl := Option.some.inj hcommand
      intro hclean
      rw [Bool.and_true] at hclean
      obtain ⟨all, hparse, hundone⟩ := h hclean
      cases all with
      | nil => cases hparse
      | cons commands rest' =>
        obtain ⟨hargv, hrest⟩ := List.cons.inj hparse
        exact ⟨rest', hrest, hundone.step hunused (nbctl_ok hargv hrun)⟩

variable {ω : Type} {env : Env ω} {dbOf : ω → NbDb}

theorem stage_keeps {α : Type} {m : Prog ω Exc α} (hm : ∀ w, dbOf (m w).2 = dbOf w) (φ : Phase) :
    Keeps (fun w => Stage lib probeId job db₀ φ (dbOf w)) m := by
  apply Safe.of_world
  intro w h
  rwa [hm w]

theorem stage_guides (hcommits : Commits lib env dbOf) (hunused : Unused probeId db₀.content)
    (hruns : Runs prepared probeId job) :
    Guides env prepared fun φ w => Stage lib probeId job db₀ φ (dbOf w) where
  perfCounter _ w h := by rwa [hcommits.perfCounter w]
  nowUtc _ w h := by rwa [hcommits.nowUtc w]
  nbIdl φ := stage_keeps hcommits.nbIdl φ
  sbIdl φ := stage_keeps hcommits.sbIdl φ
  dumpOpenflowFlows φ bridge := stage_keeps (hcommits.dumpOpenflowFlows bridge) φ
  sleep φ t := stage_keeps (hcommits.sleep t) φ
  abandon _ h := h.abandon hruns
  command φ argv w hcommand h := by
    rcases hcommits.run argv w with ⟨supply, w', hrun, hnbctl⟩ | ⟨e, w', hrun, hdb⟩
    · rw [wp, hrun]
      exact h.carriedOut hunused hruns hcommand hnbctl
    · rw [wp, hrun]
      dsimp only
      rw [hdb]
      exact h.refused hruns hcommand

/-- A probe that reports an observed cleanup leaves no row in the database that was
not there before: whatever the view it was built from, the failures of its commands
and the answers to its polls. -/
theorem no_residue {fuel : ℕ} {nb : Except Exc NbIdl} {request : CanaryProbeRequest} {w w' : ω}
    {result : CanaryProbeResult} (hcommits : Commits lib env dbOf)
    (hunused : Unused probeId (dbOf w).content) (hbuild : buildProbe nb probeId request = .ok prepared)
    (hresult : runPreparedProbe env fuel prepared w = (.ok result, w'))
    (hcleanup : result.cleanup.status = .observed) :
    ∀ u ∈ (dbOf w').content.uuids, u ∈ (dbOf w).content.uuids := by
  obtain ⟨job, hruns, -⟩ := buildProbe_job hbuild
  have hstart : Stage lib probeId job (dbOf w) (.setup prepared.setupCommands) (dbOf w) :=
    .inl ⟨hruns.setup, rfl⟩
  have hwp := (stage_guides hcommits hunused hruns).runPreparedProbe fuel hstart
  rw [wp, hresult] at hwp
  obtain ⟨clean, hstage, hclean⟩ := hwp
  obtain ⟨rest, hparse, hundone⟩ := hstage (hclean hcleanup)
  cases hundone with
  | placed hplaced => cases job with
    | root kind => cases hparse
    | hang item target => cases target <;> cases hparse
  | bare => cases hparse
  | clean h => exact h

end Run

/-! ### A run on a small database -/

/-- Address functions for input that is already in normal form. -/
def plainAddresses : AddressLib where
  normalizeIpv4Addr := some
  normalizeIpv6Addr := fun _ => none
  normalizeIpv4Net := some
  normalizeIpv6Net := fun _ => none
  isMac := fun _ => true
  isCidr := fun _ => true
  inNetworks := fun _ _ => false
  ipv4Addr_quad := fun _ _ _ _ _ _ _ _ => rfl
  ipv4Net_quad := fun _ _ _ _ _ _ _ _ => rfl

/-- Commands are transactions, with UUIDs from a list; every read fails. -/
def offlineEnv (lib : AddressLib) : Env (NbDb × List Uuid) where
  run argv := fun w =>
    match nbctl lib w.1 w.2 argv with
    | .ok db => (.ok (), (db, w.2.drop 2))
    | .error e => (.raised (.http 500 e), w)
  nbIdl := raise (.http 503 "offline")
  sbIdl := raise (.http 503 "offline")
  dumpOpenflowFlows := fun _ => raise (.http 503 "offline")
  sleep := fun _ => pure ()
  perfCounter := fun w => (0, w)
  nowUtc := fun w => ("2024-01-01T00:00:00.000+00:00", w)

theorem commits_offlineEnv (lib : AddressLib) : Commits lib (offlineEnv lib) Prod.fst where
  perfCounter _ := rfl
  nowUtc _ := rfl
  nbIdl _ := rfl
  sbIdl _ := rfl
  dumpOpenflowFlows _ _ := rfl
  sleep _ _ := rfl
  run argv w := by
    unfold offlineEnv
    cases hrun : nbctl lib w.1 w.2 argv with
    | ok db => exact .inl ⟨w.2, (db, w.2.drop 2), by simp only [hrun], hrun⟩
    | error e => exact .inr ⟨.http 500 e, w, by simp only [hrun], rfl⟩

def oneSwitch : NbDb where
  content := {
    datapaths := ⟨[{ uuid := .uniform 1, kind := .switch, name := "web" }], by decide⟩
    leaves := ⟨[], by decide⟩
    holders := [] }
  closed := by decide
  collected := by decide
  indexed := by decide

theorem unused_oneSwitch : Unused (.uniform 0) oneSwitch.content where
  datapath d hd kind := by
    obtain rfl := List.mem_singleton.mp hd
    cases kind <;> decide +kernel
  port leaf hleaf := absurd hleaf List.not_mem_nil

def aclRequest : CanaryProbeRequest where
  resourceType := .acl
  targetName := some "web"
  timeout_pos := defaultTimeout_pos
  poll_ge := defaultPoll_ge

def webProbe : PreparedProbe :=
  assemble (.uniform 0) aclRequest (aclPlan (.uniform 0) { ref := (Uuid.uniform 1).text })

theorem no_residue_acl : ∃ prepared result w',
    buildProbe (.ok oneSwitch.view) (.uniform 0) aclRequest = .ok prepared ∧
    runPreparedProbe (offlineEnv plainAddresses) 1 prepared (oneSwitch, [.uniform 2]) =
      (.ok result, w') ∧
    result.cleanup.status = .observed ∧
    ∀ u ∈ w'.1.content.uuids, u ∈ oneSwitch.content.uuids := by
  have hbuild : buildProbe (.ok oneSwitch.view) (.uniform 0) aclRequest = .ok webProbe := rfl
  obtain ⟨result, w', hrun, hobserved⟩ := exists_of_returns
    (m := runPreparedProbe (offlineEnv plainAddresses) 1 webProbe) (w := (oneSwitch, [.uniform 2]))
    (p := fun result _ => decide (result.cleanup.status = .observed)) (by decide +kernel)
  have hstatus := of_decide_eq_true hobserved
  exact ⟨webProbe, result, w', hbuild, hrun, hstatus, no_residue
    (commits_offlineEnv plainAddresses) unused_oneSwitch hbuild hrun hstatus⟩

end OvnApi.Northbound
