import OvnApi.Northbound.Effects

/-! Two relations between the contents before and after some commands: what is new
(`Grows`, relative to the footprint of a probe) and what is left alone (`Intact`).
Both hold of every effect a command can have, compose, and survive the collection
at the end of a transaction. -/

namespace OvnApi.Northbound

open OvnApi.Core Lib

/-! ### What is new -/

/-- What a probe may add: a datapath of its own, by kind and name, and rows that hang
in one column of one datapath, `home`. A datapath of its own is that home. -/
structure Footprint where
  datapath : DatapathKind → String → Prop
  home : Uuid
  column : Column
  leaf : Columns → Prop

/-- Compared with `c`, the content `c'` has only new rows and new references that
the footprint allows. -/
structure Grows (F : Footprint) (new : Uuid → Prop) (c c' : Content) : Prop where
  datapath : ∀ d' ∈ c'.datapaths.rows,
    (∃ d ∈ c.datapaths.rows, d.uuid = d'.uuid ∧ d.kind = d'.kind ∧ d.name = d'.name) ∨
      new d'.uuid ∧ d'.uuid = F.home ∧ F.datapath d'.kind d'.name
  ref : ∀ d' ∈ c'.datapaths.rows, ∀ col, ∀ u ∈ d'.column col,
    (∃ d ∈ c.datapaths.rows, d.uuid = d'.uuid ∧ u ∈ d.column col) ∨
      col = F.column ∧ new u ∧ d'.uuid = F.home
  leaf : ∀ leaf ∈ c'.leaves.rows, leaf ∈ c.leaves.rows ∨ new leaf.uuid ∧ F.leaf leaf.columns
  holders : c'.holders = c.holders

section Grows

variable {F : Footprint} {new : Uuid → Prop} {c c₁ c' : Content}

theorem Grows.refl (F : Footprint) (new : Uuid → Prop) (c : Content) : Grows F new c c where
  datapath d hd := .inl ⟨d, hd, rfl, rfl, rfl⟩
  ref d hd _ _ hu := .inl ⟨d, hd, rfl, hu⟩
  leaf _ hleaf := .inl hleaf
  holders := rfl

theorem Grows.trans (h : Grows F new c c₁) (h' : Grows F new c₁ c') : Grows F new c c' where
  datapath d' hd' := by
    rcases h'.datapath d' hd' with ⟨d₁, hd₁, huuid, hkind, hname⟩ | hnew
    · rw [← huuid, ← hkind, ← hname]
      exact h.datapath d₁ hd₁
    · exact .inr hnew
  ref d' hd' col u hu := by
    rcases h'.ref d' hd' col u hu with ⟨d₁, hd₁, huuid, hu₁⟩ | hnew
    · rw [← huuid]
      exact h.ref d₁ hd₁ col u hu₁
    · exact .inr hnew
  leaf leaf hleaf := by
    rcases h'.leaf leaf hleaf with hold | hnew
    · exact h.leaf leaf hold
    · exact .inr hnew
  holders := h'.holders.trans h.holders

theorem Grows.mono {new' : Uuid → Prop} (hsub : ∀ u, new u → new' u) (h : Grows F new c c') :
    Grows F new' c c' where
  datapath d' hd' := (h.datapath d' hd').imp_right fun ⟨hnew, hrest⟩ => ⟨hsub _ hnew, hrest⟩
  ref d' hd' col u hu :=
    (h.ref d' hd' col u hu).imp_right fun ⟨hcol, hnew, hhome⟩ => ⟨hcol, hsub _ hnew, hhome⟩
  leaf leaf hleaf := (h.leaf leaf hleaf).imp_right fun ⟨hnew, hrest⟩ => ⟨hsub _ hnew, hrest⟩
  holders := h.holders

theorem Grows.of_added {d : Datapath} (h : Added c c' d) (hnew : new d.uuid)
    (hhome : d.uuid = F.home) (hname : F.datapath d.kind d.name) (hrefs : d.refs = []) :
    Grows F new c c' where
  datapath d' hd' := by
    rw [h.datapaths] at hd'
    rcases List.mem_append.mp hd' with hold | hone
    · exact .inl ⟨d', hold, rfl, rfl, rfl⟩
    · rw [List.mem_singleton.mp hone]
      exact .inr ⟨hnew, hhome, hname⟩
  ref d' hd' col u hu := by
    rw [h.datapaths] at hd'
    rcases List.mem_append.mp hd' with hold | hone
    · exact .inl ⟨d', hold, rfl, hu⟩
    · rw [List.mem_singleton.mp hone] at hu
      have hin := Datapath.mem_refs.mpr ⟨col, hu⟩
      rw [hrefs] at hin
      cases hin
  leaf leaf hleaf := .inl (h.leaves ▸ hleaf)
  holders := h.holders

/-- A change of one column of one datapath adds at most what the footprint allows. -/
theorem Grows.of_modify {parent : Uuid} {col : Column} {f : List Uuid → List Uuid}
    (hdatapaths : c'.datapaths = (c.modify parent col f).datapaths)
    (hcol : ∀ d ∈ c.datapaths.rows, d.uuid = parent → ∀ u ∈ f (d.column col), u ∈ d.column col ∨
      col = F.column ∧ new u ∧ parent = F.home)
    (hleaf : ∀ leaf ∈ c'.leaves.rows, leaf ∈ c.leaves.rows ∨ new leaf.uuid ∧ F.leaf leaf.columns)
    (hholders : c'.holders = c.holders) : Grows F new c c' where
  datapath d' hd' := by
    rw [hdatapaths] at hd'
    obtain ⟨d, hd, rfl⟩ := Content.mem_modify.mp hd'
    left
    refine ⟨d, hd, ?_⟩
    split_ifs <;> simp
  ref d' hd' col' u hu := by
    rw [hdatapaths] at hd'
    obtain ⟨d, hd, rfl⟩ := Content.mem_modify.mp hd'
    split_ifs at hu ⊢ with hparent
    · by_cases hcc : col' = col
      · subst hcc
        rw [Datapath.column_modify_self] at hu
        rw [Datapath.modify_uuid, hparent]
        rcases hcol d hd hparent u hu with hold | hnew
        · exact .inl ⟨d, hd, hparent, hold⟩
        · exact .inr hnew
      · rw [Datapath.column_modify_of_ne hcc] at hu
        exact .inl ⟨d, hd, by simp, hu⟩
    · exact .inl ⟨d, hd, rfl, hu⟩
  leaf := hleaf
  holders := hholders

theorem Grows.of_attached {parent : Uuid} {col : Column} {leaf : Leaf}
    (h : Attached c c' parent col leaf) (hcol : col = F.column) (hnew : new leaf.uuid)
    (hparent : parent = F.home) (hleaf : F.leaf leaf.columns) : Grows F new c c' := by
  apply Grows.of_modify h.datapaths _ _ h.holders
  · intro d hd _ u hu
    rcases List.mem_append.mp hu with hold | hone
    · exact .inl hold
    · rw [List.mem_singleton.mp hone]
      exact .inr ⟨hcol, hnew, hparent⟩
  · intro leaf' hleaf'
    rw [h.leaves] at hleaf'
    rcases List.mem_append.mp hleaf' with hold | hone
    · exact .inl hold
    · rw [List.mem_singleton.mp hone]
      exact .inr ⟨hnew, hleaf⟩

/-- Dropping references adds nothing. -/
theorem Grows.of_filter (F : Footprint) (new : Uuid → Prop) (c : Content) (parent : Uuid)
    (col : Column) (p : Uuid → Bool) : Grows F new c (c.modify parent col (·.filter p)) := by
  apply Grows.of_modify rfl _ (fun _ h => .inl h) rfl
  intro d hd _ u hu
  exact .inl (List.mem_of_mem_filter hu)

theorem Grows.of_removeDatapath (F : Footprint) (new : Uuid → Prop) (c : Content) (u : Uuid) :
    Grows F new c (c.removeDatapath u) where
  datapath d hd := .inl ⟨d, (Content.mem_removeDatapath.mp hd).1, rfl, rfl, rfl⟩
  ref d hd _ _ hu := .inl ⟨d, (Content.mem_removeDatapath.mp hd).1, rfl, hu⟩
  leaf _ hleaf := .inl hleaf
  holders := rfl

theorem Grows.collect (h : Grows F new c c') : Grows F new c c'.collect where
  datapath := h.datapath
  ref := h.ref
  leaf leaf hleaf := h.leaf leaf (Content.mem_collect.mp hleaf).1
  holders := h.holders

end Grows

/-! ### What is left alone -/

/-- The same row, up to references to rows of `own`. -/
structure Datapath.SameBut (own : Uuid → Prop) (d' d : Datapath) : Prop where
  uuid : d'.uuid = d.uuid
  kind : d'.kind = d.kind
  name : d'.name = d.name
  refs : ∀ col u, ¬own u → (u ∈ d'.column col ↔ u ∈ d.column col)

/-- Every row that is not in `own` is still there, and is the same up to references
to rows of `own'`. -/
structure Intact (own own' : Uuid → Prop) (c c' : Content) : Prop where
  datapath : ∀ d ∈ c.datapaths.rows, ¬own d.uuid → ∃ d' ∈ c'.datapaths.rows, d'.SameBut own' d
  leaf : ∀ leaf ∈ c.leaves.rows, ¬own leaf.uuid → leaf ∈ c'.leaves.rows
  holders : c'.holders = c.holders

section Intact

variable {own own₁ own' : Uuid → Prop} {c c₁ c' : Content}

theorem Datapath.SameBut.refl (own : Uuid → Prop) (d : Datapath) : d.SameBut own d :=
  ⟨rfl, rfl, rfl, fun _ _ _ => Iff.rfl⟩

theorem Intact.refl (own own' : Uuid → Prop) (c : Content) : Intact own own' c c where
  datapath d hd _ := ⟨d, hd, .refl own' d⟩
  leaf _ hleaf _ := hleaf
  holders := rfl

/-- Rows that are not touched stay when the reference set is exchanged for a larger one. -/
theorem Intact.trans (hsub : ∀ u, own₁ u → own' u) (h : Intact own own₁ c c₁)
    (h' : Intact own own' c₁ c') : Intact own own' c c' where
  datapath d hd hown := by
    obtain ⟨d₁, hd₁, hsame⟩ := h.datapath d hd hown
    obtain ⟨d', hd', hsame'⟩ := h'.datapath d₁ hd₁ (hsame.uuid ▸ hown)
    refine ⟨d', hd', hsame'.uuid.trans hsame.uuid, hsame'.kind.trans hsame.kind,
      hsame'.name.trans hsame.name, fun col u hu => ?_⟩
    rw [hsame'.refs col u hu, hsame.refs col u fun h₁ => hu (hsub u h₁)]
  leaf leaf hleaf hown := h'.leaf leaf (h.leaf leaf hleaf hown) hown
  holders := h'.holders.trans h.holders

theorem Intact.mono {own₂ own₂' : Uuid → Prop} (hsub : ∀ u, own u → own₂ u)
    (hsub' : ∀ u, own' u → own₂' u) (h : Intact own own' c c') : Intact own₂ own₂' c c' where
  datapath d hd hown := by
    obtain ⟨d', hd', hsame⟩ := h.datapath d hd fun ho => hown (hsub _ ho)
    refine ⟨d', hd', hsame.uuid, hsame.kind, hsame.name, fun col u hu => ?_⟩
    exact hsame.refs col u fun ho => hu (hsub' u ho)
  leaf leaf hleaf hown := h.leaf leaf hleaf fun ho => hown (hsub _ ho)
  holders := h.holders

theorem Intact.of_added {d : Datapath} (h : Added c c' d) : Intact own own' c c' where
  datapath d hd _ := ⟨d, by rw [h.datapaths]; exact List.mem_append_left _ hd, .refl own' d⟩
  leaf leaf hleaf _ := h.leaves ▸ hleaf
  holders := h.holders

/-- A change of one column that keeps the references to rows of others. -/
theorem Intact.of_modify {parent : Uuid} {col : Column} {f : List Uuid → List Uuid}
    (hdatapaths : c'.datapaths = (c.modify parent col f).datapaths)
    (hcol : ∀ d ∈ c.datapaths.rows, d.uuid = parent → ∀ u, ¬own' u →
      (u ∈ f (d.column col) ↔ u ∈ d.column col))
    (hleaf : ∀ leaf ∈ c.leaves.rows, leaf ∈ c'.leaves.rows) (hholders : c'.holders = c.holders) :
    Intact own own' c c' where
  datapath d hd _ := by
    rw [hdatapaths]
    refine ⟨_, Content.mem_modify.mpr ⟨d, hd, rfl⟩, ?_⟩
    split_ifs with hparent
    · refine ⟨by simp, by simp, by simp, fun col' u hu => ?_⟩
      by_cases hcc : col' = col
      · subst hcc
        rw [Datapath.column_modify_self]
        exact hcol d hd hparent u hu
      · rw [Datapath.column_modify_of_ne hcc]
    · exact .refl own' d
  leaf leaf hl _ := hleaf leaf hl
  holders := hholders

theorem Intact.of_attached {parent : Uuid} {col : Column} {leaf : Leaf}
    (h : Attached c c' parent col leaf) (hown : own' leaf.uuid) : Intact own own' c c' := by
  apply Intact.of_modify h.datapaths _ _ h.holders
  · intro d _ _ u hu
    have hne : u ≠ leaf.uuid := fun heq => hu (heq ▸ hown)
    simp [hne]
  · intro leaf' hleaf'
    rw [h.leaves]
    exact List.mem_append_left _ hleaf'

/-- References to rows of the probe itself may be dropped. -/
theorem Intact.of_filter {parent : Uuid} {col : Column} {p : Uuid → Bool}
    (h : ∀ d ∈ c.datapaths.rows, d.uuid = parent → ∀ u ∈ d.column col, p u = false → own' u) :
    Intact own own' c (c.modify parent col (·.filter p)) := by
  apply Intact.of_modify rfl _ (fun _ h => h) rfl
  intro d hd hparent u hu
  rw [List.mem_filter, and_iff_left_iff_imp]
  intro hin
  cases hp : p u with
  | true => rfl
  | false => exact absurd (h d hd hparent u hin hp) hu

theorem Intact.of_removeDatapath {u : Uuid} (hu : own u) :
    Intact own own' c (c.removeDatapath u) where
  datapath d hd hown := by
    have hne : d.uuid ≠ u := fun heq => hown (heq ▸ hu)
    exact ⟨d, Content.mem_removeDatapath.mpr ⟨hd, hne⟩, .refl own' d⟩
  leaf _ hleaf _ := hleaf
  holders := rfl

/-- The collection at the end of a transaction takes no row of others, if the
datapaths of `own` refer only to rows of `own`. -/
theorem Intact.collect {db : NbDb}
    (hown : ∀ d ∈ db.content.datapaths.rows, own d.uuid → ∀ u ∈ d.refs, own u)
    (hfresh : ∀ leaf ∈ db.content.leaves.rows, own' leaf.uuid → own leaf.uuid)
    (h : Intact own own' db.content c) : Intact own own' db.content c.collect where
  datapath := h.datapath
  leaf leaf hleaf hl := by
    apply Content.mem_collect.mpr
    refine ⟨h.leaf leaf hleaf hl, Content.mem_references.mpr ?_⟩
    rcases Content.mem_references.mp (db.collected leaf hleaf) with ⟨d, hd, hu⟩ | hholder
    · left
      have hforeign : ¬own d.uuid := fun ho => hl (hown d hd ho _ hu)
      obtain ⟨d', hd', hsame⟩ := h.datapath d hd hforeign
      obtain ⟨col, hu⟩ := Datapath.mem_refs.mp hu
      have hu' := (hsame.refs col leaf.uuid fun ho => hl (hfresh leaf hleaf ho)).mpr hu
      exact ⟨d', hd', Datapath.mem_refs.mpr ⟨col, hu'⟩⟩
    · right
      rw [h.holders]
      exact hholder
  holders := h.holders

end Intact

end OvnApi.Northbound
