import OvnApi.Chassis.Service

/-! The two views of the chassis. The list counts the references to a chassis, the other
view selects the bindings that refer to it, so they agree exactly if no binding refers to it
twice and its UUID does not find another chassis first. -/

namespace OvnApi.Chassis

open OvnApi.Core Lib
open Traces (ChassisRef)

/-- How often the binding refers to the chassis. -/
def PortBindingRow.mentions (row : PortBindingRow) (uuid : Uuid) : ℕ :=
  ((row.chassis ++ row.additionalChassis).map ChassisRef.uuid).count uuid

def PortBindingRow.includes (row : PortBindingRow) (uuid : Uuid) : Bool :=
  (row.chassis ++ row.additionalChassis).any fun ref => ref.uuid = uuid

/-- The two views agree about the chassis: what `get_chassis_bindings` returns for its UUID
are the bindings that include it, each once, and `list_chassis` shows their number. -/
structure ViewsAgree (idl : SbContent) (chassis : ChassisRow) (response : ChassisBindingsResponse) :
    Prop where
  returned : getChassisBindings idl chassis.uuid.text = .ok response
  count : response.bindingCount = response.bindings.length
  exact : response.bindings.Perm
    ((idl.portBinding.filter fun row => row.includes chassis.uuid).map chassisBinding)
  listed : ∃ summary ∈ listChassis idl, summary.uuid = chassis.uuid.text
  shown : ∀ summary ∈ listChassis idl, summary.uuid = chassis.uuid.text →
    summary.portBindingCount = response.bindingCount

/-- No binding refers to the chassis in both columns. -/
def MentionedOnce (idl : SbContent) (chassis : ChassisRow) : Prop :=
  ∀ row ∈ idl.portBinding,
    ¬(chassis.uuid ∈ row.chassis.map ChassisRef.uuid ∧
      chassis.uuid ∈ row.additionalChassis.map ChassisRef.uuid)

/-- A chassis that stands before this one and has its UUID for a name has the same bindings. -/
def Unshadowed (idl : SbContent) (chassis : ChassisRow) : Prop :=
  ∀ before after, idl.chassis = before ++ chassis :: after →
    ∀ other ∈ before, other.name = chassis.uuid.text →
      ∀ row ∈ idl.portBinding, row.includes other.uuid = row.includes chassis.uuid

/-! ### The list -/

theorem text_ne_empty (u : Uuid) : u.text ≠ "" := by
  intro h
  have hcanonical := u.canonical
  rw [h] at hcanonical
  exact absurd hcanonical (by decide)

theorem text_injective : Function.Injective Uuid.text := fun _ _ => Uuid.ext_text

/-- The UUIDs of the references, as the loop of `_binding_counts` comes to them. -/
theorem filterMap_references (row : PortBindingRow) :
    row.references.filterMap rowUuid =
      ((row.chassis ++ row.additionalChassis).map ChassisRef.uuid).map Uuid.text := by
  have hadditional : (row.additionalChassis.map fun ref => Value.item (.ofChassis ref)).filterMap
      rowUuid = (row.additionalChassis.map ChassisRef.uuid).map Uuid.text := by
    rw [List.filterMap_map, List.map_map, ← List.filterMap_eq_map]
    rfl
  have hle := row.chassis_le
  unfold PortBindingRow.references
  rcases hchassis : row.chassis with _ | ⟨ref, _ | _⟩
  · exact hadditional
  · exact congrArg (ref.uuid.text :: ·) hadditional
  · simp [hchassis] at hle

theorem get_countReference (counts : Counter String) (ref : Value) (u : Uuid) :
    (countReference counts ref).get u.text =
      counts.get u.text + (rowUuid ref).toList.count u.text := by
  unfold countReference
  cases rowUuid ref with
  | none => rfl
  | some text =>
    by_cases hempty : text = ""
    · simp [hempty, (text_ne_empty u).symm]
    · simp [hempty, Counter.get_bump, List.count_singleton]

theorem foldl_countReference (refs : List Value) (counts : Counter String) (u : Uuid) :
    (refs.foldl countReference counts).get u.text =
      counts.get u.text + (refs.filterMap rowUuid).count u.text := by
  induction refs generalizing counts with
  | nil => rfl
  | cons ref refs ih =>
    rw [List.foldl_cons, ih, get_countReference]
    cases href : rowUuid ref with
    | none => simp [href]
    | some text =>
      simp only [List.filterMap_cons, href, List.count_cons, Option.toList_some, List.count_nil]
      omega

theorem get_bindingCounts (idl : SbContent) (u : Uuid) :
    (bindingCounts idl).get u.text = (idl.portBinding.map fun row => row.mentions u).sum := by
  have hrows : ∀ (rows : List PortBindingRow) (counts : Counter String),
      (rows.foldl (fun counts row => row.references.foldl countReference counts) counts).get u.text =
        counts.get u.text + (rows.map fun row => row.mentions u).sum := by
    intro rows
    induction rows with
    | nil => intro counts; rfl
    | cons row rows ih =>
      intro counts
      rw [List.foldl_cons, ih, foldl_countReference, filterMap_references,
        List.count_map_of_injective _ _ text_injective, List.map_cons, List.sum_cons, Nat.add_assoc]
      rfl
  have hstart := hrows idl.portBinding .empty
  rwa [Counter.get_empty, Nat.zero_add] at hstart

/-! ### The selection -/

theorem includes_iff_mentions {row : PortBindingRow} {u : Uuid} :
    row.includes u = true ↔ 0 < row.mentions u := by
  simp [PortBindingRow.includes, PortBindingRow.mentions, List.count_pos_iff]

theorem not_skipped (row : PortBindingRow) (u : Uuid) : (!row.skipped u.text) = row.includes u := by
  have htext : ∀ ref : ChassisRef, (ref.uuid.text == u.text) = decide (ref.uuid = u) := by
    intro ref
    rw [beq_eq_decide, decide_eq_decide]
    exact text_injective.eq_iff
  have hle := row.chassis_le
  unfold PortBindingRow.skipped PortBindingRow.includes
  rcases hchassis : row.chassis with _ | ⟨ref, _ | _⟩
  · simp [rowUuid, Item.ofChassis, Item.uuidText, bne, List.not_all_eq_any_not, htext]
  · simp [rowUuid, Item.ofChassis, Item.uuidText, bne, List.not_all_eq_any_not, htext]
  · simp [hchassis] at hle

/-- Each column refers to the chassis at most once. -/
theorem mentions_le_one_iff (row : PortBindingRow) (u : Uuid) :
    row.mentions u ≤ 1 ↔ ¬(u ∈ row.chassis.map ChassisRef.uuid ∧
      u ∈ row.additionalChassis.map ChassisRef.uuid) := by
  have hchassis : (row.chassis.map ChassisRef.uuid).count u ≤ 1 :=
    List.count_le_length.trans ((List.length_map _).le.trans row.chassis_le)
  have hadditional : (row.additionalChassis.map ChassisRef.uuid).count u ≤ 1 :=
    List.nodup_iff_count_le_one.mp row.additional_nodup u
  unfold PortBindingRow.mentions
  rw [List.map_append, List.count_append, ← List.count_pos_iff, ← List.count_pos_iff]
  omega

/-- A sum of counts is the number of positive ones exactly if none is above one. -/
theorem sum_eq_countP_iff {α : Type} (f : α → ℕ) (l : List α) :
    (l.map f).sum = l.countP (fun x => 0 < f x) ↔ ∀ x ∈ l, f x ≤ 1 := by
  have hle : ∀ l : List α, l.countP (fun x => 0 < f x) ≤ (l.map f).sum := by
    intro l
    induction l with
    | nil => exact le_rfl
    | cons x l ih =>
      rw [List.countP_cons, List.map_cons, List.sum_cons]
      split_ifs with hx <;> simp at hx <;> omega
  induction l with
  | nil => simp
  | cons x l ih =>
    have hrest := hle l
    rw [List.countP_cons, List.map_cons, List.sum_cons, List.forall_mem_cons]
    refine Iff.trans ?_ (and_congr_right' ih)
    split_ifs with hx <;> simp at hx <;> omega

theorem sum_mentions_iff (idl : SbContent) (chassis : ChassisRow) :
    (idl.portBinding.map fun row => row.mentions chassis.uuid).sum =
        (idl.portBinding.filter fun row => row.includes chassis.uuid).length ↔
      MentionedOnce idl chassis := by
  have hfilter : (idl.portBinding.filter fun row => row.includes chassis.uuid).length =
      idl.portBinding.countP fun row => 0 < row.mentions chassis.uuid := by
    rw [← List.countP_eq_length_filter]
    refine List.countP_congr fun row _ => ?_
    simpa using includes_iff_mentions
  rw [hfilter, sum_eq_countP_iff]
  exact forall₂_congr fun row _ => mentions_le_one_iff row chassis.uuid

/-! ### The reference -/

variable {idl : SbContent} {chassis : ChassisRow} {before after : List ChassisRow}

theorem uuid_ne_of_before (hsplit : idl.chassis = before ++ chassis :: after) {other : ChassisRow}
    (hother : other ∈ before) : other.uuid ≠ chassis.uuid := by
  have hnodup := idl.uuid_nodup
  rw [hsplit, List.map_append, List.map_cons] at hnodup
  exact fun heq => List.disjoint_of_nodup_append hnodup (List.mem_map_of_mem hother)
    (heq ▸ List.mem_cons_self)

/-- The UUID of a chassis finds a chassis before it that has it for a name, or the chassis. -/
theorem findChassis_uuid (hsplit : idl.chassis = before ++ chassis :: after) :
    findChassis idl chassis.uuid.text =
      .ok ((before.find? fun other => other.name == chassis.uuid.text).getD chassis) := by
  have hbefore : (before.find? fun row =>
      row.uuid.text == chassis.uuid.text || row.name == chassis.uuid.text) =
        before.find? fun other => other.name == chassis.uuid.text := by
    rw [← List.head?_filter, ← List.head?_filter]
    refine congrArg List.head? (List.filter_congr fun other hother => ?_)
    have hne : (other.uuid.text == chassis.uuid.text) = false :=
      beq_false_of_ne fun heq => uuid_ne_of_before hsplit hother (Uuid.ext_text heq)
    rw [hne, Bool.false_or]
  unfold findChassis
  rw [hsplit, List.find?_append, hbefore]
  cases before.find? fun other => other.name == chassis.uuid.text <;> simp

/-- Names are unique, so a chassis with this name is the one that is found. -/
theorem find_of_before (hsplit : idl.chassis = before ++ chassis :: after) {other : ChassisRow}
    (hother : other ∈ before) (hname : other.name = chassis.uuid.text) :
    (before.find? fun other => other.name == chassis.uuid.text) = some other := by
  have hmem : ∀ row ∈ before, row ∈ idl.chassis := fun row hrow =>
    hsplit ▸ List.mem_append_left _ hrow
  cases hfind : before.find? fun other => other.name == chassis.uuid.text with
  | none => exact absurd (beq_iff_eq.mpr hname) (List.find?_eq_none.mp hfind other hother)
  | some found =>
    have hfound : found.name = chassis.uuid.text := by simpa using List.find?_some hfind
    exact congrArg some (List.inj_on_of_nodup_map idl.name_nodup
      (hmem _ (List.mem_of_find?_eq_some hfind)) (hmem _ hother) (hfound.trans hname.symm))

/-- The bindings of the chassis that the UUID finds. -/
theorem getChassisBindings_uuid (hsplit : idl.chassis = before ++ chassis :: after) :
    ∃ response, getChassisBindings idl chassis.uuid.text = .ok response ∧
      response.bindingCount = response.bindings.length ∧
      response.bindings.Perm ((idl.portBinding.filter fun row =>
        row.includes ((before.find? fun other => other.name == chassis.uuid.text).getD chassis).uuid).map
          chassisBinding) := by
  unfold getChassisBindings
  rw [findChassis_uuid hsplit]
  refine ⟨_, rfl, rfl, ?_⟩
  simp only [not_skipped]
  exact List.perm_insertionSort _ _

/-- The records of the bindings tell them apart. -/
theorem includes_eq_of_perm {u v : Uuid}
    (h : ((idl.portBinding.filter fun row => row.includes u).map chassisBinding).Perm
      ((idl.portBinding.filter fun row => row.includes v).map chassisBinding)) :
    ∀ row ∈ idl.portBinding, row.includes u = row.includes v := by
  have hport : ∀ w, ((idl.portBinding.filter fun row => row.includes w).map chassisBinding).map
      ChassisBinding.logicalPort = (idl.portBinding.filter fun row => row.includes w).map
        PortBindingRow.logicalPort := fun w => List.map_map
  have hmem : ∀ w, ∀ row ∈ idl.portBinding, row.includes w = true ↔
      row.logicalPort ∈ (idl.portBinding.filter fun row => row.includes w).map
        PortBindingRow.logicalPort := by
    intro w row hrow
    rw [List.mem_map]
    refine ⟨fun hw => ⟨row, List.mem_filter.mpr ⟨hrow, hw⟩, rfl⟩, ?_⟩
    rintro ⟨row', hrow', heq⟩
    obtain ⟨hrow', hw⟩ := List.mem_filter.mp hrow'
    exact List.inj_on_of_nodup_map idl.port_nodup hrow' hrow heq ▸ hw
  have hperm := h.map ChassisBinding.logicalPort
  rw [hport, hport] at hperm
  intro row hrow
  rw [Bool.eq_iff_iff, hmem u row hrow, hmem v row hrow]
  exact hperm.mem_iff

/-! ### The views -/

theorem mem_listChassis {summary : ChassisSummary} :
    summary ∈ listChassis idl ↔
      ∃ row ∈ idl.chassis, chassisSummary (bindingCounts idl) row = summary := by
  unfold listChassis
  rw [List.mem_insertionSort, List.mem_map]

/-- The count that the list shows for the chassis. -/
theorem listChassis_shows (h : chassis ∈ idl.chassis) {summary : ChassisSummary}
    (hsummary : summary ∈ listChassis idl) (huuid : summary.uuid = chassis.uuid.text) :
    summary.portBindingCount = (idl.portBinding.map fun row => row.mentions chassis.uuid).sum := by
  obtain ⟨row, hrow, rfl⟩ := mem_listChassis.mp hsummary
  obtain rfl : row = chassis :=
    List.inj_on_of_nodup_map idl.uuid_nodup hrow h (Uuid.ext_text huuid)
  exact get_bindingCounts idl row.uuid

/-- The views agree about a chassis exactly if no binding mentions it twice, and no chassis
with other bindings stands before it under its UUID as a name. -/
theorem chassis_views_agree_iff (idl : SbContent) (chassis : ChassisRow)
    (h : chassis ∈ idl.chassis) :
    (∃ response, ViewsAgree idl chassis response) ↔
      MentionedOnce idl chassis ∧ Unshadowed idl chassis := by
  have hlisted : ∃ summary ∈ listChassis idl, summary.uuid = chassis.uuid.text :=
    ⟨_, mem_listChassis.mpr ⟨chassis, h, rfl⟩, rfl⟩
  constructor
  · rintro ⟨response, hreturned, hcount, hexact, -, hshown⟩
    obtain ⟨summary, hsummary, huuid⟩ := hlisted
    constructor
    · rw [← sum_mentions_iff, ← listChassis_shows h hsummary huuid, hshown summary hsummary huuid,
        hcount, hexact.length_eq, List.length_map]
    · intro before after hsplit other hother hname
      obtain ⟨response', hreturned', -, hperm⟩ := getChassisBindings_uuid hsplit
      obtain rfl : response = response' := Except.ok.inj (hreturned.symm.trans hreturned')
      rw [find_of_before hsplit hother hname] at hperm
      exact includes_eq_of_perm (hperm.symm.trans hexact)
  · rintro ⟨honce, hunshadowed⟩
    obtain ⟨before, after, hsplit⟩ := List.append_of_mem h
    obtain ⟨response, hreturned, hcount, hperm⟩ := getChassisBindings_uuid hsplit
    have hsame : ∀ row ∈ idl.portBinding, row.includes
        ((before.find? fun other => other.name == chassis.uuid.text).getD chassis).uuid =
          row.includes chassis.uuid := by
      cases hfind : before.find? fun other => other.name == chassis.uuid.text with
      | none => exact fun _ _ => rfl
      | some other =>
        have hname : other.name = chassis.uuid.text := by simpa using List.find?_some hfind
        exact hunshadowed before after hsplit other (List.mem_of_find?_eq_some hfind) hname
    rw [List.filter_congr hsame] at hperm
    refine ⟨response, hreturned, hcount, hperm, hlisted, fun summary hsummary huuid => ?_⟩
    rw [listChassis_shows h hsummary huuid, (sum_mentions_iff idl chassis).mpr honce, hcount,
      hperm.length_eq, List.length_map]

def hv1 : ChassisRow where
  uuid := .uniform 1
  name := "hv1"

/-- The port of a virtual machine on `hv1`, with one additional chassis. -/
def migratingPort (additional : ChassisRef) : PortBindingRow where
  logicalPort := "vm"
  datapath := .uniform 3
  tunnelKey := 1
  chassis := [⟨.uniform 1, "hv1"⟩]
  additionalChassis := [additional]
  chassis_le := le_rfl
  additional_nodup := List.nodup_singleton _

def migratingSb (additional : ChassisRef) : SbContent where
  chassis := [hv1]
  portBinding := [migratingPort additional]
  uuid_nodup := List.nodup_singleton _
  name_nodup := List.nodup_singleton _
  port_nodup := List.nodup_singleton _

/-- The port migrates to another hypervisor. -/
theorem chassis_views_agree_migrating :
    hv1 ∈ (migratingSb ⟨.uniform 2, "hv2"⟩).chassis ∧
      ∃ response, ViewsAgree (migratingSb ⟨.uniform 2, "hv2"⟩) hv1 response := by
  have hmem : hv1 ∈ (migratingSb ⟨.uniform 2, "hv2"⟩).chassis := List.mem_singleton.mpr rfl
  refine ⟨hmem, (chassis_views_agree_iff _ hv1 hmem).mpr ⟨?_, ?_⟩⟩
  · intro row hrow
    obtain rfl := List.mem_singleton.mp hrow
    decide +kernel
  · intro before after hsplit other hother
    cases before with
    | nil => cases hother
    | cons first rest => simp [migratingSb] at hsplit

/-- The port has `hv1` in both columns: the list counts two, the other view returns one. -/
theorem chassis_counted_twice :
    (listChassis (migratingSb ⟨.uniform 1, "hv1"⟩)).map ChassisSummary.portBindingCount = [2] ∧
      (getChassisBindings (migratingSb ⟨.uniform 1, "hv1"⟩) hv1.uuid.text).map
        ChassisBindingsResponse.bindingCount = .ok 1 := by
  decide +kernel

end OvnApi.Chassis
