import Mathlib.Data.Prod.Lex
import Mathlib.Data.String.Basic
import OvnApi.Scheduled.Profiles

/-! The target that is chosen for a scheduled probe, as a function of the two
databases. A datapath is realised if a Southbound binding of its type carries its
name. The type is an optional column, so the IDL presents it as a list, and the
text of a list is never the name of a type: no datapath counts as realised and the
choice falls on the greatest of all named ones. It is the greatest realised one
exactly if no named datapath ranks above all that are realised. -/

namespace OvnApi.Scheduled

open OvnApi.Core Lib Traces

/-! ### The reads of the choice -/

inductive TargetKind where
  | switch
  | router
  deriving DecidableEq

def TargetKind.bindingType : TargetKind → String
  | .switch => "logical-switch"
  | .router => "logical-router"

/-- `LogicalSwitchSummary`, as far as the choice reads it. -/
def switchSummary (row : LogicalSwitchRow) : Candidate where
  name := row.name
  portCount := row.ports.length
  second := row.acls.length
  third := row.loadBalancer.length

/-- `LogicalRouterSummary`, as far as the choice reads it. -/
def routerSummary (row : LogicalRouterRow) : Candidate where
  name := row.name
  portCount := row.ports.length
  second := row.nat.length
  third := row.staticRoutes.length

def summaries (nb : NbIdl) : TargetKind → List Candidate
  | .switch => nb.logicalSwitch.map switchSummary
  | .router => nb.logicalRouter.map routerSummary

/-- `list_switches` and `list_routers`: sorted by name. -/
def listDatapaths (nb : NbIdl) (kind : TargetKind) : List Candidate :=
  (summaries nb kind).mergeSort fun a b => a.name ≤ b.name

def readsOf (nb : NbIdl) (sb : SbIdl) : Reads where
  listSwitches := .ok (listDatapaths nb .switch)
  listRouters := .ok (listDatapaths nb .router)
  sbIdl := .ok sb

def autoSelect (nb : NbIdl) (sb : SbIdl) : TargetKind → Except Exc (Option String)
  | .switch => autoSelectSwitchTarget (readsOf nb sb)
  | .router => autoSelectRouterTarget (readsOf nb sb)

/-! ### Ranks -/

/-- The tuple that ranks a candidate. -/
def Candidate.rank (c : Candidate) : ℕ ×ₗ ℕ ×ₗ ℕ ×ₗ String :=
  toLex (c.portCount, toLex (c.second, toLex (c.third, c.name)))

theorem Candidate.lt_iff_rank (a b : Candidate) : a.lt b = true ↔ a.rank < b.rank := by
  simp [Candidate.lt, Candidate.rank, Prod.Lex.toLex_lt_toLex]

theorem Candidate.name_of_rank {a b : Candidate} (h : a.rank = b.rank) : a.name = b.name := by
  simp only [Candidate.rank, toLex_inj, Prod.mk.injEq] at h
  exact h.2.2.2

/-- The fold returns a candidate that none it has met ranks above. -/
theorem foldl_best {first : Candidate} {rest : List Candidate} {best : Candidate}
    (h : rest.foldl (fun best c => if best.lt c then c else best) first = best) :
    best ∈ first :: rest ∧ ∀ c ∈ first :: rest, c.rank ≤ best.rank := by
  induction rest generalizing first with
  | nil =>
    subst h
    simp
  | cons c rest ih =>
    rw [List.foldl_cons] at h
    obtain ⟨hmem, hle⟩ := ih h
    by_cases hlt : first.lt c = true
    · rw [if_pos hlt] at hmem hle
      refine ⟨List.mem_cons_of_mem _ hmem, List.forall_mem_cons.mpr ⟨?_, hle⟩⟩
      have hrank := (first.lt_iff_rank c).mp hlt
      exact hrank.le.trans (hle c List.mem_cons_self)
    · rw [if_neg hlt] at hmem hle
      have hrank := not_lt.mp (mt (first.lt_iff_rank c).mpr hlt)
      have hfirst := hle first List.mem_cons_self
      refine ⟨?_, ?_⟩
      · rcases List.mem_cons.mp hmem with rfl | hmem
        · exact List.mem_cons_self
        · exact List.mem_cons_of_mem _ (List.mem_cons_of_mem _ hmem)
      · intro c' hc'
        rcases List.mem_cons.mp hc' with rfl | hc'
        · exact hfirst
        · rcases List.mem_cons.mp hc' with rfl | hc'
          · exact hrank.trans hfirst
          · exact hle c' (List.mem_cons_of_mem _ hc')

/-- The best of the named candidates is one of the greatest of them. -/
theorem bestNamed_some {candidates : List Candidate} {best : Candidate}
    (h : bestCandidate (candidates.filter (·.name ≠ "")) = some best) :
    best ∈ candidates ∧ best.name ≠ "" ∧ ∀ c ∈ candidates, c.name ≠ "" → c.rank ≤ best.rank := by
  have hmem : ∀ c, c ∈ candidates.filter (·.name ≠ "") ↔ c ∈ candidates ∧ c.name ≠ "" := by
    intro c
    rw [List.mem_filter, decide_eq_true_eq]
  cases hnamed : candidates.filter (·.name ≠ "") with
  | nil =>
    rw [hnamed] at h
    cases h
  | cons first rest =>
    rw [hnamed] at h hmem
    obtain ⟨hin, hle⟩ := foldl_best (Option.some.inj h)
    obtain ⟨hbest, hname⟩ := (hmem best).mp hin
    exact ⟨hbest, hname, fun c hc hc' => hle c ((hmem c).mpr ⟨hc, hc'⟩)⟩

theorem exists_bestNamed {candidates : List Candidate} {c : Candidate} (hc : c ∈ candidates)
    (hname : c.name ≠ "") : ∃ best, bestCandidate (candidates.filter (·.name ≠ "")) = some best := by
  have hmem : c ∈ candidates.filter (·.name ≠ "") := by simp [hc, hname]
  cases hnamed : candidates.filter (·.name ≠ "") with
  | nil => exact absurd (hnamed ▸ hmem) List.not_mem_nil
  | cons first rest => exact ⟨_, rfl⟩

/-! ### No datapath counts as realised -/

theorem showStrings_ne (texts : List String) (kind : TargetKind) :
    showStrings texts ≠ kind.bindingType := by
  intro h
  have hhead := congrArg (fun s => s.toList.head?) h
  cases kind <;> simp [showStrings, TargetKind.bindingType] at hhead

theorem realizedDatapathNames_eq (sb : SbIdl) (kind : TargetKind) :
    realizedDatapathNames (.ok sb) kind.bindingType = .ok [] := by
  simp [realizedDatapathNames, showStrings_ne]

/-- The choice falls on the greatest of all named datapaths. -/
theorem autoSelect_eq (nb : NbIdl) (sb : SbIdl) (kind : TargetKind) :
    autoSelect nb sb kind = .ok ((bestCandidate
      ((listDatapaths nb kind).filter (·.name ≠ ""))).map Candidate.name) := by
  have key : ∀ rows, autoSelectTarget (.ok rows) (.ok sb) kind.bindingType =
      .ok ((bestCandidate (rows.filter (·.name ≠ ""))).map Candidate.name) := by
    intro rows
    cases rows with
    | nil => rfl
    | cons first rest =>
      simp [autoSelectTarget, realizedDatapathNames_eq, bind, Except.bind, pure, Except.pure]
  cases kind with
  | switch => exact key _
  | router => exact key _

/-! ### The choice against the realised datapaths -/

/-- A Southbound binding of the type carries the name. -/
def Realised (sb : SbIdl) (kind : TargetKind) (name : String) : Prop :=
  ∃ row ∈ sb.datapathBinding, row.type = [kind.bindingType] ∧
    row.externalIds.lookup "name" = some name

/-- The answer is the name of the greatest of the named datapaths that are realised. -/
def Prefers (nb : NbIdl) (sb : SbIdl) (kind : TargetKind)
    (answer : Except Exc (Option String)) : Prop :=
  ∃ c ∈ summaries nb kind, c.name ≠ "" ∧ Realised sb kind c.name ∧
    (∀ c' ∈ summaries nb kind, c'.name ≠ "" → Realised sb kind c'.name → c'.rank ≤ c.rank) ∧
    answer = .ok (some c.name)

theorem summaries_perm {nb nb' : NbIdl} (h : nb.Reordered nb') (kind : TargetKind) :
    (summaries nb kind).Perm (listDatapaths nb' kind) := by
  have hsorted := (List.mergeSort_perm (summaries nb' kind) fun a b => a.name ≤ b.name).symm
  cases kind with
  | switch => exact (h.logicalSwitch.map _).trans hsorted
  | router => exact (h.logicalRouter.map _).trans hsorted

/-- Whatever the order of the rows, the answer is the name of any greatest named datapath. -/
theorem autoSelect_greatest {nb nb' : NbIdl} {sb : SbIdl} {kind : TargetKind} {c : Candidate}
    (h : nb.Reordered nb') (hc : c ∈ summaries nb kind) (hname : c.name ≠ "")
    (hgreatest : ∀ c' ∈ summaries nb kind, c'.name ≠ "" → c'.rank ≤ c.rank) :
    autoSelect nb' sb kind = .ok (some c.name) := by
  have hperm := summaries_perm h kind
  obtain ⟨best, hbest⟩ := exists_bestNamed (hperm.mem_iff.mp hc) hname
  obtain ⟨hmem, hbestName, hle⟩ := bestNamed_some hbest
  have hrank : best.rank = c.rank :=
    le_antisymm (hgreatest best (hperm.mem_iff.mpr hmem) hbestName)
      (hle c (hperm.mem_iff.mp hc) hname)
  rw [autoSelect_eq, hbest, Option.map_some, Candidate.name_of_rank hrank]

/-- The choice is the greatest realised datapath, in whatever order the rows come,
exactly if a realised one is the greatest of all that have a name. -/
theorem autoSelect_prefers_iff (nb : NbIdl) (sb : SbIdl) (kind : TargetKind) :
    (∀ nb' sb', nb.Reordered nb' → sb.Reordered sb' →
        Prefers nb sb kind (autoSelect nb' sb' kind)) ↔
      ∃ c ∈ summaries nb kind, c.name ≠ "" ∧ Realised sb kind c.name ∧
        ∀ c' ∈ summaries nb kind, c'.name ≠ "" → c'.rank ≤ c.rank := by
  constructor
  · intro hall
    obtain ⟨c, hc, hname, hrealised, -, hanswer⟩ := hall nb sb (.refl nb) (.refl sb)
    obtain ⟨best, hsome⟩ := exists_bestNamed hc hname
    obtain ⟨hbest, hbestName, hgreatest⟩ := bestNamed_some hsome
    -- the greatest of all has the name of the answer, so it is realised with it
    have hsame : best.name = c.name := by
      rw [autoSelect_greatest (.refl nb) hbest hbestName hgreatest] at hanswer
      exact Option.some.inj (Except.ok.inj hanswer)
    exact ⟨best, hbest, hbestName, hsame ▸ hrealised, hgreatest⟩
  · rintro ⟨c, hc, hname, hrealised, hgreatest⟩ nb' sb' hnb -
    exact ⟨c, hc, hname, hrealised, fun c' hc' hname' _ => hgreatest c' hc' hname',
      autoSelect_greatest hnb hc hname hgreatest⟩

/-! ### A realised datapath that is passed over -/

/-- Two switches and two routers, of which only `edge` and `gate` are realised. -/
def sampleNb : NbIdl where
  logicalSwitch := [{ uuid := .uniform 1, name := "edge", ports := [.uniform 5] },
    { uuid := .uniform 2, name := "core", ports := [.uniform 6, .uniform 7] }]
  logicalRouter := [{ uuid := .uniform 3, name := "gate", ports := [.uniform 8] },
    { uuid := .uniform 4, name := "spare", ports := [.uniform 8, .uniform 9] }]

def sampleSb : SbIdl where
  datapathBinding := [⟨.uniform 1, ["logical-switch"], [.uniform 1], 1, [("name", "edge")]⟩,
    ⟨.uniform 3, ["logical-router"], [.uniform 3], 2, [("name", "gate")]⟩]

/-- The choice falls on the larger switch and the larger router, which no binding realises. -/
theorem autoSelect_unrealised :
    Realised sampleSb .switch "edge" ∧ ¬Realised sampleSb .switch "core" ∧
      autoSelect sampleNb sampleSb .switch = .ok (some "core") ∧
      Realised sampleSb .router "gate" ∧ ¬Realised sampleSb .router "spare" ∧
      autoSelect sampleNb sampleSb .router = .ok (some "spare") := by
  refine ⟨⟨_, List.mem_cons_self, rfl, rfl⟩, ?_, ?_,
    ⟨_, List.mem_cons_of_mem _ List.mem_cons_self, rfl, rfl⟩, ?_, ?_⟩
  · unfold Realised
    decide +kernel
  · exact autoSelect_greatest (c := ⟨"core", 2, 0, 0⟩) (.refl _) (by decide +kernel) (by decide)
      (by decide +kernel)
  · unfold Realised
    decide +kernel
  · exact autoSelect_greatest (c := ⟨"spare", 2, 0, 0⟩) (.refl _) (by decide +kernel) (by decide)
      (by decide +kernel)

end OvnApi.Scheduled
