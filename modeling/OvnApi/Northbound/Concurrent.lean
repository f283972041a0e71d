import OvnApi.Lib.Transition
import OvnApi.Northbound.Work
import OvnApi.Traces.Script

/-! Probes that run at the same time on one database. A step launches a probe or lets
one probe issue its next command, as one transaction; the commands of a probe come in
the order in which `run_prepared_probe` issues them. Names that carry the first
segment of a probe's UUID are fresh when it is launched, and no UUID is given to two
rows. -/

namespace OvnApi.Northbound

open OvnApi.Core Lib Lib.Prog Traces

/-! ### The order of the commands -/

section Order

variable {ω : Type}

/-- A sequence of commands, each with whether it was carried out, and the phase they
lead to. -/
inductive Issues (prepared : PreparedProbe) : List (List String × Bool) → Phase → Prop where
  | start : Issues prepared [] (.setup prepared.setupCommands)
  | command {log : List (List String × Bool)} {φ : Phase} {argv : List String} (ok : Bool) :
      Issues prepared log φ → φ.command prepared = some argv →
        Issues prepared (log ++ [(argv, ok)]) (φ.next prepared ok)
  | giveUp {log : List (List String × Bool)} : Issues prepared log (.setup []) →
      Issues prepared log (.cleanup prepared.cleanupCommands true)

def commandOf : Event → Option (List String × Bool)
  | .command argv answer => some (argv, answer.isOk)
  | _ => none

def issued (log : List Event) : List (List String × Bool) := log.filterMap commandOf

theorem keeps_logging {α : Type} {prepared : PreparedProbe} {φ : Phase} {m : Prog ω Exc α}
    {entry : Except Exc α → Event} (hentry : ∀ answer, commandOf (entry answer) = none) :
    Keeps (fun w : List Event × ω => Issues prepared (issued w.1) φ) (logging entry m) := by
  refine .of_world fun w hw => ?_
  have hsame : ∀ answer, issued (w.1 ++ [entry answer]) = issued w.1 := by
    intro answer
    rw [issued, List.filterMap_append, List.filterMap_cons_none (hentry answer)]
    simp [issued]
  unfold logging
  rcases m w.2 with ⟨a | e | _, w'⟩
  · change Issues prepared (issued (w.1 ++ [entry (.ok a)])) φ
    rwa [hsame]
  · change Issues prepared (issued (w.1 ++ [entry (.error e)])) φ
    rwa [hsame]
  · exact hw

/-- Whatever its environment answers, a probe issues its commands in this order. -/
theorem issues_guides (env : Env ω) (prepared : PreparedProbe) :
    Guides env.logged prepared fun φ w => Issues prepared (issued w.1) φ where
  perfCounter _ _ h := h
  nowUtc _ _ h := h
  nbIdl _ := keeps_logging fun _ => rfl
  sbIdl _ := keeps_logging fun _ => rfl
  dumpOpenflowFlows _ _ := keeps_logging fun _ => rfl
  sleep _ _ := .of_world fun _ h => h
  abandon _ h := h.giveUp
  command φ argv w hcommand h := by
    have hsnoc : ∀ answer, issued (w.1 ++ [Event.command argv answer]) =
        issued w.1 ++ [(argv, answer.isOk)] := by
      intro answer
      rw [issued, List.filterMap_append]
      rfl
    apply wp_logging
    · intro a w' _
      rw [hsnoc]
      exact h.command true hcommand
    · intro e w' _
      rw [hsnoc]
      exact h.command false hcommand

theorem runPreparedProbe_issues {env : Env ω} {prepared : PreparedProbe} {fuel : ℕ} {w w' : ω}
    {result : CanaryProbeResult} {log : List Event}
    (h : runPreparedProbe env.logged fuel prepared ([], w) = (.ok result, (log, w'))) :
    ∃ clean, Issues prepared (issued log) (.cleanup [] clean) := by
  have hwp := (issues_guides env prepared).runPreparedProbe fuel (w := ([], w)) .start
  rw [wp, h] at hwp
  obtain ⟨clean, hissues, -⟩ := hwp
  exact ⟨clean, hissues⟩

end Order

/-! ### The system -/

/-- A probe under way. A row belongs to it if its UUID is in `own`, the UUIDs its
transactions were given. -/
structure Running where
  probeId : Uuid
  job : Job
  prepared : PreparedProbe
  phase : Phase
  own : List Uuid

def Running.finished (p : Running) : Bool :=
  match p.phase with
  | .cleanup [] _ => true
  | _ => false

structure System where
  db : NbDb
  probes : List Running
  /-- The UUIDs given out so far. -/
  used : List Uuid

inductive Label where
  /-- A request is accepted as a probe with this job. -/
  | launch (probeId : Uuid) (request : CanaryProbeRequest) (job : Job)
  /-- A probe issues its next command, which may fail for reasons of its own. -/
  | command (i : ℕ) (fault : Bool) (supply : List Uuid)
  /-- A probe stops waiting for its temporary target. -/
  | giveUp (i : ℕ)

instance decidableForallKind (p : DatapathKind → Prop) [∀ kind, Decidable (p kind)] : Decidable (∀ kind, p kind) :=
  decidable_of_iff (p .switch ∧ p .router)
    ⟨fun ⟨hs, hr⟩ kind => by cases kind <;> assumption, fun h => ⟨h .switch, h .router⟩⟩

instance (probeId : Uuid) (c : Content) : Decidable (Unused probeId c) :=
  decidable_of_iff (_ ∧ _) ⟨fun ⟨hd, hp⟩ => ⟨hd, hp⟩, fun h => ⟨h.datapath, h.port⟩⟩

instance (prepared : PreparedProbe) (probeId : Uuid) (job : Job) :
    Decidable (Runs prepared probeId job) :=
  decidable_of_iff (_ ∧ _ ∧ _)
    ⟨fun ⟨hs, hc, hd⟩ => ⟨hs, hc, hd⟩, fun h => ⟨h.setup, h.create, h.cleanup⟩⟩

def System.FreshNames (s : System) (probeId : Uuid) : Prop :=
  Unused probeId s.db.content ∧ ∀ q ∈ s.probes, q.probeId.firstSegment ≠ probeId.firstSegment

instance (s : System) (probeId : Uuid) : Decidable (s.FreshNames probeId) :=
  inferInstanceAs (Decidable (_ ∧ _))

/-- A command is carried out as a whole or not at all. -/
def carryOut (lib : AddressLib) (db : NbDb) (fault : Bool) (supply : List Uuid)
    (argv : List String) : NbDb × Bool :=
  if fault then (db, false)
  else match nbctl lib db supply argv with
    | .ok db' => (db', true)
    | .error _ => (db, false)

def Running.advance (p : Running) (ok : Bool) (supply : List Uuid) : Running :=
  { p with phase := p.phase.next p.prepared ok, own := p.own ++ supply }

def System.step (lib : AddressLib) (s : System) : Label → Option System
  | .launch probeId request job =>
    match buildProbe (.ok s.db.view) probeId request with
    | .error _ => none
    | .ok prepared =>
      if Runs prepared probeId job ∧ s.FreshNames probeId then
        let p := {
          probeId
          job
          prepared
          phase := .setup prepared.setupCommands
          own := [] }
        some { s with probes := s.probes ++ [p] }
      else none
  | .command i fault supply =>
    s.probes[i]?.bind fun p => (p.phase.command p.prepared).bind fun argv =>
      if ∀ u ∈ supply, u ∉ s.used then
        let done := carryOut lib s.db fault supply argv
        some {
          db := done.1
          probes := s.probes.set i (p.advance done.2 supply)
          used := s.used ++ supply }
      else none
  | .giveUp i =>
    s.probes[i]?.bind fun p =>
      if p.phase = .setup [] then
        some { s with
          probes := s.probes.set i { p with phase := .cleanup p.prepared.cleanupCommands true } }
      else none

/-- No probe has been launched, and the UUIDs of the rows count as given out. -/
structure System.Initial (s : System) : Prop where
  probes : s.probes = []
  used : ∀ u ∈ s.db.content.uuids, u ∈ s.used

/-- Every accepted request has a job, so the label restricts nothing. -/
theorem exists_launch (lib : AddressLib) (s : System) {probeId : Uuid}
    {request : CanaryProbeRequest} {prepared : PreparedProbe}
    (hbuild : buildProbe (.ok s.db.view) probeId request = .ok prepared)
    (hfresh : s.FreshNames probeId) :
    ∃ job s', s.step lib (.launch probeId request job) = some s' := by
  obtain ⟨job, hruns, -⟩ := buildProbe_job hbuild
  refine ⟨job, Option.isSome_iff_exists.mp ?_⟩
  rw [System.step, hbuild]
  dsimp only
  rw [if_pos ⟨hruns, hfresh⟩]
  rfl

end OvnApi.Northbound
