import Mathlib.Algebra.Order.Archimedean.Basic
import OvnApi.Lib.Deadline
import OvnApi.Lib.Transition
import OvnApi.Ovsdb.Client

/-! What a client hands out and what it keeps. Every call of `get_idl` returns an IDL that has
been connected, or raises an `HTTPException` and keeps none. The IDLs that were built and the
outcomes of their runs are recorded, so that the IDL a client keeps can be seen to be one
whose runs have all succeeded. -/

namespace OvnApi.Ovsdb

open OvnApi.Core Lib Lib.Prog

variable {ω ι η σ : Type}

/-- What a client did with its IDLs, each with the answer it got. -/
inductive Event (ι : Type) where
  | built (answer : Except Exc ι)
  | ran (idl : ι) (answer : Except Exc Unit)

/-- The same libraries with a record of the IDLs. -/
def Env.logged (env : Env ω ι η σ) : Env (List (Event ι) × ω) ι η σ where
  pathExists path := lift (env.pathExists path)
  schemaFromFile path := lift (env.schemaFromFile path)
  schemaFromJson schema := lift (env.schemaFromJson schema)
  registerTable helper table := lift (env.registerTable helper table)
  newIdl remote helper := logging Event.built (env.newIdl remote helper)
  run idl := logging (Event.ran idl) (env.run idl)
  hasEverConnected w idl := env.hasEverConnected w.2 idl
  openBlock remote ms := lift (env.openBlock remote ms)
  transactBlock method params := lift (env.transactBlock method params)
  close := lift env.close
  monotonic w := ((env.monotonic w.2).1, (w.1, (env.monotonic w.2).2))
  strerror := env.strerror
  excRepr := env.excRepr

/-! ### What is assumed -/

/-- Every operation returns or raises. -/
structure Env.Responsive (env : Env ω ι η σ) : Prop where
  pathExists : ∀ path, Total (env.pathExists path)
  schemaFromFile : ∀ path, Total (env.schemaFromFile path)
  schemaFromJson : ∀ schema, Total (env.schemaFromJson schema)
  registerTable : ∀ helper table, Total (env.registerTable helper table)
  newIdl : ∀ remote helper, Total (env.newIdl remote helper)
  run : ∀ idl, Total (env.run idl)
  openBlock : ∀ remote ms, Total (env.openBlock remote ms)
  transactBlock : ∀ method params, Total (env.transactBlock method params)
  close : Total env.close

/-- An IDL that has been connected stays so: `has_ever_connected` looks at a number that only
grows. -/
def Env.Sticky (env : Env ω ι η σ) : Prop :=
  ∀ idl w, env.hasEverConnected w idl = true → env.hasEverConnected (env.run idl w).2 idl = true

/-- A turn of the wait loop: run, then read the clock. -/
def Env.tick (env : Env ω ι η σ) (idl : ι) (w : ω) : ω := (env.monotonic (env.run idl w).2).2

/-- The clock passes every bound if an IDL is run often enough. -/
def Env.Passing (env : Env ω ι η σ) : Prop :=
  ∀ idl w b, ∃ n, b < (env.monotonic (env.run idl ((env.tick idl)^[n] w)).2).1

/-! ### What is claimed -/

/-- The runs of an IDL that all succeeded. -/
def Ran (idl : ι) (runs : List (Event ι)) : Prop := ∀ event ∈ runs, event = .ran idl (.ok ())

/-- Since the IDL that is kept was built, it alone was run, and every run succeeded. -/
def Kept (held : Option ι) (log : List (Event ι)) : Prop :=
  ∀ idl, held = some idl → ∃ before runs, log = before ++ .built (.ok idl) :: runs ∧ Ran idl runs

abbrev State (ω ι : Type) := Option ι × (List (Event ι) × ω)

/-- The call hands out an IDL that has been connected, the one that was kept or a new one if
there was none. -/
structure Handed (env : Env ω ι η σ) (s s' : State ω ι) (idl : ι) : Prop where
  held : s'.1 = some idl
  connected : env.hasEverConnected s'.2.2 idl = true
  origin : ∃ runs, Ran idl runs ∧
    (s.1 = some idl ∧ s'.2.1 = s.2.1 ++ runs ∨
      s.1 = none ∧ s'.2.1 = s.2.1 ++ .built (.ok idl) :: runs)

/-- How a call may end. -/
def Settled (env : Env ω ι η σ) (s : State ω ι) : Outcome Exc (Option ι) → State ω ι → Prop
  | .ok answer, s' => ∃ idl, answer = some idl ∧ Handed env s s' idl
  | .raised e, s' => e.IsHttp ∧ s'.1 = none
  | .outOfFuel, _ => False

/-! ### Building an IDL -/

section Build

variable {env : Env ω ι η σ} {settings : Settings} {log : List (Event ι)}

theorem wp_rewrap_plain {α : Type} {m : Prog ω Exc α} {Q : α → ω → Prop} {w : ω}
    (detail : Exc → String) (h : wp m Q (fun _ _ => True) w) :
    wp (rewrap excPlain detail m) Q (fun e _ => e.IsHttp) w := by
  unfold rewrap
  rw [wp_bind, wp_attempt]
  refine wp_mono h (fun _ _ hq => hq) fun e w' _ => ?_
  cases e with
  | http statusCode text => exact ⟨statusCode, text, rfl⟩
  | other kind message => exact ⟨500, _, rfl⟩

theorem keeps_rewrap {α : Type} {I : ω → Prop} {handles : Exc → Option Exc}
    {detail : Exc → String} {m : Prog ω Exc α} (hm : Keeps I m) :
    Keeps I (Ovsdb.rewrap handles detail m) := by
  refine (hm.attempt fun _ _ _ => trivial).bind fun answer => ?_
  cases answer with
  | ok a => exact .pure a
  | error exc => exact .raise trivial

/-- An operation that is not recorded. -/
theorem keeps_lift {α : Type} (m : Prog ω Exc α) :
    Keeps (fun w : List (Event ι) × ω => w.1 = log) (lift m) := .of_world fun _ h => h

theorem rpcRequest_keeps (method : String) (params : List String) :
    Keeps (fun w => w.1 = log) (rpcRequest env.logged settings method params) := by
  refine (Safe.ofExcept fun _ _ => trivial).bind fun ms => (keeps_lift _).bind fun opened =>
    .ite (.raise trivial) ?_
  refine ((keeps_lift _).tryFinally (keeps_lift _)).bind fun answer => .ite (.raise trivial) ?_
  rcases answer.1.2 with _ | ⟨_ | _⟩
  · exact .raise trivial
  · exact .raise trivial
  · exact .pure _

theorem buildSchemaHelper_keeps :
    Keeps (fun w => w.1 = log) (buildSchemaHelper env.logged settings) := by
  refine (keeps_lift _).bind fun found => .ite (keeps_lift _) ?_
  refine (keeps_rewrap ((rpcRequest_keeps _ _).bind fun result => ?_)).bind fun schema =>
    keeps_rewrap (keeps_lift _)
  cases result with
  | dict schema => exact .pure schema
  | other => exact .raise trivial

theorem createIdl_spec (w : ω) :
    wp (createIdl env.logged settings) (fun idl w' => w'.1 = log ++ [.built (.ok idl)])
      (fun e _ => e.IsHttp) (log, w) := by
  refine wp_rewrap_plain _ ?_
  rw [wp_bind]
  refine wp_mono (buildSchemaHelper_keeps.wp rfl) (fun helper w₁ hw₁ => ?_) fun _ _ _ => trivial
  rw [wp_bind]
  refine wp_mono ((Safe.forEach (fun table => keeps_lift _) settings.tables).wp hw₁)
    (fun _ w₂ hw₂ => ?_) fun _ _ _ => trivial
  refine wp_logging (fun idl w' _ => ?_) fun _ _ _ => trivial
  rw [hw₂]

end Build

/-! ### Running an IDL -/

section Run

variable {env : Env ω ι η σ} {settings : Settings}

/-- A run that raises leaves no IDL behind. -/
theorem runOnce_spec (idl : ι) (w : ω) :
    wp (runOnce env settings) (fun _ s => s.1 = some idl ∧ env.run idl w = (.ok (), s.2))
      (fun e s => e.IsHttp ∧ s.1 = none) (some idl, w) := by
  unfold runOnce
  simp only [wp_bind, wp_locals]
  rw [wp_attempt, wp_lift]
  exact wp_any (fun _ w' hr => ⟨rfl, hr⟩) fun e w' _ => ⟨⟨500, _, rfl⟩, rfl⟩

theorem logged_run_ok {idl : ι} {log : List (Event ι)} {w : ω} {s : List (Event ι) × ω}
    (h : env.logged.run idl (log, w) = (.ok (), s)) :
    s = (log ++ [.ran idl (.ok ())], (env.run idl w).2) := by
  have hwp : wp (env.logged.run idl)
      (fun _ s => s = (log ++ [.ran idl (.ok ())], (env.run idl w).2)) (fun _ _ => True) (log, w) :=
    wp_logging (fun _ w' hr => by rw [hr]) fun _ _ _ => trivial
  have hs := wp_ok hwp h
  exact hs

theorem Ran.snoc {idl : ι} {runs : List (Event ι)} (h : Ran idl runs) :
    Ran idl (runs ++ [.ran idl (.ok ())]) := by
  intro event hevent
  rcases List.mem_append.mp hevent with hold | hnew
  · exact h event hold
  · exact List.mem_singleton.mp hnew

/-- The IDL is kept, and has only been run since the record was `log`. -/
def Running (idl : ι) (log : List (Event ι)) (s : State ω ι) : Prop :=
  s.1 = some idl ∧ ∃ runs, Ran idl runs ∧ s.2.1 = log ++ runs

variable {idl : ι} {log : List (Event ι)}

/-- A recorded run, with what it does to the connection. -/
theorem runOnce_running {s : State ω ι} (hs : Running idl log s) :
    wp (runOnce env.logged settings)
      (fun _ s' => Running idl log s' ∧ s'.2.2 = (env.run idl s.2.2).2)
      (fun e s' => e.IsHttp ∧ s'.1 = none) s := by
  obtain ⟨held, log', w⟩ := s
  obtain ⟨rfl, runs, hruns, rfl⟩ := hs
  refine wp_mono (runOnce_spec idl _) (fun _ s' hs' => ?_) fun _ _ he => he
  obtain ⟨hheld, hrun⟩ := hs'
  have hworld := logged_run_ok hrun
  refine ⟨⟨hheld, runs ++ [.ran idl (.ok ())], hruns.snoc, ?_⟩, ?_⟩
  · rw [hworld, List.append_assoc]
  · rw [hworld]

theorem wp_connected {env : Env ω ι η σ} {s : Option ι × ω} {Q : Bool → Option ι × ω → Prop}
    {E : Exc → Option ι × ω → Prop} (h : s.1 = some idl) :
    wp (connected env) Q E s ↔ Q (env.hasEverConnected s.2 idl) s := by
  obtain ⟨held, w⟩ := s
  obtain rfl : held = some idl := h
  exact Iff.rfl

theorem syncTurn_spec (start : ℚ) {s : State ω ι} (hs : Running idl log s) :
    wp (syncTurn env.logged settings start)
      (fun again s' => if again then Running idl log s' else
        Running idl log s' ∧ env.hasEverConnected s'.2.2 idl = true)
      (fun e s' => e.IsHttp ∧ s'.1 = none) s := by
  unfold syncTurn
  rw [wp_bind, wp_connected hs.1]
  refine (wp_ite _ _).mpr ⟨fun hconnected => ⟨hs, hconnected⟩, fun _ => ?_⟩
  rw [wp_bind]
  refine wp_mono (runOnce_running hs) (fun _ s₁ hs₁ => ?_) fun _ _ he => he
  rw [wp_bind, wp_lift, wp_read]
  exact (wp_ite _ _).mpr ⟨fun _ => ⟨⟨500, _, rfl⟩, rfl⟩, fun _ => hs₁.1⟩

/-- An IDL that was connected before is run once, and stays connected; one that was not is
handed out when it is. -/
theorem sync_spec (hsticky : env.Sticky) (fuel : ℕ) {s : State ω ι} (hs : Running idl log s) :
    wp (sync env.logged settings fuel)
      (fun _ s' => Running idl log s' ∧ env.hasEverConnected s'.2.2 idl = true)
      (fun e s' => e.IsHttp ∧ s'.1 = none) s := by
  obtain ⟨held, log', w⟩ := s
  obtain ⟨rfl, hlog⟩ := hs
  unfold sync
  simp only [wp_bind, wp_locals, wp_lift, wp_read]
  rw [wp_connected rfl]
  refine (wp_ite _ _).mpr ⟨fun hconnected => ?_, fun _ => ?_⟩
  · refine wp_mono (runOnce_running ⟨rfl, hlog⟩) (fun _ s' hs' => ⟨hs'.1, ?_⟩) fun _ _ he => he
    rw [hs'.2]
    exact hsticky idl _ hconnected
  · exact wp_whileFuel (I := Running idl log) _ (fun s' hs' => syncTurn_spec _ hs') fuel _ ⟨rfl, hlog⟩

end Run

/-! ### A call -/

section Call

variable {env : Env ω ι η σ} {settings : Settings}

theorem Running.handed {idl : ι} {s s' : State ω ι} {log : List (Event ι)}
    (h : Running idl log s') (hconnected : env.hasEverConnected s'.2.2 idl = true)
    (hlog : s.1 = some idl ∧ log = s.2.1 ∨ s.1 = none ∧ log = s.2.1 ++ [.built (.ok idl)]) :
    Handed env s s' idl := by
  obtain ⟨hheld, runs, hruns, hlog'⟩ := h
  refine ⟨hheld, hconnected, runs, hruns, ?_⟩
  rcases hlog with ⟨hs, rfl⟩ | ⟨hs, rfl⟩
  · exact .inl ⟨hs, hlog'⟩
  · exact .inr ⟨hs, by rw [hlog', List.append_assoc]; rfl⟩

theorem getIdl_spec (hsticky : env.Sticky) (fuel : ℕ) (s : State ω ι) :
    wp (getIdl env.logged settings fuel)
      (fun answer s' => ∃ idl, answer = some idl ∧ Handed env s s' idl)
      (fun e s' => e.IsHttp ∧ s'.1 = none) s := by
  obtain ⟨held, log, w⟩ := s
  unfold getIdl
  cases held with
  | none =>
    simp only [wp_bind, wp_locals]
    rw [wp_lift]
    refine wp_mono (createIdl_spec w) (fun idl w' hw' => ?_) fun _ _ he => ⟨he, rfl⟩
    have hrunning : Running idl (log ++ [.built (.ok idl)]) (some idl, w') :=
      ⟨rfl, [], fun _ h => absurd h List.not_mem_nil, by rw [hw', List.append_nil]⟩
    rw [wp_setLocals]
    refine wp_mono (sync_spec hsticky fuel hrunning) (fun _ s' hs' => ⟨idl, hs'.1.1, ?_⟩)
      fun _ _ he => he
    exact hs'.1.handed hs'.2 (.inr ⟨rfl, rfl⟩)
  | some idl =>
    simp only [wp_bind, wp_locals]
    have hrunning : Running idl log (some idl, (log, w)) :=
      ⟨rfl, [], fun _ h => absurd h List.not_mem_nil, (List.append_nil log).symm⟩
    refine wp_mono (sync_spec hsticky fuel hrunning) (fun _ s' hs' => ⟨idl, hs'.1.1, ?_⟩)
      fun _ _ he => he
    exact hs'.1.handed hs'.2 (.inl ⟨rfl, rfl⟩)

end Call

/-! ### A call ends -/

section Ends

variable {env : Env ω ι η σ} {settings : Settings}

theorem total_rewrap {α : Type} {handles : Exc → Option Exc} {detail : Exc → String}
    {m : Prog ω Exc α} (hm : Total m) : Total (rewrap handles detail m) := by
  refine hm.attempt.bind fun answer => ?_
  cases answer with
  | ok a => exact .pure a
  | error exc => exact .raise _

theorem Env.Responsive.rpcRequest (h : env.Responsive) (method : String) (params : List String) :
    Total (rpcRequest env settings method params) := by
  refine (Settles.ofExcept _).bind fun ms => (h.openBlock _ _).bind fun opened => .ite (.raise _) ?_
  refine ((h.transactBlock _ _).tryFinally h.close).bind fun answer => .ite (.raise _) ?_
  rcases answer.1.2 with _ | ⟨_ | _⟩
  · exact .raise _
  · exact .raise _
  · exact .pure _

theorem Env.Responsive.createIdl (h : env.Responsive) : Total (createIdl env settings) := by
  have hhelper : Total (buildSchemaHelper env settings) := by
    refine (h.pathExists _).bind fun found => .ite (h.schemaFromFile _) ?_
    refine (total_rewrap ((h.rpcRequest _ _).bind fun result => ?_)).bind fun schema =>
      total_rewrap (h.schemaFromJson schema)
    cases result with
    | dict schema => exact .pure schema
    | other => exact .raise _
  exact total_rewrap (hhelper.bind fun helper =>
    (Settles.forEach (h.registerTable helper) _).bind fun _ => h.newIdl _ helper)

theorem Env.Responsive.runOnce (h : env.Responsive) : Total (runOnce env settings) := by
  refine Settles.bind Total.locals fun held => ?_
  cases held with
  | none => exact .pure ()
  | some idl =>
    refine (Total.lift (h.run idl)).attempt.bind fun answer => ?_
    cases answer with
    | ok _ => exact .pure ()
    | error exc => exact Settles.bind (Total.setLocals none) fun _ => .raise _

theorem total_connected : Total (connected env) := by
  intro s
  obtain ⟨_ | idl, w⟩ := s
  · exact ⟨raised_ne_outOfFuel _, le_rfl⟩
  · exact ⟨ok_ne_outOfFuel _, le_rfl⟩

theorem Env.Responsive.syncTurn (h : env.Responsive) (start : ℚ) :
    Total (syncTurn env settings start) := by
  have hclock : Total (Prog.read env.monotonic : Prog ω Exc ℚ) := .read fun _ => le_rfl
  exact total_connected.bind fun _ => .ite (.pure false) (h.runOnce.bind fun _ =>
    Settles.bind (Total.lift hclock) fun _ =>
      .ite (Settles.bind (Total.setLocals none) fun _ => .raise _) (.pure true))

/-- A turn that goes round has run the IDL and read the clock, and there is time left. -/
theorem syncTurn_again {start : ℚ} {idl : ι} {w : ω} {s : Option ι × ω}
    (h : syncTurn env settings start (some idl, w) = (.ok true, s)) :
    s = (some idl, env.tick idl w) ∧
      PyFloat.lt settings.syncTimeoutS
        (.fin ((env.monotonic (env.run idl w).2).1 - start)) = false := by
  have hwp : wp (syncTurn env settings start) (fun again s => again = true →
      s = (some idl, env.tick idl w) ∧ PyFloat.lt settings.syncTimeoutS
        (.fin ((env.monotonic (env.run idl w).2).1 - start)) = false)
      (fun _ _ => True) (some idl, w) := by
    unfold syncTurn
    rw [wp_bind, wp_connected rfl]
    refine (wp_ite _ _).mpr ⟨fun _ h => absurd h Bool.false_ne_true, fun _ => ?_⟩
    rw [wp_bind]
    refine wp_mono (runOnce_spec idl w) (fun _ s₁ hs₁ => ?_) fun _ _ _ => trivial
    obtain ⟨held, w₁⟩ := s₁
    obtain ⟨rfl, hrun⟩ := hs₁
    rw [wp_bind, wp_lift, wp_read]
    refine (wp_ite _ _).mpr ⟨fun _ => trivial, fun hleft _ => ?_⟩
    simp only [Env.tick, hrun]
    exact ⟨trivial, Bool.eq_false_of_not_eq_true hleft⟩
  exact wp_ok hwp h rfl

/-- The wait loop ends when the clock passes the timeout. -/
theorem ends_wait (h : env.Responsive) {timeout start : ℚ}
    (htimeout : settings.syncTimeoutS = .fin timeout) {idl : ι} {n fuel : ℕ} (hfuel : n < fuel)
    {w : ω} (hpass : start + timeout <
      (env.monotonic (env.run idl ((env.tick idl)^[n] w)).2).1) :
    Ends (whileFuel (syncTurn env settings start) fuel) (some idl, w) := by
  induction n generalizing fuel w with
  | zero =>
    obtain ⟨fuel, rfl⟩ := Nat.exists_eq_add_of_lt hfuel
    refine ends_whileFuel_succ (h.syncTurn start _).1 fun s hr => ?_
    have hleft := (syncTurn_again hr).2
    rw [htimeout, PyFloat.lt_fin, decide_eq_false_iff_not] at hleft
    exact absurd (lt_sub_iff_add_lt'.mpr hpass) hleft
  | succ n ih =>
    obtain ⟨fuel, rfl⟩ := Nat.exists_eq_add_of_lt hfuel
    refine ends_whileFuel_succ (h.syncTurn start _).1 fun s hr => ?_
    rw [(syncTurn_again hr).1]
    exact ih (by omega) hpass

theorem sync_ends (h : env.Responsive) (hpassing : env.Passing) {timeout : ℚ}
    (htimeout : settings.syncTimeoutS = .fin timeout) (idl : ι) (w : ω) :
    ∃ fuel₀, ∀ fuel ≥ fuel₀, Ends (sync env settings fuel) (some idl, w) := by
  obtain ⟨n, hn⟩ := hpassing idl (env.monotonic w).2 ((env.monotonic w).1 + timeout)
  refine ⟨n + 1, fun fuel hfuel => ?_⟩
  refine Ends.bind (ok_ne_outOfFuel _) fun held s hlocals => ?_
  cases hlocals
  refine Ends.bind (ok_ne_outOfFuel _) fun start s hclock => ?_
  cases hclock
  refine Ends.bind (ok_ne_outOfFuel _) fun answer s hconnected => ?_
  cases hconnected
  split_ifs
  · exact (h.runOnce _).1
  · exact ends_wait h htimeout hfuel hn

theorem getIdl_ends (h : env.Responsive) (hpassing : env.Passing) {timeout : ℚ}
    (htimeout : settings.syncTimeoutS = .fin timeout) (s : Option ι × ω) :
    ∃ fuel₀, ∀ fuel ≥ fuel₀, Ends (getIdl env settings fuel) s := by
  obtain ⟨held, w⟩ := s
  cases held with
  | none =>
    have hsync : ∃ fuel₀, ∀ fuel ≥ fuel₀, ∀ idl w', createIdl env settings w = (.ok idl, w') →
        Ends (sync env settings fuel) (some idl, w') := by
      rcases hcreate : createIdl env settings w with ⟨idl | e | _, w'⟩
      · obtain ⟨fuel₀, hfuel₀⟩ := sync_ends h hpassing htimeout idl w'
        refine ⟨fuel₀, fun fuel hfuel idl' w'' heq => ?_⟩
        cases heq
        exact hfuel₀ fuel hfuel
      · exact ⟨0, fun _ _ _ _ heq => by cases heq⟩
      · exact ⟨0, fun _ _ _ _ heq => by cases heq⟩
    obtain ⟨fuel₀, hfuel₀⟩ := hsync
    refine ⟨fuel₀, fun fuel hfuel => ?_⟩
    refine Ends.bind (ok_ne_outOfFuel _) fun held s hlocals => ?_
    cases hlocals
    refine (Total.lift h.createIdl _).1.bind fun idl s hbuilt => ?_
    obtain ⟨hanswer, rfl⟩ := Prod.mk.inj hbuilt
    refine Ends.bind (ok_ne_outOfFuel _) fun _ s hset => ?_
    cases hset
    have hidl : createIdl env settings w = (.ok idl, (createIdl env settings w).2) :=
      Prod.ext hanswer rfl
    exact (hfuel₀ fuel hfuel idl _ hidl).bind fun _ _ _ => ok_ne_outOfFuel _
  | some idl =>
    obtain ⟨fuel₀, hfuel₀⟩ := sync_ends h hpassing htimeout idl w
    refine ⟨fuel₀, fun fuel hfuel => ?_⟩
    refine Ends.bind (ok_ne_outOfFuel _) fun held s hlocals => ?_
    cases hlocals
    exact (hfuel₀ fuel hfuel).bind fun _ _ _ => ok_ne_outOfFuel _

end Ends

/-! ### The recorded libraries -/

section Logged

variable {env : Env ω ι η σ}

theorem Env.Responsive.logged (h : env.Responsive) : env.logged.Responsive where
  pathExists path := Total.lift (h.pathExists path)
  schemaFromFile path := Total.lift (h.schemaFromFile path)
  schemaFromJson schema := Total.lift (h.schemaFromJson schema)
  registerTable helper table := Total.lift (h.registerTable helper table)
  newIdl remote helper := Total.logging _ (h.newIdl remote helper)
  run idl := Total.logging _ (h.run idl)
  openBlock remote ms := Total.lift (h.openBlock remote ms)
  transactBlock method params := Total.lift (h.transactBlock method params)
  close := Total.lift h.close

theorem snd_logging {κ α : Type} (entry : Except Exc α → κ) (m : Prog ω Exc α) (w : List κ × ω) :
    (logging entry m w).2.2 = (m w.2).2 := by
  unfold logging
  rcases m w.2 with ⟨_ | _ | _, w'⟩ <;> rfl

theorem tick_logged (idl : ι) (w : List (Event ι) × ω) :
    (env.logged.tick idl w).2 = env.tick idl w.2 :=
  congrArg (fun w => (env.monotonic w).2) (snd_logging _ _ w)

theorem iterate_tick_logged (idl : ι) (n : ℕ) (w : List (Event ι) × ω) :
    ((env.logged.tick idl)^[n] w).2 = (env.tick idl)^[n] w.2 := by
  induction n generalizing w with
  | zero => rfl
  | succ n ih => rw [Function.iterate_succ_apply, ih, tick_logged, Function.iterate_succ_apply]

theorem Env.Passing.logged (h : env.Passing) : env.logged.Passing := by
  intro idl w b
  obtain ⟨n, hn⟩ := h idl w.2 b
  refine ⟨n, ?_⟩
  have hworld : (env.logged.run idl ((env.logged.tick idl)^[n] w)).2.2 =
      (env.run idl ((env.tick idl)^[n] w.2)).2 := by
    rw [← iterate_tick_logged]
    exact snd_logging _ _ _
  change b < (env.monotonic (env.logged.run idl ((env.logged.tick idl)^[n] w)).2.2).1
  rwa [hworld]

end Logged

/-! ### Sequences of calls -/

/-- A call, or anything else that happens to the world in between. -/
inductive Label (ω : Type) where
  | call (fuel : ℕ)
  | elsewhere (w : ω)

def step (env : Env ω ι η σ) (settings : Settings) (s : State ω ι) :
    Label ω → Option (State ω ι)
  | .call fuel =>
    match getIdl env.logged settings fuel s with
    | (.outOfFuel, _) => none
    | (_, s') => some s'
  | .elsewhere w => some (s.1, (s.2.1, w))

section Calls

variable {env : Env ω ι η σ} {settings : Settings} {s s' : State ω ι}

theorem Handed.kept {idl : ι} (h : Handed env s s' idl) (hs : Kept s.1 s.2.1) :
    Kept s'.1 s'.2.1 := by
  obtain ⟨hheld, -, runs, hruns, horigin⟩ := h
  intro idl' hidl'
  obtain rfl : idl = idl' := Option.some.inj (hheld.symm.trans hidl')
  rcases horigin with ⟨hsame, hlog⟩ | ⟨-, hlog⟩
  · obtain ⟨before, runs', hbefore, hruns'⟩ := hs idl hsame
    refine ⟨before, runs' ++ runs, by rw [hlog, hbefore]; simp, fun event hevent => ?_⟩
    exact (List.mem_append.mp hevent).elim (hruns' event) (hruns event)
  · exact ⟨s.2.1, runs, hlog, hruns⟩

theorem kept_of_none (h : s.1 = none) : Kept s.1 s.2.1 := fun _ hidl => by
  rw [h] at hidl
  cases hidl

theorem Kept.step (hsticky : env.Sticky) {l : Label ω} (h : Kept s.1 s.2.1)
    (hs : Ovsdb.step env settings s l = some s') : Kept s'.1 s'.2.1 := by
  cases l with
  | elsewhere w => exact Option.some.inj hs ▸ h
  | call fuel =>
    have hspec : wp (getIdl env.logged settings fuel) _ _ s := getIdl_spec hsticky fuel s
    unfold Ovsdb.step at hs
    rcases hr : getIdl env.logged settings fuel s with ⟨answer | e | _, s₁⟩ <;>
      simp only [hr] at hs
    · obtain rfl := Option.some.inj hs
      obtain ⟨idl, -, hidl⟩ := wp_ok hspec hr
      exact hidl.kept h
    · obtain rfl := Option.some.inj hs
      exact kept_of_none (wp_raised hspec hr).2
    · cases hs

end Calls

/-- Over every sequence of calls the client keeps an IDL whose runs have all succeeded, or
none, and every call ends: with an IDL that has been connected, or with an `HTTPException` and
no IDL kept. -/
theorem idl_client_synchronised (env : Env ω ι η σ) (settings : Settings) (timeout : ℚ)
    (htimeout : settings.syncTimeoutS = .fin timeout) (hresponsive : env.Responsive)
    (hsticky : env.Sticky) (hpassing : env.Passing) (w : ω) (s : State ω ι)
    (hs : Reach (step env settings) anyStep (none, ([], w)) s) :
    Kept s.1 s.2.1 ∧ ∃ fuel₀, ∀ fuel ≥ fuel₀,
      Settled env s (getIdl env.logged settings fuel s).1 (getIdl env.logged settings fuel s).2 := by
  refine ⟨hs.invariant (I := fun s => Kept s.1 s.2.1) (kept_of_none rfl)
    fun _ _ _ h _ hstep => h.step hsticky hstep, ?_⟩
  obtain ⟨fuel₀, hends⟩ := getIdl_ends hresponsive.logged hpassing.logged htimeout s
  refine ⟨fuel₀, fun fuel hfuel => ?_⟩
  have hspec : wp (getIdl env.logged settings fuel) _ _ s := getIdl_spec hsticky fuel s
  have hended := hends fuel hfuel
  unfold Ends at hended
  rcases hr : getIdl env.logged settings fuel s with ⟨answer | e | _, s'⟩
  · have hanswer := wp_ok hspec hr
    exact hanswer
  · have hraised := wp_raised hspec hr
    exact hraised
  · exact absurd (congrArg Prod.fst hr) hended

/-! ### Three libraries -/

/-- The client of a Southbound database with three seconds to synchronise. -/
def southbound : Settings where
  remote := "tcp:127.0.0.1:6642"
  schemaDbName := "OVN_Southbound"
  schemaPath := "/usr/share/ovn/ovn-sb.ovsschema"
  tables := ["Chassis", "Port_Binding"]
  syncTimeoutS := .fin 3
  syncTimeoutText := "3.0"
  label := "OVN SB"

/-- The schema is there, and everything else is given by what building and running an IDL do
to the world. -/
def plainEnv (build run : ω → ω) (connected : ω → Bool) (clock : ω → ℚ) : Env ω Unit Unit Unit where
  pathExists _ := pure true
  schemaFromFile _ := pure ()
  schemaFromJson _ := pure ()
  registerTable _ _ := pure ()
  newIdl _ _ := Prog.read fun w => ((), build w)
  run _ := Prog.read fun w => ((), run w)
  hasEverConnected w _ := connected w
  openBlock _ _ := pure (0, true)
  transactBlock _ _ := pure (0, none)
  close := pure ()
  monotonic w := (clock w, w)
  strerror _ := ""
  excRepr _ := ""

theorem plainEnv_responsive (build run : ω → ω) (connected : ω → Bool) (clock : ω → ℚ) :
    (plainEnv build run connected clock).Responsive where
  pathExists _ := .pure _
  schemaFromFile _ := .pure _
  schemaFromJson _ := .pure _
  registerTable _ _ := .pure _
  newIdl _ _ := .read fun _ => le_rfl
  run _ := .read fun _ => le_rfl
  openBlock _ _ := .pure _
  transactBlock _ _ := .pure _
  close := .pure _

/-- An IDL that is connected after two runs, each of which takes a second. -/
def connectingEnv : Env ℕ Unit Unit Unit := plainEnv id (· + 1) (2 ≤ ·) fun n => n

theorem connectingEnv_passing : connectingEnv.Passing := by
  intro idl w b
  have htick : ∀ n, (connectingEnv.tick idl)^[n] w = w + n := by
    intro n
    induction n with
    | zero => rfl
    | succ n ih => rw [Function.iterate_succ_apply', ih]; rfl
  obtain ⟨n, hn⟩ := exists_nat_gt b
  refine ⟨n, ?_⟩
  rw [htick]
  change b < ((w + n + 1 : ℕ) : ℚ)
  push_cast
  have hw : (0 : ℚ) ≤ w := Nat.cast_nonneg w
  linarith

theorem idl_client_synchronised_connecting :
    ∃ s, Reach (step connectingEnv southbound) anyStep (none, ([], 0)) s ∧ s.1 = some () ∧
      Kept s.1 s.2.1 ∧ ∃ fuel₀, ∀ fuel ≥ fuel₀,
        Settled connectingEnv s (getIdl connectingEnv.logged southbound fuel s).1
          (getIdl connectingEnv.logged southbound fuel s).2 := by
  obtain ⟨s, hreach, hs⟩ : ∃ s, Reach (step connectingEnv southbound) anyStep (none, ([], 0)) s ∧
      s.1 = some () := exists_reach_of_mem_run [.call 3] (by decide +kernel)
  have hsticky : connectingEnv.Sticky := fun _ w h => by
    have hle : 2 ≤ w := of_decide_eq_true h
    exact decide_eq_true (show 2 ≤ w + 1 by omega)
  exact ⟨s, hreach, hs, idl_client_synchronised connectingEnv southbound 3 rfl
    (plainEnv_responsive _ _ _ _) hsticky connectingEnv_passing 0 s hreach⟩

/-- An IDL that is connected when it is built and no longer after a run. -/
def droppingEnv : Env Bool Unit Unit Unit := plainEnv (fun _ => true) (fun _ => false) id fun _ => 0

def stoppedEnv : Env Unit Unit Unit Unit := plainEnv id id (fun _ => false) fun _ => 0

/-- The first call hands out an IDL that is not connected; the second never ends. -/
theorem unconnected_idl_handed_out :
    (∃ s, getIdl droppingEnv southbound 1 (none, false) = (.ok (some ()), s) ∧
      droppingEnv.hasEverConnected s.2 () = false) ∧
    ∀ fuel, (getIdl stoppedEnv southbound fuel (none, ())).1 = .outOfFuel := by
  refine ⟨⟨_, rfl, rfl⟩, fun fuel => ?_⟩
  have hloop : (whileFuel (syncTurn stoppedEnv southbound 0) fuel (some (), ())).1 = .outOfFuel :=
    whileFuel_outOfFuel (I := fun s => s = (some (), ()))
      (by rintro _ rfl; exact ⟨(some (), ()), by decide +kernel, rfl⟩) fuel rfl
  have hsync : (sync stoppedEnv southbound fuel (some (), ())).1 = .outOfFuel :=
    (congrArg Prod.fst (bind_of_ok rfl)).trans ((congrArg Prod.fst (bind_of_ok rfl)).trans
      ((congrArg Prod.fst (bind_of_ok rfl)).trans hloop))
  exact (congrArg Prod.fst (bind_of_ok rfl)).trans ((congrArg Prod.fst (bind_of_ok rfl)).trans
    ((congrArg Prod.fst (bind_of_ok rfl)).trans (bind_outOfFuel hsync)))

end OvnApi.Ovsdb
