import OvnApi.Core.Command
import OvnApi.Northbound.Concurrent

/-! Which cleanup commands a probe gets to. The `finally` block of `run_prepared_probe` runs
them however the rest has ended, and an `HTTPException` of one of them is noted; any other
exception leaves the loop, and the commands behind it are not attempted. -/

namespace OvnApi.Northbound

open OvnApi.Core Lib Lib.Prog Traces

variable {ω : Type} {env : Env ω} {prepared : PreparedProbe}

def commandsOf (log : List Event) : List (List String) := (issued log).map Prod.fst

/-- The log `after` a probe, of which `before` was there when its cleanup began: the other
commands come first, in their order, and then every cleanup command once, in its order. -/
structure AttemptedInFull (prepared : PreparedProbe) (before after : List Event) : Prop where
  others : commandsOf before <+: prepared.setupCommands ++ [prepared.createCommand]
  cleanup : commandsOf after = commandsOf before ++ prepared.cleanupCommands

/-- Run one after the other from this world, no command but the last raises an exception
that is not an `HTTPException`. -/
def Unbroken (env : Env ω) : List (List String) → ω → Prop
  | [], _ => True
  | argv :: rest, w =>
    match env.run argv w with
    | (.ok _, w') => Unbroken env rest w'
    | (.raised e, w') => (rest = [] ∨ e.httpDetail ≠ none) ∧ Unbroken env rest w'
    | (.outOfFuel, _) => True

/-! ### Before cleanup -/

/-- What the commands issued so far are, in terms of the phase. -/
def Accounts (prepared : PreparedProbe) (commands : List (List String)) : Phase → Prop
  | .setup todo => prepared.setupCommands = commands ++ todo
  | .cleanup todo _ => ∃ done tried, prepared.cleanupCommands = tried ++ todo ∧
      done <+: prepared.setupCommands ++ [prepared.createCommand] ∧ commands = done ++ tried

theorem Issues.accounts {log : List (List String × Bool)} {φ : Phase}
    (h : Issues prepared log φ) : Accounts prepared (log.map Prod.fst) φ := by
  -- cleanup is still to begin
  have hfresh : ∀ commands, commands <+: prepared.setupCommands ++ [prepared.createCommand] →
      Accounts prepared commands (.cleanup prepared.cleanupCommands true) := by
    intro commands hcommands
    exact ⟨commands, [], rfl, hcommands, (List.append_nil _).symm⟩
  induction h with
  | start => exact (List.nil_append _).symm
  | giveUp _ ih =>
    have ih : prepared.setupCommands = _ ++ [] := ih
    apply hfresh
    rw [ih, List.append_nil]
    exact List.prefix_append _ _
  | @command log φ argv ok hissues hcommand ih =>
    rw [List.map_append, List.map_singleton]
    cases φ with
    | setup todo =>
      have ih : prepared.setupCommands = log.map Prod.fst ++ todo := ih
      cases todo with
      | nil =>
        obtain rfl := Option.some.inj hcommand
        have hnext : (Phase.setup []).next prepared ok = .cleanup prepared.cleanupCommands true := by
          cases ok <;> rfl
        rw [hnext]
        apply hfresh
        rw [ih, List.append_nil]
      | cons first rest =>
        obtain rfl := Option.some.inj hcommand
        have hsplit : prepared.setupCommands = log.map Prod.fst ++ [first] ++ rest := by
          rw [ih, List.append_assoc, List.singleton_append]
        cases ok with
        | true => exact hsplit
        | false =>
          apply hfresh
          rw [hsplit, List.append_assoc _ rest]
          exact List.prefix_append _ _
    | cleanup todo clean =>
      obtain ⟨done, tried, hcleanup, hdone, hlog⟩ := ih
      cases todo with
      | nil => cases hcommand
      | cons first rest =>
        obtain rfl := Option.some.inj hcommand
        refine ⟨done, tried ++ [first], ?_, hdone, ?_⟩
        · rw [hcleanup, List.append_assoc, List.singleton_append]
        · rw [hlog, List.append_assoc]

theorem probeBody_commands (env : Env ω) (prepared : PreparedProbe) (fuel : ℕ) (w : ω) :
    wp (probeBody env.logged fuel prepared)
      (fun _ s => commandsOf s.1 <+: prepared.setupCommands ++ [prepared.createCommand])
      (fun _ s => commandsOf s.1 <+: prepared.setupCommands ++ [prepared.createCommand])
      ([], w) := by
  have hothers : ∀ s : List Event × ω,
      Issues prepared (issued s.1) (.cleanup prepared.cleanupCommands true) →
        commandsOf s.1 <+: prepared.setupCommands ++ [prepared.createCommand] := by
    intro s h
    obtain ⟨done, tried, hcleanup, hdone, hlog⟩ := h.accounts
    have hnil : tried = [] := by simpa using hcleanup
    rw [commandsOf, hlog, hnil, List.append_nil]
    exact hdone
  have hbody := (issues_guides env prepared).probeBody fuel (w := ([], w)) .start
  exact wp_mono hbody (fun _ s hs => hothers s hs) fun _ s hs => hothers s hs

/-! ### Cleanup -/

theorem commandsOf_snoc (log : List Event) (argv : List String) (answer : Except Exc Unit) :
    commandsOf (log ++ [.command argv answer]) = commandsOf log ++ [argv] := by
  simp [commandsOf, issued, commandOf]

/-- The loop over the cleanup commands gets through if nothing breaks it. -/
theorem cleanupErrors_attempted (commands : List (List String)) (log : List Event) (w : ω) :
    wp (cleanupErrors env.logged commands)
      (fun _ s => commandsOf s.1 = commandsOf log ++ commands ↔ Unbroken env commands w)
      (fun _ s => commandsOf s.1 = commandsOf log ++ commands ↔ Unbroken env commands w)
      (log, w) := by
  induction commands generalizing log w with
  | nil => simp [cleanupErrors, Unbroken]
  | cons argv rest ih =>
    -- an answered command stands in the log, and the rest is attempted from there
    have hgo : ∀ answer w', (Unbroken env (argv :: rest) w ↔ Unbroken env rest w') →
        ∀ s : List Event × ω,
          (commandsOf s.1 = commandsOf (log ++ [.command argv answer]) ++ rest ↔
            Unbroken env rest w') →
          (commandsOf s.1 = commandsOf log ++ argv :: rest ↔ Unbroken env (argv :: rest) w) := by
      intro answer w' hiff s hs
      rw [hiff, ← hs, commandsOf_snoc, List.append_assoc, List.singleton_append]
    simp only [cleanupErrors, wp_bind]
    refine (wp_attempt _ _ _).mpr (wp_logging ?_ ?_)
    · intro a w' hrun
      have hiff : Unbroken env (argv :: rest) w ↔ Unbroken env rest w' := by
        rw [Unbroken, hrun]
      exact wp_mono (ih _ w') (fun _ s hs => hgo _ w' hiff s hs) fun _ s hs => hgo _ w' hiff s hs
    · intro e w' hrun
      cases e with
      | http code detail =>
        have hiff : Unbroken env (argv :: rest) w ↔ Unbroken env rest w' := by
          rw [Unbroken, hrun]
          simp [Exc.httpDetail]
        refine wp_mono (ih _ w') ?_ fun _ s hs => hgo _ w' hiff s hs
        exact fun _ s hs => hgo _ w' hiff s hs
      | other kind message =>
        have hiff : Unbroken env (argv :: rest) w ↔ rest = [] := by
          rw [Unbroken, hrun]
          constructor
          · intro h
            simpa [Exc.httpDetail] using h.1
          · rintro rfl
            exact ⟨.inl rfl, trivial⟩
        change commandsOf (log ++ _) = _ ↔ _
        rw [hiff, commandsOf_snoc]
        simp [eq_comm]

theorem runCleanup_attempted (env : Env ω) (prepared : PreparedProbe) (log : List Event) (w : ω) :
    wp (runCleanup env.logged prepared)
      (fun _ s => commandsOf s.1 = commandsOf log ++ prepared.cleanupCommands ↔
        Unbroken env prepared.cleanupCommands w)
      (fun _ s => commandsOf s.1 = commandsOf log ++ prepared.cleanupCommands ↔
        Unbroken env prepared.cleanupCommands w)
      (log, w) := by
  simp only [runCleanup, wp_ite, wp_bind, wp_pure]
  constructor
  · intro hempty
    have hnil : prepared.cleanupCommands = [] := List.isEmpty_iff.mp hempty
    simp [hnil, Unbroken]
  · intro _
    apply wp_mono (cleanupErrors_attempted prepared.cleanupCommands log w) _ fun _ _ he => he
    intro errors s hs
    exact ⟨fun _ => hs, fun _ => hs⟩

/-- Whatever was raised before, the cleanup commands are all attempted exactly if none but
the last of them raises an exception that the loop does not catch. -/
theorem cleanup_attempted_iff (env : Env ω) (fuel : ℕ) (prepared : PreparedProbe)
    (w w₁ w' : ω) (before after : List Event) (body outcome : Outcome Exc CanaryProbeResult)
    (hbody : probeBody env.logged fuel prepared ([], w) = (body, (before, w₁)))
    (hrun : runPreparedProbe env.logged fuel prepared ([], w) = (outcome, (after, w')))
    (hends : outcome ≠ .outOfFuel) :
    AttemptedInFull prepared before after ↔ Unbroken env prepared.cleanupCommands w₁ := by
  have hothers := probeBody_commands env prepared fuel w
  have hwhole : wp (runPreparedProbe env.logged fuel prepared)
      (fun _ s => commandsOf s.1 = commandsOf before ++ prepared.cleanupCommands ↔
        Unbroken env prepared.cleanupCommands w₁)
      (fun _ s => commandsOf s.1 = commandsOf before ++ prepared.cleanupCommands ↔
        Unbroken env prepared.cleanupCommands w₁) ([], w) := by
    have hclean := runCleanup_attempted env prepared before w₁
    simp only [runPreparedProbe, wp_bind]
    refine (wp_tryFinally _ _ _).mpr (wp_any ?_ ?_)
    · intro result s hs
      obtain ⟨-, rfl⟩ := Prod.mk.inj (hbody.symm.trans hs)
      exact wp_mono hclean (fun _ _ h => h) fun _ _ h => h
    · intro e s hs
      obtain ⟨-, rfl⟩ := Prod.mk.inj (hbody.symm.trans hs)
      exact wp_mono hclean (fun _ _ h => h) fun _ _ h => h
  have hiff : commandsOf after = commandsOf before ++ prepared.cleanupCommands ↔
      Unbroken env prepared.cleanupCommands w₁ := by
    cases outcome with
    | ok result => exact (wp_ok hwhole hrun :)
    | raised e => exact (wp_raised hwhole hrun :)
    | outOfFuel => exact absurd rfl hends
  have hdone : commandsOf before <+: prepared.setupCommands ++ [prepared.createCommand] := by
    cases body with
    | ok result => exact (wp_ok hothers hbody :)
    | raised e => exact (wp_raised hothers hbody :)
    | outOfFuel =>
      -- a body that does not end never reaches cleanup
      have hout : outcome = .outOfFuel := by
        simp only [runPreparedProbe, bind, Prog.bind, Prog.tryFinally, hbody] at hrun
        exact (Prod.mk.inj hrun).1.symm
      exact absurd hout hends
  exact ⟨fun h => hiff.mp h.cleanup, fun h => ⟨hdone, hiff.mpr h⟩⟩

def localClient : OvnNbCommandClient where
  ovnNbctlBin := "ovn-nbctl"
  ovnNbContainer := ""
  executor := { transport := "local", dockerBin := "docker" }

/-- Commands go to the subprocess layer, in which deleting an ACL ends with this error; the
Northbound database cannot be read. -/
def aclDelEnv (error : SubprocessError) : Env Unit where
  run := localClient.run fun command =>
    if command.contains "acl-del" then raise error else pure ""
  nbIdl := raise (.http 503 "OVN NB is not connected.")
  sbIdl := raise (.http 503 "OVN SB is not connected.")
  dumpOpenflowFlows _ := pure ""
  sleep _ := pure ()
  perfCounter _ := (0, ())
  nowUtc _ := ("", ())

def detachedAcl : CanaryProbeRequest where
  resourceType := .acl
  timeout_pos := defaultTimeout_pos
  poll_ge := defaultPoll_ge

def detachedAclProbe : PreparedProbe :=
  assemble (.uniform 0) detachedAcl (aclPlan (.uniform 0)
    { ref := "canary-target-ls-00000000"
      note := some ("A temporary logical switch 'canary-target-ls-00000000' is created as the " ++
        "canary target.")
      setupCommands := [["ls-add", "canary-target-ls-00000000"]]
      cleanupCommands := [["--if-exists", "ls-del", "canary-target-ls-00000000"]] })

def refusal : SubprocessError := .calledProcess "ovn-nbctl: no such ACL" ""

/-- The deletion of the ACL is refused, and the switch is deleted all the same. -/
theorem cleanup_attempted_iff_refused :
    ∃ before after outcome,
      runPreparedProbe (aclDelEnv refusal).logged 1 detachedAclProbe ([], ()) =
        (outcome, (after, ())) ∧
      AttemptedInFull detachedAclProbe before after := by
  refine ⟨_, _, _, rfl, (cleanup_attempted_iff (aclDelEnv refusal) 1 detachedAclProbe () () () _ _ _ _
    rfl rfl ?_).mpr ?_⟩
  · decide +kernel
  · exact ⟨.inr (Option.some_ne_none _), trivial⟩

def outOfMemory : SubprocessError := .other "OSError" "[Errno 12] Cannot allocate memory"

/-- The deletion of the ACL cannot be forked: the probe raises the error and leaves its
temporary switch behind without having tried to delete it. -/
theorem cleanup_broken_off :
    buildProbe (.error (.http 503 "OVN NB is not connected.")) (.uniform 0) detachedAcl =
        .ok detachedAclProbe ∧
      ∃ body before outcome after,
        probeBody (aclDelEnv outOfMemory).logged 1 detachedAclProbe ([], ()) =
          (body, (before, ())) ∧
        runPreparedProbe (aclDelEnv outOfMemory).logged 1 detachedAclProbe ([], ()) =
          (outcome, (after, ())) ∧
        outcome = .raised (.other "OSError" "[Errno 12] Cannot allocate memory") ∧
        ["--if-exists", "ls-del", "canary-target-ls-00000000"] ∉ commandsOf after ∧
        ¬AttemptedInFull detachedAclProbe before after := by
  refine ⟨rfl, _, _, _, _, rfl, rfl, by decide +kernel, by decide +kernel, fun h => ?_⟩
  have hlength := congrArg List.length h.cleanup
  exact absurd hlength (by decide +kernel)

end OvnApi.Northbound
