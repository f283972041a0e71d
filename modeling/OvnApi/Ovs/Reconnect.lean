import Mathlib.Tactic.Ring
import OvnApi.Lib.Yields
import OvnApi.Ovs.Value

/-! The state machine of `ovs/reconnect.py` that decides when a session connects,
probes its peer and gives up, with exponential backoff. Times are milliseconds of
a clock that may be set back. The subtraction of a time that is still `None` is an
exception, so the methods that subtract are partial. -/

namespace OvnApi.Ovs

open OvnApi.Lib

inductive ReconnectState where
  | void
  | listening
  | backoff
  | connectInProgress
  | active
  | idle
  | reconnect
  deriving DecidableEq

/-- `is_connected` of a state. -/
def ReconnectState.isConnected : ReconnectState → Bool
  | .active => true
  | .idle => true
  | _ => false

/-- What `run` asks its caller to do. -/
inductive ReconnectAction where
  | connect
  | disconnect
  | probe
  deriving DecidableEq

structure Reconnect where
  name : Text
  minBackoff : ℤ
  maxBackoff : ℤ
  probeInterval : ℤ
  passive : Bool
  state : ReconnectState
  stateEntered : ℤ
  backoff : ℤ
  lastActivity : ℤ
  lastConnected : Option ℤ
  lastDisconnected : Option ℤ
  lastReceiveAttempt : Option ℤ
  maxTries : Option ℤ
  backoffFreeTries : ℤ
  nAttemptedConnections : ℕ
  nSuccessfulConnections : ℕ
  totalConnectedDuration : ℤ
  seqno : ℕ

namespace Reconnect

def new (now : ℤ) : Reconnect where
  name := codes "void"
  minBackoff := 1000
  maxBackoff := 8000
  probeInterval := 5000
  passive := false
  state := .void
  stateEntered := now
  backoff := 0
  lastActivity := now
  lastConnected := none
  lastDisconnected := none
  lastReceiveAttempt := some now
  maxTries := none
  backoffFreeTries := 0
  nAttemptedConnections := 0
  nSuccessfulConnections := 0
  totalConnectedDuration := 0
  seqno := 0

/-- What `_transition` writes, once it knows for how long a connection that ends has lasted. -/
def moveTo (r : Reconnect) (now : ℤ) (state : ReconnectState) (duration : ℤ) : Reconnect :=
  let attempted := r.state = .connectInProgress
  { r with
    nAttemptedConnections := r.nAttemptedConnections + if attempted then 1 else 0
    nSuccessfulConnections := r.nSuccessfulConnections + if attempted ∧ state = .active then 1 else 0
    totalConnectedDuration := r.totalConnectedDuration + duration
    seqno := r.seqno + if r.state.isConnected ≠ state.isConnected then 1 else 0
    state := state
    stateEntered := now }

def transition (r : Reconnect) (now : ℤ) (state : ReconnectState) : Option Reconnect :=
  if r.state.isConnected ∧ ¬state.isConnected then
    r.lastConnected.map fun since => r.moveTo now state (now - since)
  else some (r.moveTo now state 0)

def mayRetry (r : Reconnect) : Bool × Reconnect :=
  match r.maxTries with
  | none => (true, r)
  | some n => if 0 < n then (true, { r with maxTries := some (n - 1) }) else (false, r)

def enable (r : Reconnect) (now : ℤ) : Option Reconnect :=
  if r.state = .void then
    match r.mayRetry with
    | (true, r) => (r.transition now .backoff).map ({ · with backoff := 0 })
    | (false, r) => some r
  else some r

def setPassive (r : Reconnect) (passive : Bool) (now : ℤ) : Option Reconnect :=
  if r.passive = passive then some r
  else
    let r := { r with passive := passive }
    if passive then
      if r.state = .connectInProgress ∨ r.state = .reconnect then
        (r.transition now .backoff).map ({ · with backoff := 0 })
      else some r
    else if r.state = .listening then
      match r.mayRetry with
      | (true, r) => (r.transition now .backoff).map ({ · with backoff := 0 })
      | (false, r) => some r
    else some r

def setProbeInterval (r : Reconnect) (probeInterval : ℤ) : Reconnect :=
  { r with probeInterval := if probeInterval ≠ 0 then max 1000 probeInterval else 0 }

def setBackoffFreeTries (r : Reconnect) (tries : ℤ) : Reconnect := { r with backoffFreeTries := tries }

def forceReconnect (r : Reconnect) (now : ℤ) : Option Reconnect :=
  if r.state = .connectInProgress ∨ r.state = .active ∨ r.state = .idle then
    r.transition now .reconnect
  else some r

/-- Whether a connection is over that lasted as long as the backoff before it. -/
def lasted (r : Reconnect) : Option Bool :=
  if r.state.isConnected then
    r.lastConnected.map fun since => r.backoff ≤ r.lastActivity - since || r.passive
  else some false

/-- The part of `disconnected` that sets the next backoff. -/
def backOff (r : Reconnect) : Option Reconnect :=
  if 1 < r.backoffFreeTries then
    some { r with backoffFreeTries := r.backoffFreeTries - 1, backoff := 0 }
  else
    r.lasted.map fun lasted => { r with backoff :=
      if lasted then (if r.passive then 0 else r.minBackoff)
      else if r.backoff < r.minBackoff then r.minBackoff
      else if 2 * r.backoff < r.maxBackoff then 2 * r.backoff
      else r.maxBackoff }

/-- The end of `disconnected`: back off, or give up. -/
def retry (r : Reconnect) (now : ℤ) : Option Reconnect :=
  match r.mayRetry with
  | (false, r) => r.transition now .void
  | (true, r) => r.backOff.bind (·.transition now .backoff)

/-- `disconnected`; the error is only logged. -/
def disconnected (r : Reconnect) (now : ℤ) : Option Reconnect :=
  if r.state = .backoff ∨ r.state = .void then some r
  else if r.state.isConnected then { r with lastDisconnected := some now }.retry now
  else r.retry now

def connecting (r : Reconnect) (now : ℤ) : Option Reconnect :=
  if r.state = .connectInProgress then some r else r.transition now .connectInProgress

def listening (r : Reconnect) (now : ℤ) : Option Reconnect :=
  if r.state = .listening then some r else r.transition now .listening

def listenError (r : Reconnect) (now : ℤ) : Option Reconnect :=
  if r.state = .listening then r.disconnected now else some r

def connected (r : Reconnect) (now : ℤ) : Option Reconnect :=
  if r.state.isConnected then some r
  else
    ((r.connecting now).bind (·.transition now .active)).map ({ · with lastConnected := some now })

def connectFailed (r : Reconnect) (now : ℤ) : Option Reconnect :=
  (r.connecting now).bind (·.disconnected now)

def activity (r : Reconnect) (now : ℤ) : Option Reconnect :=
  (if r.state = .active then some r else r.transition now .active).map ({ · with lastActivity := now })

def receiveAttempted (r : Reconnect) (now : ℤ) : Reconnect := { r with lastReceiveAttempt := some now }

/-- The deadline of a probe that has been due since `base`: it passes only if something has tried
to receive since. -/
def probeDeadline (r : Reconnect) (base now : ℤ) : Option ℤ :=
  if r.probeInterval = 0 then none
  else
    let expiration := base + r.probeInterval
    if now < expiration ∨ r.lastReceiveAttempt.all (expiration ≤ ·) then some expiration
    else some (now + 1)

/-- The `deadline` of each state. -/
def deadline (r : Reconnect) (now : ℤ) : Option ℤ :=
  match r.state with
  | .void => none
  | .listening => none
  | .backoff => some (r.stateEntered + r.backoff)
  | .connectInProgress => some (r.stateEntered + max 1000 r.backoff)
  | .active => r.probeDeadline (max r.lastActivity r.stateEntered) now
  | .idle => r.probeDeadline r.stateEntered now
  | .reconnect => some r.stateEntered

/-- The `run` of each state. -/
def act (r : Reconnect) (now : ℤ) : Option (Option ReconnectAction × Reconnect) :=
  match r.state with
  | .void => some (none, r)
  | .listening => some (none, r)
  | .backoff => some (some .connect, r)
  | .connectInProgress => some (some .disconnect, r)
  | .active => (r.transition now .idle).map (some .probe, ·)
  | .idle => some (some .disconnect, r)
  | .reconnect => some (some .disconnect, r)

def run (r : Reconnect) (now : ℤ) : Option (Option ReconnectAction × Reconnect) :=
  if (r.deadline now).any (· ≤ now) then r.act now else some (none, r)

/-! ### What every method keeps -/

/-- The counters of a machine, and its backoff, are what they can be. -/
structure Counted (r : Reconnect) : Prop where
  /-- the sequence number is odd while connected -/
  parity : r.seqno % 2 = if r.state.isConnected then 1 else 0
  successful : r.nSuccessfulConnections ≤ r.nAttemptedConnections
  bounds : 0 < r.minBackoff ∧ r.minBackoff ≤ r.maxBackoff
  backoff : r.backoff = 0 ∨ ∃ k : ℕ, r.backoff = min r.maxBackoff (r.minBackoff * 2 ^ k)

/-- A machine that knows since when it is connected. -/
structure Sound (r : Reconnect) : Prop extends r.Counted where
  connected : r.state.isConnected = true → r.lastConnected.isSome = true

def settings (r : Reconnect) : Text × ℤ × ℤ × ℤ × Bool :=
  (r.name, r.minBackoff, r.maxBackoff, r.probeInterval, r.passive)

variable {r r' : Reconnect}

theorem sound_new (now : ℤ) : (new now).Sound where
  parity := rfl
  successful := Nat.le_refl 0
  bounds := (by decide : (0 : ℤ) < 1000 ∧ (1000 : ℤ) ≤ 8000)
  backoff := .inl rfl
  connected h := Bool.noConfusion h

theorem counted_moveTo (h : r.Counted) (now : ℤ) (state : ReconnectState) (duration : ℤ) :
    (r.moveTo now state duration).Counted := by
  have hparity := h.parity
  have hsuccessful := h.successful
  refine ⟨?_, ?_, h.bounds, h.backoff⟩
  · cases hfrom : r.state.isConnected <;> cases hto : state.isConnected <;>
      simp only [moveTo, hfrom, hto, Bool.false_eq_true, if_false, if_true, ne_eq, not_true_eq_false,
        not_false_eq_true, reduceCtorEq] at hparity ⊢ <;> omega
  · by_cases hprogress : r.state = .connectInProgress
    · simp only [moveTo, hprogress, true_and, if_true]
      split <;> omega
    · simp only [moveTo, hprogress, false_and, if_false]
      omega

/-- A transition goes through unless the time of a connection that ends is not known. -/
theorem transition_eq (hconnected : r.state.isConnected = true → r.lastConnected.isSome = true)
    (now : ℤ) (state : ReconnectState) :
    ∃ duration, r.transition now state = some (r.moveTo now state duration) := by
  unfold transition
  split
  case isTrue hends =>
    obtain ⟨since, hsince⟩ := Option.isSome_iff_exists.mp (hconnected hends.1)
    exact ⟨now - since, by rw [hsince, Option.map_some]⟩
  case isFalse => exact ⟨0, rfl⟩

/-- To a state that is not connected. -/
theorem Sound.transition (h : r.Sound) (now : ℤ) (state : ReconnectState)
    (hstate : state.isConnected = true → r.lastConnected.isSome = true) :
    Yields (r.transition now state) fun r' => r'.Sound ∧ r'.state = state ∧
      r'.lastConnected = r.lastConnected ∧ r'.settings = r.settings := by
  obtain ⟨duration, heq⟩ := transition_eq h.connected now state
  exact ⟨_, heq, ⟨counted_moveTo h.toCounted now state duration, hstate⟩, rfl, rfl, rfl⟩

theorem Sound.connecting (h : r.Sound) (now : ℤ) :
    Yields (r.connecting now) fun r' => r'.Sound ∧ r'.state = .connectInProgress ∧
      r'.lastConnected = r.lastConnected ∧ r'.settings = r.settings := by
  unfold Reconnect.connecting
  exact yields_ite (fun hstate => yields_some ⟨h, hstate, rfl, rfl⟩) fun _ =>
    h.transition now _ fun h => Bool.noConfusion h

theorem Sound.listening (h : r.Sound) (now : ℤ) :
    Yields (r.listening now) fun r' => r'.Sound ∧ r'.state = .listening ∧ r'.settings = r.settings := by
  unfold Reconnect.listening
  refine yields_ite (fun hstate => yields_some ⟨h, hstate, rfl⟩) fun _ => ?_
  refine (h.transition now .listening fun h => Bool.noConfusion h).mono fun r' hr' => ?_
  exact ⟨hr'.1, hr'.2.1, hr'.2.2.2⟩

theorem Sound.connected_spec (h : r.Sound) (now : ℤ) :
    Yields (r.connected now) fun r' => r'.Sound ∧ r'.state.isConnected = true ∧
      r'.lastConnected.isSome = true ∧ r'.settings = r.settings := by
  unfold Reconnect.connected
  split
  case isTrue hstate => exact ⟨r, rfl, h, hstate, h.connected hstate, rfl⟩
  case isFalse =>
    obtain ⟨r₁, heq₁, hsound₁, -, -, hsettings₁⟩ := h.connecting now
    obtain ⟨duration, heq₂⟩ := transition_eq hsound₁.connected now .active
    have hcounted := counted_moveTo hsound₁.toCounted now .active duration
    refine ⟨{ r₁.moveTo now .active duration with lastConnected := some now }, ?_, ?_, rfl, rfl, hsettings₁⟩
    · rw [heq₁, Option.bind_some, heq₂, Option.map_some]
    · exact ⟨⟨hcounted.parity, hcounted.successful, hcounted.bounds, hcounted.backoff⟩, fun _ => rfl⟩

theorem Sound.activity (h : r.Sound) (hconnected : r.lastConnected.isSome = true) (now : ℤ) :
    Yields (r.activity now) fun r' => r'.Sound ∧ r'.state = .active ∧
      r'.lastConnected = r.lastConnected ∧ r'.settings = r.settings := by
  have hactive : Yields (if r.state = .active then some r else r.transition now .active) fun r' =>
      r'.Sound ∧ r'.state = .active ∧ r'.lastConnected = r.lastConnected ∧ r'.settings = r.settings :=
    yields_ite (fun hstate => yields_some ⟨h, hstate, rfl, rfl⟩) fun _ => h.transition now _ fun _ => hconnected
  refine hactive.map fun r' hr' => ?_
  obtain ⟨hsound, hstate, hlast, hsettings⟩ := hr'
  refine ⟨?_, hstate, hlast, hsettings⟩
  exact ⟨⟨hsound.parity, hsound.successful, hsound.bounds, hsound.backoff⟩, hsound.connected⟩

theorem Sound.forceReconnect (h : r.Sound) (now : ℤ) :
    Yields (r.forceReconnect now) fun r' => r'.Sound ∧ r'.lastConnected = r.lastConnected ∧
      r'.settings = r.settings ∧
      (r'.state = r.state ∨ r'.state = .reconnect ∧
        (r.state = .connectInProgress ∨ r.state = .active ∨ r.state = .idle)) := by
  unfold Reconnect.forceReconnect
  split
  case isTrue hfrom =>
    obtain ⟨r', heq, hsound, hstate, hlast, hsettings⟩ :=
      h.transition now .reconnect fun h => Bool.noConfusion h
    exact ⟨r', heq, hsound, hlast, hsettings, .inr ⟨hstate, hfrom⟩⟩
  case isFalse => exact ⟨r, rfl, h, rfl, rfl, .inl rfl⟩

/-! ### Backoff -/

theorem min_step {least most b : ℤ} {k : ℕ} (hmost : 0 < most)
    (hb : b = min most (least * 2 ^ k)) :
    (if 2 * b < most then 2 * b else most) = min most (least * 2 ^ (k + 1)) := by
  have hdouble : least * 2 ^ (k + 1) = 2 * (least * 2 ^ k) := by ring
  rw [hdouble]
  split <;> omega

/-- The backoff that is set is zero, or the least one doubled some times, up to the greatest. -/
theorem backOff_spec (h : r.Sound) :
    Yields r.backOff fun r' => r'.Sound ∧ r'.state = r.state ∧
      r'.lastConnected = r.lastConnected ∧ r'.settings = r.settings := by
  unfold backOff
  split
  case isTrue =>
    exact ⟨_, rfl, ⟨⟨h.parity, h.successful, h.bounds, .inl rfl⟩, h.connected⟩, rfl, rfl, rfl⟩
  case isFalse =>
    have hlasted : ∃ b, r.lasted = some b := by
      unfold lasted
      split
      case isTrue hstate =>
        obtain ⟨since, hsince⟩ := Option.isSome_iff_exists.mp (h.connected hstate)
        exact ⟨_, by rw [hsince, Option.map_some]⟩
      case isFalse => exact ⟨false, rfl⟩
    obtain ⟨b, hlasted⟩ := hlasted
    obtain ⟨hpos, hle⟩ := h.bounds
    have hleast : r.minBackoff = min r.maxBackoff (r.minBackoff * 2 ^ 0) := by
      rw [pow_zero, mul_one, min_eq_right hle]
    rw [hlasted, Option.map_some]
    refine ⟨_, rfl, ⟨⟨h.parity, h.successful, h.bounds, ?_⟩, h.connected⟩, rfl, rfl, rfl⟩
    dsimp only
    by_cases hb : b = true
    · rw [if_pos hb]
      split
      · exact .inl rfl
      · exact .inr ⟨0, hleast⟩
    · rw [if_neg hb]
      by_cases hlow : r.backoff < r.minBackoff
      · rw [if_pos hlow]
        exact .inr ⟨0, hleast⟩
      · rw [if_neg hlow]
        rcases h.backoff with hzero | ⟨k, hk⟩
        · omega
        · exact .inr ⟨k + 1, min_step (by omega) hk⟩

theorem Sound.mayRetry (h : r.Sound) : r.mayRetry.2.Sound ∧ r.mayRetry.2.state = r.state ∧
    r.mayRetry.2.lastConnected = r.lastConnected ∧ r.mayRetry.2.settings = r.settings := by
  unfold Reconnect.mayRetry
  rcases r.maxTries with _ | n
  · exact ⟨h, rfl, rfl, rfl⟩
  · dsimp only
    split
    · exact ⟨⟨⟨h.parity, h.successful, h.bounds, h.backoff⟩, h.connected⟩, rfl, rfl, rfl⟩
    · exact ⟨h, rfl, rfl, rfl⟩

theorem Sound.retry (h : r.Sound) (now : ℤ) :
    Yields (r.retry now) fun r' => r'.Sound ∧ (r'.state = .backoff ∨ r'.state = .void) ∧
      r'.lastConnected = r.lastConnected ∧ r'.settings = r.settings := by
  obtain ⟨hsound₁, -, hlast₁, hsettings₁⟩ := h.mayRetry
  unfold Reconnect.retry
  generalize r.mayRetry = retry at hsound₁ hlast₁ hsettings₁
  obtain ⟨_ | _, r₁⟩ := retry
  · obtain ⟨r', heq, hsound, hstate, hlast, hsettings⟩ :=
      hsound₁.transition now .void fun h => Bool.noConfusion h
    exact ⟨r', heq, hsound, .inr hstate, hlast.trans hlast₁, hsettings.trans hsettings₁⟩
  · obtain ⟨r₂, heq₂, hsound₂, -, hlast₂, hsettings₂⟩ := backOff_spec hsound₁
    obtain ⟨r', heq, hsound, hstate, hlast, hsettings⟩ :=
      hsound₂.transition now .backoff fun h => Bool.noConfusion h
    refine ⟨r', Option.bind_eq_some_iff.mpr ⟨r₂, heq₂, heq⟩, hsound, .inl hstate,
      hlast.trans (hlast₂.trans hlast₁), hsettings.trans (hsettings₂.trans hsettings₁)⟩

/-- After a disconnection the machine waits, or is out of tries. -/
theorem Sound.disconnected (h : r.Sound) (now : ℤ) :
    Yields (r.disconnected now) fun r' => r'.Sound ∧ (r'.state = .backoff ∨ r'.state = .void) ∧
      r'.lastConnected = r.lastConnected ∧ r'.settings = r.settings := by
  unfold Reconnect.disconnected
  split
  case isTrue hstate => exact ⟨r, rfl, h, hstate, rfl, rfl⟩
  case isFalse =>
    split
    · exact Sound.retry (r := { r with lastDisconnected := some now })
        ⟨⟨h.parity, h.successful, h.bounds, h.backoff⟩, h.connected⟩ now
    · exact h.retry now

theorem Sound.connectFailed (h : r.Sound) (now : ℤ) :
    Yields (r.connectFailed now) fun r' => r'.Sound ∧ (r'.state = .backoff ∨ r'.state = .void) ∧
      r'.settings = r.settings := by
  refine (h.connecting now).bind fun r₁ hr₁ => ?_
  refine (hr₁.1.disconnected now).mono fun r' hr' => ⟨hr'.1, hr'.2.1, ?_⟩
  exact hr'.2.2.2.trans hr₁.2.2.2

theorem Sound.listenError (h : r.Sound) (now : ℤ) :
    Yields (r.listenError now) fun r' => r'.Sound ∧ r'.lastConnected = r.lastConnected ∧
      r'.settings = r.settings ∧ r'.state ≠ .listening ∧
      (r'.state = r.state ∨ r.state = .listening ∧ (r'.state = .backoff ∨ r'.state = .void)) := by
  unfold Reconnect.listenError
  refine yields_ite (fun hstate => ?_) fun hstate => yields_some ⟨h, rfl, rfl, hstate, .inl rfl⟩
  refine (h.disconnected now).mono fun r' hr' => ?_
  obtain ⟨hsound, hwaits, hlast, hsettings⟩ := hr'
  refine ⟨hsound, hlast, hsettings, ?_, .inr ⟨hstate, hwaits⟩⟩
  rcases hwaits with hwaits | hwaits <;> rw [hwaits] <;> decide

/-- In which state `run` asks for what, and the state it then leaves. -/
def Asks (before : ReconnectState) : Option ReconnectAction → ReconnectState → Prop
  | none, after => after = before
  | some .connect, after => before = .backoff ∧ after = .backoff
  | some .disconnect, after =>
    (before = .connectInProgress ∨ before = .idle ∨ before = .reconnect) ∧ after = before
  | some .probe, after => before = .active ∧ after = .idle

theorem Sound.act (h : r.Sound) (now : ℤ) :
    Yields (r.act now) fun out => out.2.Sound ∧ out.2.lastConnected = r.lastConnected ∧
      out.2.settings = r.settings ∧ Asks r.state out.1 out.2.state := by
  unfold Reconnect.act
  cases hstate : r.state with
  | void => exact yields_some ⟨h, rfl, rfl, hstate⟩
  | listening => exact yields_some ⟨h, rfl, rfl, hstate⟩
  | backoff => exact yields_some ⟨h, rfl, rfl, rfl, hstate⟩
  | connectInProgress => exact yields_some ⟨h, rfl, rfl, .inl rfl, hstate⟩
  | idle => exact yields_some ⟨h, rfl, rfl, .inr (.inl rfl), hstate⟩
  | reconnect => exact yields_some ⟨h, rfl, rfl, .inr (.inr rfl), hstate⟩
  | active =>
    refine (h.transition now .idle fun _ => h.connected (hstate ▸ rfl)).map fun r' hr' => ?_
    exact ⟨hr'.1, hr'.2.2.1, hr'.2.2.2, rfl, hr'.2.1⟩

theorem Sound.run (h : r.Sound) (now : ℤ) :
    Yields (r.run now) fun out => out.2.Sound ∧ out.2.lastConnected = r.lastConnected ∧
      out.2.settings = r.settings ∧ Asks r.state out.1 out.2.state := by
  unfold Reconnect.run
  exact yields_ite (fun _ => h.act now) fun _ => yields_some ⟨h, rfl, rfl, rfl⟩

/-! ### Attempts that fail -/

/-- The backoff after the `n`th failure in a row, when `free` attempts need none. -/
def schedule (least most : ℤ) (free n : ℕ) : ℤ :=
  if n < free then 0 else min most (least * 2 ^ (n - free))

/-- The machine after `n` failures in a row, with nothing else in between. -/
structure Failed (least most : ℤ) (free n : ℕ) (r : Reconnect) : Prop where
  state : r.state = .backoff
  maxTries : r.maxTries = none
  bounds : r.minBackoff = least ∧ r.maxBackoff = most
  freeTries : r.backoffFreeTries = max 1 ((free : ℤ) - n)
  backoff : r.backoff = schedule least most free n

variable {least most : ℤ} {free n : ℕ}

theorem transition_of_not_connected (h : r.state.isConnected = false) (now : ℤ)
    (state : ReconnectState) : r.transition now state = some (r.moveTo now state 0) := by
  rw [transition, if_neg (by simp [h])]

theorem connectFailed_of_backoff (hstate : r.state = .backoff) (htries : r.maxTries = none) (now : ℤ) :
    r.connectFailed now =
      (r.moveTo now .connectInProgress 0).backOff.bind (·.transition now .backoff) := by
  have hconnecting : r.connecting now = some (r.moveTo now .connectInProgress 0) := by
    rw [Reconnect.connecting, if_neg (by simp [hstate]), transition_of_not_connected (by rw [hstate]; rfl)]
  have hretry : (r.moveTo now .connectInProgress 0).mayRetry = (true, r.moveTo now .connectInProgress 0) := by
    simp only [Reconnect.mayRetry, moveTo, htries]
  rw [connectFailed, hconnecting, Option.bind_some, Reconnect.disconnected, if_neg (by simp [moveTo]),
    if_neg (by simp [moveTo, ReconnectState.isConnected]), Reconnect.retry, hretry]

/-- What `backOff` does to a machine that was not connected. -/
theorem backOff_of_not_connected (h : r.state.isConnected = false) :
    r.backOff = some { r with
      backoffFreeTries := if 1 < r.backoffFreeTries then r.backoffFreeTries - 1 else r.backoffFreeTries
      backoff :=
        if 1 < r.backoffFreeTries then 0
        else if r.backoff < r.minBackoff then r.minBackoff
        else if 2 * r.backoff < r.maxBackoff then 2 * r.backoff
        else r.maxBackoff } := by
  unfold backOff
  split
  · rfl
  · rw [lasted, h]
    rfl

theorem Failed.next (h : Failed least most free n r) (hleast : 0 < least) (hle : least ≤ most)
    (now : ℤ) :
    Yields (r.connectFailed now) fun r' =>
      Failed least most free (n + 1) r' ∧ r'.stateEntered = now := by
  rw [connectFailed_of_backoff h.state h.maxTries, backOff_of_not_connected rfl, Option.bind_some,
    transition_of_not_connected rfl]
  refine ⟨_, rfl, ⟨rfl, h.maxTries, h.bounds, ?_, ?_⟩, rfl⟩
  · have htries := h.freeTries
    change (if 1 < r.backoffFreeTries then r.backoffFreeTries - 1 else r.backoffFreeTries) = _
    split <;> omega
  · have htries := h.freeTries
    obtain ⟨hmin, hmax⟩ := h.bounds
    have hbackoff := h.backoff
    simp only [moveTo, hmin, hmax]
    unfold schedule at hbackoff ⊢
    by_cases hfirst : n + 1 < free
    · rw [if_pos hfirst, if_pos (by omega)]
    · rw [if_neg hfirst, if_neg (by omega)]
      by_cases hlast : n < free
      · -- the last free attempt has failed
        have hn : n + 1 - free = 0 := by omega
        rw [if_pos hlast] at hbackoff
        rw [if_pos (by omega), hn, pow_zero, mul_one, min_eq_right hle]
      · rw [if_neg hlast] at hbackoff
        have hn : n + 1 - free = n - free + 1 := by omega
        have hpow : least ≤ least * 2 ^ (n - free) :=
          le_mul_of_one_le_right hleast.le (one_le_pow₀ (by decide))
        rw [if_neg (by omega), hn]
        exact min_step (by omega) hbackoff

end Reconnect

end OvnApi.Ovs
