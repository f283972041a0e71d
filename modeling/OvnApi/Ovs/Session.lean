import Mathlib.Logic.Relation
import OvnApi.Lib.Transition
import OvnApi.Lib.Yields
import OvnApi.Ovs.Reconnect
import OvnApi.Ovs.Rpc

/-! The session of `ovs/jsonrpc.py`: a connection that is opened again when it is
lost, as the state machine says. The machine and the session each hold their own
idea of the connection; over every run the two fit, so that no method of the
machine raises. A connection keeps its session's sequence number as long as it
lives, and no other connection ever has it. -/

namespace OvnApi.Ovs

open OvnApi.Lib

def ENOTCONN : ℤ := 107

/-- A session. Of a stream that is being connected or listened on, only whether there is one. -/
structure Session where
  reconnect : Reconnect
  rpc : Option Connection
  stream : Bool
  pstream : Bool
  seqno : ℕ
  remotes : List Text
  nextRemote : ℕ

/-- What `pstream.accept` returns. -/
inductive Accepted where
  | stream
  | again
  | failed

/-- What the outside answers to one call of `run`: the clock at each place it is read, and the
streams. -/
structure Answers where
  now : ℕ → ℤ
  accepted : Accepted
  departures : List Departure
  /-- `stream.connect()` -/
  connect : ℤ
  /-- the error of `Stream.open` or `PassiveStream.open` -/
  opened : ℤ
  probe : List Departure

namespace Connection

def getBacklog (c : Connection) : ℕ := if c.status ≠ 0 then 0 else c.output.length

end Connection

namespace Session

def pickRemote (s : Session) : Option Session :=
  s.remotes[s.nextRemote]?.map fun name =>
    { s with reconnect := { s.reconnect with name := name }
             nextRemote := (s.nextRemote + 1) % s.remotes.length }

/-- The settings of `open_multiple` that depend on the name. -/
def configure (isPassive needsProbes : Text → Bool) (probeInterval : Option ℤ) (now : ℤ)
    (r : Reconnect) : Option Reconnect :=
  (if isPassive r.name then r.setPassive true now else some r).map fun r =>
    if ¬needsProbes r.name then r.setProbeInterval 0
    else (probeInterval.map r.setProbeInterval).getD r

/-- `open_multiple`; `remotes` are in the order that `shuffle` has left. -/
def openMultiple (isPassive needsProbes : Text → Bool) (remotes : List Text)
    (probeInterval : Option ℤ) (now : ℕ → ℤ) : Option Session :=
  let new : Session :=
    { reconnect := .new (now 0), rpc := none, stream := false, pstream := false, seqno := 0
      remotes := remotes, nextRemote := 0 }
  new.pickRemote.bind fun s =>
    ((s.reconnect.enable (now 1)).bind fun r =>
      configure isPassive needsProbes probeInterval (now 2) (r.setBackoffFreeTries remotes.length)).map
      ({ s with reconnect := · })

def disconnect (s : Session) : Option Session :=
  if s.rpc.isSome then pickRemote { s with rpc := none, seqno := s.seqno + 1 }
  else if s.stream then pickRemote { s with stream := false, seqno := s.seqno + 1 }
  else some s

/-- The part of `__connect` that opens a stream. -/
def openStream (s : Session) (a : Answers) : Option Session :=
  if ¬s.reconnect.passive then
    if a.opened = 0 then
      (s.reconnect.connecting (a.now 4)).map fun r => { s with reconnect := r, stream := true }
    else (s.reconnect.connectFailed (a.now 4)).bind fun r => pickRemote { s with reconnect := r }
  else if ¬s.pstream then
    if a.opened = 0 then
      (s.reconnect.listening (a.now 4)).map fun r => { s with reconnect := r, pstream := true }
    else (s.reconnect.connectFailed (a.now 4)).bind fun r => pickRemote { s with reconnect := r }
  else some s

def connect (s : Session) (a : Answers) : Option Session :=
  (s.disconnect.bind (·.openStream a)).map fun s => { s with seqno := s.seqno + 1 }

/-- The part of `run` that accepts a connection. -/
def accept (s : Session) (a : Answers) : Option Session :=
  if ¬s.pstream then some s
  else
    match a.accepted with
    | .stream => s.disconnect.bind fun s =>
      (s.reconnect.connected (a.now 0)).map fun r => { s with reconnect := r, rpc := some {} }
    | .again => some s
    | .failed => (s.reconnect.listenError (a.now 0)).map fun r =>
      { s with reconnect := r, pstream := false }

/-- Data that had been queued went out, or the connection failed. -/
def noteSent (r : Reconnect) (backlog : ℕ) (c : Connection) (now : ℤ) : Option Reconnect :=
  if c.getBacklog < backlog then r.activity now else some r

/-- The part of `run` that moves a connection on. -/
def serve (s : Session) (c : Connection) (a : Answers) : Option Session :=
  let c' := (c.run a.departures).1
  (noteSent s.reconnect c.getBacklog c' (a.now 1)).bind fun r =>
    if c'.status ≠ 0 then
      (r.disconnected (a.now 2)).bind fun r => disconnect { s with reconnect := r, rpc := some c' }
    else some { s with reconnect := r, rpc := some c' }

/-- The part of `run` that moves a stream on that is not connected yet. -/
def connectStream (s : Session) (a : Answers) : Option Session :=
  if a.connect = 0 then
    (s.reconnect.connected (a.now 1)).map fun r =>
      { s with reconnect := r, rpc := some {}, stream := false }
  else if a.connect ≠ EAGAIN then
    ((s.reconnect.connectFailed (a.now 1)).bind fun r => pickRemote { s with reconnect := r }).map
      ({ · with stream := false })
  else some s

/-- The first two parts of `run`. -/
def advance (s : Session) (a : Answers) : Option Session :=
  (s.accept a).bind fun s =>
    match s.rpc with
    | some c => s.serve c a
    | none => if s.stream then s.connectStream a else some s

variable (maxStrDigits : ℕ) (repr : ℚ → Text)

def probe : Message := .createRequest (codes "echo") (.arr []) (.str (codes "echo"))

/-- The part of `run` that does what the machine asks for. -/
def obey (s : Session) (a : Answers) : Option Session :=
  (s.reconnect.run (a.now 3)).bind fun (action, r) =>
    let s := { s with reconnect := r }
    match action with
    | some .connect => s.connect a
    | some .disconnect =>
      (r.disconnected (a.now 4)).bind fun r => disconnect { s with reconnect := r }
    | some .probe => some { s with rpc := s.rpc.map fun c => (c.send repr probe a.probe).2.1 }
    | none => some s

def run (s : Session) (a : Answers) : Option Session := (s.advance a).bind (·.obey repr a)

def send (s : Session) (msg : Message) (answers : List Departure) : ℤ × Session :=
  match s.rpc with
  | some c => ((c.send repr msg answers).1, { s with rpc := some (c.send repr msg answers).2.1 })
  | none => (ENOTCONN, s)

def isEcho : Value → Bool
  | .str s => s = codes "echo"
  | _ => false

/-- What `recv` returns, unless the parser raises. -/
inductive Delivered where
  | message (m : Message)
  | nothing
  | raised

def Delivered.isRaised : Delivered → Bool
  | .raised => true
  | _ => false

/-- The part of `recv` that handles a message: echoes are answered or dropped. -/
def handle (s : Session) (msg : Message) (answers : List Departure) : Delivered × Session :=
  if msg.type = .request ∧ msg.method = some (codes "echo") then
    (.nothing, (s.send repr (.createReply msg.params msg.id) answers).2)
  else if msg.type = .reply ∧ isEcho msg.id then (.nothing, s)
  else (.message msg, s)

/-- Data was received, even if no message is complete. -/
def noteReceived (r : Reconnect) (before after : ℕ) (now : ℤ) : Option Reconnect :=
  if before ≠ after then (r.receiveAttempted now).activity now else some (r.receiveAttempted now)

def recv (s : Session) (arrivals : List Arrival) (answers : List Departure) (now : ℤ) :
    Option (Delivered × Session) :=
  match s.rpc with
  | none => some (.nothing, s)
  | some c =>
    match c.recv maxStrDigits arrivals with
    | (.raised, c', _) => some (.raised, { s with rpc := some c' })
    | (.message msg, c', _) =>
      (noteReceived s.reconnect c.receivedBytes c'.receivedBytes now).map fun r =>
        handle repr { s with reconnect := r, rpc := some c' } msg answers
    | (.failed _, c', _) =>
      (noteReceived s.reconnect c.receivedBytes c'.receivedBytes now).map fun r =>
        (.nothing, { s with reconnect := r, rpc := some c' })

def forceReconnect (s : Session) (now : ℤ) : Option Session :=
  (s.reconnect.forceReconnect now).map ({ s with reconnect := · })

def resetBackoff (s : Session) : Session :=
  let freeTries := s.remotes.length + if s.rpc.isSome then 1 else 0
  { s with reconnect := s.reconnect.setBackoffFreeTries freeTries }

/-! ### Runs -/

inductive Call where
  | run (answers : Answers)
  | send (msg : Message) (answers : List Departure)
  | recv (arrivals : List Arrival) (answers : List Departure) (now : ℤ)
  | forceReconnect (now : ℤ)
  | resetBackoff

/-- The session after a call; `none` where a method of the machine raises. -/
def step (s : Session) : Call → Option Session
  | .run a => s.run repr a
  | .send msg answers => some (s.send repr msg answers).2
  | .recv arrivals answers now => (s.recv maxStrDigits repr arrivals answers now).map (·.2)
  | .forceReconnect now => s.forceReconnect now
  | .resetBackoff => some s.resetBackoff

/-- Whether a call raises: in the machine, or in the parser of the connection. -/
def raises (s : Session) : Call → Bool
  | .recv arrivals answers now =>
    match s.recv maxStrDigits repr arrivals answers now with
    | none => true
    | some out => out.1.isRaised
  | call => (s.step maxStrDigits repr call).isNone

/-! ### The machine and the session -/

/-- Which states of the machine go with a connection, a stream, or neither. -/
def agrees : ReconnectState → Bool → Bool → Bool
  | .active, rpc, stream => rpc && !stream
  | .idle, rpc, stream => rpc && !stream
  | .reconnect, rpc, stream => rpc != stream
  | .connectInProgress, rpc, stream => !rpc && stream
  | _, rpc, stream => !rpc && !stream

/-- What holds even inside a call. -/
structure Base (s : Session) : Prop where
  sound : s.reconnect.Sound
  nextRemote : s.nextRemote < s.remotes.length
  named : s.reconnect.name ∈ s.remotes
  limits : s.reconnect.minBackoff = 1000 ∧ s.reconnect.maxBackoff = 8000
  single : s.rpc.isSome = true → s.stream = false
  since : s.rpc.isSome = true → s.reconnect.lastConnected.isSome = true
  active : s.stream = true → s.reconnect.passive = false
  passive : s.pstream = true → s.reconnect.passive = true

/-- What holds between calls. -/
structure Invariant (s : Session) : Prop extends s.Base where
  agrees : agrees s.reconnect.state s.rpc.isSome s.stream = true
  listens : s.reconnect.state = .listening → s.pstream = true

/-- One call on a connection. -/
inductive Works : Connection → Connection → Prop where
  | run (c : Connection) (answers : List Departure) : Works c (c.run answers).1
  | send (c : Connection) (msg : Message) (answers : List Departure) :
      Works c (c.send repr msg answers).2.1
  | recv (c : Connection) (arrivals : List Arrival) : Works c (c.recv maxStrDigits arrivals).2.1

/-- The sequence number does not go back, and while it stays the connection is the same one. -/
structure Continues (s s' : Session) : Prop where
  seqno : s.seqno ≤ s'.seqno
  same : ∀ c, s.rpc = some c → s'.seqno = s.seqno →
    ∃ c', s'.rpc = some c' ∧ Relation.ReflTransGen (Works maxStrDigits repr) c c'

variable {maxStrDigits repr} {s s' s'' : Session}

theorem Continues.refl (s : Session) : Continues maxStrDigits repr s s :=
  ⟨Nat.le_refl _, fun c hc _ => ⟨c, hc, .refl⟩⟩

theorem Continues.trans (h : Continues maxStrDigits repr s s') (h' : Continues maxStrDigits repr s' s'') :
    Continues maxStrDigits repr s s'' := by
  refine ⟨h.seqno.trans h'.seqno, fun c hc heq => ?_⟩
  have hle := h.seqno
  have hle' := h'.seqno
  obtain ⟨c', hc', hworks⟩ := h.same c hc (by omega)
  obtain ⟨c'', hc'', hworks'⟩ := h'.same c' hc' (by omega)
  exact ⟨c'', hc'', hworks.trans hworks'⟩

/-- The machine moves on; the rest of the session stays. -/
theorem Base.machine (h : Base s) {r : Reconnect} (hsound : r.Sound)
    (hsettings : r.settings = s.reconnect.settings)
    (hsince : s.rpc.isSome = true → r.lastConnected.isSome = true) :
    Base { s with reconnect := r } := by
  have hname : r.name = s.reconnect.name := congrArg Prod.fst hsettings
  have hpassive : r.passive = s.reconnect.passive := congrArg (·.2.2.2.2) hsettings
  have hmin : r.minBackoff = s.reconnect.minBackoff := congrArg (·.2.1) hsettings
  have hmax : r.maxBackoff = s.reconnect.maxBackoff := congrArg (·.2.2.1) hsettings
  refine ⟨hsound, h.nextRemote, ?_, ⟨hmin.trans h.limits.1, hmax.trans h.limits.2⟩, h.single, hsince, ?_, ?_⟩
  · rw [hname]
    exact h.named
  · rw [hpassive]
    exact h.active
  · rw [hpassive]
    exact h.passive

/-! ### Remotes -/

/-- What `pick_remote` leaves alone. -/
structure Picked (s s' : Session) : Prop where
  state : s'.reconnect.state = s.reconnect.state
  rpc : s'.rpc = s.rpc
  stream : s'.stream = s.stream
  pstream : s'.pstream = s.pstream
  seqno : s'.seqno = s.seqno

theorem pickRemote_spec (h : Base s) : Yields s.pickRemote fun s' => Base s' ∧ Picked s s' := by
  unfold pickRemote
  have hlt := h.nextRemote
  have hget : s.remotes[s.nextRemote]? = some s.remotes[s.nextRemote] :=
    List.getElem?_eq_getElem hlt
  rw [hget, Option.map_some]
  have hsound := h.sound
  refine yields_some ⟨⟨?_, Nat.mod_lt _ (Nat.zero_lt_of_lt h.nextRemote), List.getElem_mem _, h.limits, h.single,
    h.since, h.active, h.passive⟩, rfl, rfl, rfl, rfl, rfl⟩
  exact ⟨⟨hsound.parity, hsound.successful, hsound.bounds, hsound.backoff⟩, hsound.connected⟩

/-- After `__disconnect` there is no connection, and the number of one that was there is used up. -/
structure Dropped (s s' : Session) : Prop where
  rpc : s'.rpc = none
  stream : s'.stream = false
  state : s'.reconnect.state = s.reconnect.state
  pstream : s'.pstream = s.pstream
  seqno : s.seqno ≤ s'.seqno
  used : s.rpc.isSome = true → s.seqno < s'.seqno

theorem disconnect_spec (h : Base s) : Yields s.disconnect fun s' => Base s' ∧ Dropped s s' := by
  unfold disconnect
  refine yields_ite (fun hrpc => ?_) fun hrpc => yields_ite (fun hstream => ?_) fun hstream => ?_
  · have hbase : Base { s with rpc := none, seqno := s.seqno + 1 } :=
      ⟨h.sound, h.nextRemote, h.named, h.limits, fun h => Bool.noConfusion h, fun h => Bool.noConfusion h,
        h.active, h.passive⟩
    refine (pickRemote_spec hbase).mono fun s' hs' => ⟨hs'.1, ?_⟩
    have hseqno : s'.seqno = s.seqno + 1 := hs'.2.seqno
    exact ⟨hs'.2.rpc, hs'.2.stream.trans (h.single hrpc), hs'.2.state, hs'.2.pstream, by omega,
      fun _ => by omega⟩
  · have hbase : Base { s with stream := false, seqno := s.seqno + 1 } :=
      ⟨h.sound, h.nextRemote, h.named, h.limits, fun _ => rfl, h.since, fun h => Bool.noConfusion h, h.passive⟩
    refine (pickRemote_spec hbase).mono fun s' hs' => ⟨hs'.1, ?_⟩
    have hseqno : s'.seqno = s.seqno + 1 := hs'.2.seqno
    exact ⟨hs'.2.rpc.trans (Option.not_isSome_iff_eq_none.mp hrpc), hs'.2.stream, hs'.2.state,
      hs'.2.pstream, by omega, fun hsome => absurd hsome hrpc⟩
  · exact yields_some ⟨h, Option.not_isSome_iff_eq_none.mp hrpc, Bool.not_eq_true _ ▸ hstream, rfl, rfl,
      Nat.le_refl _, fun hsome => absurd hsome hrpc⟩

theorem Dropped.continues (h : Dropped s s') : Continues maxStrDigits repr s s' := by
  refine ⟨h.seqno, fun c hc heq => ?_⟩
  have hused := h.used (by rw [hc]; rfl)
  omega

/-- Nothing is connected while the machine waits or has given up. -/
theorem Base.waiting (h : Base s) (hrpc : s.rpc = none) (hstream : s.stream = false)
    (hstate : s.reconnect.state = .backoff ∨ s.reconnect.state = .void) : Invariant s := by
  refine ⟨h, ?_, fun hlistening => ?_⟩
  · rw [hrpc, hstream]
    rcases hstate with hstate | hstate <;> rw [hstate] <;> rfl
  · rcases hstate with hstate | hstate <;> rw [hstate] at hlistening <;> cases hlistening

theorem Dropped.invariant (h : Dropped s s') (hbase : Base s')
    (hstate : s.reconnect.state = .backoff ∨ s.reconnect.state = .void) : Invariant s' :=
  hbase.waiting h.rpc h.stream (h.state ▸ hstate)

/-! ### The parts of `run` -/

theorem agrees_connected {state : ReconnectState} (h : state.isConnected = true) :
    agrees state true false = true := by
  cases state <;> first | rfl | cases h

/-- A connection that has just been made, in place of what there was. -/
theorem Base.connected (h : Base s) {r : Reconnect} (hsound : r.Sound)
    (hstate : r.state.isConnected = true) (hsince : r.lastConnected.isSome = true)
    (hsettings : r.settings = s.reconnect.settings) (c : Connection) :
    Invariant { s with reconnect := r, rpc := some c, stream := false } := by
  have hbase := h.machine hsound hsettings fun _ => hsince
  refine ⟨⟨hsound, h.nextRemote, hbase.named, hbase.limits, fun _ => rfl, fun _ => hsince, fun h => Bool.noConfusion h,
    hbase.passive⟩, agrees_connected hstate, fun hlistening => ?_⟩
  rw [hlistening] at hstate
  cases hstate

/-- Nothing that was connected stays in place. -/
theorem continues_of_none (hrpc : s.rpc = none) (hseqno : s.seqno ≤ s'.seqno) :
    Continues maxStrDigits repr s s' := by
  refine ⟨hseqno, fun c hc => ?_⟩
  rw [hrpc] at hc
  cases hc

theorem agrees_waiting {state : ReconnectState} {rpc stream : Bool}
    (h : state = .backoff ∨ state = .void ∨ state = .listening) (hagrees : agrees state rpc stream = true) :
    rpc = false ∧ stream = false := by
  have hboth : (!rpc && !stream) = true := by
    rcases h with rfl | rfl | rfl <;> exact hagrees
  simpa using hboth

theorem accept_spec (h : Invariant s) (a : Answers) :
    Yields (s.accept a) fun s' => Invariant s' ∧ Continues maxStrDigits repr s s' := by
  unfold accept
  refine yields_ite (fun _ => yields_some ⟨h, .refl s⟩) fun hpstream => ?_
  cases a.accepted with
  | stream =>
    refine (disconnect_spec h.toBase).bind fun s₁ hs₁ => ?_
    obtain ⟨hbase, hdropped⟩ := hs₁
    refine (hbase.sound.connected_spec (a.now 0)).map fun r hr => ?_
    obtain ⟨hsound, hstate, hsince, hsettings⟩ := hr
    have hnew := hbase.connected hsound hstate hsince hsettings {}
    rw [← hdropped.stream] at hnew
    exact ⟨hnew, hdropped.continues.trans (continues_of_none hdropped.rpc (Nat.le_refl _))⟩
  | again => exact yields_some ⟨h, .refl s⟩
  | failed =>
    refine (h.sound.listenError (a.now 0)).map fun r hr => ?_
    obtain ⟨hsound, hlast, hsettings, hlistening, hstate⟩ := hr
    have hbase := h.machine hsound hsettings fun hrpc => hlast ▸ h.since hrpc
    refine ⟨⟨⟨hsound, h.nextRemote, hbase.named, hbase.limits, h.single, hbase.since, hbase.active,
      fun h => Bool.noConfusion h⟩, ?_, fun hstate => absurd hstate hlistening⟩,
      ⟨Nat.le_refl _, fun c hc _ => ⟨c, hc, .refl⟩⟩⟩
    rcases hstate with hsame | ⟨hfrom, hto⟩
    · exact hsame ▸ h.agrees
    · obtain ⟨hrpc, hstream⟩ := agrees_waiting (.inr (.inr hfrom)) h.agrees
      dsimp only
      rw [hrpc, hstream]
      rcases hto with hto | hto <;> rw [hto] <;> rfl

/-- The machine has stayed where it was, or is connected. -/
structure Serves (r₀ r : Reconnect) : Prop where
  sound : r.Sound
  settings : r.settings = r₀.settings
  since : r.lastConnected.isSome = true
  state : r.state = r₀.state ∨ r.state.isConnected = true

theorem activity_serves {r₀ : Reconnect} (h : r₀.Sound) (hsince : r₀.lastConnected.isSome = true) (now : ℤ) :
    Yields (r₀.activity now) (Serves r₀) := by
  refine (h.activity hsince now).mono fun r hr => ?_
  exact ⟨hr.1, hr.2.2.2, hr.2.2.1 ▸ hsince, .inr (by rw [hr.2.1]; rfl)⟩

/-- The session after the machine has moved from one connected state to another. -/
theorem Invariant.served (h : Invariant s) {c c' : Connection} (hc : s.rpc = some c) {r : Reconnect}
    (hr : Serves s.reconnect r) : Invariant { s with reconnect := r, rpc := some c' } := by
  obtain ⟨hsound, hsettings, hsince, hstate⟩ := hr
  have hbase := h.machine hsound hsettings fun _ => hsince
  have hsome : s.rpc.isSome = true := by rw [hc]; rfl
  have hstream := h.single hsome
  have hagrees := h.agrees
  rw [hsome, hstream] at hagrees
  refine ⟨⟨hsound, h.nextRemote, hbase.named, hbase.limits, fun _ => hstream, fun _ => hsince, hbase.active,
    hbase.passive⟩, ?_, fun hlistening => ?_⟩
  · dsimp only
    rw [hstream]
    rcases hstate with hstate | hstate
    · rw [hstate]
      exact hagrees
    · exact agrees_connected hstate
  · rcases hstate with hstate | hstate
    · exact h.listens (hstate.symm.trans hlistening)
    · rw [hlistening] at hstate
      cases hstate

/-- The session with what its machine and its connection have become. -/
theorem Invariant.works (h : Invariant s) {c c' : Connection} (hc : s.rpc = some c)
    (hworks : Works maxStrDigits repr c c') {r : Reconnect} (hr : Serves s.reconnect r) :
    Invariant { s with reconnect := r, rpc := some c' } ∧
      Continues maxStrDigits repr s { s with reconnect := r, rpc := some c' } := by
  refine ⟨h.served hc hr, Nat.le_refl _, fun c₁ hc₁ _ => ⟨_, rfl, ?_⟩⟩
  obtain rfl := Option.some.inj (hc₁.symm.trans hc)
  exact .single hworks

theorem noteSent_spec (h : Invariant s) {c : Connection} (hc : s.rpc = some c) (backlog : ℕ)
    (c' : Connection) (now : ℤ) :
    Yields (noteSent s.reconnect backlog c' now) (Serves s.reconnect) := by
  have hsince := h.since (by rw [hc]; rfl)
  exact yields_ite (fun _ => activity_serves h.sound hsince now) fun _ =>
    yields_some ⟨h.sound, rfl, hsince, .inl rfl⟩

theorem serve_spec (h : Invariant s) {c : Connection} (hc : s.rpc = some c) (a : Answers) :
    Yields (s.serve c a) fun s' => Invariant s' ∧ Continues maxStrDigits repr s s' := by
  unfold serve
  refine (noteSent_spec h hc _ _ _).bind fun r hr => ?_
  have hserved : _ ∧ Continues maxStrDigits repr s _ := h.works hc (.run c a.departures) hr
  refine yields_ite (fun _ => ?_) fun _ => yields_some hserved
  refine (hr.sound.disconnected (a.now 2)).bind fun r' hr' => ?_
  obtain ⟨hsound', hwaits, hlast, hsettings'⟩ := hr'
  have hbase : Base { s with reconnect := r', rpc := some (c.run a.departures).1 } :=
    hserved.1.machine hsound' hsettings' fun _ => hlast ▸ hr.since
  refine (disconnect_spec hbase).mono fun s' hs' => ?_
  obtain ⟨hbase', hdropped⟩ := hs'
  have hgone : Continues maxStrDigits repr s s' := by
    refine ⟨hdropped.seqno, fun c₁ _ heq => ?_⟩
    have hused := hdropped.used rfl
    exact absurd heq (Nat.ne_of_gt hused)
  exact ⟨hdropped.invariant hbase' hwaits, hgone⟩

theorem Base.noStream (h : Base s) : Base { s with stream := false } :=
  ⟨h.sound, h.nextRemote, h.named, h.limits, fun _ => rfl, h.since, fun h => Bool.noConfusion h, h.passive⟩

/-- An attempt that fails leaves a session that waits, on to the next remote. -/
theorem connectFailed_spec (h : Base s) (hrpc : s.rpc = none) (now : ℤ) :
    Yields ((s.reconnect.connectFailed now).bind fun r => pickRemote { s with reconnect := r })
      fun s' => Invariant { s' with stream := false } ∧ s'.stream = s.stream ∧ s'.seqno = s.seqno := by
  refine (h.sound.connectFailed now).bind fun r hr => ?_
  obtain ⟨hsound, hstate, hsettings⟩ := hr
  have hbase : Base { s with reconnect := r } :=
    h.machine hsound hsettings fun hsome => absurd hsome (by rw [hrpc]; decide)
  refine (pickRemote_spec hbase).mono fun s' hs' => ?_
  obtain ⟨hbase', hpicked⟩ := hs'
  exact ⟨hbase'.noStream.waiting (hpicked.rpc.trans hrpc) rfl (by
    have hsame : s'.reconnect.state = r.state := hpicked.state
    rwa [← hsame] at hstate), hpicked.stream, hpicked.seqno⟩

theorem connectStream_spec (h : Invariant s) (hrpc : s.rpc = none) (a : Answers) :
    Yields (s.connectStream a) fun s' => Invariant s' ∧ Continues maxStrDigits repr s s' := by
  unfold connectStream
  refine yields_ite (fun _ => ?_) fun _ => yields_ite (fun _ => ?_) fun _ => yields_some ⟨h, .refl s⟩
  · refine (h.sound.connected_spec (a.now 1)).map fun r hr => ?_
    obtain ⟨hsound, hstate, hsince, hsettings⟩ := hr
    exact ⟨h.connected hsound hstate hsince hsettings {}, continues_of_none hrpc (Nat.le_refl _)⟩
  · refine (connectFailed_spec h.toBase hrpc (a.now 1)).map fun s' hs' => ?_
    exact ⟨hs'.1, continues_of_none hrpc (Nat.le_of_eq hs'.2.2.symm)⟩

theorem advance_spec (h : Invariant s) (a : Answers) :
    Yields (s.advance a) fun s' => Invariant s' ∧ Continues maxStrDigits repr s s' := by
  have haccept : Yields (s.accept a) fun s' => Invariant s' ∧ Continues maxStrDigits repr s s' :=
    accept_spec h a
  unfold advance
  refine haccept.bind fun s₁ hs₁ => ?_
  obtain ⟨hinv, hcontinues⟩ := hs₁
  cases hrpc : s₁.rpc with
  | some c =>
    exact (serve_spec hinv hrpc a).mono fun s' hs' => ⟨hs'.1, hcontinues.trans hs'.2⟩
  | none =>
    refine yields_ite (fun _ => ?_) fun _ => yields_some ⟨hinv, hcontinues⟩
    exact (connectStream_spec hinv hrpc a).mono fun s' hs' => ⟨hs'.1, hcontinues.trans hs'.2⟩

theorem openStream_spec (h : Base s) (hrpc : s.rpc = none) (hstream : s.stream = false)
    (hstate : s.reconnect.state = .backoff) (a : Answers) :
    Yields (s.openStream a) fun s' => Invariant s' ∧ s'.seqno = s.seqno := by
  have hnone : ¬s.rpc.isSome = true := by
    rw [hrpc]
    decide
  have hfailed : Yields ((s.reconnect.connectFailed (a.now 4)).bind fun r =>
      pickRemote { s with reconnect := r }) fun s' => Invariant s' ∧ s'.seqno = s.seqno := by
    refine (connectFailed_spec h hrpc (a.now 4)).mono fun s' hs' => ⟨?_, hs'.2.2⟩
    have hinv := hs'.1
    rwa [← hstream, ← hs'.2.1] at hinv
  unfold openStream
  refine yields_ite (fun hpassive => yields_ite (fun _ => ?_) fun _ => hfailed) fun hpassive =>
    yields_ite (fun _ => yields_ite (fun _ => ?_) fun _ => hfailed) fun _ => ?_
  · refine (h.sound.connecting (a.now 4)).map fun r hr => ?_
    obtain ⟨hsound, hprogress, -, hsettings⟩ := hr
    have hbase := h.machine hsound hsettings fun hsome => absurd hsome hnone
    have hsame : r.passive = s.reconnect.passive := congrArg (·.2.2.2.2) hsettings
    refine ⟨⟨⟨hsound, h.nextRemote, hbase.named, hbase.limits, fun hsome => absurd hsome hnone, hbase.since,
      fun _ => ?_, hbase.passive⟩, ?_, fun hlistening => ?_⟩, rfl⟩
    · exact hsame.trans (Bool.not_eq_true _ ▸ hpassive)
    · dsimp only
      rw [hrpc, hprogress]
      rfl
    · rw [hprogress] at hlistening
      cases hlistening
  · refine (h.sound.listening (a.now 4)).map fun r hr => ?_
    obtain ⟨hsound, hlistening, hsettings⟩ := hr
    have hbase := h.machine hsound hsettings fun hsome => absurd hsome hnone
    have hsame : r.passive = s.reconnect.passive := congrArg (·.2.2.2.2) hsettings
    refine ⟨⟨⟨hsound, h.nextRemote, hbase.named, hbase.limits, h.single, hbase.since, hbase.active, fun _ => ?_⟩, ?_,
      fun _ => rfl⟩, rfl⟩
    · exact hsame.trans (not_not.mp hpassive)
    · dsimp only
      rw [hrpc, hstream, hlistening]
      rfl
  · exact yields_some ⟨h.waiting hrpc hstream (.inl hstate), rfl⟩

theorem connect_spec (h : Invariant s) (hstate : s.reconnect.state = .backoff) (a : Answers) :
    Yields (s.connect a) fun s' => Invariant s' ∧ Continues maxStrDigits repr s s' := by
  unfold connect
  refine Yields.map (P := fun s' => Invariant s' ∧ s.seqno ≤ s'.seqno) ?_ fun s' hs' => ?_
  · refine (disconnect_spec h.toBase).bind fun s₁ hs₁ => ?_
    obtain ⟨hbase, hdropped⟩ := hs₁
    refine (openStream_spec hbase hdropped.rpc hdropped.stream (hdropped.state.trans hstate) a).mono
      fun s' hs' => ⟨hs'.1, hs'.2 ▸ hdropped.seqno⟩
  · have hrpc : s.rpc = none := by
      have hnone := (agrees_waiting (.inl hstate) h.agrees).1
      exact Option.not_isSome_iff_eq_none.mp (Bool.not_eq_true _ ▸ hnone)
    obtain ⟨hinv, hseqno⟩ := hs'
    refine ⟨⟨⟨hinv.sound, hinv.nextRemote, hinv.named, hinv.limits, hinv.single, hinv.since, hinv.active,
      hinv.passive⟩, hinv.agrees, hinv.listens⟩, continues_of_none hrpc (Nat.le_succ_of_le hseqno)⟩

/-- The machine was asked and did not change its state. -/
theorem Invariant.unmoved (h : Invariant s) {r : Reconnect} (hsound : r.Sound)
    (hsettings : r.settings = s.reconnect.settings) (hlast : r.lastConnected = s.reconnect.lastConnected)
    (hstate : r.state = s.reconnect.state) : Invariant { s with reconnect := r } := by
  refine ⟨h.machine hsound hsettings fun hsome => hlast ▸ h.since hsome, ?_, fun hlistening => ?_⟩
  · exact hstate ▸ h.agrees
  · exact h.listens (hstate.symm.trans hlistening)

theorem obey_spec (h : Invariant s) (a : Answers) :
    Yields (s.obey repr a) fun s' => Invariant s' ∧ Continues maxStrDigits repr s s' := by
  unfold obey
  refine (h.sound.run (a.now 3)).bind fun out hout => ?_
  obtain ⟨action, r⟩ := out
  obtain ⟨hsound, hlast, hsettings, hasks⟩ := hout
  have hbase : Base { s with reconnect := r } :=
    h.machine hsound hsettings fun hsome => hlast ▸ h.since hsome
  have hkept : Continues maxStrDigits repr s { s with reconnect := r } :=
    ⟨Nat.le_refl _, fun c hc _ => ⟨c, hc, .refl⟩⟩
  rcases action with _ | _ | _ | _
  · exact yields_some ⟨h.unmoved hsound hsettings hlast hasks, hkept⟩
  · obtain ⟨hfrom, hto⟩ := hasks
    have hinv := h.unmoved hsound hsettings hlast (hto.trans hfrom.symm)
    exact (connect_spec hinv hto a).mono fun s' hs' => ⟨hs'.1, hkept.trans hs'.2⟩
  · refine (hsound.disconnected (a.now 4)).bind fun r' hr' => ?_
    obtain ⟨hsound', hwaits, hlast', hsettings'⟩ := hr'
    have hbase' : Base { s with reconnect := r' } :=
      hbase.machine hsound' hsettings' fun hsome => hlast' ▸ hbase.since hsome
    refine (disconnect_spec hbase').mono fun s' hs' => ⟨hs'.2.invariant hs'.1 hwaits, ?_⟩
    refine ⟨hs'.2.seqno, fun c hc heq => ?_⟩
    have hused : s.seqno < s'.seqno := hs'.2.used (by exact congrArg Option.isSome hc)
    omega
  · obtain ⟨hfrom, hto⟩ := hasks
    have hagrees := h.agrees
    rw [hfrom] at hagrees
    have hsome : s.rpc.isSome = true := (Bool.and_eq_true_iff.mp hagrees).1
    obtain ⟨c, hc⟩ := Option.isSome_iff_exists.mp hsome
    have hserves : Serves s.reconnect r := ⟨hsound, hsettings, hlast ▸ h.since hsome, .inr (by rw [hto]; rfl)⟩
    dsimp only
    rw [hc, Option.map_some]
    exact yields_some (h.works hc (.send c probe a.probe) hserves)

theorem run_spec (h : Invariant s) (a : Answers) :
    Yields (s.run repr a) fun s' => Invariant s' ∧ Continues maxStrDigits repr s s' := by
  have hadvance : Yields (s.advance a) fun s' => Invariant s' ∧ Continues maxStrDigits repr s s' :=
    advance_spec h a
  refine hadvance.bind fun s₁ hs₁ => ?_
  exact (obey_spec hs₁.1 a).mono fun s' hs' => ⟨hs'.1, hs₁.2.trans hs'.2⟩

/-! ### The other calls -/

theorem send_spec (h : Invariant s) (msg : Message) (answers : List Departure) :
    Invariant (s.send repr msg answers).2 ∧
      Continues maxStrDigits repr s (s.send repr msg answers).2 := by
  unfold send
  cases hrpc : s.rpc with
  | none => exact ⟨h, .refl s⟩
  | some c =>
    have hsince := h.since (by rw [hrpc]; rfl)
    exact h.works hrpc (.send c msg answers) ⟨h.sound, rfl, hsince, .inl rfl⟩

theorem handle_spec (h : Invariant s) (msg : Message) (answers : List Departure) :
    Invariant (s.handle repr msg answers).2 ∧
      Continues maxStrDigits repr s (s.handle repr msg answers).2 := by
  unfold handle
  split
  · exact send_spec h _ answers
  · split
    · exact ⟨h, .refl s⟩
    · exact ⟨h, .refl s⟩

theorem noteReceived_spec (h : Invariant s) {c : Connection} (hc : s.rpc = some c) (before after : ℕ)
    (now : ℤ) :
    Yields (noteReceived s.reconnect before after now) (Serves s.reconnect) := by
  have hsince := h.since (by rw [hc]; rfl)
  have hsound := h.sound
  have hattempted : (s.reconnect.receiveAttempted now).Sound :=
    ⟨⟨hsound.parity, hsound.successful, hsound.bounds, hsound.backoff⟩, hsound.connected⟩
  refine yields_ite (fun _ => (activity_serves hattempted hsince now).mono fun r hr => ?_) fun _ =>
    yields_some ⟨hattempted, rfl, hsince, .inl rfl⟩
  exact { hr with }

theorem recv_spec (h : Invariant s) (arrivals : List Arrival) (answers : List Departure) (now : ℤ) :
    Yields (s.recv maxStrDigits repr arrivals answers now) fun out =>
      Invariant out.2 ∧ Continues maxStrDigits repr s out.2 := by
  unfold recv
  cases hrpc : s.rpc with
  | none => exact yields_some ⟨h, .refl s⟩
  | some c =>
    have hreceived : ∀ {r : Reconnect}, Serves s.reconnect r →
        Invariant { s with reconnect := r, rpc := some (c.recv maxStrDigits arrivals).2.1 } ∧
          Continues maxStrDigits repr s
            { s with reconnect := r, rpc := some (c.recv maxStrDigits arrivals).2.1 } :=
      h.works hrpc (.recv c arrivals)
    dsimp only
    generalize c.recv maxStrDigits arrivals = out at hreceived
    obtain ⟨_ | _ | _, c', left⟩ := out
    · refine (noteReceived_spec h hrpc _ _ now).map fun r hr => ?_
      obtain ⟨hinv, hcontinues⟩ := hreceived hr
      obtain ⟨hinv', hcontinues'⟩ := handle_spec hinv _ answers
      exact ⟨hinv', hcontinues.trans hcontinues'⟩
    · exact (noteReceived_spec h hrpc _ _ now).map fun r hr => hreceived hr
    · exact yields_some (hreceived ⟨h.sound, rfl, h.since (by rw [hrpc]; rfl), .inl rfl⟩)

theorem agrees_reconnect {state : ReconnectState} {rpc stream : Bool}
    (h : state = .connectInProgress ∨ state = .active ∨ state = .idle)
    (hagrees : agrees state rpc stream = true) : agrees .reconnect rpc stream = true := by
  rcases h with rfl | rfl | rfl <;> cases rpc <;> cases stream <;> first | rfl | cases hagrees

theorem forceReconnect_spec (h : Invariant s) (now : ℤ) :
    Yields (s.forceReconnect now) fun s' => Invariant s' ∧ Continues maxStrDigits repr s s' := by
  refine (h.sound.forceReconnect now).map fun r hr => ?_
  obtain ⟨hsound, hlast, hsettings, hstate⟩ := hr
  have hkept : Continues maxStrDigits repr s { s with reconnect := r } :=
    ⟨Nat.le_refl _, fun c hc _ => ⟨c, hc, .refl⟩⟩
  refine ⟨?_, hkept⟩
  rcases hstate with hsame | ⟨hto, hfrom⟩
  · exact h.unmoved hsound hsettings hlast hsame
  · refine ⟨h.machine hsound hsettings fun hsome => hlast ▸ h.since hsome, ?_, fun hlistening => ?_⟩
    · dsimp only
      rw [hto]
      exact agrees_reconnect hfrom h.agrees
    · rw [hto] at hlistening
      cases hlistening

theorem resetBackoff_spec (h : Invariant s) :
    Invariant s.resetBackoff ∧ Continues maxStrDigits repr s s.resetBackoff := by
  have hsound := h.sound
  refine ⟨h.unmoved ?_ rfl rfl rfl, Nat.le_refl _, fun c hc _ => ⟨c, hc, .refl⟩⟩
  exact ⟨⟨hsound.parity, hsound.successful, hsound.bounds, hsound.backoff⟩, hsound.connected⟩

/-- No call raises, and each keeps the invariant. -/
theorem step_spec (h : Invariant s) (call : Call) :
    Yields (s.step maxStrDigits repr call) fun s' => Invariant s' ∧ Continues maxStrDigits repr s s' := by
  cases call with
  | run a => exact run_spec h a
  | send msg answers => exact yields_some (send_spec h msg answers)
  | recv arrivals answers now => exact (recv_spec h arrivals answers now).map fun _ hout => hout
  | forceReconnect now => exact forceReconnect_spec h now
  | resetBackoff => exact yields_some (resetBackoff_spec h)

theorem invariant_reach {s₀ : Session} (h : Invariant s₀)
    (hreach : Reach (step maxStrDigits repr) anyStep s₀ s) :
    Invariant s ∧ Continues maxStrDigits repr s₀ s := by
  induction hreach with
  | start => exact ⟨h, .refl s₀⟩
  | @next s s' call _ _ hstep ih =>
    obtain ⟨s₁, heq, hinv, hcontinues⟩ := step_spec ih.1 call
    obtain rfl := Option.some.inj (hstep.symm.trans heq)
    exact ⟨hinv, ih.2.trans hcontinues⟩

/-! ### An opened session -/

variable {isPassive needsProbes : Text → Bool} {remotes : List Text} {probeInterval : Option ℤ}
  {now : ℕ → ℤ}

theorem configure_spec {r : Reconnect} (hstate : r.state = .backoff) (now : ℤ) :
    Yields (configure isPassive needsProbes probeInterval now r) fun r' => ∃ interval,
      r' = { r with passive := isPassive r.name || r.passive, probeInterval := interval } := by
  have hprobe : ∀ r : Reconnect, ∃ interval,
      (if ¬needsProbes r.name then r.setProbeInterval 0
        else (probeInterval.map r.setProbeInterval).getD r) = { r with probeInterval := interval } := by
    intro r
    split
    · exact ⟨0, rfl⟩
    · cases probeInterval with
      | none => exact ⟨r.probeInterval, rfl⟩
      | some interval => exact ⟨_, rfl⟩
  have hpassive : Yields (if isPassive r.name then r.setPassive true now else some r) fun r' =>
      r' = { r with passive := isPassive r.name || r.passive } := by
    refine yields_ite (fun h => ?_) fun h => yields_some (by rw [Bool.not_eq_true] at h; rw [h]; rfl)
    rw [h]
    unfold Reconnect.setPassive
    refine yields_ite (fun htrue => yields_some (by rw [Bool.true_or, ← htrue])) fun _ => ?_
    rw [if_pos rfl, if_neg (by rw [hstate]; decide)]
    exact yields_some rfl
  refine hpassive.map fun r' hr' => ?_
  subst hr'
  exact hprobe { r with passive := isPassive r.name || r.passive }

def enabled (name : Text) (tries : ℕ) (now : ℕ → ℤ) : Reconnect :=
  { Reconnect.new (now 0) with
    name := name
    state := .backoff
    stateEntered := now 1
    backoffFreeTries := tries }

theorem openMultiple_cons (name : Text) (rest : List Text) :
    openMultiple isPassive needsProbes (name :: rest) probeInterval now =
      (configure isPassive needsProbes probeInterval (now 2) (enabled name (rest.length + 1) now)).map
        fun r => { reconnect := r, rpc := none, stream := false, pstream := false, seqno := 0
                   remotes := name :: rest, nextRemote := 1 % (rest.length + 1) } := rfl

/-- A session that is opened waits for its first attempt, with no backoff for one round of the
remotes. -/
theorem openMultiple_spec (hremotes : remotes ≠ []) :
    Yields (openMultiple isPassive needsProbes remotes probeInterval now) fun s =>
      Invariant s ∧ s.reconnect.Failed 1000 8000 remotes.length 0 := by
  cases remotes with
  | nil => exact absurd rfl hremotes
  | cons name rest =>
    have hconfigure : Yields (configure isPassive needsProbes probeInterval (now 2)
        (enabled name (rest.length + 1) now)) _ := configure_spec rfl (now 2)
    rw [openMultiple_cons]
    refine hconfigure.map fun r hr => ?_
    obtain ⟨interval, rfl⟩ := hr
    have hnew := Reconnect.sound_new (now 0)
    refine ⟨⟨⟨⟨⟨rfl, hnew.successful, hnew.bounds, hnew.backoff⟩, fun h => Bool.noConfusion h⟩,
      Nat.mod_lt _ (Nat.succ_pos _), List.mem_cons_self, ⟨rfl, rfl⟩, fun h => Bool.noConfusion h,
      fun h => Bool.noConfusion h, fun h => Bool.noConfusion h, fun h => Bool.noConfusion h⟩, rfl,
      fun h => ReconnectState.noConfusion h⟩, rfl, rfl, ⟨rfl, rfl⟩, ?_, ?_⟩
    · change ((rest.length + 1 : ℕ) : ℤ) = max 1 (((rest.length + 1 : ℕ) : ℤ) - (0 : ℕ))
      omega
    · exact (if_pos (Nat.succ_pos _)).symm

/-- What the machine says of the connection, and what there is. After `force_reconnect` and until
the next `run` the machine is in `RECONNECT`: it calls itself not connected, while the session
still has the connection, or the stream that was to become one. -/
structure Fits (s : Session) : Prop where
  connected : s.reconnect.state.isConnected = true → s.rpc.isSome = true
  rpc : s.rpc.isSome = true → s.reconnect.state.isConnected = true ∨ s.reconnect.state = .reconnect
  connecting : s.reconnect.state = .connectInProgress → s.stream = true
  stream : s.stream = true → s.reconnect.state = .connectInProgress ∨ s.reconnect.state = .reconnect
  reconnect : s.reconnect.state = .reconnect → (s.rpc.isSome = true ↔ s.stream = false)

theorem Invariant.fits (h : Invariant s) : Fits s := by
  have hagrees := h.agrees
  cases hstate : s.reconnect.state <;> cases hrpc : s.rpc.isSome <;> cases hstream : s.stream <;>
    rw [hstate, hrpc, hstream] at hagrees <;> cases hagrees <;> constructor <;>
    simp [hstate, hrpc, hstream, ReconnectState.isConnected]

def loopback : Text := codes "tcp:127.0.0.1:6642"

/-- While the number of a session stays, its connection is the one it was: between two such
moments only calls on that connection were made. -/
theorem same_connection {s₀ : Session} {c : Connection}
    (hopen : openMultiple isPassive needsProbes remotes probeInterval now = some s₀)
    (hreach : Reach (step maxStrDigits repr) anyStep s₀ s)
    (hreach' : Reach (step maxStrDigits repr) anyStep s s') (hc : s.rpc = some c)
    (hseqno : s'.seqno = s.seqno) :
    ∃ c', s'.rpc = some c' ∧ Relation.ReflTransGen (Works maxStrDigits repr) c c' := by
  have hremotes : remotes ≠ [] := by
    rintro rfl
    cases hopen
  have hyields : Yields (openMultiple isPassive needsProbes remotes probeInterval now) _ :=
    openMultiple_spec hremotes
  obtain ⟨s₁, hopen₁, hinv, -⟩ := hyields
  obtain rfl := Option.some.inj (hopen.symm.trans hopen₁)
  obtain ⟨hinv, -⟩ := invariant_reach hinv hreach
  exact (invariant_reach hinv hreach').2.same c hc hseqno

def reachable : Answers where
  now := fun _ => 0
  accepted := .again
  departures := []
  connect := 0
  opened := 0
  probe := []

/-- The first call opens a stream, the second makes it a connection, and then a message is sent. -/
theorem same_connection_probe :
    ∃ (s₀ s s' : Session) (c : Connection),
      openMultiple (fun _ => false) (fun _ => true) [loopback] none (fun _ => 0) = some s₀ ∧
      s.rpc = some c ∧ s'.seqno = s.seqno ∧
      ∃ c', s'.rpc = some c' ∧ Relation.ReflTransGen (Works 4300 fun _ => []) c c' := by
  have hruns : Yields (openMultiple (fun _ => false) (fun _ => true) [loopback] none fun _ => 0) fun s₀ =>
      Yields (s₀.run (fun _ => []) reachable) fun s₁ =>
        Yields (s₁.run (fun _ => []) reachable) fun s₂ =>
          s₂.rpc = some {} ∧ (s₂.send (fun _ => []) probe []).2.seqno = s₂.seqno :=
    ⟨_, rfl, _, rfl, _, rfl, rfl, rfl⟩
  obtain ⟨s₀, hopen, s₁, hopened, s₂, hconnected, hrpc, hseqno⟩ := hruns
  have hreach : Reach (step 4300 fun _ => []) anyStep s₀ s₂ :=
    .next (l := .run reachable) (.next (l := .run reachable) .start trivial hopened) trivial hconnected
  have hreach' : Reach (step 4300 fun _ => []) anyStep s₂ (s₂.send (fun _ => []) probe []).2 :=
    .next (l := .send probe []) .start trivial rfl
  exact ⟨s₀, s₂, _, {}, hopen, hrpc, hseqno, same_connection hopen hreach hreach' hrpc hseqno⟩

/-! ### A network that is down -/

/-- The session after `n` attempts that failed in a row, with the remote that the next one is for. -/
structure Down (remotes : List Text) (n : ℕ) (s : Session) : Prop where
  rpc : s.rpc = none
  stream : s.stream = false
  pstream : s.pstream = false
  all : s.remotes = remotes
  next : s.nextRemote = (n + 1) % remotes.length
  name : remotes[n % remotes.length]? = some s.reconnect.name
  failed : s.reconnect.Failed 1000 8000 remotes.length n

variable {n : ℕ}

theorem run_of_backoff {r : Reconnect} (h : r.state = .backoff) (now : ℤ) :
    r.run now = some (if r.stateEntered + r.backoff ≤ now then some .connect else none, r) := by
  by_cases hdue : r.stateEntered + r.backoff ≤ now <;>
    simp [Reconnect.run, Reconnect.deadline, Reconnect.act, h, hdue]

theorem Down.advance (h : Down remotes n s) (a : Answers) : s.advance a = some s := by
  simp [Session.advance, accept, h.pstream, h.rpc, h.stream]

/-- A `run` before the backoff is over does nothing. -/
theorem Down.early (h : Down remotes n s) (a : Answers)
    (hearly : a.now 3 < s.reconnect.stateEntered + Reconnect.schedule 1000 8000 remotes.length n) :
    s.run repr a = some s := by
  have hrun := run_of_backoff h.failed.state (a.now 3)
  rw [h.failed.backoff, if_neg (not_le.mpr hearly)] at hrun
  rw [Session.run, h.advance, Option.bind_some, obey, hrun]
  rfl

/-- A `run` after it makes an attempt, at the remote that is next. -/
theorem Down.attempt (h : Down remotes n s) (hremotes : remotes ≠ []) (a : Answers)
    (hopened : a.opened ≠ 0)
    (hdue : s.reconnect.stateEntered + Reconnect.schedule 1000 8000 remotes.length n ≤ a.now 3) :
    Yields (s.run repr a) fun s' =>
      Down remotes (n + 1) s' ∧ s'.reconnect.stateEntered = a.now 4 := by
  have hlen : 0 < remotes.length := List.length_pos_iff.mpr hremotes
  have hrun := run_of_backoff h.failed.state (a.now 3)
  rw [h.failed.backoff, if_pos hdue] at hrun
  have hdisconnect : s.disconnect = some s := by simp [disconnect, h.rpc, h.stream]
  have hfails : s.openStream a = (s.reconnect.connectFailed (a.now 4)).bind fun r =>
      pickRemote { s with reconnect := r } := by
    unfold openStream
    rw [if_neg hopened, if_neg hopened, h.pstream]
    simp
  rw [Session.run, h.advance, Option.bind_some, obey, hrun]
  change Yields (s.connect a) _
  rw [connect, hdisconnect, Option.bind_some, hfails]
  refine Yields.map
    (P := fun s' => Down remotes (n + 1) s' ∧ s'.reconnect.stateEntered = a.now 4) ?_ fun s' hs' => ?_
  rotate_left
  · exact ⟨⟨hs'.1.rpc, hs'.1.stream, hs'.1.pstream, hs'.1.all, hs'.1.next, hs'.1.name, hs'.1.failed⟩,
      hs'.2⟩
  refine (h.failed.next (by decide) (by decide) (a.now 4)).bind fun r hr => ?_
  have hlt : (n + 1) % remotes.length < remotes.length := Nat.mod_lt _ hlen
  have hget := List.getElem?_eq_getElem hlt
  have hpick : remotes[s.nextRemote]? = some remotes[(n + 1) % remotes.length] := by rw [h.next, hget]
  rw [pickRemote]
  dsimp only
  rw [h.all, hpick, Option.map_some]
  refine yields_some ⟨⟨h.rpc, h.stream, h.pstream, rfl, ?_, hget, ?_⟩, hr.2⟩
  · rw [h.next, Nat.mod_add_mod]
  · exact ⟨hr.1.state, hr.1.maxTries, hr.1.bounds, hr.1.freeTries, hr.1.backoff⟩

theorem Down.foldlM (h : Down remotes n s) (hremotes : remotes ≠ []) (answers : List Answers)
    (hopened : ∀ a ∈ answers, a.opened ≠ 0) :
    Yields (answers.foldlM (run repr) s) fun s' => ∃ n', Down remotes n' s' := by
  induction answers generalizing s n with
  | nil => exact yields_some ⟨n, h⟩
  | cons a answers ih =>
    obtain ⟨hopen, hrest⟩ := List.forall_mem_cons.mp hopened
    rw [List.foldlM_cons]
    by_cases hdue : s.reconnect.stateEntered + Reconnect.schedule 1000 8000 remotes.length n ≤ a.now 3
    · exact (h.attempt hremotes a hopen hdue).bind fun s' hs' => ih hs'.1 hrest
    · rw [h.early a (not_le.mp hdue)]
      exact ih h hrest

end Session

end OvnApi.Ovs
