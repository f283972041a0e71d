import OvnApi.Lib.Mailbox
import OvnApi.Lib.Threads
import OvnApi.Monitor.Refresh

/-! The live stream. Refreshes number their snapshots under the lock and trace runs take
the current number without it; each event built in this way is then published, by whatever
thread built it, to the queue of every subscriber. A WebSocket handler subscribes, sends the
current snapshot as its first message, and from then on what it polls from its queue. A step
is one block under the lock, one queue operation or one message sent.

Each call of `_publish_event` carries its place in the order in which the calls take the
lock, and a queue holds the events together with these numbers. What a queue loses is
recorded with the numbers it keeps at that moment and the number of calls made so far. -/

namespace OvnApi.Monitor

open OvnApi.Core Lib Traces

/-! ### Events -/

inductive EventKind where
  | snapshot | traceRun | heartbeat
  deriving DecidableEq

/-- `MonitoringEvent`; of a run, its id and status. -/
structure MonitoringEvent where
  event : EventKind
  emittedAt : ℚ
  sequence : Option ℕ := none
  snapshot : Option MonitoringSnapshot := none
  traceRun : Option (String × RunStatus) := none

def snapshotEvent (snapshot : MonitoringSnapshot) : MonitoringEvent where
  event := .snapshot
  emittedAt := snapshot.generatedAt
  sequence := some snapshot.sequence
  snapshot := some snapshot

def traceRunEvent (now : ℚ) (sequence : ℕ) (summary : String × RunStatus) : MonitoringEvent where
  event := .traceRun
  emittedAt := now
  sequence := some sequence
  traceRun := some summary

def heartbeatEvent (now : ℚ) : MonitoringEvent where
  event := .heartbeat
  emittedAt := now

namespace Stream

/-- An event and the place of its `_publish_event` among the calls. -/
abbrev Posted := ℕ × MonitoringEvent

/-- The operation `_publish_event` makes next on the queue it is at: the first
`put_nowait`, the `get_nowait` after it has failed, or the second `put_nowait`. -/
inductive PutPc where
  | put | makeRoom | putAgain
  deriving DecidableEq

/-- A call of `_publish_event`, past its copy of the subscriptions. -/
structure Publication where
  number : ℕ
  event : MonitoringEvent
  /-- The queues it has not yet finished with; it is at the first. -/
  todo : List ℕ
  pc : PutPc
  distinct : todo.Nodup

def Publication.goto (p : Publication) (pc : PutPc) : Publication := { p with pc }

def Publication.next (p : Publication) : Publication where
  number := p.number
  event := p.event
  todo := p.todo.tail
  pc := .put
  distinct := p.distinct.tail

/-- An event lost to a queue, the events that stay, and how many were published so far. -/
structure Discard where
  number : ℕ
  staying : List ℕ
  published : ℕ
  deriving DecidableEq

/-! ### The handler of a WebSocket -/

/-- Where `stream_live_monitoring` stands, past `subscribe`. -/
inductive HandlerPc where
  | accept
  | initial
  | send (message : MonitoringEvent)
  | poll
  | get
  | unsubscribe
  | closed

structure Client (size : ℕ) where
  sendInitial : Bool
  registered : Bool
  mailbox : Mailbox Posted size
  pc : HandlerPc
  sent : List MonitoringEvent
  discarded : List Discard

/-- What the environment answers to a step of the handler: the time, and whether the
connection is lost or the call raises. -/
structure Reply where
  now : ℚ
  raises : Bool

namespace Client

variable {size : ℕ}

def subscribed (sendInitial : Bool) : Client size where
  sendInitial
  registered := true
  mailbox := .empty
  pc := .accept
  sent := []
  discarded := []

def goto (client : Client size) (pc : HandlerPc) : Client size := { client with pc }

/-- One step of the handler. Its queue stays registered if `accept` raises. -/
def handle (client : Client size) (snapshot : Option MonitoringSnapshot) (a : Reply) :
    Option (Client size) :=
  match client.pc with
  | .accept =>
    some (client.goto (if a.raises then .closed else if client.sendInitial then .initial else .poll))
  | .initial =>
    some (client.goto (if a.raises then .unsubscribe else snapshot.elim .poll (.send ∘ snapshotEvent)))
  | .send message =>
    if a.raises then some (client.goto .unsubscribe)
    else some { client with sent := client.sent ++ [message], pc := .poll }
  | .poll =>
    some (client.goto (if a.raises then .unsubscribe
      else if client.registered then .get else .send (heartbeatEvent a.now)))
  | .get =>
    if a.raises then some (client.goto .unsubscribe)
    else
      match client.mailbox.held.head? with
      | some posted => some { client with mailbox := client.mailbox.deliver, pc := .send posted.2 }
      | none => some (client.goto (.send (heartbeatEvent a.now)))
  | .unsubscribe => some { client with registered := false, pc := .closed }
  | .closed => none

def lose (client : Client size) (number published : ℕ) : Client size :=
  { client with
    discarded := client.discarded ++ [⟨number, client.mailbox.held.map Prod.fst, published⟩] }

/-- One operation of a call of `_publish_event` on the queue of a client. -/
def receive (client : Client size) (published : ℕ) (p : Publication) :
    Client size × Publication :=
  match p.pc with
  | .put =>
    match client.mailbox.putNowait (p.number, p.event) with
    | some mailbox => ({ client with mailbox }, p.next)
    | none => (client, p.goto .makeRoom)
  | .makeRoom =>
    match client.mailbox.held.head? with
    | some posted =>
      (lose { client with mailbox := client.mailbox.evict } posted.1 published, p.goto .putAgain)
    | none => (client, p.goto .putAgain)
  | .putAgain =>
    match client.mailbox.putNowait (p.number, p.event) with
    | some mailbox => ({ client with mailbox }, p.next)
    | none => (client.lose p.number published, p.next)

end Client

/-! ### The service -/

structure State (size : ℕ) where
  sequence : ℕ
  snapshot : Option MonitoringSnapshot
  /-- The events built and not yet published, in the order they were built. -/
  pending : List MonitoringEvent
  publications : List Publication
  clients : List (Client size)

/-- `self.queue_size`. -/
def maxsize (queueSize : ℤ) : ℕ := (max queueSize 4).toNat

variable {size : ℕ}

namespace State

def init (size : ℕ) : State size := ⟨0, none, [], [], []⟩

def subscriptions (s : State size) : List ℕ :=
  (List.range s.clients.length).filter fun c => s.clients[c]?.any Client.registered

theorem nodup_subscriptions (s : State size) : s.subscriptions.Nodup :=
  List.nodup_range.filter _

/-- `_publish_event` has taken the lock. -/
def publish (s : State size) (event : MonitoringEvent) : Publication :=
  ⟨s.publications.length, event, s.subscriptions, .put, s.nodup_subscriptions⟩

end State

inductive Label where
  /-- A refresh has collected a snapshot and numbers it. -/
  | refresh (snapshot : MonitoringSnapshot)
  /-- `publish_trace_run` builds its event. -/
  | traceRun (now : ℚ) (summary : String × RunStatus)
  /-- `_publish_event` is called with a pending event. -/
  | enter (k : ℕ)
  /-- One queue operation of a call of `_publish_event`. -/
  | publish (i : ℕ)
  | subscribe (sendInitial : Bool)
  | handler (c : ℕ) (a : Reply)

def step (s : State size) : Label → Option (State size)
  | .refresh snapshot =>
    let numbered := { snapshot with sequence := s.sequence + 1 }
    some { s with
      sequence := s.sequence + 1
      snapshot := some numbered
      pending := s.pending ++ [snapshotEvent numbered] }
  | .traceRun now summary =>
    some { s with pending := s.pending ++ [traceRunEvent now s.sequence summary] }
  | .enter k => do
    let event ← s.pending[k]?
    pure { s with
      pending := s.pending.eraseIdx k
      publications := s.publications ++ [s.publish event] }
  | .publish i => do
    let p ← s.publications[i]?
    let c ← p.todo.head?
    let client ← s.clients[c]?
    let received := client.receive s.publications.length p
    pure { s with
      clients := s.clients.set c received.1
      publications := s.publications.set i received.2 }
  | .subscribe sendInitial =>
    some { s with clients := s.clients ++ [.subscribed sendInitial] }
  | .handler c a => do
    let client ← s.clients[c]?
    let client' ← client.handle s.snapshot a
    pure { s with clients := s.clients.set c client' }

/-! ### What a step does -/

variable {s s' : State size} {client client' : Client size} {c i : ℕ}

/-- What a call of `_publish_event` does at the queue of a client. -/
inductive Received (client : Client size) (published : ℕ) (p : Publication) :
    Client size → Publication → Prop where
  | stored (mailbox : Mailbox Posted size)
      (hput : client.mailbox.putNowait (p.number, p.event) = some mailbox) :
      Received client published p { client with mailbox } p.next
  | full (hpc : p.pc = .put) : Received client published p client (p.goto .makeRoom)
  | evicted (posted : Posted) (rest : List Posted) (hpc : p.pc = .makeRoom)
      (hheld : client.mailbox.held = posted :: rest) :
      Received client published p
        (.lose { client with mailbox := client.mailbox.evict } posted.1 published)
        (p.goto .putAgain)
  /-- The consumer has emptied the queue in the meantime. -/
  | drained (hpc : p.pc = .makeRoom) (hheld : client.mailbox.held = []) :
      Received client published p client (p.goto .putAgain)
  /-- Others have filled the queue in the meantime. -/
  | dropped (hpc : p.pc = .putAgain) (hfull : size ≤ client.mailbox.held.length) :
      Received client published p (client.lose p.number published) p.next

theorem Client.receive_received (client : Client size) (published : ℕ) (p : Publication) :
    Received client published p (client.receive published p).1 (client.receive published p).2 := by
  cases hpc : p.pc with
  | put =>
    cases hput : client.mailbox.putNowait (p.number, p.event) with
    | some mailbox => simpa [receive, hpc, hput] using .stored mailbox hput
    | none => simpa [receive, hpc, hput] using .full hpc
  | makeRoom =>
    cases hheld : client.mailbox.held with
    | nil => simpa [receive, hpc, hheld] using .drained hpc hheld
    | cons posted rest => simpa [receive, hpc, hheld] using .evicted posted rest hpc hheld
  | putAgain =>
    cases hput : client.mailbox.putNowait (p.number, p.event) with
    | some mailbox => simpa [receive, hpc, hput] using .stored mailbox hput
    | none => simpa [receive, hpc, hput] using .dropped hpc (Mailbox.putNowait_eq_none hput)

/-- The handler has yet to read the snapshot it sends first. -/
def Client.awaitsInitial (client : Client size) : Bool :=
  match client.pc with
  | .accept => client.sendInitial
  | .initial => true
  | _ => false

def HandlerPc.message : HandlerPc → Option MonitoringEvent
  | .send message => some message
  | _ => none

inductive Handled (client : Client size) (snapshot : Option MonitoringSnapshot) :
    Client size → Prop where
  /-- It goes on, or gives up, without a message. -/
  | moved (pc : HandlerPc) (hmessage : pc.message = none)
      (hawaits : (client.goto pc).awaitsInitial = true → client.awaitsInitial = true) :
      Handled client snapshot (client.goto pc)
  | initial (current : MonitoringSnapshot) (hpc : client.pc = .initial)
      (hsnapshot : snapshot = some current) :
      Handled client snapshot (client.goto (.send (snapshotEvent current)))
  | heartbeat (now : ℚ) (hpc : client.pc.message = none) :
      Handled client snapshot (client.goto (.send (heartbeatEvent now)))
  | sent (message : MonitoringEvent) (hpc : client.pc = .send message) :
      Handled client snapshot { client with sent := client.sent ++ [message], pc := .poll }
  | received (posted : Posted) (rest : List Posted) (hpc : client.pc = .get)
      (hheld : client.mailbox.held = posted :: rest) :
      Handled client snapshot { client with mailbox := client.mailbox.deliver, pc := .send posted.2 }
  | unsubscribed :
      Handled client snapshot { client with registered := false, pc := .closed }

theorem Client.handle_handled {snapshot : Option MonitoringSnapshot} {a : Reply}
    (h : client.handle snapshot a = some client') : Handled client snapshot client' := by
  have hgives : Handled client snapshot (client.goto .unsubscribe) := .moved _ rfl nofun
  cases hpc : client.pc with
  | accept =>
    rw [handle, hpc] at h
    obtain rfl := Option.some.inj h
    refine .moved _ ?_ fun hawaits => ?_
    · split_ifs <;> rfl
    · cases hinitial : client.sendInitial <;> cases hraises : a.raises <;>
        simp_all [Client.awaitsInitial, Client.goto]
  | initial =>
    rw [handle, hpc] at h
    obtain rfl := Option.some.inj h
    cases a.raises with
    | true => exact hgives
    | false =>
      cases hsnapshot : snapshot with
      | none => exact .moved _ rfl nofun
      | some current => exact .initial current hpc rfl
  | send message =>
    rw [handle, hpc] at h
    cases hraises : a.raises with
    | true =>
      rw [hraises] at h
      obtain rfl := Option.some.inj h
      exact hgives
    | false =>
      rw [hraises] at h
      obtain rfl := Option.some.inj h
      exact .sent message hpc
  | poll =>
    rw [handle, hpc] at h
    obtain rfl := Option.some.inj h
    cases a.raises with
    | true => exact hgives
    | false =>
      cases client.registered with
      | true => exact .moved _ rfl nofun
      | false => exact .heartbeat a.now (by rw [hpc]; rfl)
  | get =>
    rw [handle, hpc] at h
    cases hraises : a.raises with
    | true =>
      rw [hraises] at h
      obtain rfl := Option.some.inj h
      exact hgives
    | false =>
      rw [hraises] at h
      cases hheld : client.mailbox.held with
      | nil =>
        rw [hheld] at h
        obtain rfl := Option.some.inj h
        exact .heartbeat a.now (by rw [hpc]; rfl)
      | cons posted rest =>
        rw [hheld] at h
        obtain rfl := Option.some.inj h
        exact .received posted rest hpc hheld
  | unsubscribe =>
    rw [handle, hpc] at h
    obtain rfl := Option.some.inj h
    exact .unsubscribed
  | closed =>
    rw [handle, hpc] at h
    cases h

theorem enter_inv {k : ℕ} (h : step s (.enter k) = some s') :
    ∃ event, s.pending[k]? = some event ∧
      s' = { s with
        pending := s.pending.eraseIdx k
        publications := s.publications ++ [s.publish event] } := by
  obtain ⟨event, hevent, h⟩ := Option.bind_eq_some_iff.mp h
  exact ⟨event, hevent, (Option.some.inj h).symm⟩

theorem publish_inv (h : step s (.publish i) = some s') :
    ∃ p c client client' p', s.publications[i]? = some p ∧ p.todo.head? = some c ∧
      s.clients[c]? = some client ∧
      Received client s.publications.length p client' p' ∧
      s' = { s with
        clients := s.clients.set c client'
        publications := s.publications.set i p' } := by
  obtain ⟨p, hp, h⟩ := Option.bind_eq_some_iff.mp h
  obtain ⟨c, hc, h⟩ := Option.bind_eq_some_iff.mp h
  obtain ⟨client, hclient, h⟩ := Option.bind_eq_some_iff.mp h
  exact ⟨p, c, client, _, _, hp, hc, hclient, client.receive_received _ p,
    (Option.some.inj h).symm⟩

theorem handler_inv {a : Reply} (h : step s (.handler c a) = some s') :
    ∃ client client', s.clients[c]? = some client ∧ Handled client s.snapshot client' ∧
      s' = { s with clients := s.clients.set c client' } := by
  obtain ⟨client, hclient, h⟩ := Option.bind_eq_some_iff.mp h
  obtain ⟨client', hclient', h⟩ := Option.bind_eq_some_iff.mp h
  exact ⟨client, client', hclient, Client.handle_handled hclient', (Option.some.inj h).symm⟩

end Stream

end OvnApi.Monitor
