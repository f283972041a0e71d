import OvnApi.Monitor.Freshness
import OvnApi.Monitor.Overflow

/-! The numbers a client sees. What a client has been sent, what is on its queue, what is
to come to it and what has been built and not yet published stand in one line, which new
events join at the end. Nothing overtakes as long as events are published in the order they
were built and the calls take turns at the queue of the client; and the snapshot a handler
reads for itself, past its queue, comes first as long as the queue has nothing before it. -/

namespace OvnApi.Monitor.Stream

open Lib

variable {size : ℕ} {s s' : State size} {l : Label} {c i : ℕ} {p p' : Publication}
  {old new : Client size}

/-! ### The line of a client -/

/-- The number a message carries, and whether it carries a snapshot. -/
structure Mark where
  snapshot : Bool
  number : ℕ

def mark (message : MonitoringEvent) : Option Mark :=
  message.sequence.map fun number => ⟨message.event = .snapshot, number⟩

def Mark.Before (a b : Mark) : Prop :=
  a.number ≤ b.number ∧ (a.snapshot = true → b.snapshot = true → a.number < b.number)

/-- What has been sent, or is about to be. -/
def Client.history (client : Client size) : List MonitoringEvent :=
  client.sent ++ client.pc.message.toList

/-- The events of a client, from the first message sent to the last one built. -/
def State.flow (s : State size) (c : ℕ) : List MonitoringEvent :=
  (s.client c).history ++ ((s.line c).map Prod.snd ++ s.pending)

def State.marks (s : State size) (c : ℕ) : List Mark := (s.flow c).filterMap mark

/-- The handler is about to read the snapshot it sends first. -/
def Client.readsInitial (client : Client size) : Bool :=
  match client.pc with
  | .initial => true
  | _ => false

/-- Events are published to `c` in the order they were built, and calls take turns at its
queue. None is published between its `subscribe` and its reading of the current snapshot,
and none is pending when it reads it. -/
def undisturbed (c : ℕ) (s : State size) : Label → Bool
  | .enter k => !(s.client c).registered || (k == 0 && !(s.client c).awaitsInitial)
  | .handler d _ => !(d == c && (s.client c).readsInitial) || s.pending.isEmpty
  | l => inTurn c s l

theorem inTurn_of_undisturbed (h : undisturbed c s l = true) : inTurn c s l = true := by
  cases l with
  | publish i => exact h
  | refresh | traceRun | enter | subscribe | handler => rfl

structure InLine (c : ℕ) (s : State size) : Prop where
  ordered : (s.marks c).Pairwise Mark.Before
  bound : ∀ m ∈ s.marks c, m.number ≤ s.sequence
  current : ∀ snapshot, s.snapshot = some snapshot → snapshot.sequence ≤ s.sequence
  untouched : (s.client c).awaitsInitial = true → s.line c = [] ∧ (s.client c).history = []
  known : ∀ p ∈ s.publications, ∀ d ∈ p.todo, d < s.clients.length

theorem inLine_init (c : ℕ) : InLine c (State.init size) where
  ordered := by simp [State.marks, State.flow, State.line, State.init, State.client, State.waiting,
    Client.history, Client.subscribed, Mailbox.empty, HandlerPc.message]
  bound := by simp [State.marks, State.flow, State.line, State.init, State.client, State.waiting,
    Client.history, Client.subscribed, Mailbox.empty, HandlerPc.message]
  current := by simp [State.init]
  untouched := by simp [State.init, State.client, Client.awaitsInitial]
  known := by simp [State.init]

/-! ### What the steps do to it -/

/-- A new event joins at the end. -/
theorem marks_build (event : MonitoringEvent) {m : Mark} (hevent : mark event = some m)
    (sequence : ℕ) (snapshot : Option MonitoringSnapshot) :
    ({ s with sequence, snapshot, pending := s.pending ++ [event] } : State size).marks c =
      s.marks c ++ [m] := by
  have hflow : ({ s with sequence, snapshot, pending := s.pending ++ [event] } : State size).flow c =
      s.flow c ++ [event] := by
    show _ ++ (_ ++ (s.pending ++ [event])) = _
    rw [State.flow, List.append_assoc, List.append_assoc]
    rfl
  rw [State.marks, hflow, List.filterMap_append, List.filterMap_cons, hevent]
  rfl

/-- An event that comes last in the line. -/
theorem InLine.concat (hs : InLine c s) {m : Mark} (hmarks : s'.marks c = s.marks c ++ [m])
    (hm : ∀ x ∈ s.marks c, x.Before m) (hle : s.sequence ≤ s'.sequence) (hlast : m.number ≤ s'.sequence) :
    (s'.marks c).Pairwise Mark.Before ∧ ∀ x ∈ s'.marks c, x.number ≤ s'.sequence := by
  rw [hmarks, List.pairwise_append, List.forall_mem_append, List.forall_mem_singleton]
  refine ⟨⟨hs.ordered, List.pairwise_singleton _ _, fun x hx y hy => ?_⟩,
    fun x hx => (hs.bound x hx).trans hle, hlast⟩
  obtain rfl := List.mem_singleton.mp hy
  exact hm x hx

theorem inLine_refresh (hs : InLine c s) (snapshot : MonitoringSnapshot)
    (h : step s (.refresh snapshot) = some s') : InLine c s' := by
  obtain rfl := Option.some.inj h
  have hmarks := marks_build (s := s) (c := c)
    (snapshotEvent { snapshot with sequence := s.sequence + 1 })
    (m := ⟨true, s.sequence + 1⟩) rfl (s.sequence + 1)
    (some { snapshot with sequence := s.sequence + 1 })
  have hbefore : ∀ x ∈ s.marks c, x.Before ⟨true, s.sequence + 1⟩ := fun x hx =>
    ⟨Nat.le_succ_of_le (hs.bound x hx), fun _ _ => Nat.lt_succ_of_le (hs.bound x hx)⟩
  obtain ⟨hordered, hbound⟩ := hs.concat hmarks hbefore (Nat.le_succ _) le_rfl
  refine ⟨hordered, hbound, ?_, hs.untouched, hs.known⟩
  rintro _ ⟨⟩
  exact le_rfl

theorem inLine_traceRun (hs : InLine c s) (now : ℚ) (summary : String × Traces.RunStatus)
    (h : step s (.traceRun now summary) = some s') : InLine c s' := by
  obtain rfl := Option.some.inj h
  have hmarks := marks_build (s := s) (c := c) (traceRunEvent now s.sequence summary)
    (m := ⟨false, s.sequence⟩) rfl s.sequence s.snapshot
  have hbefore : ∀ x ∈ s.marks c, x.Before ⟨false, s.sequence⟩ := fun x hx =>
    ⟨hs.bound x hx, fun _ => nofun⟩
  obtain ⟨hordered, hbound⟩ := hs.concat hmarks hbefore le_rfl le_rfl
  exact ⟨hordered, hbound, hs.current, hs.untouched, hs.known⟩

/-- A step after which the line is no longer than before. -/
theorem InLine.of_sublist (hs : InLine c s) (hmarks : (s'.marks c).Sublist (s.marks c))
    (hsequence : s'.sequence = s.sequence) (hsnapshot : s'.snapshot = s.snapshot)
    (huntouched : (s'.client c).awaitsInitial = true →
      s'.line c = [] ∧ (s'.client c).history = [])
    (hknown : ∀ p ∈ s'.publications, ∀ d ∈ p.todo, d < s'.clients.length) : InLine c s' where
  ordered := hs.ordered.sublist hmarks
  bound m hm := by
    rw [hsequence]
    exact hs.bound m (hmarks.subset hm)
  current := by
    rw [hsequence, hsnapshot]
    exact hs.current
  untouched := huntouched
  known := hknown

theorem mem_subscriptions (h : c ∈ s.subscriptions) :
    c < s.clients.length ∧ (s.client c).registered = true := by
  obtain ⟨hrange, hregistered⟩ := List.mem_filter.mp h
  obtain ⟨client, hclient, hregistered⟩ := (Option.any_eq_true _ _).mp hregistered
  exact ⟨List.mem_range.mp hrange, by rwa [State.client_eq hclient]⟩

theorem inLine_enter (hs : InLine c s) {k : ℕ} (hok : undisturbed c s (.enter k) = true)
    (h : step s (.enter k) = some s') : InLine c s' := by
  obtain ⟨event, hevent, hs'⟩ := enter_inv h
  have hclient : s'.client c = s.client c := by rw [hs']; rfl
  have hpending : s'.pending = s.pending.eraseIdx k := by rw [hs']
  have hwaiting : s'.waiting c = s.waiting c ++ ((s.publish event).waits c).toList := by
    rw [hs']
    exact State.waiting_enter event _
  have hknown : ∀ p ∈ s'.publications, ∀ d ∈ p.todo, d < s'.clients.length := by
    rw [hs']
    intro p hp d hd
    rcases List.mem_append.mp hp with hp | hp
    · exact hs.known p hp d hd
    · obtain rfl := List.mem_singleton.mp hp
      exact (mem_subscriptions hd).1
  by_cases hc : c ∈ s.subscriptions
  · -- the first event pending becomes the last to come to the queue
    rw [undisturbed, (mem_subscriptions hc).2] at hok
    obtain ⟨hzero, hawaits⟩ : k = 0 ∧ (s.client c).awaitsInitial = false := by simpa using hok
    obtain ⟨rest, hrest⟩ : ∃ rest, s.pending = event :: rest := by
      rw [← List.head?_eq_some_iff, List.head?_eq_getElem?, ← hzero]
      exact hevent
    rw [State.waits_publish, if_pos hc] at hwaiting
    have hflow : s'.flow c = s.flow c := by
      simp [State.flow, State.line, hclient, hwaiting, hpending, hzero, hrest]
    refine hs.of_sublist ?_ (by rw [hs']) (by rw [hs']) ?_ hknown
    · rw [State.marks, State.marks, hflow]
    · rw [hclient, hawaits]
      exact fun hfalse => absurd hfalse Bool.false_ne_true
  · rw [State.waits_publish, if_neg hc, Option.toList_none, List.append_nil] at hwaiting
    refine hs.of_sublist (List.Sublist.filterMap mark ?_) (by rw [hs']) (by rw [hs']) ?_ hknown
    · rw [State.flow, State.line, hclient, hwaiting, hpending]
      exact ((List.eraseIdx_sublist _ _).append_left _).append_left _
    · rw [State.line, hclient, hwaiting]
      exact hs.untouched

theorem Received.history {published : ℕ} (h : Received old published p new p') :
    new.history = old.history ∧ new.awaitsInitial = old.awaitsInitial := by
  cases h <;> exact ⟨rfl, rfl⟩

theorem inLine_publish (hs : InLine c s) (horderly : Orderly c s)
    (hturn : inTurn c s (.publish i) = true) (h : step s (.publish i) = some s') : InLine c s' := by
  have hqueue := queueStep c h
  obtain ⟨p, d, old, new, p', hp, hhead, hclient, hreceived, hs'⟩ := publish_inv h
  have hknown : ∀ p ∈ s'.publications, ∀ d ∈ p.todo, d < s'.clients.length := by
    subst hs'
    intro q hq e he
    rw [List.length_set]
    rcases List.mem_or_eq_of_mem_set hq with hq | rfl
    · exact hs.known q hq e he
    · exact hs.known p (List.mem_of_getElem? hp) e (hreceived.todo_subset he)
  have hhistory : (s'.client c).history = (s.client c).history ∧
      (s'.client c).awaitsInitial = (s.client c).awaitsInitial := by
    rw [hs', State.client_set hclient]
    split_ifs with hcd
    · subst hcd
      rw [State.client_eq hclient]
      exact hreceived.history
    · exact ⟨rfl, rfl⟩
  have hline : (s'.line c).Sublist (s.line c) := by
    cases hqueue with
    | still hmailbox _ hwaiting => rw [State.line, hmailbox, hwaiting]; exact List.Sublist.refl _
    | delivered hmailbox _ hwaiting =>
      rw [State.line, hmailbox, hwaiting]
      exact (List.tail_sublist _).append_right _
    | entered _ _ _ _ hlength => rw [hs'] at hlength; simp at hlength
    | received j q q' hj hq hqhead hqreceived hpublications =>
      obtain rfl : i = j := by injection hj
      rcases line_received horderly hturn hq hqhead hqreceived hpublications with
        ⟨hline, -⟩ | ⟨_, _, -, hline, -⟩
      · rw [hline]
      · rw [hline]
        exact List.sublist_cons_self _ _
  refine hs.of_sublist (List.Sublist.filterMap mark ?_) (by rw [hs']) (by rw [hs']) ?_ hknown
  · rw [State.flow, hhistory.1, show s'.pending = s.pending by rw [hs']]
    exact ((hline.map Prod.snd).append_right _).append_left _
  · rw [hhistory.1, hhistory.2]
    intro hawaits
    obtain ⟨hnil, hempty⟩ := hs.untouched hawaits
    exact ⟨List.sublist_nil.mp (hnil ▸ hline), hempty⟩

/-- Nothing waits for a client that is not there yet. -/
theorem InLine.waiting_eq_nil (hs : InLine c s) (hnone : s.clients[c]? = none) :
    s.waiting c = [] := by
  refine filterMap_waits_eq_nil fun q hq hc => ?_
  have hlt := hs.known q hq c hc
  have hge := List.getElem?_eq_none_iff.mp hnone
  omega

theorem inLine_subscribe (hs : InLine c s) {sendInitial : Bool}
    (h : step s (.subscribe sendInitial) = some s') : InLine c s' := by
  obtain rfl := Option.some.inj h
  have hknown : ∀ p ∈ s.publications, ∀ d ∈ p.todo,
      d < (s.clients ++ [(.subscribed sendInitial : Client size)]).length := by
    intro p hp d hd
    have hlt := hs.known p hp d hd
    rw [List.length_append]
    omega
  rcases State.client_subscribe (s := s) (c := c) sendInitial with hsame | ⟨hnone, hnew⟩
  · refine hs.of_sublist (List.Sublist.filterMap mark ?_) rfl rfl ?_ hknown
    · rw [State.flow, State.line, hsame]
      exact List.Sublist.refl _
    · rw [State.line, hsame]
      exact hs.untouched
  · have hwaiting := hs.waiting_eq_nil hnone
    have hline : ({ s with clients := s.clients ++ [.subscribed sendInitial] } : State size).line c =
        [] := by
      rw [State.line, hnew]
      exact hwaiting
    refine hs.of_sublist (List.Sublist.filterMap mark ?_) rfl rfl ?_ hknown
    · rw [State.flow, hline, hnew]
      exact (List.sublist_append_right _ _).trans (List.sublist_append_right _ _)
    · intro _
      rw [hline, hnew]
      exact ⟨rfl, rfl⟩

/-- The handler of `c` has made a step. -/
theorem inLine_handled (hs : InLine c s) (hclient : s.clients[c]? = some old)
    (hhandled : Handled old s.snapshot new) (hpending : old.readsInitial = true → s.pending = [])
    (hs' : s' = { s with clients := s.clients.set c new }) : InLine c s' := by
  have hold : s.client c = old := State.client_eq hclient
  have hnew : s'.client c = new := by rw [hs', State.client_set hclient, if_pos rfl]
  have hknown : ∀ p ∈ s'.publications, ∀ d ∈ p.todo, d < s'.clients.length := by
    rw [hs', List.length_set]
    exact hs.known
  have hwaiting : s'.waiting c = s.waiting c := by rw [hs']; rfl
  have hflow : s'.flow c = new.history ++ ((new.mailbox.held ++ s.waiting c).map Prod.snd ++
      s.pending) := by
    rw [State.flow, State.line, hnew, hwaiting, hs']
  have huntouched := hs.untouched
  rw [State.line, hold] at huntouched
  -- but for the first message, the line stays as it was, or loses the message in hand
  have hkeeps : (s'.marks c).Sublist (s.marks c) →
      (new.awaitsInitial = true → old.awaitsInitial = true ∧ new.mailbox = old.mailbox ∧
        new.history.Sublist old.history) → InLine c s' := by
    intro hsub hawaits
    refine hs.of_sublist hsub (by rw [hs']) (by rw [hs']) ?_ hknown
    rw [State.line, hnew, hwaiting]
    intro hnewAwaits
    obtain ⟨holdAwaits, hmailbox, hhistory⟩ := hawaits hnewAwaits
    obtain ⟨hline, hempty⟩ := huntouched holdAwaits
    rw [hempty] at hhistory
    exact ⟨by rw [hmailbox, hline], List.sublist_nil.mp hhistory⟩
  rw [State.marks, State.marks, hflow, State.flow, State.line, hold] at hkeeps
  have hdone : ∀ {P : Prop}, (false : Bool) = true → P := fun h => absurd h Bool.false_ne_true
  cases hhandled with
  | moved pc hmessage hawaits =>
    have hhistory : (old.goto pc).history.Sublist old.history := by
      simp [Client.history, Client.goto, hmessage]
    refine hkeeps ?_ fun hnewAwaits => ⟨hawaits hnewAwaits, rfl, hhistory⟩
    exact List.Sublist.filterMap mark (hhistory.append_right _)
  | initial current hpc hsnapshot =>
    have hreads : old.readsInitial = true := by rw [Client.readsInitial, hpc]
    have hawaits : old.awaitsInitial = true := by rw [Client.awaitsInitial, hpc]
    obtain ⟨hline, hempty⟩ := huntouched hawaits
    have hsent : old.sent = [] := (List.append_eq_nil_iff.mp hempty).1
    have hmarks : s'.marks c = [⟨true, current.sequence⟩] := by
      rw [State.marks, hflow, hpending hreads, Client.history]
      simp only [Client.goto, hline, hsent]
      rfl
    refine ⟨by rw [hmarks]; exact List.pairwise_singleton _ _, ?_, ?_, ?_, hknown⟩
    · rw [hmarks, hs']
      intro m hm
      obtain rfl := List.mem_singleton.mp hm
      exact hs.current current hsnapshot
    · rw [hs']
      exact hs.current
    · rw [hnew]
      exact hdone
  | heartbeat now hpc =>
    refine hkeeps ?_ hdone
    simp [Client.history, Client.goto, HandlerPc.message, mark, heartbeatEvent]
  | sent message hpc =>
    refine hkeeps ?_ hdone
    simp [Client.history, HandlerPc.message, hpc]
  | received posted rest hpc hheld =>
    refine hkeeps ?_ hdone
    simp [Client.history, HandlerPc.message, hpc, Mailbox.deliver, hheld]
  | unsubscribed =>
    refine hkeeps (List.Sublist.filterMap mark (List.Sublist.append_right ?_ _)) hdone
    exact List.Sublist.append_left (List.nil_sublist _) _

theorem inLine_handler (hs : InLine c s) {d : ℕ} {a : Reply}
    (hok : undisturbed c s (.handler d a) = true) (h : step s (.handler d a) = some s') :
    InLine c s' := by
  obtain ⟨old, new, hclient, hhandled, rfl⟩ := handler_inv h
  by_cases hcd : c = d
  · subst hcd
    refine inLine_handled hs hclient hhandled (fun hreads => ?_) rfl
    rw [undisturbed, State.client_eq hclient, hreads] at hok
    simpa using hok
  · have hset : ({ s with clients := s.clients.set d new } : State size).client c = s.client c := by
      rw [State.client_set hclient, if_neg hcd]
    refine hs.of_sublist (List.Sublist.filterMap mark ?_) rfl rfl ?_ ?_
    · rw [State.flow, State.line, hset]
      exact List.Sublist.refl _
    · rw [State.line, hset]
      exact hs.untouched
    · rw [List.length_set]
      exact hs.known

theorem inLine_step (hs : InLine c s) (horderly : Orderly c s)
    (hok : undisturbed c s l = true) (h : step s l = some s') : InLine c s' := by
  cases l with
  | refresh snapshot => exact inLine_refresh hs snapshot h
  | traceRun now summary => exact inLine_traceRun hs now summary h
  | enter k => exact inLine_enter hs hok h
  | publish i => exact inLine_publish hs horderly (inTurn_of_undisturbed hok) h
  | subscribe sendInitial => exact inLine_subscribe hs h
  | handler d a => exact inLine_handler hs hok h

/-! ### What a client sees -/

def Client.numbers (client : Client size) : List ℕ := client.sent.filterMap MonitoringEvent.sequence

def Client.snapshotNumbers (client : Client size) : List ℕ :=
  (client.sent.filter fun message => message.event = .snapshot).filterMap MonitoringEvent.sequence

/-- What holds of the line holds of the messages sent. -/
theorem InLine.sent (hs : InLine c s) :
    (s.client c).numbers.Pairwise (· ≤ ·) ∧ (s.client c).snapshotNumbers.Nodup := by
  have hsent : ((s.client c).sent.filterMap mark).Pairwise Mark.Before := by
    refine hs.ordered.sublist (List.Sublist.filterMap mark ?_)
    exact (List.sublist_append_left _ _).trans (List.sublist_append_left _ _)
  rw [List.pairwise_filterMap] at hsent
  have hmark : ∀ {message : MonitoringEvent} {n : ℕ}, message.sequence = some n →
      mark message = some ⟨message.event = .snapshot, n⟩ := by
    intro message n hn
    rw [mark, hn]
    rfl
  constructor
  · rw [Client.numbers, List.pairwise_filterMap]
    exact hsent.imp fun hbefore n hn m hm => (hbefore _ (hmark hn) _ (hmark hm)).1
  · rw [Client.snapshotNumbers, List.Nodup, List.pairwise_filterMap, List.pairwise_filter]
    refine hsent.imp fun hbefore hx hy n hn m hm => ?_
    exact Nat.ne_of_lt ((hbefore _ (hmark hn) _ (hmark hm)).2 hx hy)

/-- In every run that leaves a client undisturbed, the numbers it is sent never go back and
no snapshot is sent to it twice. -/
theorem stream_monotone (queueSize : ℤ) (c : ℕ) {s : State (maxsize queueSize)}
    {client : Client (maxsize queueSize)}
    (h : Reach step (fun s l => undisturbed c s l = true) (State.init (maxsize queueSize)) s)
    (hclient : s.clients[c]? = some client) :
    client.numbers.Pairwise (· ≤ ·) ∧ client.snapshotNumbers.Nodup := by
  have hinv : Orderly c s ∧ InLine c s := by
    refine h.invariant (I := fun s => Orderly c s ∧ InLine c s) ?_ ?_
    · exact ⟨orderly_init c, inLine_init c⟩
    · rintro s l s' ⟨horderly, hline⟩ hok hstep
      have hturn := inTurn_of_undisturbed hok
      exact ⟨orderly_step horderly (maxsize_pos queueSize) hturn hstep,
        inLine_step hline horderly hok hstep⟩
  rw [← State.client_eq hclient]
  exact hinv.2.sent

/-! ### Runs -/

def bareSnapshot : MonitoringSnapshot := collectSnapshot 5 0 idleSurroundings fun _ => {}

def handlerSteps (n : ℕ) : List Label := List.replicate n (.handler 0 ⟨0, false⟩)

def undisturbedRun : List Label :=
  [.refresh bareSnapshot, .enter 0, .subscribe true] ++ handlerSteps 3 ++
    [.refresh bareSnapshot, .enter 0, .publish 1, aTraceRun, .enter 0, .publish 2] ++ handlerSteps 6

/-- A snapshot is published between `subscribe` and the reading of the current one. -/
def snapshotTwice : List Label :=
  [.subscribe true, .refresh bareSnapshot, .enter 0, .publish 0] ++ handlerSteps 6

/-- A run is pending while the next snapshot is numbered, and is published after the
handler has read it. -/
def olderRun : List Label :=
  [.refresh bareSnapshot, aTraceRun, .refresh bareSnapshot, .subscribe true] ++ handlerSteps 3 ++
    [.enter 1, .publish 0] ++ handlerSteps 3

/-- Two refreshes publish in the other order; nothing is sent before. -/
def overtaken : List Label :=
  [.subscribe false, .refresh bareSnapshot, .refresh bareSnapshot, .enter 1, .publish 0, .enter 0,
    .publish 1] ++ handlerSteps 7

theorem stream_monotone_three : ∃ s : State (maxsize 4), ∃ client, s.clients[0]? = some client ∧
    client.numbers = [1, 2, 2] ∧ client.numbers.Pairwise (· ≤ ·) ∧ client.snapshotNumbers.Nodup := by
  obtain ⟨s, hs, client, hclient, hnumbers⟩ : ∃ s, Reach step
      (fun s l => undisturbed 0 s l = true) (State.init (maxsize 4)) s ∧
        ∃ client ∈ s.clients[0]?, client.numbers = [1, 2, 2] :=
    exists_reach_of_mem_run undisturbedRun (by decide +kernel)
  exact ⟨s, client, hclient, hnumbers, stream_monotone 4 0 hs hclient⟩

/-- Some run ends with the first client having been sent these numbers. -/
def Sends (p : Client (maxsize 4) → Bool) : Prop :=
  ∃ s, Reach step anyStep (State.init (maxsize 4)) s ∧ s.clients[0]?.any p = true

theorem stream_goes_back :
    Sends (fun client => client.snapshotNumbers = [1, 1]) ∧
    Sends (fun client => client.numbers = [2, 1] && client.snapshotNumbers = [2]) ∧
    Sends (fun client => client.snapshotNumbers = [2, 1]) := by
  refine ⟨exists_reach_of_run snapshotTwice ?_, exists_reach_of_run olderRun ?_,
    exists_reach_of_run overtaken ?_⟩
  · decide +kernel
  · decide +kernel
  · decide +kernel

end OvnApi.Monitor.Stream
