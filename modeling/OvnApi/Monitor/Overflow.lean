import OvnApi.Monitor.Stream

/-! What the queue of a subscriber loses. A queue holds no more than its size, hands out
its events in the order they were put on it and each at most once, whatever the threads do.
Which event is lost depends on them: between the `get_nowait` that makes room and the second
`put_nowait`, another call may take the room. As long as the calls come to a queue one after
another, in the order in which they were made, the oldest event is lost and no other. -/

namespace OvnApi.Monitor.Stream

open Lib

variable {size : ℕ} {s s' : State size} {l : Label} {c i : ℕ} {p p' : Publication}
  {old new : Client size}

/-! ### A queue and the calls that are to come to it -/

/-- What a call has yet to put on a queue. -/
def Publication.waits (c : ℕ) (p : Publication) : Option Posted :=
  if c ∈ p.todo then some (p.number, p.event) else none

theorem Publication.waits_of_head (h : p.todo.head? = some c) :
    p.waits c = some (p.number, p.event) := by
  rw [waits, if_pos (List.mem_of_head? h)]

theorem Publication.waits_next_self (h : p.todo.head? = some c) : p.next.waits c = none := by
  obtain ⟨rest, hrest⟩ := List.head?_eq_some_iff.mp h
  have hnot : c ∉ rest := (List.nodup_cons.mp (hrest ▸ p.distinct)).1
  rw [waits, if_neg]
  simpa [next, hrest] using hnot

theorem Publication.waits_next_of_ne {d : ℕ} (h : p.todo.head? = some d) (hcd : c ≠ d) :
    p.next.waits c = p.waits c := by
  obtain ⟨rest, hrest⟩ := List.head?_eq_some_iff.mp h
  simp [waits, next, hrest, hcd]

/-- At one queue, nothing changes for the others. -/
theorem Received.waits_of_ne {d published : ℕ} (h : Received old published p new p')
    (hhead : p.todo.head? = some d) (hcd : c ≠ d) : p'.waits c = p.waits c := by
  cases h with
  | stored | dropped => exact Publication.waits_next_of_ne hhead hcd
  | full | evicted | drained => rfl

namespace State

def client (s : State size) (c : ℕ) : Client size :=
  s.clients[c]?.getD { Client.subscribed false with registered := false, pc := .closed }

def waiting (s : State size) (c : ℕ) : List Posted := s.publications.filterMap (Publication.waits c)

/-- The queue, oldest first, and what is to come to it. -/
def line (s : State size) (c : ℕ) : List Posted := (s.client c).mailbox.held ++ s.waiting c

theorem client_eq (h : s.clients[c]? = some old) : s.client c = old := by
  rw [State.client, h]
  rfl

theorem client_set {d : ℕ} (h : s.clients[d]? = some old) (new : Client size)
    (publications : List Publication) :
    ({ s with clients := s.clients.set d new, publications } : State size).client c =
      if c = d then new else s.client c := by
  have hd : d < s.clients.length := (List.getElem?_eq_some_iff.mp h).1
  by_cases hcd : c = d
  · subst hcd
    simp [State.client, hd]
  · simp [State.client, hcd, List.getElem?_set_ne (Ne.symm hcd)]

/-- A new client starts out with nothing. -/
theorem client_subscribe (sendInitial : Bool) :
    ({ s with clients := s.clients ++ [.subscribed sendInitial] } : State size).client c =
        s.client c ∨
      s.clients[c]? = none ∧
        ({ s with clients := s.clients ++ [.subscribed sendInitial] } : State size).client c =
          .subscribed sendInitial := by
  rcases Nat.lt_trichotomy c s.clients.length with hlt | heq | hgt
  · left
    simp [State.client, List.getElem?_append_left hlt]
  · right
    simp [State.client, heq]
  · left
    have hnone : (s.clients ++ [Client.subscribed sendInitial])[c]? = none :=
      List.getElem?_eq_none (by simp; omega)
    have hnone' : s.clients[c]? = none := List.getElem?_eq_none (by omega)
    simp [State.client, hnone, hnone']

theorem waits_publish (event : MonitoringEvent) : (s.publish event).waits c =
    if c ∈ s.subscriptions then some (s.publications.length, event) else none := rfl

theorem waiting_enter (event : MonitoringEvent) (pending : List MonitoringEvent) :
    ({ s with pending, publications := s.publications ++ [s.publish event] } : State size).waiting c =
      s.waiting c ++ ((s.publish event).waits c).toList := by
  simp only [waiting, List.filterMap_append, List.filterMap_cons, List.filterMap_nil]
  cases (s.publish event).waits c <;> rfl

end State

/-- What a step does to the queue of a client and to the calls that are to come to it. -/
inductive QueueStep (c : ℕ) (s : State size) (l : Label) (s' : State size) : Prop where
  | still (hmailbox : (s'.client c).mailbox = (s.client c).mailbox)
      (hdiscarded : (s'.client c).discarded = (s.client c).discarded)
      (hwaiting : s'.waiting c = s.waiting c)
      (hlength : s.publications.length ≤ s'.publications.length)
  | entered (event : MonitoringEvent) (hmailbox : (s'.client c).mailbox = (s.client c).mailbox)
      (hdiscarded : (s'.client c).discarded = (s.client c).discarded)
      (hwaiting : s'.waiting c = s.waiting c ++ [(s.publications.length, event)])
      (hlength : s'.publications.length = s.publications.length + 1)
  | delivered (hmailbox : (s'.client c).mailbox = (s.client c).mailbox.deliver)
      (hdiscarded : (s'.client c).discarded = (s.client c).discarded)
      (hwaiting : s'.waiting c = s.waiting c)
      (hlength : s.publications.length ≤ s'.publications.length)
  | received (i : ℕ) (p p' : Publication) (hl : l = .publish i)
      (hp : s.publications[i]? = some p) (hhead : p.todo.head? = some c)
      (hreceived : Received (s.client c) s.publications.length p (s'.client c) p')
      (hpublications : s'.publications = s.publications.set i p')

/-- A handler takes from its queue or leaves it alone. -/
theorem Handled.mailbox {snapshot : Option MonitoringSnapshot} (h : Handled old snapshot new) :
    (new.mailbox = old.mailbox ∨ new.mailbox = old.mailbox.deliver) ∧
      new.discarded = old.discarded := by
  cases h with
  | moved | initial | heartbeat | sent | unsubscribed => exact ⟨.inl rfl, rfl⟩
  | received => exact ⟨.inr rfl, rfl⟩

theorem queueStep (c : ℕ) (h : step s l = some s') : QueueStep c s l s' := by
  cases l with
  | refresh | traceRun =>
    obtain rfl := Option.some.inj h
    exact .still rfl rfl rfl le_rfl
  | enter k =>
    obtain ⟨event, -, rfl⟩ := enter_inv h
    have hwaiting := State.waiting_enter (s := s) (c := c) event (s.pending.eraseIdx k)
    cases hwaits : (s.publish event).waits c with
    | none =>
      rw [hwaits] at hwaiting
      exact .still rfl rfl (by simpa using hwaiting) (by simp)
    | some posted =>
      rw [hwaits] at hwaiting
      obtain rfl : (s.publications.length, event) = posted := by
        rw [State.waits_publish] at hwaits
        split_ifs at hwaits
        exact Option.some.inj hwaits
      exact .entered event rfl rfl hwaiting (by simp)
  | publish i =>
    obtain ⟨p, d, old, new, p', hp, hhead, hclient, hreceived, rfl⟩ := publish_inv h
    have hset := State.client_set (c := c) hclient new (s.publications.set i p')
    by_cases hcd : c = d
    · subst hcd
      rw [if_pos rfl] at hset
      refine .received i p p' rfl hp hhead ?_ rfl
      rwa [hset, State.client_eq hclient]
    · rw [if_neg hcd] at hset
      refine .still (by rw [hset]) (by rw [hset]) ?_ (by simp)
      exact filterMap_set_of_eq hp (hreceived.waits_of_ne hhead hcd)
  | subscribe sendInitial =>
    obtain rfl := Option.some.inj h
    rcases State.client_subscribe (s := s) (c := c) sendInitial with hsame | ⟨hnone, hnew⟩
    · exact .still (by rw [hsame]) (by rw [hsame]) rfl le_rfl
    · have hold : s.client c = { Client.subscribed false with registered := false, pc := .closed } := by
        rw [State.client, hnone]
        rfl
      exact .still (by rw [hnew, hold]; rfl) (by rw [hnew, hold]; rfl) rfl le_rfl
  | handler d a =>
    obtain ⟨old, new, hclient, hhandled, rfl⟩ := handler_inv h
    have hset := State.client_set (c := c) hclient new s.publications
    by_cases hcd : c = d
    · subst hcd
      rw [if_pos rfl] at hset
      obtain ⟨hmailbox, hdiscarded⟩ := hhandled.mailbox
      rw [← State.client_eq hclient] at hmailbox hdiscarded
      rcases hmailbox with hmailbox | hmailbox
      · exact .still (by rw [hset, hmailbox]) (by rw [hset, hdiscarded]) rfl le_rfl
      · exact .delivered (by rw [hset, hmailbox]) (by rw [hset, hdiscarded]) rfl le_rfl
    · rw [if_neg hcd] at hset
      exact .still (by rw [hset]) (by rw [hset]) rfl le_rfl

/-- A call that stays at a queue waits for it as before. -/
theorem waiting_of_goto {pc : PutPc} (hp : s.publications[i]? = some p)
    (h : s'.publications = s.publications.set i (p.goto pc)) : s'.waiting c = s.waiting c := by
  rw [State.waiting, h]
  exact filterMap_set_of_eq hp rfl

/-- A call that has finished with a queue no longer waits for it. -/
theorem waiting_of_next (hp : s.publications[i]? = some p) (hhead : p.todo.head? = some c)
    (h : s'.publications = s.publications.set i p.next) :
    ∃ before after, before = (s.publications.take i).filterMap (Publication.waits c) ∧
      s.waiting c = before ++ (p.number, p.event) :: after ∧ s'.waiting c = before ++ after := by
  have hbefore := filterMap_eq_take_drop (f := Publication.waits c) hp
  have hafter := filterMap_set_eq_take_drop (f := Publication.waits c) hp p.next
  rw [Publication.waits_of_head hhead] at hbefore
  rw [Publication.waits_next_self hhead, ← h] at hafter
  exact ⟨_, _, rfl, hbefore, hafter⟩

/-! ### In every run -/

/-- No call puts its event on a queue twice. -/
structure Numbered (c : ℕ) (s : State size) : Prop where
  nodup : (((s.client c).mailbox.enqueued ++ s.waiting c).map Prod.fst).Nodup
  bound : ∀ posted ∈ (s.client c).mailbox.enqueued ++ s.waiting c,
    posted.1 < s.publications.length

theorem numbered_init (c : ℕ) : Numbered c (State.init size) where
  nodup := by simp [State.init, State.client, State.waiting, Client.subscribed, Mailbox.empty]
  bound := by simp [State.init, State.client, State.waiting, Client.subscribed, Mailbox.empty]

/-- What is on the queue or yet to come is no more than before. -/
theorem Numbered.of_subperm (hs : Numbered c s)
    (hle : ((s'.client c).mailbox.enqueued ++ s'.waiting c).Subperm
      ((s.client c).mailbox.enqueued ++ s.waiting c))
    (hlength : s.publications.length ≤ s'.publications.length) : Numbered c s' where
  nodup := by
    obtain ⟨kept, hperm, hsub⟩ := hle
    have hkept : (kept.map Prod.fst).Nodup := (hsub.map Prod.fst).nodup hs.nodup
    exact ((hperm.map Prod.fst).nodup_iff).mp hkept
  bound posted hposted := Nat.lt_of_lt_of_le (hs.bound posted (hle.subset hposted)) hlength

theorem numbered_step (hs : Numbered c s) (h : step s l = some s') : Numbered c s' := by
  cases queueStep c h with
  | still hmailbox _ hwaiting hlength =>
    exact hs.of_subperm (by rw [hmailbox, hwaiting]) hlength
  | delivered hmailbox _ hwaiting hlength =>
    refine hs.of_subperm ?_ hlength
    rw [hmailbox, hwaiting]
    exact List.Subperm.refl _
  | entered event hmailbox _ hwaiting hlength =>
    have hnew : ∀ posted ∈ (s.client c).mailbox.enqueued ++ s.waiting c,
        posted.1 ≠ s.publications.length := fun posted hposted => (hs.bound posted hposted).ne
    constructor
    · rw [hmailbox, hwaiting, ← List.append_assoc, List.map_append, List.nodup_append]
      refine ⟨hs.nodup, by simp, fun n hn m hm => ?_⟩
      obtain ⟨posted, hposted, rfl⟩ := List.mem_map.mp hn
      obtain rfl : m = s.publications.length := by simpa using hm
      exact hnew posted hposted
    · rw [hmailbox, hwaiting, hlength, ← List.append_assoc]
      exact List.forall_mem_append.mpr ⟨fun posted hold => Nat.lt_succ_of_lt (hs.bound posted hold),
        List.forall_mem_singleton.mpr (Nat.lt_succ_self _)⟩
  | received i p p' hl hp hhead hreceived hpublications =>
    have hlength : s.publications.length ≤ s'.publications.length := by simp [hpublications]
    generalize hnew : s'.client c = new at hreceived
    cases hreceived with
    | stored mailbox hput =>
      obtain ⟨before, after, -, hwaiting, hwaiting'⟩ := waiting_of_next hp hhead hpublications
      obtain ⟨-, -, henqueued⟩ := Mailbox.putNowait_eq_some hput
      refine hs.of_subperm (List.Perm.subperm ?_) hlength
      simp only [hnew, henqueued, hwaiting, hwaiting', List.append_assoc]
      have hmiddle : (before ++ (p.number, p.event) :: after).Perm
          ((p.number, p.event) :: (before ++ after)) := List.perm_middle
      exact hmiddle.symm.append_left _
    | full | drained =>
      exact hs.of_subperm (by rw [hnew, waiting_of_goto hp hpublications]) hlength
    | evicted =>
      refine hs.of_subperm ?_ hlength
      rw [hnew, waiting_of_goto hp hpublications]
      exact List.Subperm.refl _
    | dropped =>
      obtain ⟨before, after, -, hwaiting, hwaiting'⟩ := waiting_of_next hp hhead hpublications
      refine hs.of_subperm (List.Sublist.subperm ?_) hlength
      rw [hnew, hwaiting, hwaiting']
      exact ((List.sublist_cons_self _ after).append_left before).append_left _

/-! ### As long as the calls take turns -/

/-- A call comes to the queue of `c`, and does what it does there, only when every call
made before it has finished with that queue. -/
def inTurn (c : ℕ) (s : State size) : Label → Bool
  | .publish i => decide ((s.publications[i]?.bind fun p => p.todo.head?) = some c →
      ∀ p ∈ s.publications.take i, c ∉ p.todo)
  | _ => true

/-- All the events that stay were published after the one lost, which is not the latest. -/
def Discard.Oldest (d : Discard) : Prop :=
  (∀ n ∈ d.staying, d.number < n) ∧ d.number + 1 < d.published

structure Orderly (c : ℕ) (s : State size) : Prop where
  sorted : ((s.line c).map Prod.fst).Pairwise (· < ·)
  bound : ∀ posted ∈ s.line c, posted.1 < s.publications.length
  /-- Whoever has made room still finds it. -/
  room : ∀ i p, s.publications[i]? = some p → p.todo.head? = some c → p.pc = .putAgain →
    (s.client c).mailbox.held.length < size ∧ ∀ q ∈ s.publications.take i, c ∉ q.todo
  oldest : ∀ d ∈ (s.client c).discarded, d.Oldest

theorem before_of_inTurn (hturn : inTurn c s (.publish i) = true) (hp : s.publications[i]? = some p)
    (hhead : p.todo.head? = some c) : ∀ q ∈ s.publications.take i, c ∉ q.todo := by
  have hturn := of_decide_eq_true hturn
  rw [hp] at hturn
  exact hturn hhead

theorem filterMap_waits_eq_nil {l : List Publication} (h : ∀ q ∈ l, c ∉ q.todo) :
    l.filterMap (Publication.waits c) = [] := by
  rw [List.filterMap_eq_nil_iff]
  intro q hq
  rw [Publication.waits, if_neg (h q hq)]

/-- In turn, a call only moves its event along, or the oldest is lost. -/
theorem line_received (hs : Orderly c s) (hturn : inTurn c s (.publish i) = true)
    (hp : s.publications[i]? = some p) (hhead : p.todo.head? = some c)
    (hreceived : Received (s.client c) s.publications.length p (s'.client c) p')
    (hpublications : s'.publications = s.publications.set i p') :
    (s'.line c = s.line c ∧ (s'.client c).discarded = (s.client c).discarded) ∨
      ∃ posted rest, (s.client c).mailbox.held = posted :: rest ∧ s.line c = posted :: s'.line c ∧
        (s'.client c).mailbox.held = rest ∧ p' = p.goto .putAgain ∧
        (s'.client c).discarded = (s.client c).discarded ++
          [⟨posted.1, rest.map Prod.fst, s.publications.length⟩] := by
  have hbefore := before_of_inTurn hturn hp hhead
  generalize hnew : s'.client c = new at hreceived
  cases hreceived with
  | stored mailbox hput =>
    obtain ⟨before, after, rfl, hwaiting, hwaiting'⟩ := waiting_of_next hp hhead hpublications
    obtain ⟨-, hheld, -⟩ := Mailbox.putNowait_eq_some hput
    rw [filterMap_waits_eq_nil hbefore] at hwaiting hwaiting'
    left
    simp [State.line, hnew, hwaiting, hwaiting', hheld]
  | full | drained =>
    left
    simp [State.line, hnew, waiting_of_goto hp hpublications]
  | evicted posted rest _ hheld =>
    right
    refine ⟨posted, rest, hheld, ?_, by simp [Client.lose, Mailbox.evict, hheld], rfl,
      by simp [Client.lose, Mailbox.evict, hheld]⟩
    simp [State.line, hnew, waiting_of_goto hp hpublications, Client.lose, Mailbox.evict, hheld]
  | dropped hpc hfull =>
    have hroom := (hs.room i p hp hhead hpc).1
    omega

theorem Received.todo_subset {published : ℕ} (h : Received old published p new p') :
    p'.todo ⊆ p.todo := by
  cases h with
  | stored | dropped => exact List.tail_subset p.todo
  | full | evicted | drained => exact List.Subset.refl _

theorem mem_take_of_lt {j : ℕ} (hp : s.publications[j]? = some p) (hj : j < i) :
    p ∈ s.publications.take i :=
  List.mem_of_getElem? (i := j) (by rw [List.getElem?_take_of_lt hj, hp])

/-- Only a call of `_publish_event` makes a queue longer. -/
theorem held_length_le (h : step s l = some s') (hl : ∀ i, l ≠ .publish i) :
    (s'.client c).mailbox.held.length ≤ (s.client c).mailbox.held.length := by
  cases queueStep c h with
  | still hmailbox | entered _ hmailbox => rw [hmailbox]
  | delivered hmailbox =>
    rw [hmailbox]
    exact (List.tail_sublist _).length_le
  | received i _ _ hi => exact absurd hi (hl i)

theorem room_publish (hs : Orderly c s) (hsize : 0 < size) {j : ℕ}
    (hturn : inTurn c s (.publish j) = true) (h : step s (.publish j) = some s') (i : ℕ)
    (p : Publication) (hp : s'.publications[i]? = some p) (hhead : p.todo.head? = some c)
    (hpc : p.pc = .putAgain) :
    (s'.client c).mailbox.held.length < size ∧ ∀ q ∈ s'.publications.take i, c ∉ q.todo := by
  obtain ⟨moved, d, old, new, moved', hmoved, hd, hclient, hreceived, rfl⟩ := publish_inv h
  have hj : j < s.publications.length := (List.getElem?_eq_some_iff.mp hmoved).1
  have hset := State.client_set (c := c) hclient new (s.publications.set j moved')
  by_cases hij : i = j
  · -- the call that moves is the one about to put again: it has just made room
    subst hij
    obtain rfl : moved' = p := by simpa [hj] using hp
    cases hreceived with
    | stored | dropped | full => cases hpc
    | evicted posted rest _ hheld =>
      obtain rfl : c = d := Option.some.inj (hhead.symm.trans hd)
      rw [if_pos rfl] at hset
      have hlength : (old.mailbox.evict).held.length < size := by
        have hbounded := old.mailbox.bounded
        rw [hheld, List.length_cons] at hbounded
        simp only [Mailbox.evict, hheld, List.tail_cons]
        omega
      refine ⟨by rw [hset]; exact hlength, ?_⟩
      rw [List.take_set_of_le le_rfl]
      exact before_of_inTurn hturn hmoved hd
    | drained _ hheld =>
      obtain rfl : c = d := Option.some.inj (hhead.symm.trans hd)
      rw [if_pos rfl] at hset
      refine ⟨by rwa [hset, hheld], ?_⟩
      rw [List.take_set_of_le le_rfl]
      exact before_of_inTurn hturn hmoved hd
  · -- another call is: it is the first in line, so the one that moves is not at this queue
    have hold : s.publications[i]? = some p := by
      rwa [List.getElem?_set_ne (Ne.symm hij)] at hp
    obtain ⟨hroom, hbefore⟩ := hs.room i p hold hhead hpc
    have hcd : c ≠ d := by
      rintro rfl
      rcases Nat.lt_or_gt_of_ne hij with hlt | hgt
      · exact before_of_inTurn hturn hmoved hd p (mem_take_of_lt hold hlt) (List.mem_of_head? hhead)
      · exact hbefore moved (mem_take_of_lt hmoved hgt) (List.mem_of_head? hd)
    rw [if_neg hcd] at hset
    refine ⟨by rwa [hset], fun q hq => ?_⟩
    by_cases hji : j < i
    · rw [List.take_set] at hq
      rcases List.mem_or_eq_of_mem_set hq with hq | rfl
      · exact hbefore q hq
      · exact fun hc => hbefore moved (mem_take_of_lt hmoved hji) (hreceived.todo_subset hc)
    · rw [List.take_set_of_le (Nat.not_lt.mp hji)] at hq
      exact hbefore q hq

theorem room_step (hs : Orderly c s) (hsize : 0 < size) (hturn : inTurn c s l = true)
    (h : step s l = some s') (i : ℕ) (p : Publication) (hp : s'.publications[i]? = some p)
    (hhead : p.todo.head? = some c) (hpc : p.pc = .putAgain) :
    (s'.client c).mailbox.held.length < size ∧ ∀ q ∈ s'.publications.take i, c ∉ q.todo := by
  have hsame : (∀ i, l ≠ .publish i) → s'.publications = s.publications →
      (s'.client c).mailbox.held.length < size ∧ ∀ q ∈ s'.publications.take i, c ∉ q.todo := by
    intro hl hpublications
    rw [hpublications] at hp ⊢
    obtain ⟨hroom, hbefore⟩ := hs.room i p hp hhead hpc
    exact ⟨Nat.lt_of_le_of_lt (held_length_le h hl) hroom, hbefore⟩
  cases l with
  | publish j => exact room_publish hs hsize hturn h i p hp hhead hpc
  | enter k =>
    have hle := held_length_le (c := c) h nofun
    obtain ⟨event, -, rfl⟩ := enter_inv h
    rcases getElem?_snoc hp with hold | ⟨-, rfl⟩
    · obtain ⟨hroom, hbefore⟩ := hs.room i p hold hhead hpc
      have hi : i ≤ s.publications.length := (List.getElem?_eq_some_iff.mp hold).1.le
      refine ⟨Nat.lt_of_le_of_lt hle hroom, ?_⟩
      rwa [List.take_append_of_le_length hi]
    · cases hpc
  | refresh | traceRun | subscribe =>
    obtain rfl := Option.some.inj h
    exact hsame nofun rfl
  | handler d a =>
    obtain ⟨_, _, -, -, rfl⟩ := handler_inv h
    exact hsame nofun rfl

theorem orderly_init (c : ℕ) : Orderly c (State.init size) where
  sorted := by simp [State.line, State.init, State.client, State.waiting, Client.subscribed,
    Mailbox.empty]
  bound := by simp [State.line, State.init, State.client, State.waiting, Client.subscribed,
    Mailbox.empty]
  room i p hp := by simp [State.init] at hp
  oldest := by simp [State.init, State.client, Client.subscribed]

/-- A line that has only become shorter, with nothing lost to the queue. -/
theorem Orderly.of_sublist (hs : Orderly c s) (hline : (s'.line c).Sublist (s.line c))
    (hlength : s.publications.length ≤ s'.publications.length)
    (hroom : ∀ i p, s'.publications[i]? = some p → p.todo.head? = some c → p.pc = .putAgain →
      (s'.client c).mailbox.held.length < size ∧ ∀ q ∈ s'.publications.take i, c ∉ q.todo)
    (holdest : ∀ d ∈ (s'.client c).discarded, d.Oldest) : Orderly c s' where
  sorted := hs.sorted.sublist (hline.map Prod.fst)
  bound posted hposted := Nat.lt_of_lt_of_le (hs.bound posted (hline.subset hposted)) hlength
  room := hroom
  oldest := holdest

theorem orderly_step (hs : Orderly c s) (hsize : 0 < size) (hturn : inTurn c s l = true)
    (h : step s l = some s') : Orderly c s' := by
  have hroom := room_step hs hsize hturn h
  cases queueStep c h with
  | still hmailbox hdiscarded hwaiting hlength =>
    refine hs.of_sublist ?_ hlength hroom (by rw [hdiscarded]; exact hs.oldest)
    rw [State.line, hmailbox, hwaiting]
    exact List.Sublist.refl _
  | delivered hmailbox hdiscarded hwaiting hlength =>
    refine hs.of_sublist ?_ hlength hroom (by rw [hdiscarded]; exact hs.oldest)
    rw [State.line, hmailbox, hwaiting]
    exact (List.tail_sublist _).append_right _
  | entered event hmailbox hdiscarded hwaiting hlength =>
    have hline : s'.line c = s.line c ++ [(s.publications.length, event)] := by
      rw [State.line, hmailbox, hwaiting, State.line, List.append_assoc]
    refine ⟨?_, ?_, hroom, by rw [hdiscarded]; exact hs.oldest⟩
    · rw [hline, List.map_append, List.pairwise_append]
      refine ⟨hs.sorted, by simp, fun n hn m hm => ?_⟩
      obtain ⟨posted, hposted, rfl⟩ := List.mem_map.mp hn
      obtain rfl : m = s.publications.length := by simpa using hm
      exact hs.bound posted hposted
    · rw [hline, hlength]
      exact List.forall_mem_append.mpr ⟨fun posted hold => Nat.lt_succ_of_lt (hs.bound posted hold),
        List.forall_mem_singleton.mpr (Nat.lt_succ_self _)⟩
  | received i p p' hl hp hhead hreceived hpublications =>
    subst hl
    have hlength : s.publications.length ≤ s'.publications.length := by simp [hpublications]
    rcases line_received hs hturn hp hhead hreceived hpublications with
      ⟨hline, hdiscarded⟩ | ⟨posted, rest, hheld, hline, hheld', rfl, hdiscarded⟩
    · exact hs.of_sublist (by rw [hline]) hlength hroom (by rw [hdiscarded]; exact hs.oldest)
    · refine hs.of_sublist (by rw [hline]; exact List.sublist_cons_self _ _) hlength hroom ?_
      rw [hdiscarded]
      intro d hd
      rcases List.mem_append.mp hd with hold | hlast
      · exact hs.oldest d hold
      · obtain rfl := List.mem_singleton.mp hlast
        have hsorted := hs.sorted
        rw [hline, List.map_cons, List.pairwise_cons] at hsorted
        have hwaits : (p.number, p.event) ∈ s'.line c := by
          rw [State.line, waiting_of_goto hp hpublications]
          refine List.mem_append_right _ (List.mem_filterMap.mpr ⟨p, List.mem_of_getElem? hp, ?_⟩)
          exact Publication.waits_of_head hhead
        have hlater : posted.1 < p.number := hsorted.1 _ (List.mem_map_of_mem hwaits)
        have hbound := hs.bound (p.number, p.event) (by rw [hline]; exact List.mem_cons_of_mem _ hwaits)
        refine ⟨fun n hn => hsorted.1 n ?_, ?_⟩
        · rw [State.line, hheld', List.map_append]
          exact List.mem_append_left _ hn
        · simp only at hbound ⊢
          omega

theorem Numbered.nodup_delivered (hs : Numbered c s) :
    ((s.client c).mailbox.delivered.map Prod.fst).Nodup := by
  have henqueued := hs.nodup
  rw [List.map_append] at henqueued
  exact ((s.client c).mailbox.delivered_sublist.map Prod.fst).nodup henqueued.of_append_left

theorem maxsize_pos (queueSize : ℤ) : 0 < maxsize queueSize := by
  rw [maxsize]
  omega

/-- In every run a queue is bounded, in order and without repetitions; in every run in
which the calls take turns at it, it loses only its oldest event. -/
theorem queues_drop_oldest (queueSize : ℤ) :
    (∀ s, Reach step anyStep (State.init (maxsize queueSize)) s →
      ∀ (c : ℕ) client, s.clients[c]? = some client →
        (client.mailbox.held.length : ℤ) ≤ max queueSize 4 ∧
        (client.mailbox.delivered.map Prod.fst).Nodup ∧
        client.mailbox.delivered.Sublist client.mailbox.enqueued) ∧
    ∀ c s, Reach step (fun s l => inTurn c s l = true) (State.init (maxsize queueSize)) s →
      ∀ client, s.clients[c]? = some client → ∀ d ∈ client.discarded, d.Oldest := by
  constructor
  · intro s hs c client hclient
    have hnumbered : Numbered c s := hs.invariant (numbered_init c)
      fun _ _ _ hnumbered _ h => numbered_step hnumbered h
    have hbounded : client.mailbox.held.length ≤ (max queueSize 4).toNat := client.mailbox.bounded
    refine ⟨by omega, ?_, client.mailbox.delivered_sublist⟩
    simpa [State.client_eq hclient] using hnumbered.nodup_delivered
  · intro c s hs client hclient
    have horderly : Orderly c s := hs.invariant (orderly_init c)
      fun _ _ _ horderly hturn h => orderly_step horderly (maxsize_pos queueSize) hturn h
    simpa [State.client_eq hclient] using horderly.oldest

/-! ### Two runs -/

def aTraceRun : Label := .traceRun 0 ("probe", .queued)

def fourPublished : List Label :=
  .subscribe false :: [0, 1, 2, 3].flatMap fun i => [aTraceRun, .enter 0, .publish i]

def fifthPublished : List Label :=
  fourPublished ++ [aTraceRun, .enter 0, .publish 4, .publish 4, .publish 4]

/-- A fifth and a sixth event are published at a time. The sixth call makes room, the
fifth takes it, and the sixth gives up. -/
def sixthLost : List Label :=
  fourPublished ++ [aTraceRun, aTraceRun, .enter 0, .enter 0, .publish 5, .publish 5, .publish 4,
    .publish 5]

theorem queues_drop_oldest_fifth : ∃ s : State (maxsize 4), ∃ client, s.clients[0]? = some client ∧
    client.discarded = [⟨0, [1, 2, 3], 5⟩] ∧ ∀ d ∈ client.discarded, d.Oldest := by
  obtain ⟨s, hs, client, hclient, hdiscarded⟩ : ∃ s, Reach step (fun s l => inTurn 0 s l = true)
      (State.init (maxsize 4)) s ∧
        ∃ client ∈ s.clients[0]?, client.discarded = [⟨0, [1, 2, 3], 5⟩] :=
    exists_reach_of_mem_run fifthPublished (by decide +kernel)
  exact ⟨s, client, hclient, hdiscarded, (queues_drop_oldest 4).2 0 s hs client hclient⟩

/-- The event lost is the latest of six, and four older ones stay. -/
theorem latest_event_lost : ∃ s : State (maxsize 4), ∃ client,
    Reach step anyStep (State.init (maxsize 4)) s ∧ s.clients[0]? = some client ∧
      (⟨5, [1, 2, 3, 4], 6⟩ : Discard) ∈ client.discarded := by
  obtain ⟨s, hs, client, hclient, hdiscarded⟩ : ∃ s, Reach step anyStep (State.init (maxsize 4)) s ∧
      ∃ client ∈ s.clients[0]?, (⟨5, [1, 2, 3, 4], 6⟩ : Discard) ∈ client.discarded :=
    exists_reach_of_mem_run sixthLost (by decide +kernel)
  exact ⟨s, client, hs, hclient, hdiscarded⟩

end OvnApi.Monitor.Stream
