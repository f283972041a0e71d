import Mathlib.Data.List.Nodup

/-! A bounded first-in-first-out queue, with a record of what was put on it and of what
its consumer took. Whoever needs room evicts the oldest entry, which the consumer then
never sees. Bound and order are part of the type. -/

namespace OvnApi.Lib

structure Mailbox (α : Type) (size : ℕ) where
  held : List α
  enqueued : List α
  delivered : List α
  bounded : held.length ≤ size
  order : (delivered ++ held).Sublist enqueued

namespace Mailbox

variable {α : Type} {size : ℕ}

def empty : Mailbox α size := ⟨[], [], [], Nat.zero_le size, List.Sublist.refl []⟩

theorem length_put {m : Mailbox α size} (h : m.held.length < size) (x : α) :
    (m.held ++ [x]).length ≤ size := by
  rw [List.length_append]
  exact h

theorem order_put (m : Mailbox α size) (x : α) :
    (m.delivered ++ (m.held ++ [x])).Sublist (m.enqueued ++ [x]) := by
  rw [← List.append_assoc]
  exact m.order.append_right [x]

/-- `none` if the queue is full. -/
def putNowait (m : Mailbox α size) (x : α) : Option (Mailbox α size) :=
  if h : m.held.length < size then
    some ⟨m.held ++ [x], m.enqueued ++ [x], m.delivered, length_put h x, order_put m x⟩
  else none

theorem length_tail_le (m : Mailbox α size) : m.held.tail.length ≤ size := by
  rw [List.length_tail]
  exact Nat.le_trans (Nat.sub_le _ _) m.bounded

theorem order_deliver (m : Mailbox α size) :
    (m.delivered ++ m.held.head?.toList ++ m.held.tail).Sublist m.enqueued := by
  rw [List.append_assoc]
  cases hheld : m.held with
  | nil => simpa [hheld] using m.order
  | cons x rest => simpa [hheld] using m.order

theorem order_evict (m : Mailbox α size) : (m.delivered ++ m.held.tail).Sublist m.enqueued :=
  (m.held.tail_sublist.append_left m.delivered).trans m.order

/-- The consumer takes the oldest entry. -/
def deliver (m : Mailbox α size) : Mailbox α size :=
  ⟨m.held.tail, m.enqueued, m.delivered ++ m.held.head?.toList, length_tail_le m, order_deliver m⟩

/-- Someone else takes the oldest entry. -/
def evict (m : Mailbox α size) : Mailbox α size :=
  ⟨m.held.tail, m.enqueued, m.delivered, length_tail_le m, order_evict m⟩

theorem delivered_sublist (m : Mailbox α size) : m.delivered.Sublist m.enqueued :=
  (List.sublist_append_left m.delivered m.held).trans m.order

theorem putNowait_eq_some {m m' : Mailbox α size} {x : α} (h : m.putNowait x = some m') :
    m.held.length < size ∧ m'.held = m.held ++ [x] ∧ m'.enqueued = m.enqueued ++ [x] := by
  rw [putNowait] at h
  split_ifs at h with hroom
  cases h
  exact ⟨hroom, rfl, rfl⟩

theorem putNowait_eq_none {m : Mailbox α size} {x : α} (h : m.putNowait x = none) :
    size ≤ m.held.length := by
  rw [putNowait] at h
  split_ifs at h with hroom
  exact Nat.not_lt.mp hroom

end Mailbox

end OvnApi.Lib
