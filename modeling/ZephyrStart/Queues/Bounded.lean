import Mathlib.Data.List.Basic
import Mathlib.Data.List.Sublists

/-!
# Bounded queues

A first-in first-out queue that has room for `cap` items and loses what is put into it while it is
full.  `Delivered offered taken q` relates a queue to what has been put into it and what has been
taken out of it: the items taken, followed by those still in the queue, are items that were offered,
in the order in which they were offered and each at most once.
-/

namespace Queues

variable {α : Type*} {cap : ℕ}

/-- A queue of at most `cap` items, the oldest one first. -/
structure BoundedQueue (α : Type*) (cap : ℕ) where
  items : List α
  length_le : items.length ≤ cap
deriving DecidableEq

namespace BoundedQueue

/-- The queue without items. -/
def empty : BoundedQueue α cap := ⟨[], Nat.zero_le cap⟩

/-- The new item goes to the end, unless the queue is full. -/
def put (q : BoundedQueue α cap) (x : α) : BoundedQueue α cap :=
  if h : q.items.length < cap then ⟨q.items ++ [x], by rw [List.length_append]; exact h⟩ else q

/-- The rest of the items fit as well. -/
lemma tail_length_le (q : BoundedQueue α cap) {x : α} {rest : List α} (h : q.items = x :: rest) :
    rest.length ≤ cap := by
  have hle := q.length_le
  rw [h] at hle
  exact Nat.le_of_succ_le hle

/-- The oldest item and the queue without it, if there is one. -/
def take (q : BoundedQueue α cap) : Option (α × BoundedQueue α cap) :=
  match h : q.items with
  | [] => none
  | x :: rest => some (x, ⟨rest, q.tail_length_le h⟩)

/-- The empty queue has no items. -/
@[simp] lemma items_empty : (empty : BoundedQueue α cap).items = [] := rfl

/-- What is put into a queue with room is its last item. -/
lemma items_put_of_lt {q : BoundedQueue α cap} (x : α) (h : q.items.length < cap) :
    (q.put x).items = q.items ++ [x] := by
  rw [put, dif_pos h]

/-- A full queue stays as it is. -/
lemma put_of_full {q : BoundedQueue α cap} (x : α) (h : ¬q.items.length < cap) : q.put x = q := by
  rw [put, dif_neg h]

/-- An item is taken from the front. -/
lemma items_of_take {q q' : BoundedQueue α cap} {x : α} (h : q.take = some (x, q')) :
    q.items = x :: q'.items := by
  unfold take at h
  split at h
  · cases h
  · rename_i y rest hitems
    obtain ⟨rfl, rfl⟩ := Prod.mk.inj (Option.some.inj h)
    exact hitems

end BoundedQueue

/-! ## What a queue delivers -/

/-- The items of `taken` have been taken out of the queue, in this order, and those of `offered` put
into it. -/
def Delivered (offered taken : List α) (q : BoundedQueue α cap) : Prop :=
  List.Sublist (taken ++ q.items) offered

/-- Nothing has happened to an empty queue. -/
lemma Delivered.empty : Delivered ([] : List α) [] (BoundedQueue.empty : BoundedQueue α cap) :=
  List.Sublist.refl []

/-- An item is put into the queue, or lost. -/
theorem Delivered.put {offered taken : List α} {q : BoundedQueue α cap}
    (h : Delivered offered taken q) (x : α) : Delivered (offered ++ [x]) taken (q.put x) := by
  unfold Delivered at h ⊢
  by_cases hroom : q.items.length < cap
  · rw [BoundedQueue.items_put_of_lt x hroom, ← List.append_assoc]
    exact h.append (List.Sublist.refl [x])
  · rw [BoundedQueue.put_of_full x hroom]
    exact h.trans (List.sublist_append_left offered [x])

/-- An item is taken out of the queue. -/
theorem Delivered.take {offered taken : List α} {q q' : BoundedQueue α cap} {x : α}
    (h : Delivered offered taken q) (htake : q.take = some (x, q')) :
    Delivered offered (taken ++ [x]) q' := by
  unfold Delivered at h ⊢
  rw [BoundedQueue.items_of_take htake] at h
  rw [List.append_assoc]
  exact h

/-- An item is offered and no part of it reaches the queue. -/
lemma Delivered.lose {offered taken : List α} {q : BoundedQueue α cap}
    (h : Delivered offered taken q) (x : α) : Delivered (offered ++ [x]) taken q :=
  List.Sublist.trans h (List.sublist_append_left offered [x])

/-- Nothing more is offered. -/
lemma Delivered.append_nil {offered taken : List α} {q : BoundedQueue α cap}
    (h : Delivered offered taken q) : Delivered (offered ++ []) taken q := by
  rw [List.append_nil]
  exact h

/-- What has been taken was offered, in this order. -/
lemma Delivered.taken_sublist {offered taken : List α} {q : BoundedQueue α cap}
    (h : Delivered offered taken q) : List.Sublist taken offered :=
  (List.sublist_append_left taken q.items).trans h

end Queues
