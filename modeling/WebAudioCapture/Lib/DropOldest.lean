/-!
# Drop-oldest queues

A bounded first-in first-out queue that never refuses an item while it is
open: a push on a full queue discards the oldest item and counts it, and the
next pop hands the count over. `Recorded` numbers the accepted items, so that
the count handed over with an item can be compared with the gap before it.
-/

structure DropOldest (α : Type) where
  items : List α
  dropped : Nat
  closed : Bool
  deriving DecidableEq, Repr

namespace DropOldest

variable {α : Type}

def empty : DropOldest α := ⟨[], 0, false⟩

/-- The queue after the push and the number of items it discarded. -/
def push (cap : Nat) (x : α) (s : DropOldest α) : DropOldest α × Nat :=
  if s.closed then (s, 0)
  else if s.items.length = cap then
    ({ s with items := s.items.tail ++ [x], dropped := s.dropped + 1 }, 1)
  else ({ s with items := s.items ++ [x] }, 0)

inductive Popped (α : Type) where
  | item (x : α)
  | empty
  | closed
  deriving DecidableEq, Repr

/-- The queue after the pop, what came out, and the drops handed over. -/
def pop (s : DropOldest α) : DropOldest α × Popped α × Nat :=
  match s.items with
  | x :: rest => ({ s with items := rest, dropped := 0 }, .item x, s.dropped)
  | [] => ({ s with dropped := 0 }, if s.closed then .closed else .empty, s.dropped)

def close (s : DropOldest α) : DropOldest α := { s with closed := true }

theorem pop_nil {s : DropOldest α} (h : s.items = []) :
    s.pop = ({ s with dropped := 0 }, if s.closed then .closed else .empty, s.dropped) := by
  unfold pop
  split
  · rename_i eq; rw [h] at eq; cases eq
  · rfl

theorem pop_cons {s : DropOldest α} {x : α} {rest : List α} (h : s.items = x :: rest) :
    s.pop = ({ s with items := rest, dropped := 0 }, .item x, s.dropped) := by
  unfold pop
  split
  · rename_i eq
    rw [h] at eq
    cases eq
    rfl
  · rename_i eq; rw [h] at eq; cases eq

/-- Drops wait to be handed over only while the queue is full. -/
structure Bounded (cap : Nat) (s : DropOldest α) : Prop where
  length_le : s.items.length ≤ cap
  full : 0 < s.dropped → s.items.length = cap

theorem empty_bounded (cap : Nat) : Bounded cap (empty : DropOldest α) :=
  ⟨Nat.zero_le _, fun h => absurd h (Nat.lt_irrefl 0)⟩

theorem push_bounded {cap : Nat} {s : DropOldest α} (positive : 0 < cap) (h : Bounded cap s)
    (x : α) : Bounded cap (s.push cap x).1 := by
  unfold push
  split
  · exact h
  · split
    · rename_i full
      have kept : (s.items.tail ++ [x]).length = cap := by
        simp only [List.length_append, List.length_tail, List.length_singleton]; omega
      exact ⟨Nat.le_of_eq kept, fun _ => kept⟩
    · rename_i room
      have le := h.length_le
      refine ⟨by simp only [List.length_append, List.length_singleton]; omega, fun some => ?_⟩
      exact absurd (h.full some) room

theorem pop_bounded {cap : Nat} {s : DropOldest α} (h : Bounded cap s) : Bounded cap s.pop.1 := by
  have le := h.length_le
  cases queued : s.items with
  | nil =>
    rw [pop_nil queued]
    exact ⟨le, fun some => absurd some (Nat.lt_irrefl 0)⟩
  | cons x rest =>
    rw [queued, List.length_cons] at le
    rw [pop_cons queued]
    exact ⟨by dsimp only; omega, fun some => absurd some (Nat.lt_irrefl 0)⟩

theorem close_bounded {cap : Nat} {s : DropOldest α} (h : Bounded cap s) : Bounded cap s.close :=
  ⟨h.length_le, h.full⟩

/-- A pop that yields nothing has no drops to hand over. -/
theorem nothing_dropped {cap : Nat} {s : DropOldest α} (positive : 0 < cap) (h : Bounded cap s)
    (none : s.items = []) : s.dropped = 0 := by
  obtain zero | some := Nat.eq_zero_or_pos s.dropped
  · exact zero
  · have full := h.full some
    rw [none, List.length_nil] at full
    omega

/-! ## Numbering -/

/-- A queue with the items it has accepted, numbered by position, and one
past the number of the last item popped. -/
structure Recorded (α : Type) where
  queue : DropOldest α
  accepted : List α
  next : Nat

namespace Recorded

def push (cap : Nat) (x : α) (r : Recorded α) : Recorded α :=
  { r with
    queue := (r.queue.push cap x).1
    accepted := if r.queue.closed then r.accepted else r.accepted ++ [x] }

def pop (r : Recorded α) : Recorded α :=
  { r with
    queue := r.queue.pop.1
    next := if r.queue.items = [] then r.next else r.next + r.queue.dropped + 1 }

def close (r : Recorded α) : Recorded α := { r with queue := r.queue.close }

end Recorded

/-- The queued items are the accepted ones after the last popped item and the
drops since. -/
structure Numbered (cap : Nat) (r : Recorded α) : Prop where
  bounded : Bounded cap r.queue
  items : r.queue.items = r.accepted.drop (r.next + r.queue.dropped)
  within : r.next + r.queue.dropped ≤ r.accepted.length

theorem empty_numbered (cap : Nat) : Numbered cap (⟨empty, [], 0⟩ : Recorded α) :=
  ⟨empty_bounded cap, rfl, Nat.le_refl _⟩

theorem push_numbered {cap : Nat} {r : Recorded α} (positive : 0 < cap) (h : Numbered cap r)
    (x : α) : Numbered cap (r.push cap x) := by
  have bounded := push_bounded positive h.bounded x
  have items := h.items
  have within := h.within
  cases shut : r.queue.closed with
  | true =>
    refine ⟨bounded, ?_, ?_⟩ <;> simp only [Recorded.push, DropOldest.push, shut, if_true]
    · exact items
    · exact within
  | false =>
    by_cases full : r.queue.items.length = cap
    · have nonempty : r.next + r.queue.dropped < r.accepted.length := by
        rw [items, List.length_drop] at full
        omega
      refine ⟨bounded, ?_, ?_⟩ <;>
        simp only [Recorded.push, DropOldest.push, shut, full, if_true, Bool.false_eq_true, if_false]
      · rw [items, List.tail_drop, ← Nat.add_assoc, List.drop_append_of_le_length nonempty]
      · rw [List.length_append, List.length_singleton]; omega
    · refine ⟨bounded, ?_, ?_⟩ <;>
        simp only [Recorded.push, DropOldest.push, shut, full, Bool.false_eq_true, if_false]
      · rw [items, List.drop_append_of_le_length within]
      · rw [List.length_append, List.length_singleton]; omega

theorem pop_numbered {cap : Nat} {r : Recorded α} (positive : 0 < cap) (h : Numbered cap r) :
    Numbered cap r.pop := by
  have bounded := pop_bounded h.bounded
  have items := h.items
  have within := h.within
  cases queued : r.queue.items with
  | nil =>
    have zero := nothing_dropped positive h.bounded queued
    rw [zero] at items within
    refine ⟨bounded, ?_, ?_⟩ <;> simp only [Recorded.pop, pop_nil queued, queued, if_true]
    · rw [← queued]; exact items
    · exact within
  | cons x rest =>
    have nonempty : r.next + r.queue.dropped < r.accepted.length := by
      have lengths := congrArg List.length items
      rw [queued, List.length_cons, List.length_drop] at lengths
      omega
    refine ⟨bounded, ?_, ?_⟩ <;>
      simp only [Recorded.pop, pop_cons queued, queued, reduceCtorEq, if_false]
    · rw [Nat.add_zero, ← List.tail_drop, ← items, queued, List.tail_cons]
    · omega

theorem close_numbered {cap : Nat} {r : Recorded α} (h : Numbered cap r) :
    Numbered cap r.close :=
  ⟨close_bounded h.bounded, h.items, h.within⟩

/-- The item a pop yields is the one after the last popped item and the drops
reported with it. -/
theorem Numbered.popped {cap : Nat} {r : Recorded α} (h : Numbered cap r) {x : α} {rest : List α}
    (queued : r.queue.items = x :: rest) : r.accepted[r.next + r.queue.dropped]? = some x := by
  have head := congrArg List.head? h.items
  rw [queued, List.head?_cons, List.head?_drop] at head
  exact head.symm

end DropOldest
