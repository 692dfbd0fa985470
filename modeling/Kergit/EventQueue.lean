import Mathlib.Data.List.Basic

/-!
The queue between the network threads and the workers.

It is bounded, with two priorities: a low event that finds it full is dropped, a high
one takes the place of the youngest low one, and is dropped where there is none.  The
workers take high events before low ones, each kind in its order.
-/

namespace Kergit

inductive EventPriority where
  | high
  | low
deriving DecidableEq, Repr

structure EventQueue (α : Type) where
  capacity : Nat := 30000
  high : List α := []
  low : List α := []
  size : Nat := high.length + low.length
  counted : size = high.length + low.length := by rfl

namespace EventQueue

inductive PushResult where
  | ok
  | droppedLow
  | droppedHigh
deriving DecidableEq, Repr

variable {α : Type} (q : EventQueue α)

/-- The queue is bounded, and full. -/
def Full : Prop := 0 < q.capacity ∧ q.capacity ≤ q.size
deriving Decidable

def append (priority : EventPriority) (event : α) : EventQueue α :=
  match priority with
  | .low =>
    { q with
      low := q.low ++ [event]
      size := q.size + 1
      counted := by simp [q.counted]; omega }
  | .high =>
    { q with
      high := q.high ++ [event]
      size := q.size + 1
      counted := by simp [q.counted]; omega }

/-- `low_.pop_back()`. -/
def evictLow (occupied : q.low ≠ []) : EventQueue α :=
  { q with
    low := q.low.dropLast
    size := q.size - 1
    counted := by
      have := List.length_pos_iff.mpr occupied
      simp [q.counted]
      omega }

def push (priority : EventPriority) (event : α) : PushResult × EventQueue α :=
  if q.Full then
    if priority = .low then (.droppedLow, q)
    else if occupied : q.low ≠ [] then (.ok, (q.evictLow occupied).append priority event)
    else (.droppedHigh, q)
  else (.ok, q.append priority event)

-- `EventQueue::pop_front_locked`; nothing while the queue is empty.
def pop : Option (α × EventQueue α) :=
  match front : q.high with
  | event :: rest =>
    some (event, { q with
      high := rest
      size := q.size - 1
      counted := by simp [q.counted, front] })
  | [] =>
    match back : q.low with
    | event :: rest =>
      some (event, { q with
        low := rest
        size := q.size - 1
        counted := by simp [q.counted, back] })
    | [] => none

/-! ## What an operation does -/

variable {q} {priority : EventPriority} {event : α}

/-- What a push can do. -/
theorem push_cases (q : EventQueue α) (priority : EventPriority) (event : α) :
    (¬ q.Full ∧ q.push priority event = (.ok, q.append priority event)) ∨
    (q.Full ∧ priority = .low ∧ q.push priority event = (.droppedLow, q)) ∨
    (∃ occupied : q.low ≠ [], q.Full ∧ priority = .high ∧
      q.push priority event = (.ok, (q.evictLow occupied).append priority event)) ∨
    q.Full ∧ priority = .high ∧ q.low = [] ∧ q.push priority event = (.droppedHigh, q) := by
  unfold push
  by_cases full : q.Full
  · refine .inr ?_
    cases priority with
    | low => exact .inl ⟨full, rfl, by simp [full]⟩
    | high =>
      grind
  · exact .inl ⟨full, by simp [full]⟩

/-- What a pop can do. -/
theorem pop_cases (q : EventQueue α) :
    (q.high = [] ∧ q.low = [] ∧ q.pop = none) ∨
    (∃ event rest, q.high = event :: rest.high ∧ rest.low = q.low ∧
      rest.capacity = q.capacity ∧ q.pop = some (event, rest)) ∨
    ∃ event rest, q.high = [] ∧ rest.high = [] ∧ q.low = event :: rest.low ∧
      rest.capacity = q.capacity ∧ q.pop = some (event, rest) := by
  unfold pop
  grind

end EventQueue

end Kergit
