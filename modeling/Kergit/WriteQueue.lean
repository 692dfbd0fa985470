import Kergit.AsyncMessageWriter

/-!
`DbWriteQueue` under concurrent calls, one atomic step at a time.

`AsyncMessageWriter` takes a reservation for one step.  Here it is the load of the counter and the
compare-exchanges that follow; a call compares the value it loaded with its capacity before its next
step.  The counter and the queue are changed apart, so the counter also counts the calls in between:
those that have a slot and have not pushed, and those that have popped and not given the slot back.
-/

namespace Kergit

open Lib

/-- The queue, the calls of `try_push` that have loaded the counter or have a slot, the calls of
`pop` that have their item, and the record of what was pushed, popped and refused. -/
structure QueueCalls (α : Type) where
  queue : DbWriteQueue α
  comparing : List (α × Nat) := []
  reserved : List α := []
  leaving : List α := []
  pushed : List α := []
  popped : List α := []
  refused : List α := []

/-- The atomic steps; a call is named by its place among those that are as far.  A weak
compare-exchange may fail on an equal value. -/
inductive QueueInput (α : Type) where
  | load (item : α)
  | compareExchange (i : Nat) (spurious : Bool)
  | push (i : Nat)
  | pop
  | decrement (i : Nat)

namespace QueueCalls

variable {α : Type} (s : QueueCalls α)

-- `reserve_slot_`, from a value of the counter to the next compare-exchange.
def compare (item : α) : QueueCalls α :=
  if s.queue.capacity ≤ s.queue.size then { s with refused := s.refused ++ [item] }
  else { s with comparing := s.comparing ++ [(item, s.queue.size)] }

/-- The counter is raised, and the slot is the call's. -/
def reserve (item : α) : QueueCalls α :=
  { s with
    queue := { s.queue with size := s.queue.size + 1 }
    reserved := s.reserved ++ [item] }

def step : QueueInput α → QueueCalls α
  | .load item => if s.queue.capacity = 0 then s.reserve item else s.compare item
  | .compareExchange i spurious =>
    match s.comparing[i]? with
    | none => s
    | some (item, current) =>
      let s := { s with comparing := s.comparing.eraseIdx i }
      if s.queue.size = current ∧ spurious = false then s.reserve item else s.compare item
  | .push i =>
    match s.reserved[i]? with
    | none => s
    | some item =>
      { s with
        queue := s.queue.push item
        reserved := s.reserved.eraseIdx i
        pushed := s.pushed ++ [item] }
  | .pop =>
    match s.queue.popFront with
    | none => s
    | some (item, queue) =>
      { s with queue, leaving := s.leaving ++ [item], popped := s.popped ++ [item] }
  | .decrement i =>
    match s.leaving[i]? with
    | none => s
    | some _ => { s with queue := s.queue.release, leaving := s.leaving.eraseIdx i }

/-- What the counter counts, and what follows from it. -/
structure Inv (capacity : Nat) (s : QueueCalls α) : Prop where
  fixed : s.queue.capacity = capacity
  counted : s.queue.size = s.queue.items.length + s.reserved.length + s.leaving.length
  bounded : s.queue.size ≤ capacity
  below : ∀ call ∈ s.comparing, call.2 < capacity
  fifo : s.pushed = s.popped ++ s.queue.items

variable {s} {capacity : Nat}

theorem Inv.compare (inv : Inv capacity s) (item : α) : Inv capacity (s.compare item) := by
  unfold QueueCalls.compare
  split
  · exact { inv with }
  · rename_i room
    rw [inv.fixed] at room
    refine { inv with below := fun call listed => ?_ }
    rcases List.mem_append.mp listed with before | new
    · exact inv.below call before
    · rw [List.mem_singleton.mp new]
      exact Nat.lt_of_not_le room

theorem Inv.reserve (inv : Inv capacity s) (room : s.queue.size < capacity) (item : α) :
    Inv capacity (s.reserve item) := by
  refine { inv with counted := ?_, bounded := room }
  have := inv.counted
  simp only [QueueCalls.reserve, List.length_append, List.length_singleton]
  omega

theorem Inv.step (inv : Inv capacity s) (positive : 0 < capacity) (input : QueueInput α) :
    Inv capacity (s.step input) := by
  have counted := inv.counted
  cases input with
  | load item =>
    rw [QueueCalls.step, if_neg (inv.fixed ▸ positive.ne')]
    exact inv.compare item
  | compareExchange i spurious =>
    simp only [QueueCalls.step]
    split
    · exact inv
    · rename_i item current found
      have rest : Inv capacity { s with comparing := s.comparing.eraseIdx i } :=
        { inv with below := fun call listed => inv.below call (List.mem_of_mem_eraseIdx listed) }
      split
      · rename_i same
        exact rest.reserve (same.1 ▸ inv.below _ (List.mem_of_getElem? found)) item
      · exact rest.compare item
  | push i =>
    simp only [QueueCalls.step]
    split
    · exact inv
    · rename_i item found
      have listed := (List.getElem?_eq_some_iff.mp found).1
      refine { inv with counted := ?_, fifo := ?_ }
      · simp only [DbWriteQueue.push, List.length_append, List.length_singleton,
          List.length_eraseIdx_of_lt listed]
        omega
      · rw [inv.fifo, DbWriteQueue.push, List.append_assoc]
  | pop =>
    simp only [QueueCalls.step, DbWriteQueue.popFront]
    split
    · exact inv
    · rename_i item queue found
      split at found
      · cases found
      · rename_i rest items
        cases found
        refine { inv with counted := ?_, fifo := ?_ }
        · rw [items] at counted
          simp only [List.length_cons, List.length_append, List.length_nil] at counted ⊢
          omega
        · rw [inv.fifo, items, List.append_assoc]
          rfl
  | decrement i =>
    simp only [QueueCalls.step]
    split
    · exact inv
    · rename_i item found
      have listed := (List.getElem?_eq_some_iff.mp found).1
      refine { inv with counted := ?_, bounded := (Nat.sub_le _ _).trans inv.bounded }
      simp only [DbWriteQueue.release, List.length_eraseIdx_of_lt listed]
      omega

theorem compare_refused (room : s.queue.size < s.queue.capacity) :
    (s.compare item).refused = s.refused := by
  rw [compare, if_neg (Nat.not_le.mpr room)]

/-- A step refuses an item only at a counter that has reached the capacity. -/
theorem Inv.refused (inv : Inv capacity s) (positive : 0 < capacity) (input : QueueInput α)
    (refuses : (s.step input).refused ≠ s.refused) : s.queue.size = capacity := by
  refine Nat.le_antisymm inv.bounded (Nat.le_of_not_lt fun room => refuses ?_)
  rw [← inv.fixed] at room positive
  cases input with
  | load item =>
    rw [QueueCalls.step, if_neg positive.ne']
    exact compare_refused room
  | compareExchange i spurious =>
    simp only [QueueCalls.step]
    split
    · rfl
    · split
      · rfl
      · exact compare_refused room
  | push i | pop | decrement i =>
    simp only [QueueCalls.step]
    split <;> rfl

/-- What is promised of the queue. -/
structure Conforms (capacity : Nat) (s : QueueCalls α) : Prop where
  items : s.queue.items.length ≤ s.queue.size
  counter : s.queue.size ≤ capacity
  /-- The counter is positive whenever it is about to be lowered. -/
  positive : s.leaving ≠ [] → 0 < s.queue.size
  order : s.pushed = s.popped ++ s.queue.items
  refused : ∀ input, (s.step input).refused ≠ s.refused → s.queue.size = capacity

/-- **The bounded queue**, in every interleaving of the atomic steps of any calls. -/
theorem bounded_write_queue (positive : 0 < capacity) (inputs : List (QueueInput α)) :
    Conforms capacity (run step { queue := { capacity } } inputs) := by
  have inv : Inv capacity (run step { queue := { capacity } } inputs) := by
    refine run_invariant (fun s input (inv : Inv capacity s) => inv.step positive input) ?_
    constructor <;> simp
  have counted := inv.counted
  refine ⟨by omega, inv.bounded, fun held => ?_, inv.fifo, inv.refused positive⟩
  have := List.length_pos_iff.mpr held
  omega

/-- One slot and two calls, the second of which loses the exchange. -/
theorem bounded_write_queue_one : Conforms 1 (run step { queue := { capacity := 1 } }
    [.load "a", .load "b", .compareExchange 1 false, .compareExchange 0 false, .push 0, .pop]) :=
  bounded_write_queue Nat.one_pos _

end QueueCalls

end Kergit
