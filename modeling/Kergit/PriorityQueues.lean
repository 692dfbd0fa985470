import Kergit.Lib.Lanes
import Kergit.EventQueue
import Kergit.OutboundMessages

/-!
The two queues of the server keep their priorities.

`EventQueue` stands between the network threads and the workers, `OutgoingQueue` between
the workers and the network threads.  They are written apart, with statuses of their own,
and both are queues with two lanes: `eventQueue` and `outgoingQueue` say so operation by
operation, and `queues_conform` is what holds after any sequence of operations.
-/

namespace Kergit

open Lib

open Lanes (Op Done Status Step)

/-! ## The event queue -/

namespace EventQueue

variable {α : Type} {q : EventQueue α} {priority : EventPriority} {event : α}

def lanes (q : EventQueue α) : Lanes α := ⟨q.high, q.low⟩

def PushResult.status : PushResult → Status
  | ok => .ok
  | droppedLow => .droppedLow
  | droppedHigh => .droppedHigh

/-- One operation; `classify` is the priority of an event. -/
def step (classify : α → EventPriority) (q : EventQueue α) : Op α → Done α × EventQueue α
  | .push event =>
    (.pushed event (q.push (classify event) event).1.status, (q.push (classify event) event).2)
  | .pop =>
    match q.pop with
    | none => (.popped none, q)
    | some (event, rest) => (.popped (some event), rest)

theorem full_iff : q.Full ↔ Lanes.Full q.capacity q.lanes := by
  rw [Full, q.counted]
  rfl

theorem push_step (bounded : 0 < q.capacity → q.lanes.size ≤ q.capacity)
    (classify : α → EventPriority) (event : α) :
    Step q.capacity (fun event => decide (classify event = .high)) q.lanes
      (.pushed event (q.push (classify event) event).1.status)
      (q.push (classify event) event).2.lanes := by
  rcases q.push_cases (classify event) event with
    ⟨room, does⟩ | ⟨full, is, does⟩ | ⟨occupied, full, is, does⟩ | ⟨full, is, none, does⟩
  · rw [does]
    rw [full_iff] at room
    cases is : classify event with
    | high => exact .pushHigh q.high q.low event (by simp [is]) room
    | low => exact .pushLow q.high q.low event (by simp [is]) room
  · rw [does]
    exact .refuseLow q.high q.low event (by simp [is]) (full_iff.mp full)
  · rw [does, is]
    have split := List.dropLast_append_getLast occupied
    have shape : q.lanes = ⟨q.high, q.low.dropLast ++ [q.low.getLast occupied]⟩ := by
      rw [split]
      rfl
    have full := full_iff.mp full
    rw [shape] at full ⊢
    exact .evictLow q.high q.low.dropLast event _ (by simp [is]) full
  · rw [does]
    have full := full_iff.mp full
    have shape : q.lanes = ⟨q.high, []⟩ := by rw [lanes, none]
    rw [shape] at full bounded ⊢
    have filled : q.high.length = q.capacity := by
      have upper := bounded full.1
      have lower := full.2
      simp [Lanes.size] at upper lower
      omega
    exact .refuseHigh q.high event (by simp [is]) ⟨full.1, filled⟩

theorem pop_step (classify : α → EventPriority) :
    Step q.capacity (fun event => decide (classify event = .high)) q.lanes
      (q.step classify .pop).1 (q.step classify .pop).2.lanes := by
  rcases q.pop_cases with
    ⟨high, low, does⟩ | ⟨event, rest, high, low, -, does⟩ | ⟨event, rest, high, left, low, -, does⟩
  · simp only [step, does, lanes, high, low]
    exact .popNone
  · simp only [step, does, lanes, high, ← low]
    exact .popHigh rest.high rest.low event
  · simp only [step, does, lanes, high, left, low]
    exact .popLow rest.low event

theorem append_capacity : (q.append priority event).capacity = q.capacity := by
  cases priority <;> rfl

theorem step_answers (classify : α → EventPriority) (op : Op α) :
    (q.step classify op).1.op = op := by
  cases op with
  | push event => rfl
  | pop =>
    cases front : q.pop <;> simp [step, front, Done.op]

theorem step_capacity (classify : α → EventPriority) (op : Op α) :
    (q.step classify op).2.capacity = q.capacity := by
  cases op with
  | push event =>
    change (q.push (classify event) event).2.capacity = _
    rcases q.push_cases (classify event) event with
      ⟨-, does⟩ | ⟨-, -, does⟩ | ⟨occupied, -, -, does⟩ | ⟨-, -, -, does⟩
    · rw [does, append_capacity]
    · rw [does]
    · rw [does, append_capacity]
      rfl
    · rw [does]
  | pop =>
    rcases q.pop_cases with
      ⟨-, -, does⟩ | ⟨event, rest, -, -, same, does⟩ | ⟨event, rest, -, -, -, same, does⟩
    · simp only [step, does]
    · simp only [step, does, same]
    · simp only [step, does, same]

end EventQueue

/-- The event queue as a queue with two lanes. -/
def eventQueue {α : Type} (classify : α → EventPriority) : Lanes.Queue (EventQueue α) α where
  isHigh := fun event => decide (classify event = .high)
  lanes := EventQueue.lanes
  capacity := EventQueue.capacity
  count := EventQueue.size
  step := EventQueue.step classify
  answers := fun _ op => EventQueue.step_answers classify op
  counted := EventQueue.counted
  capacity_step := fun _ op => EventQueue.step_capacity classify op
  refines := fun _ op bounded =>
    match op with
    | .push event => EventQueue.push_step bounded classify event
    | .pop => EventQueue.pop_step classify

/-! ## The outgoing queue -/

namespace OutgoingQueue

variable {q : OutgoingQueue} {msg : OutgoingMessage}

def lanes (q : OutgoingQueue) : Lanes OutgoingMessage := ⟨q.high, q.low⟩

def status : PushResult → Status
  | .ok => .ok
  | .droppedLowPriority => .droppedLow
  | .droppedHighPriority => .droppedHigh

/-- One operation. -/
def step (q : OutgoingQueue) : Op OutgoingMessage → Done OutgoingMessage × OutgoingQueue
  | .push msg => (.pushed msg (status (q.push msg).1), (q.push msg).2)
  | .pop =>
    match q.tryPop with
    | none => (.popped none, q)
    | some (msg, rest) => (.popped (some msg), rest)

/-- The outgoing queue works as the event queue does. -/
def asEvents (q : OutgoingQueue) : EventQueue OutgoingMessage where
  capacity := q.capacity
  high := q.high
  low := q.low
  size := q.size
  counted := q.counted

def classify (msg : OutgoingMessage) : EventPriority :=
  match msg.priority with
  | .high => .high
  | .low => .low

theorem classify_high (msg : OutgoingMessage) : classify msg = .high ↔ msg.priority = .high := by
  cases is : msg.priority <;> simp [classify, is]

theorem append_asEvents : (q.append msg).asEvents = q.asEvents.append (classify msg) msg := by
  unfold append classify
  cases msg.priority <;> rfl

theorem push_asEvents (q : OutgoingQueue) (msg : OutgoingMessage) :
    q.asEvents.step classify (.push msg) =
      (.pushed msg (status (q.push msg).1), (q.push msg).2.asEvents) := by
  have low : classify msg = .low ↔ msg.priority = .low := by
    cases is : msg.priority <;> simp [classify, is]
  simp only [EventQueue.step, EventQueue.push, push, low]
  by_cases full : 0 < q.capacity ∧ q.capacity ≤ q.size
  · rw [if_pos (show q.asEvents.Full from full)]
    split
    · rfl
    · by_cases occupied : q.low ≠ []
      · rw [dif_pos occupied, dif_pos (show q.asEvents.low ≠ [] from occupied), append_asEvents]
        rfl
      · rw [dif_neg occupied, dif_neg (show ¬ q.asEvents.low ≠ [] from occupied)]
        rfl
  · rw [if_neg full, if_neg (show ¬ q.asEvents.Full from full), append_asEvents]
    rfl

theorem step_asEvents (q : OutgoingQueue) (op : Op OutgoingMessage) :
    q.asEvents.step classify op = ((q.step op).1, (q.step op).2.asEvents) := by
  cases op with
  | push msg => exact push_asEvents q msg
  | pop =>
    obtain ⟨high, low, capacity, size, counted⟩ := q
    cases high with
    | cons msg rest => rfl
    | nil => cases low <;> rfl

end OutgoingQueue

/-- The outgoing queue as a queue with two lanes. -/
def outgoingQueue : Lanes.Queue OutgoingQueue OutgoingMessage where
  isHigh := fun msg => decide (msg.priority = .high)
  lanes := OutgoingQueue.lanes
  capacity := OutgoingQueue.capacity
  count := OutgoingQueue.size
  step := OutgoingQueue.step
  answers := by
    intro q op
    have answers := q.asEvents.step_answers OutgoingQueue.classify op
    rwa [q.step_asEvents] at answers
  counted := OutgoingQueue.counted
  capacity_step := by
    intro q op
    have same := q.asEvents.step_capacity OutgoingQueue.classify op
    rwa [q.step_asEvents] at same
  refines := by
    intro q op bounded
    have refines := (eventQueue OutgoingQueue.classify).refines q.asEvents op bounded
    simp only [eventQueue, q.step_asEvents, OutgoingQueue.classify_high] at refines
    exact refines

/-- **Two priorities.**  Both queues, of any capacity and after any operations: the counter
counts the items and keeps to a positive capacity, every high item accepted leaves in
order, the low items that leave are some of those accepted, in order, and the next
operation does what `Lanes.Step` allows and answers so. -/
theorem queues_conform :
    (∀ (α : Type) (classify : α → EventPriority) (capacity : Nat) (ops : List (Op α)),
      (eventQueue classify).Conforms { capacity } ops) ∧
    ∀ (capacity : Nat) (ops : List (Op OutgoingMessage)),
      outgoingQueue.Conforms { capacity } ops :=
  ⟨fun _ classify _ ops => (eventQueue classify).conforms rfl ops,
    fun _ ops => outgoingQueue.conforms rfl ops⟩

end Kergit
