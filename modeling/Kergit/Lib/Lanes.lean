import Kergit.Lib.Staged

/-!
Bounded queues with two priorities.

`Lanes` is the queue as a user sees it: the high items and the low items that wait, each
in order.  `Step` says what an operation may do to it, and is the whole specification of
one operation: a high item that finds the queue full takes the place of the newest low
one, and is refused only where high items alone fill the queue; a low item that finds it
full is refused; high items leave before low ones.

What this means for a whole life of the queue is `Kept`, about the `History` of what was
accepted and what has left: `Step.kept` carries it over a step.

A `Queue` is an implementation: a state with its operations, each of which is a `Step` of
the lanes it stands for.  `Queue.conforms` is what follows for every sequence of
operations.
-/

namespace Kergit.Lib

structure Lanes (α : Type) where
  high : List α := []
  low : List α := []

namespace Lanes

variable {α : Type}

inductive Status where
  | ok
  | droppedLow
  | droppedHigh
deriving DecidableEq, Repr

inductive Op (α : Type) where
  | push (item : α)
  | pop

/-- An operation and what it answered. -/
inductive Done (α : Type) where
  | pushed (item : α) (status : Status)
  | popped (item : Option α)

def Done.op : Done α → Op α
  | .pushed item _ => .push item
  | .popped _ => .pop

def size (q : Lanes α) : Nat := q.high.length + q.low.length

section Spec

variable (capacity : Nat) (isHigh : α → Bool)

/-- A capacity of zero is none. -/
def Full (q : Lanes α) : Prop := 0 < capacity ∧ capacity ≤ q.size

/-- What an operation does. -/
inductive Step : Lanes α → Done α → Lanes α → Prop
  | pushHigh (high low : List α) (item : α) (is : isHigh item = true)
    (room : ¬ Full capacity ⟨high, low⟩) :
    Step ⟨high, low⟩ (.pushed item .ok) ⟨high ++ [item], low⟩
  | evictLow (high low : List α) (item newest : α) (is : isHigh item = true)
    (full : Full capacity ⟨high, low ++ [newest]⟩) :
    Step ⟨high, low ++ [newest]⟩ (.pushed item .ok) ⟨high ++ [item], low⟩
  | refuseHigh (high : List α) (item : α) (is : isHigh item = true)
    (filled : 0 < capacity ∧ high.length = capacity) :
    Step ⟨high, []⟩ (.pushed item .droppedHigh) ⟨high, []⟩
  | pushLow (high low : List α) (item : α) (is : isHigh item = false)
    (room : ¬ Full capacity ⟨high, low⟩) :
    Step ⟨high, low⟩ (.pushed item .ok) ⟨high, low ++ [item]⟩
  | refuseLow (high low : List α) (item : α) (is : isHigh item = false)
    (full : Full capacity ⟨high, low⟩) :
    Step ⟨high, low⟩ (.pushed item .droppedLow) ⟨high, low⟩
  | popHigh (high low : List α) (item : α) :
    Step ⟨item :: high, low⟩ (.popped (some item)) ⟨high, low⟩
  | popLow (low : List α) (item : α) : Step ⟨[], item :: low⟩ (.popped (some item)) ⟨[], low⟩
  | popNone : Step ⟨[], []⟩ (.popped none) ⟨[], []⟩

end Spec

/-- What the queue has accepted and what has left it by a pop, in order. -/
structure History (α : Type) where
  accepted : List α := []
  popped : List α := []

def History.record (h : History α) : Done α → History α
  | .pushed item .ok => { h with accepted := h.accepted ++ [item] }
  | .popped (some item) => { h with popped := h.popped ++ [item] }
  | .pushed _ .droppedLow | .pushed _ .droppedHigh | .popped none => h

/-- The life of a queue: every high item leaves, in order; the low ones that leave are some
of those accepted, in order; and the bound is kept. -/
structure Kept (capacity : Nat) (isHigh : α → Bool) (h : History α) (q : Lanes α) : Prop where
  fifo : h.accepted.filter isHigh = h.popped.filter isHigh ++ q.high
  lows : (h.popped.filter (fun item => !isHigh item) ++ q.low).Sublist
    (h.accepted.filter fun item => !isHigh item)
  high_only : ∀ item ∈ q.high, isHigh item = true
  low_only : ∀ item ∈ q.low, isHigh item = false
  bounded : 0 < capacity → q.size ≤ capacity

variable {capacity : Nat} {isHigh : α → Bool} {h : History α} {q q' : Lanes α} {done : Done α}

theorem kept_empty : Kept capacity isHigh {} ({} : Lanes α) where
  fifo := rfl
  lows := .refl _
  high_only := nofun
  low_only := nofun
  bounded := fun _ => Nat.zero_le _

theorem size_lt_of_room (room : ¬ Full capacity q) (positive : 0 < capacity) :
    q.size < capacity := by
  by_contra full
  exact room ⟨positive, by omega⟩

theorem Step.kept (step : Step capacity isHigh q done q') (kept : Kept capacity isHigh h q) :
    Kept capacity isHigh (h.record done) q' := by
  cases step with
  | pushHigh high low item is room =>
    constructor
    case fifo => simp [History.record, List.filter_append, is, kept.fifo]
    case lows => simpa [History.record, List.filter_append, is] using kept.lows
    case high_only => simpa [or_imp, forall_and, is] using kept.high_only
    case low_only => exact kept.low_only
    case bounded =>
      intro positive
      have := size_lt_of_room room positive
      simp [size] at this ⊢
      omega
  | evictLow high low item newest is full =>
    constructor
    case fifo => simp [History.record, List.filter_append, is, kept.fifo]
    case lows =>
      have whole := kept.lows
      rw [← List.append_assoc] at whole
      simpa [History.record, List.filter_append, is] using
        (List.sublist_append_left _ _).trans whole
    case high_only => simpa [or_imp, forall_and, is] using kept.high_only
    case low_only => exact fun other listed => kept.low_only other (List.mem_append_left _ listed)
    case bounded =>
      intro positive
      have := kept.bounded positive
      simp [size] at this ⊢
      omega
  | refuseHigh high item is filled => exact kept
  | pushLow high low item is room =>
    constructor
    case fifo => simpa [History.record, List.filter_append, is] using kept.fifo
    case lows =>
      have more := kept.lows.append (List.Sublist.refl [item])
      simpa [History.record, List.filter_append, is] using more
    case high_only => exact kept.high_only
    case low_only => simpa [or_imp, forall_and, is] using kept.low_only
    case bounded =>
      intro positive
      have := size_lt_of_room room positive
      simp [size] at this ⊢
      omega
  | refuseLow high low item is full => exact kept
  | popHigh high low item =>
    have is := kept.high_only item List.mem_cons_self
    constructor
    case fifo => simp [History.record, List.filter_append, is, kept.fifo]
    case lows => simpa [History.record, List.filter_append, is] using kept.lows
    case high_only =>
      exact fun other listed => kept.high_only other (List.mem_cons_of_mem _ listed)
    case low_only => exact kept.low_only
    case bounded =>
      intro positive
      have := kept.bounded positive
      simp only [size, List.length_cons] at this ⊢
      omega
  | popLow low item =>
    have is := kept.low_only item List.mem_cons_self
    constructor
    case fifo => simpa [History.record, List.filter_append, is] using kept.fifo
    case lows => simpa [History.record, List.filter_append, is] using kept.lows
    case high_only => exact kept.high_only
    case low_only =>
      exact fun other listed => kept.low_only other (List.mem_cons_of_mem _ listed)
    case bounded =>
      intro positive
      have := kept.bounded positive
      simp [size] at this ⊢
      omega
  | popNone => exact kept

/-- An implementation; `count` is its own count of the items. -/
structure Queue (Q α : Type) where
  isHigh : α → Bool
  lanes : Q → Lanes α
  capacity : Q → Nat
  count : Q → Nat
  step : Q → Op α → Done α × Q
  answers : ∀ q op, (step q op).1.op = op
  counted : ∀ q, count q = (lanes q).size
  capacity_step : ∀ q op, capacity (step q op).2 = capacity q
  refines : ∀ q op, (0 < capacity q → (lanes q).size ≤ capacity q) →
    Step (capacity q) isHigh (lanes q) (step q op).1 (lanes (step q op).2)

namespace Queue

variable {Q : Type} (I : Queue Q α)

/-- A queue with its history. -/
def play (s : History α × Q) (op : Op α) : History α × Q :=
  (s.1.record (I.step s.2 op).1, (I.step s.2 op).2)

/-- After the operations, from an empty queue: the count is right, the life of the queue
was as it should be, and whatever operation comes next does what it should. -/
structure Conforms (start : Q) (ops : List (Op α)) : Prop where
  counted : I.count (run I.play ({}, start) ops).2 =
    (I.lanes (run I.play ({}, start) ops).2).high.length +
      (I.lanes (run I.play ({}, start) ops).2).low.length
  kept : Kept (I.capacity start) I.isHigh (run I.play ({}, start) ops).1
    (I.lanes (run I.play ({}, start) ops).2)
  answers : ∀ op, (I.step (run I.play ({}, start) ops).2 op).1.op = op
  next : ∀ op, Step (I.capacity start) I.isHigh (I.lanes (run I.play ({}, start) ops).2)
    (I.step (run I.play ({}, start) ops).2 op).1
    (I.lanes (I.step (run I.play ({}, start) ops).2 op).2)

theorem conforms (empty : I.lanes start = {}) (ops : List (Op α)) : I.Conforms start ops := by
  have invariant : ∀ (ops : List (Op α)) (s : History α × Q), I.capacity s.2 = I.capacity start →
      Kept (I.capacity start) I.isHigh s.1 (I.lanes s.2) →
      I.capacity (run I.play s ops).2 = I.capacity start ∧
        Kept (I.capacity start) I.isHigh (run I.play s ops).1 (I.lanes (run I.play s ops).2) := by
    intro ops
    induction ops with
    | nil => exact fun s same kept => ⟨same, kept⟩
    | cons op rest ih =>
      intro s same kept
      apply ih (I.play s op)
      · exact (I.capacity_step s.2 op).trans same
      · have step := I.refines s.2 op (by rw [same]; exact kept.bounded)
        rw [same] at step
        exact step.kept kept
  obtain ⟨same, kept⟩ := invariant ops ({}, start) rfl (by rw [empty]; exact kept_empty)
  constructor
  case counted => exact I.counted _
  case kept => exact kept
  case answers => exact I.answers _
  case next =>
    intro op
    have step := I.refines (run I.play ({}, start) ops).2 op (by rw [same]; exact kept.bounded)
    rwa [same] at step

end Queue

end Lanes

end Kergit.Lib
