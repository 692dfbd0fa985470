import Mathlib.Data.List.Perm.Basic
import Kergit.Lib.Progress
import Kergit.MessageRepository

/-!
The asynchronous writer: a bounded queue, its producers and one worker.

A producer reserves a slot and then pushes; the worker takes a request off the queue
and only then gives its slot back, tries the insert, and puts a failed request back
through the same queue.  Each of these is a step of its own, so that any number of
producers interleave with the worker everywhere.

Every acceptance has a number, its ticket, which the code does not have: requests of
equal messages are told apart by it.  `inFlight` are the requests between acceptance
and verdict.

- `step_move`: the five things a step can do to what is in flight.
- `Track`: what the attempts made for a ticket say about where it is.
- `accepted_messages_settle`: with a slot for every retry, an accepted message is
  inserted, or given up after all its attempts.
-/

namespace Kergit

open Lib

-- `DbWriteQueue.h`, `ThreadSafeQueue.h`; the deque and the size counter.
structure DbWriteQueue (α : Type) where
  capacity : Nat
  size : Nat := 0
  items : List α := []

namespace DbWriteQueue

variable {α : Type} (q : DbWriteQueue α)

/-- There is a slot; a capacity of zero is no bound. -/
def Free : Prop := q.capacity = 0 ∨ q.size < q.capacity
deriving Decidable

-- `reserve_slot_`; a loop of compare-and-swaps that takes effect at once.
def reserveSlot : Option (DbWriteQueue α) :=
  if q.Free then some { q with size := q.size + 1 } else none

def push (item : α) : DbWriteQueue α := { q with items := q.items ++ [item] }

-- `ThreadSafeQueue::pop`, on a queue that is not stopped: it waits while there
-- is nothing.
def popFront : Option (α × DbWriteQueue α) :=
  match q.items with
  | [] => none
  | item :: rest => some (item, { q with items := rest })

def release : DbWriteQueue α := { q with size := q.size - 1 }

end DbWriteQueue

-- `WriteRequest`, with the ticket of its acceptance.
structure WriteRequest where
  msg : Message
  attempt : Nat := 0
  ticket : Nat
deriving DecidableEq, Repr

/-- Where the worker's loop is. -/
inductive WriterPhase where
  | popping
  | popped (req : WriteRequest)
  | writing (req : WriteRequest)
  | retrying (req : WriteRequest)
  | pushing (req : WriteRequest)
deriving DecidableEq, Repr

/-- The request in the worker's hands. -/
@[simp] def WriterPhase.request : WriterPhase → List WriteRequest
  | popping => []
  | popped req | writing req | retrying req | pushing req => [req]

/-- A failed request is about to be put back. -/
@[simp] def WriterPhase.isRetrying : WriterPhase → Bool
  | retrying _ => true
  | popping | popped _ | writing _ | pushing _ => false

/-- How many steps the worker is from its next pop. -/
@[simp] def WriterPhase.remaining : WriterPhase → Nat
  | popping => 0
  | pushing _ => 1
  | retrying _ => 2
  | writing _ => 3
  | popped _ => 4

/-- What becomes of a request: `db_write_success_total`, the event
ASYNC_MESSAGE_WRITE_FAILED, `db_write_dropped_total`. -/
inductive Verdict where
  | success
  | failed
  | dropped
deriving DecidableEq, Repr

/-- The writer, with the record of its doings: how many messages it accepted, which it
refused, which came into the queue in which order, the calls of `insertMessage` with
their outcomes, and the verdicts. -/
structure AsyncMessageWriter where
  maxRetries : Nat
  queue : DbWriteQueue WriteRequest
  arriving : List WriteRequest := []
  phase : WriterPhase := .popping
  tickets : Nat := 0
  refused : List Message := []
  arrived : List WriteRequest := []
  attempts : List (Nat × Bool) := []
  settled : List (WriteRequest × Verdict) := []

inductive WriterInput where
  | enqueue (msg : Message)
  | arrive (i : Nat)
  | work (inserted : Bool)
deriving DecidableEq, Repr

namespace AsyncMessageWriter

open DbWriteQueue (reserveSlot push popFront)

/-- A writer that has just been started. -/
def fresh (capacity maxRetries : Nat) : AsyncMessageWriter where
  maxRetries := maxRetries
  queue := { capacity }

variable (w : AsyncMessageWriter)

def enqueue (msg : Message) : AsyncMessageWriter :=
  match w.queue.reserveSlot with
  | none => { w with refused := w.refused ++ [msg] }
  | some queue =>
    { w with
      queue
      arriving := w.arriving ++ [{ msg, ticket := w.tickets }]
      tickets := w.tickets + 1 }

-- `DbWriteQueue::try_push`, past the reservation, of the `i`-th producer there.
def arrive (i : Nat) : AsyncMessageWriter :=
  match w.arriving[i]? with
  | none => w
  | some req =>
    { w with
      queue := w.queue.push req
      arriving := w.arriving.eraseIdx i
      arrived := w.arrived ++ [req] }

def conclude (req : WriteRequest) (inserted : Bool) : AsyncMessageWriter :=
  let w := { w with attempts := w.attempts ++ [(req.ticket, inserted)] }
  if inserted then { w with phase := .popping, settled := w.settled ++ [(req, .success)] }
  else if req.attempt < w.maxRetries then
    { w with phase := .retrying { req with attempt := req.attempt + 1 } }
  else { w with phase := .popping, settled := w.settled ++ [(req, .failed)] }

def work (inserted : Bool) : AsyncMessageWriter :=
  match w.phase with
  | .popping =>
    match w.queue.popFront with
    | none => w
    | some (req, queue) => { w with queue, phase := .popped req }
  | .popped req => { w with queue := w.queue.release, phase := .writing req }
  | .writing req => w.conclude req inserted
  | .retrying req =>
    match w.queue.reserveSlot with
    | none => { w with phase := .popping, settled := w.settled ++ [(req, .dropped)] }
    | some queue => { w with queue, phase := .pushing req }
  | .pushing req => { w with queue := w.queue.push req, phase := .popping }

def step : WriterInput → AsyncMessageWriter
  | .enqueue msg => w.enqueue msg
  | .arrive i => w.arrive i
  | .work inserted => w.work inserted

/-- The requests between acceptance and verdict. -/
def inFlight : List WriteRequest := w.phase.request ++ w.queue.items ++ w.arriving

/-- The outcomes of the attempts made for a ticket. -/
def tried (ticket : Nat) : List Bool :=
  (w.attempts.filter fun attempt => attempt.1 = ticket).map fun attempt => attempt.2

/-- The worker puts a request back only while there is a slot. -/
def Room (w : AsyncMessageWriter) : WriterInput → Prop
  | .work _ => w.phase.isRetrying = true → w.queue.Free
  | .enqueue _ | .arrive _ => True

instance (w : AsyncMessageWriter) (i : WriterInput) : Decidable (w.Room i) := by
  cases i <;> unfold Room <;> infer_instance

/-! ## What a step can do -/

/-- What an attempt at the request in the worker's hands comes to: it will be tried again,
or has its verdict. -/
inductive Attempted (w : AsyncMessageWriter) (req : WriteRequest) (inserted : Bool)
    (w' : AsyncMessageWriter) : Prop
  | retry (rest : List WriteRequest) (failed : inserted = false) (held : w.inFlight = req :: rest)
    (flight : w'.inFlight = { req with attempt := req.attempt + 1 } :: rest)
    (again : req.attempt < w.maxRetries)
    (attempts : w'.attempts = w.attempts ++ [(req.ticket, inserted)])
    (settled : w'.settled = w.settled) (tickets : w'.tickets = w.tickets)
    (refused : w'.refused = w.refused)
  | finish (rest : List WriteRequest) (held : w.inFlight = req :: rest)
    (flight : w'.inFlight = rest) (last : inserted = false → w.maxRetries ≤ req.attempt)
    (attempts : w'.attempts = w.attempts ++ [(req.ticket, inserted)])
    (settled : w'.settled = w.settled ++ [(req, if inserted then .success else .failed)])
    (tickets : w'.tickets = w.tickets) (refused : w'.refused = w.refused)

/-- The five things a step can do to what is in flight. -/
inductive Move (w : AsyncMessageWriter) (i : WriterInput) (w' : AsyncMessageWriter) : Prop
  | shuffle (flight : w'.inFlight.Perm w.inFlight) (attempts : w'.attempts = w.attempts)
    (settled : w'.settled = w.settled) (tickets : w'.tickets = w.tickets)
    (refused : w'.refused = w.refused)
  | refuse (msg : Message) (input : i = .enqueue msg) (flight : w'.inFlight = w.inFlight)
    (attempts : w'.attempts = w.attempts) (settled : w'.settled = w.settled)
    (tickets : w'.tickets = w.tickets) (refused : w'.refused = w.refused ++ [msg])
  | accept (msg : Message) (input : i = .enqueue msg)
    (flight : w'.inFlight = w.inFlight ++ [{ msg, ticket := w.tickets }])
    (attempts : w'.attempts = w.attempts) (settled : w'.settled = w.settled)
    (tickets : w'.tickets = w.tickets + 1) (refused : w'.refused = w.refused)
  | attempt (req : WriteRequest) (inserted : Bool) (writing : w.phase = .writing req)
    (input : i = .work inserted) (did : Attempted w req inserted w')
  | drop (req : WriteRequest) (rest : List WriteRequest) (held : w.inFlight = req :: rest)
    (flight : w'.inFlight = rest) (full : ¬ w.Room i) (attempts : w'.attempts = w.attempts)
    (settled : w'.settled = w.settled ++ [(req, .dropped)]) (tickets : w'.tickets = w.tickets)
    (refused : w'.refused = w.refused)

variable {w} {i : WriterInput} {req : WriteRequest} {inserted : Bool}

theorem inFlight_held (held : w.phase.request = [req]) :
    w.inFlight = req :: (w.queue.items ++ w.arriving) := by
  rw [inFlight, held]
  simp

theorem enqueue_move (msg : Message) : Move w (.enqueue msg) (w.enqueue msg) := by
  unfold enqueue reserveSlot
  split
  · exact .refuse msg rfl rfl rfl rfl rfl rfl
  · rename_i queue reserved
    split at reserved
    · cases reserved
      exact .accept msg rfl (by simp [inFlight]) rfl rfl rfl rfl
    · nomatch reserved

theorem arrive_move (k : Nat) : Move w (.arrive k) (w.arrive k) := by
  unfold arrive
  split
  · exact .shuffle (List.Perm.refl _) rfl rfl rfl rfl
  · rename_i req there
    obtain ⟨bound, is⟩ := List.getElem?_eq_some_iff.mp there
    refine .shuffle ?_ rfl rfl rfl rfl
    have moved : (req :: w.arriving.eraseIdx k).Perm w.arriving := by
      rw [← is]
      exact List.getElem_cons_eraseIdx_perm bound
    simp [inFlight, push]
    exact (moved.append_left _).append_left _

theorem conclude_attempted (writing : w.phase = .writing req) (inserted : Bool) :
    Attempted w req inserted (w.conclude req inserted) := by
  have held := @inFlight_held w req (by rw [writing]; rfl)
  unfold conclude
  simp only
  split
  · rename_i done
    subst done
    exact .finish _ held (by simp [inFlight]) (by simp) rfl (by simp) rfl rfl
  · rename_i failed
    obtain rfl : inserted = false := by simpa using failed
    split
    · rename_i again
      exact .retry _ rfl held (by simp [inFlight]) again rfl rfl rfl rfl
    · rename_i last
      exact .finish _ held (by simp [inFlight])
        (fun _ => Nat.le_of_not_lt last) rfl (by simp) rfl rfl

/-- **One step.** -/
theorem step_move (w : AsyncMessageWriter) (i : WriterInput) : Move w i (w.step i) := by
  cases i with
  | enqueue msg => exact enqueue_move msg
  | arrive k => exact arrive_move k
  | work inserted =>
    simp only [step, work]
    cases at_ : w.phase with
    | popping =>
      cases items : w.queue.items with
      | nil =>
        simp only [popFront, items]
        exact .shuffle (List.Perm.refl _) rfl rfl rfl rfl
      | cons req rest =>
        simp only [popFront, items]
        refine .shuffle (List.Perm.of_eq ?_) rfl rfl rfl rfl
        simp [inFlight, at_, items]
    | popped req =>
      refine .shuffle (List.Perm.of_eq ?_) rfl rfl rfl rfl
      simp [inFlight, at_, DbWriteQueue.release]
    | writing req => exact .attempt req inserted at_ rfl (conclude_attempted at_ inserted)
    | retrying req =>
      have held := @inFlight_held w req (by rw [at_]; rfl)
      simp only [reserveSlot]
      by_cases free : w.queue.Free
      · simp only [if_pos free]
        refine .shuffle (List.Perm.of_eq ?_) rfl rfl rfl rfl
        simp [inFlight, at_]
      · simp only [if_neg free]
        refine .drop req _ held (by simp [inFlight]) ?_ rfl rfl rfl rfl
        exact fun room => free (room (by rw [at_]; rfl))
    | pushing req =>
      have held := @inFlight_held w req (by rw [at_]; rfl)
      refine .shuffle ?_ rfl rfl rfl rfl
      rw [held]
      simp [inFlight, push]

@[simp] theorem step_maxRetries (w : AsyncMessageWriter) (i : WriterInput) :
    (w.step i).maxRetries = w.maxRetries := by
  cases i with
  | enqueue msg =>
    simp only [step, enqueue]
    split <;> rfl
  | arrive k =>
    simp only [step, arrive]
    split <;> rfl
  | work inserted =>
    simp only [step, work]
    split
    · split <;> rfl
    · rfl
    · unfold conclude
      simp only
      split
      · rfl
      · split <;> rfl
    · split <;> rfl
    · rfl

/-! ## Attempts and tickets -/

theorem tried_append {w w' : AsyncMessageWriter}
    (attempts : w'.attempts = w.attempts ++ [(ticket, inserted)]) (t : Nat) :
    w'.tried t = if ticket = t then w.tried t ++ [inserted] else w.tried t := by
  unfold tried
  grind

theorem tried_congr {w w' : AsyncMessageWriter} (attempts : w'.attempts = w.attempts) (t : Nat) :
    w'.tried t = w.tried t := by
  unfold tried
  rw [attempts]

/-- The ticket was issued and is no longer in flight. -/
def Gone (w : AsyncMessageWriter) (t : Nat) : Prop :=
  t < w.tickets ∧ ∀ req ∈ w.inFlight, req.ticket ≠ t

/-- A ticket that is gone stays gone, and no attempt is made for it. -/
theorem Gone.move {w' : AsyncMessageWriter} (gone : w.Gone t) (move : Move w i w') :
    w'.Gone t ∧ w'.tried t = w.tried t := by
  obtain ⟨issued, away⟩ := gone
  cases move with
  | shuffle flight attempts settled tickets _ =>
    exact ⟨⟨tickets ▸ issued, fun req there => away req (flight.mem_iff.mp there)⟩,
      tried_congr attempts t⟩
  | refuse msg _ flight attempts settled tickets _ =>
    exact ⟨⟨tickets ▸ issued, flight ▸ away⟩, tried_congr attempts t⟩
  | accept msg _ flight attempts settled tickets _ =>
    refine ⟨⟨by omega, fun req there => ?_⟩, tried_congr attempts t⟩
    grind
  | attempt req inserted _ _ did =>
    cases did with
    | retry rest _ held flight again attempts settled tickets _ =>
      rw [held] at away
      obtain ⟨first, others⟩ := List.forall_mem_cons.mp away
      refine ⟨⟨tickets ▸ issued, ?_⟩, by rw [tried_append attempts, if_neg first]⟩
      rw [flight]
      exact List.forall_mem_cons.mpr ⟨first, others⟩
    | finish rest held flight last attempts settled tickets _ =>
      rw [held] at away
      obtain ⟨first, others⟩ := List.forall_mem_cons.mp away
      exact ⟨⟨tickets ▸ issued, flight ▸ others⟩, by rw [tried_append attempts, if_neg first]⟩
  | drop req rest held flight full attempts settled tickets _ =>
    rw [held] at away
    exact ⟨⟨tickets ▸ issued, flight ▸ (List.forall_mem_cons.mp away).2⟩, tried_congr attempts t⟩

theorem Gone.tried_run (gone : w.Gone t) (later : List WriterInput) :
    (run step w later).tried t = w.tried t := by
  induction later generalizing w with
  | nil => rfl
  | cons i rest ih =>
    obtain ⟨still, same⟩ := gone.move (step_move w i)
    exact (ih still).trans same

/-- What the attempts made for a ticket say about where it is: in flight, all of them
failed and are counted in the request; a verdict was earned. -/
structure Track (w : AsyncMessageWriter) : Prop where
  issued : ∀ req ∈ w.inFlight, req.ticket < w.tickets
  single : (w.inFlight.map fun req => req.ticket).Nodup
  counted : ∀ req ∈ w.inFlight,
    w.tried req.ticket = List.replicate req.attempt false ∧ req.attempt ≤ w.maxRetries
  unissued : ∀ t, w.tickets ≤ t → w.tried t = []
  gone : ∀ entry ∈ w.settled, w.Gone entry.1.ticket
  earned : ∀ entry ∈ w.settled,
    (entry.2 = .success ∧ entry.1.attempt ≤ w.maxRetries ∧
      w.tried entry.1.ticket = List.replicate entry.1.attempt false ++ [true]) ∨
    (entry.2 = .failed ∧ w.tried entry.1.ticket = List.replicate (w.maxRetries + 1) false)
  accounted : ∀ t < w.tickets,
    (∃ req ∈ w.inFlight, req.ticket = t) ∨ ∃ entry ∈ w.settled, entry.1.ticket = t

theorem track_fresh (capacity maxRetries : Nat) : Track (fresh capacity maxRetries) := by
  constructor <;> simp [fresh, inFlight, tried]

section Steps

variable {w' : AsyncMessageWriter} {rest : List WriteRequest}

/-- Of a request in the worker's hands, the others in flight have other tickets. -/
theorem Track.head (track : Track w) (held : w.inFlight = req :: rest) {other : WriteRequest}
    (listed : other ∈ rest) : req.ticket ≠ other.ticket := by
  have single := track.single
  rw [held, List.map_cons, List.nodup_cons] at single
  exact fun same => single.1 (same ▸ List.mem_map_of_mem listed)

/-- An attempt for the request in the worker's hands is no attempt for another. -/
theorem Track.tried_rest (track : Track w) (held : w.inFlight = req :: rest)
    (attempts : w'.attempts = w.attempts ++ [(req.ticket, inserted)]) {other : WriteRequest}
    (listed : other ∈ rest) : w'.tried other.ticket = w.tried other.ticket := by
  rw [tried_append attempts, if_neg (track.head held listed)]

/-- What a step leaves alone keeps track: verdicts that stay, tickets not issued yet. -/
structure Kept (w w' : AsyncMessageWriter) : Prop where
  retries : w'.maxRetries = w.maxRetries
  gone : ∀ t, w.Gone t → w'.Gone t ∧ w'.tried t = w.tried t

section

variable (track : Track w)

include track

theorem Track.earned_kept (kept : Kept w w') {entry : WriteRequest × Verdict}
    (listed : entry ∈ w.settled) :
    (entry.2 = .success ∧ entry.1.attempt ≤ w'.maxRetries ∧
      w'.tried entry.1.ticket = List.replicate entry.1.attempt false ++ [true]) ∨
    (entry.2 = .failed ∧ w'.tried entry.1.ticket = List.replicate (w'.maxRetries + 1) false) := by
  rw [(kept.gone _ (track.gone entry listed)).2, kept.retries]
  exact track.earned entry listed

theorem Track.shuffle (kept : Kept w w') (flight : w'.inFlight.Perm w.inFlight)
    (attempts : w'.attempts = w.attempts) (settled : w'.settled = w.settled)
    (tickets : w'.tickets = w.tickets) : Track w' where
  issued req listed := tickets ▸ track.issued req (flight.mem_iff.mp listed)
  single := (flight.map _).nodup_iff.mpr track.single
  counted req listed := by
    rw [tried_congr attempts, kept.retries]
    exact track.counted req (flight.mem_iff.mp listed)
  unissued t late := by
    rw [tried_congr attempts]
    exact track.unissued t (tickets ▸ late)
  gone entry listed := (kept.gone _ (track.gone entry (settled ▸ listed))).1
  earned entry listed := track.earned_kept kept (settled ▸ listed)
  accounted t early := by
    rw [tickets] at early
    rw [settled]
    refine (track.accounted t early).imp_left ?_
    rintro ⟨req, listed, is⟩
    exact ⟨req, flight.mem_iff.mpr listed, is⟩

theorem Track.accept (kept : Kept w w') {msg : Message}
    (flight : w'.inFlight = w.inFlight ++ [{ msg, ticket := w.tickets }])
    (attempts : w'.attempts = w.attempts) (settled : w'.settled = w.settled)
    (tickets : w'.tickets = w.tickets + 1) : Track w' where
  issued req listed := by
    rw [flight] at listed
    rw [tickets]
    rcases List.mem_append.mp listed with before | new
    · exact (track.issued req before).trans (Nat.lt_succ_self _)
    · rw [List.mem_singleton.mp new]
      exact Nat.lt_succ_self _
  single := by
    rw [flight, List.map_append, List.nodup_append]
    refine ⟨track.single, List.nodup_singleton _, ?_⟩
    intro t old t' new same
    obtain ⟨req, listed, is⟩ := List.mem_map.mp old
    have early := track.issued req listed
    have fresh : t' = w.tickets := by simpa using new
    omega
  counted req listed := by
    rw [flight] at listed
    rw [tried_congr attempts, kept.retries]
    rcases List.mem_append.mp listed with before | new
    · exact track.counted req before
    · rw [List.mem_singleton.mp new]
      exact ⟨track.unissued _ (le_refl _), Nat.zero_le _⟩
  unissued t late := by
    rw [tried_congr attempts]
    exact track.unissued t (by omega)
  gone entry listed := (kept.gone _ (track.gone entry (settled ▸ listed))).1
  earned entry listed := track.earned_kept kept (settled ▸ listed)
  accounted t early := by
    rw [tickets] at early
    rw [settled, flight]
    rcases Nat.lt_succ_iff_lt_or_eq.mp early with before | rfl
    · refine (track.accounted t before).imp_left ?_
      rintro ⟨req, listed, is⟩
      exact ⟨req, List.mem_append_left _ listed, is⟩
    · exact .inl ⟨_, List.mem_append_right _ List.mem_cons_self, rfl⟩

/-- No attempt is made for a ticket that has not been issued. -/
theorem Track.unissued_attempt (held : w.inFlight = req :: rest)
    (attempts : w'.attempts = w.attempts ++ [(req.ticket, inserted)])
    (tickets : w'.tickets = w.tickets) {t : Nat} (late : w'.tickets ≤ t) : w'.tried t = [] := by
  have early := track.issued req (held ▸ List.mem_cons_self)
  rw [tickets] at late
  rw [tried_append attempts, if_neg (by omega)]
  exact track.unissued t late

theorem Track.retry (kept : Kept w w') (held : w.inFlight = req :: rest)
    (flight : w'.inFlight = { req with attempt := req.attempt + 1 } :: rest)
    (again : req.attempt < w.maxRetries)
    (attempts : w'.attempts = w.attempts ++ [(req.ticket, false)])
    (settled : w'.settled = w.settled) (tickets : w'.tickets = w.tickets) : Track w' where
  issued := by
    rw [flight, tickets]
    obtain ⟨first, others⟩ := List.forall_mem_cons.mp (held ▸ track.issued)
    exact List.forall_mem_cons.mpr ⟨first, others⟩
  single := by
    have single := track.single
    rw [held] at single
    rw [flight]
    exact single
  counted := by
    obtain ⟨first, others⟩ := List.forall_mem_cons.mp (held ▸ track.counted)
    rw [flight]
    refine List.forall_mem_cons.mpr ⟨⟨?_, kept.retries ▸ again⟩, fun other listed => ?_⟩
    · rw [tried_append attempts, if_pos rfl, first.1]
      exact List.replicate_succ'.symm
    · rw [track.tried_rest held attempts listed, kept.retries]
      exact others other listed
  unissued t late := track.unissued_attempt held attempts tickets late
  gone entry listed := (kept.gone _ (track.gone entry (settled ▸ listed))).1
  earned entry listed := track.earned_kept kept (settled ▸ listed)
  accounted t early := by
    rw [tickets] at early
    rw [settled, flight]
    refine (track.accounted t early).imp_left ?_
    rw [held]
    rintro ⟨req', listed, is⟩
    rcases List.mem_cons.mp listed with rfl | later
    · exact ⟨_, List.mem_cons_self, is⟩
    · exact ⟨req', List.mem_cons_of_mem _ later, is⟩

theorem Track.finish (kept : Kept w w') (held : w.inFlight = req :: rest)
    (flight : w'.inFlight = rest) (last : inserted = false → w.maxRetries ≤ req.attempt)
    (attempts : w'.attempts = w.attempts ++ [(req.ticket, inserted)])
    (settled : w'.settled = w.settled ++ [(req, if inserted then .success else .failed)])
    (tickets : w'.tickets = w.tickets) : Track w' where
  issued := by
    rw [flight, tickets]
    exact (List.forall_mem_cons.mp (held ▸ track.issued)).2
  single := by
    have single := track.single
    rw [held] at single
    rw [flight]
    exact single.of_cons
  counted := by
    rw [flight]
    intro other listed
    rw [track.tried_rest held attempts listed, kept.retries]
    exact (List.forall_mem_cons.mp (held ▸ track.counted)).2 other listed
  unissued t late := track.unissued_attempt held attempts tickets late
  gone entry listed := by
    rw [settled] at listed
    rcases List.mem_append.mp listed with before | new
    · exact (kept.gone _ (track.gone entry before)).1
    · rw [List.mem_singleton.mp new]
      refine ⟨tickets ▸ track.issued req (held ▸ List.mem_cons_self), fun other there => ?_⟩
      exact (track.head held (flight ▸ there)).symm
  earned entry listed := by
    rw [settled] at listed
    rcases List.mem_append.mp listed with before | new
    · exact track.earned_kept kept before
    · obtain ⟨tries, bound⟩ := track.counted req (held ▸ List.mem_cons_self)
      rw [List.mem_singleton.mp new, tried_append attempts, if_pos rfl, tries, kept.retries]
      cases inserted with
      | true => exact .inl ⟨rfl, bound, rfl⟩
      | false =>
        have all : w.maxRetries = req.attempt := Nat.le_antisymm (last rfl) bound
        rw [all]
        exact .inr ⟨rfl, List.replicate_succ'.symm⟩
  accounted t early := by
    rw [tickets] at early
    rw [settled, flight]
    rcases track.accounted t early with ⟨req', listed, is⟩ | ⟨entry, listed, is⟩
    · rw [held] at listed
      rcases List.mem_cons.mp listed with rfl | later
      · exact .inr ⟨_, List.mem_append_right _ List.mem_cons_self, is⟩
      · exact .inl ⟨req', later, is⟩
    · exact .inr ⟨entry, List.mem_append_left _ listed, is⟩

end

end Steps

/-- With a slot for every retry, a step keeps track. -/
theorem Track.step (track : Track w) (room : w.Room i) : Track (w.step i) := by
  have kept : Kept w (w.step i) :=
    ⟨step_maxRetries w i, fun t gone => gone.move (step_move w i)⟩
  cases step_move w i with
  | shuffle flight attempts settled tickets _ =>
    exact track.shuffle kept flight attempts settled tickets
  | refuse msg _ flight attempts settled tickets _ =>
    exact track.shuffle kept (List.Perm.of_eq flight) attempts settled tickets
  | accept msg _ flight attempts settled tickets _ =>
    exact track.accept kept flight attempts settled tickets
  | attempt req inserted _ _ did =>
    cases did with
    | retry rest failed held flight again attempts settled tickets _ =>
      subst failed
      exact track.retry kept held flight again attempts settled tickets
    | finish rest held flight last attempts settled tickets _ =>
      exact track.finish kept held flight last attempts settled tickets
  | drop req rest held flight full attempts settled tickets _ => exact absurd room full

/-! ## Progress -/

/-- Where a ticket stands: the attempts it has left, whether it is on its way back into
the queue, and how many steps of the worker away its next attempt or the push is. -/
inductive Spot (w : AsyncMessageWriter) (t : Nat) : Nat × Nat × Nat → Prop
  | queued (p : Nat) (req : WriteRequest) (there : w.queue.items[p]? = some req)
    (is : req.ticket = t) :
    Spot w t (w.maxRetries - req.attempt, 0, 5 * (p + 1) + w.phase.remaining)
  | taken (req : WriteRequest) (held : w.phase = .popped req ∨ w.phase = .writing req)
    (is : req.ticket = t) : Spot w t (w.maxRetries - req.attempt, 0, w.phase.remaining)
  | returning (req : WriteRequest) (held : w.phase = .retrying req ∨ w.phase = .pushing req)
    (is : req.ticket = t) : Spot w t (w.maxRetries - req.attempt, 1, w.phase.remaining)

/-- Fewer attempts left; or as many, and back in the queue; or there, and closer. -/
abbrev Closer : Nat × Nat × Nat → Nat × Nat × Nat → Prop :=
  Prod.Lex (· < ·) (Prod.Lex (· < ·) (· < ·))

theorem closer_wf : WellFounded Closer :=
  wellFounded_lt.prod_lex (wellFounded_lt.prod_lex wellFounded_lt)

/-- The ticket has its verdict. -/
def Settled (w : AsyncMessageWriter) (t : Nat) : Prop := ∃ entry ∈ w.settled, entry.1.ticket = t

variable {t : Nat} {rank : Nat × Nat × Nat}

/-- Producers do not move what is in the queue or with the worker. -/
theorem Spot.stays (spot : Spot w t rank) (other : ∀ inserted, i ≠ .work inserted) :
    Spot (w.step i) t rank := by
  have kept : (w.step i).phase = w.phase ∧ (w.step i).maxRetries = w.maxRetries ∧
      ∃ more, (w.step i).queue.items = w.queue.items ++ more := by
    cases i with
    | enqueue msg =>
      simp only [step, enqueue, reserveSlot]
      split
      · exact ⟨rfl, rfl, [], (List.append_nil _).symm⟩
      · rename_i queue reserved
        split at reserved
        · cases reserved
          exact ⟨rfl, rfl, [], (List.append_nil _).symm⟩
        · nomatch reserved
    | arrive k =>
      simp only [step, arrive]
      split
      · exact ⟨rfl, rfl, [], (List.append_nil _).symm⟩
      · exact ⟨rfl, rfl, _, rfl⟩
    | work inserted => exact absurd rfl (other inserted)
  obtain ⟨phase, retries, more, items⟩ := kept
  cases spot with
  | queued p req there is =>
    rw [← phase, ← retries]
    refine .queued p req ?_ is
    grind
  | taken req held is =>
    rw [← phase] at held ⊢
    rw [← retries]
    exact .taken req held is
  | returning req held is =>
    rw [← phase] at held ⊢
    rw [← retries]
    exact .returning req held is

/-- A step of the worker brings a queued ticket closer. -/
theorem queued_closer (there : w.queue.items[p]? = some req) (is : req.ticket = t)
    (inserted : Bool) : ∃ rank, Closer rank
      (w.maxRetries - req.attempt, 0, 5 * (p + 1) + w.phase.remaining) ∧
      Spot (w.work inserted) t rank := by
  -- Nothing is popped: the position stays, and the worker is one step on.
  have waits : ∀ w' : AsyncMessageWriter, w'.maxRetries = w.maxRetries →
      w'.queue.items[p]? = some req → w'.phase.remaining < w.phase.remaining →
      ∃ rank, Closer rank (w.maxRetries - req.attempt, 0, 5 * (p + 1) + w.phase.remaining) ∧
        Spot w' t rank := by
    intro w' retries there' nearer
    refine ⟨_, ?_, .queued p req there' is⟩
    rw [retries]
    exact Prod.Lex.right _ (Prod.Lex.right _ (by omega))
  have retries : (w.work inserted).maxRetries = w.maxRetries := step_maxRetries w (.work inserted)
  unfold work at retries ⊢
  cases at_ : w.phase with
  | popping =>
    cases items : w.queue.items with
    | nil => simp [items] at there
    | cons first rest =>
      simp only [popFront, items]
      cases p with
      | zero =>
        obtain rfl : first = req := by simpa [items] using there
        refine ⟨_, ?_, .taken first (.inl rfl) is⟩
        exact Prod.Lex.right _ (Prod.Lex.right _ (by simp))
      | succ p =>
        have behind : rest[p]? = some req := by simpa [items] using there
        refine ⟨_, ?_, .queued p req behind is⟩
        refine Prod.Lex.right _ (Prod.Lex.right _ ?_)
        simp only [WriterPhase.remaining]
        omega
  | popped held =>
    simp only [at_] at waits ⊢
    exact waits _ rfl there (by simp)
  | writing held =>
    simp only [at_] at retries waits ⊢
    refine waits _ retries ?_ ?_
    · unfold conclude
      simp only
      split
      · exact there
      · split <;> exact there
    · unfold conclude
      simp only
      split
      · simp
      · split <;> simp
  | retrying held =>
    simp only [at_, reserveSlot] at waits ⊢
    by_cases free : w.queue.Free
    · simp only [if_pos free]
      exact waits _ rfl there (by simp)
    · simp only [if_neg free]
      exact waits _ rfl there (by simp)
  | pushing held =>
    simp only [at_] at waits ⊢
    refine waits _ rfl ?_ (by simp)
    simp only [push]
    grind

/-- An attempt settles a ticket, or leaves it one attempt less. -/
theorem conclude_closer (is : req.ticket = t) (inserted : Bool) :
    Settled (w.conclude req inserted) t ∨ ∃ rank, Closer rank (w.maxRetries - req.attempt, 0, 3) ∧
      Spot (w.conclude req inserted) t rank := by
  unfold conclude
  simp only
  split
  · exact .inl ⟨_, List.mem_append_right _ List.mem_cons_self, is⟩
  · split
    · refine .inr ⟨_, ?_, .returning { req with attempt := req.attempt + 1 } (.inl rfl) is⟩
      exact Prod.Lex.left _ _ (by simp only; omega)
    · exact .inl ⟨_, List.mem_append_right _ List.mem_cons_self, is⟩

/-- **A step of the worker settles a ticket or brings it closer.** -/
theorem Spot.work (spot : Spot w t rank) (inserted : Bool) :
    Settled (w.work inserted) t ∨ ∃ rank', Closer rank' rank ∧ Spot (w.work inserted) t rank' := by
  cases spot with
  | queued p req there is => exact .inr (queued_closer there is inserted)
  | taken req held is =>
    unfold AsyncMessageWriter.work
    rcases held with popped | writing
    · simp only [popped]
      refine .inr ⟨_, ?_, .taken req (.inr rfl) is⟩
      exact Prod.Lex.right _ (Prod.Lex.right _ (by simp))
    · simp only [writing]
      exact conclude_closer is inserted
  | returning req held is =>
    unfold AsyncMessageWriter.work
    rcases held with retrying | pushing
    · simp only [retrying, reserveSlot]
      by_cases free : w.queue.Free
      · simp only [if_pos free]
        refine .inr ⟨_, ?_, .returning req (.inr rfl) is⟩
        exact Prod.Lex.right _ (Prod.Lex.right _ (by simp))
      · simp only [if_neg free]
        exact .inl ⟨_, List.mem_append_right _ List.mem_cons_self, is⟩
    · simp only [pushing]
      refine .inr ⟨_, ?_, .queued w.queue.items.length req ?_ is⟩
      · exact Prod.Lex.right _ (Prod.Lex.left _ _ Nat.zero_lt_one)
      · simp [push]

/-- What is in flight is still arriving, or has a spot. -/
theorem spot_of_inFlight (flying : req ∈ w.inFlight) :
    req ∈ w.arriving ∨ ∃ rank, Spot w req.ticket rank := by
  rcases List.mem_append.mp flying with within | arriving
  · right
    rcases List.mem_append.mp within with held | queued
    · cases at_ : w.phase with
      | popping =>
        rw [at_] at held
        nomatch held
      | popped req' | writing req' =>
        rw [at_] at held
        obtain rfl := List.mem_singleton.mp held
        exact ⟨_, .taken req (by simp [at_]) rfl⟩
      | retrying req' | pushing req' =>
        rw [at_] at held
        obtain rfl := List.mem_singleton.mp held
        exact ⟨_, .returning req (by simp [at_]) rfl⟩
    · obtain ⟨p, there⟩ := List.mem_iff_getElem?.mp queued
      exact ⟨_, .queued p req there rfl⟩
  · exact .inl arriving

/-- Verdicts and tickets are never taken back. -/
theorem step_grows (w : AsyncMessageWriter) (i : WriterInput) :
    w.settled ⊆ (w.step i).settled ∧ w.tickets ≤ (w.step i).tickets := by
  cases step_move w i with
  | shuffle _ _ settled tickets _ | refuse _ _ _ _ settled tickets _ =>
    exact ⟨settled ▸ List.Subset.refl _, tickets.ge⟩
  | accept _ _ _ _ settled tickets _ => exact ⟨settled ▸ List.Subset.refl _, by omega⟩
  | attempt _ _ _ _ did =>
    cases did with
    | retry _ _ _ _ _ _ settled tickets _ => exact ⟨settled ▸ List.Subset.refl _, tickets.ge⟩
    | finish _ _ _ _ _ settled tickets _ => exact ⟨settled ▸ List.subset_append_left _ _, tickets.ge⟩
  | drop _ _ _ _ _ _ settled tickets _ => exact ⟨settled ▸ List.subset_append_left _ _, tickets.ge⟩

theorem Settled.step (settled : Settled w t) (i : WriterInput) : Settled (w.step i) t := by
  obtain ⟨entry, listed, is⟩ := settled
  exact ⟨entry, (step_grows w i).1 listed, is⟩

section Runs

variable {capacity maxRetries : Nat} {inputs : ℕ → WriterInput}

/-- A ticket with a spot is settled some time. -/
theorem settles_of_spot (working : ∀ n, ∃ m, n ≤ m ∧ ∃ inserted, inputs m = .work inserted)
    (spot : Spot (trace step w inputs n) t rank) :
    ∃ m, n ≤ m ∧ Settled (trace step w inputs m) t := by
  obtain ⟨m, later, settled⟩ : ∃ m, n ≤ m ∧ Settled ((trace step w inputs m).step (inputs m)) t := by
    apply trace_reaches (fun w rank => Spot w t rank) (fun w i => Settled (w.step i) t)
      (fun _ i => ∃ inserted, i = .work inserted) closer_wf working
    · intro n rank spot
      by_cases helpful : ∃ inserted, inputs n = .work inserted
      · obtain ⟨inserted, is⟩ := helpful
        rw [trace_succ, is]
        refine (spot.work inserted).imp_right ?_
        rintro ⟨rank', closer, spot'⟩
        exact ⟨rank', .inr closer, spot'⟩
      · exact .inr ⟨rank, .inl rfl, spot.stays fun inserted is => helpful ⟨inserted, is⟩⟩
    · intro n rank spot helpful
      obtain ⟨inserted, is⟩ := helpful
      rw [trace_succ, is]
      exact spot.work inserted
    · exact spot
  exact ⟨m + 1, by omega, settled⟩

/-- **No accepted message is lost before its retries.**  In every endless run of producers
and the worker in which a retry finds a slot, the worker keeps going and producers that
have a slot push, every ticket comes to a verdict: its attempts are then, and for good,
some failures and a success, or exactly `maxRetries + 1` failures. -/
theorem accepted_messages_settle
    (room : ∀ n, (trace step (fresh capacity maxRetries) inputs n).Room (inputs n))
    (working : ∀ n, ∃ m, n ≤ m ∧ ∃ inserted, inputs m = .work inserted)
    (pushing : ∀ n, ∀ req ∈ (trace step (fresh capacity maxRetries) inputs n).arriving,
      ∃ m, n ≤ m ∧ ∀ req' ∈ (trace step (fresh capacity maxRetries) inputs m).arriving,
        req'.ticket ≠ req.ticket)
    (n t : ℕ) (accepted : t < (trace step (fresh capacity maxRetries) inputs n).tickets) :
    ∃ m, n ≤ m ∧ ∀ later, m ≤ later →
      (∃ k ≤ maxRetries, (trace step (fresh capacity maxRetries) inputs later).tried t =
        List.replicate k false ++ [true]) ∨
      ((trace step (fresh capacity maxRetries) inputs later).tried t =
        List.replicate (maxRetries + 1) false ∧
        ∃ entry ∈ (trace step (fresh capacity maxRetries) inputs later).settled,
          entry.1.ticket = t ∧ entry.2 = .failed) := by
  have track := trace_invariant room (fun w i track room => Track.step track room)
    (track_fresh capacity maxRetries)
  have retries : ∀ n, (trace step (fresh capacity maxRetries) inputs n).maxRetries = maxRetries :=
    trace_invariant room (fun w i kept _ => (step_maxRetries w i).trans kept) rfl
  set w := trace step (fresh capacity maxRetries) inputs
  -- It is enough that the ticket is settled at some time.
  suffices settles : ∃ m, n ≤ m ∧ Settled (w m) t by
    obtain ⟨m, late, settled⟩ := settles
    refine ⟨m, late, fun later after => ?_⟩
    obtain ⟨entry, listed, rfl⟩ := trace_stays (fun w => Settled w t)
      (fun _ i settled => settled.step i) after settled
    rcases (track later).earned entry listed with ⟨_, bound, tries⟩ | ⟨failed, tries⟩
    · grind
    · grind
  have place : ∀ k, n ≤ k → (∀ req ∈ (w k).arriving, req.ticket ≠ t) →
      ∃ m, k ≤ m ∧ Settled (w m) t := by
    intro k after away
    have issued := trace_stays (fun w => t < w.tickets)
      (fun w i issued => lt_of_lt_of_le issued (step_grows w i).2) after accepted
    rcases (track k).accounted t issued with ⟨req, flying, rfl⟩ | settled
    · rcases spot_of_inFlight flying with arriving | ⟨rank, spot⟩
      · exact absurd rfl (away req arriving)
      · exact settles_of_spot working spot
    · exact ⟨k, le_refl k, settled⟩
  by_cases there : ∃ req ∈ (w n).arriving, req.ticket = t
  · obtain ⟨req, arriving, rfl⟩ := there
    obtain ⟨k, after, away⟩ := pushing n req arriving
    obtain ⟨m, late, settled⟩ := place k after away
    exact ⟨m, after.trans late, settled⟩
  · exact place n (le_refl n) fun req arriving is => there ⟨req, arriving, is⟩

end Runs

end AsyncMessageWriter

namespace WriterRuns

open AsyncMessageWriter

/-- One slot, three retries: the first insert fails, and before the worker comes to
reserve a slot again another message has taken it. -/
def overtaken : List WriterInput :=
  [.enqueue { id := ⟨"a"⟩ }, .arrive 0, .work false, .work false, .work false,
    .enqueue { id := ⟨"b"⟩ }, .work false]

/-- An accepted message is dropped after the first of its four attempts. -/
theorem retry_finds_no_slot :
    (run step (fresh 1 3) (overtaken.take 1)).tickets = 1 ∧
    (run step (fresh 1 3) overtaken).settled =
      [({ msg := { id := ⟨"a"⟩ }, attempt := 1, ticket := 0 }, .dropped)] ∧
    ∀ later, (run step (run step (fresh 1 3) overtaken) later).tried 0 = [false] :=
  ⟨by decide, by decide, fun later => Gone.tried_run ⟨by decide, by decide⟩ later⟩

/-- One message, whose first insert fails, and a worker that goes on for ever. -/
def recovering : ℕ → WriterInput
  | 0 => .enqueue {}
  | 1 => .arrive 0
  | 4 => .work false
  | _ => .work true

theorem recovering_settled (n : ℕ) :
    trace step (fresh 1 3) recovering (n + 10) = trace step (fresh 1 3) recovering 10 := by
  induction n with
  | zero => rfl
  | succ n ih =>
    have next : trace step (fresh 1 3) recovering (n + 1 + 10) =
        (trace step (fresh 1 3) recovering (n + 10)).step (.work true) := rfl
    rw [next, ih]
    rfl

/-- The retry finds its slot. -/
theorem accepted_message_settles_recovering :
    ∃ m, 1 ≤ m ∧ ∀ later, m ≤ later →
      (∃ k ≤ 3,
        (trace step (fresh 1 3) recovering later).tried 0 = List.replicate k false ++ [true]) ∨
      ((trace step (fresh 1 3) recovering later).tried 0 = List.replicate (3 + 1) false ∧
        ∃ entry ∈ (trace step (fresh 1 3) recovering later).settled,
          entry.1.ticket = 0 ∧ entry.2 = .failed) := by
  have room : ∀ n, (trace step (fresh 1 3) recovering n).Room (recovering n) := by
    intro n
    rcases Nat.lt_or_ge n 10 with early | late
    · revert n
      decide
    · obtain ⟨k, rfl⟩ := Nat.exists_eq_add_of_le' late
      rw [recovering_settled]
      rintro ⟨⟩
  refine accepted_messages_settle room (fun n => ⟨n + 5, by omega, true, rfl⟩) ?_ 1 0 (by decide)
  intro n req arriving
  refine ⟨n + 10, by omega, ?_⟩
  rw [recovering_settled]
  rintro req' ⟨⟩

end WriterRuns

end Kergit
