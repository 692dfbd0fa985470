import Kergit.OutboundMessages

/-!
The state of one connection: its outbox, its reliable frames, its authentication.

`ReliableOutbound` is the send side of a sliding window.  Frames are numbered from 1,
and the ones not acknowledged yet wait in `buffer`.  The numbers in the buffer are
the last ones assigned, without a gap, and every number below them has been
acknowledged; the structure carries both.

`log` is what has happened to the connection since it was attached, newest first:
what was put in its outbox, what left it, and what was handed to the socket.
-/

namespace Kergit

structure Pending where
  seq : Nat
  bytes : Frame
  lastSentAt : Nat
  attempts : Nat
deriving DecidableEq, Repr

/-- The record of a frame after the sweep has handed it to the socket again. -/
def Pending.retried (p : Pending) (status : SendStatus) (now : Nat) : Pending :=
  if status = .success then { p with lastSentAt := now, attempts := p.attempts + 1 } else p

@[simp] theorem Pending.retried_seq (p : Pending) (status : SendStatus) (now : Nat) :
    (p.retried status now).seq = p.seq := by
  unfold retried
  split <;> rfl

@[simp] theorem Pending.retried_bytes (p : Pending) (status : SendStatus) (now : Nat) :
    (p.retried status now).bytes = p.bytes := by
  unfold retried
  split <;> rfl

/-- The numbers of a buffer of this length whose newest number is `nextSeq`. -/
def window (nextSeq length : Nat) : List Nat := List.range' (nextSeq + 1 - length) length

structure ReliableOutbound where
  nextSeq : Nat := 0
  ackedSeq : Nat := 0
  buffer : List Pending := []
  capacity : Nat := 256
  contiguous : buffer.map Pending.seq = window nextSeq buffer.length := by rfl
  assigned : buffer.length ≤ nextSeq := by simp
  acked : nextSeq - buffer.length ≤ ackedSeq := by simp

theorem window_succ (assigned : length ≤ nextSeq) :
    window (nextSeq + 1) (length + 1) = window nextSeq length ++ [nextSeq + 1] := by
  unfold window
  rw [List.range'_concat, Nat.add_sub_add_right]
  congr 2
  omega

theorem window_cons (assigned : length < nextSeq) :
    window nextSeq (length + 1) = (nextSeq - length) :: window nextSeq length := by
  unfold window
  rw [List.range'_succ, Nat.add_sub_add_right]
  congr 2
  omega

/-- The frames an ack up to `bound` leaves. -/
def unacked (bound : Nat) (buffer : List Pending) : List Pending :=
  buffer.dropWhile fun p => decide (p.seq ≤ bound)

/-- Frames leave a buffer in order, so what is left is the newer end of the window. -/
theorem unacked_contiguous (buffer : List Pending)
    (contiguous : buffer.map Pending.seq = window nextSeq buffer.length)
    (assigned : buffer.length ≤ nextSeq) :
    (unacked bound buffer).map Pending.seq = window nextSeq (unacked bound buffer).length ∧
      (unacked bound buffer).length ≤ nextSeq ∧
      nextSeq - (unacked bound buffer).length ≤ max (nextSeq - buffer.length) bound := by
  induction buffer with
  | nil => exact ⟨rfl, Nat.zero_le _, Nat.le_max_left _ _⟩
  | cons p rest ih =>
    have ordered := contiguous
    rw [List.length_cons, window_cons assigned, List.map_cons, List.cons.injEq] at contiguous
    obtain ⟨first, tail⟩ := contiguous
    obtain ⟨kept, fits, covered⟩ := ih tail (Nat.le_of_succ_le assigned)
    rw [unacked, List.dropWhile_cons]
    split
    · rename_i old
      refine ⟨kept, fits, Nat.le_trans covered ?_⟩
      rw [decide_eq_true_eq] at old
      omega
    · exact ⟨ordered, assigned, Nat.le_max_left _ _⟩

namespace ReliableOutbound

variable (r : ReliableOutbound)

/-- A frame that was sent takes the next number and waits for its ack. -/
def record (wire : Frame) (now : Nat) : ReliableOutbound :=
  { r with
    nextSeq := r.nextSeq + 1
    buffer := r.buffer ++ [⟨r.nextSeq + 1, wire, now, 1⟩]
    contiguous := by
      rw [List.map_append, r.contiguous, List.length_append, List.length_singleton,
        window_succ r.assigned]
      rfl
    assigned := by
      rw [List.length_append]
      exact Nat.succ_le_succ r.assigned
    acked := by
      rw [List.length_append, List.length_singleton, Nat.add_sub_add_right]
      exact r.acked }

def acknowledge (ackSeq : Nat) : ReliableOutbound :=
  have kept : (unacked ackSeq r.buffer).map Pending.seq = _ ∧ _ :=
    unacked_contiguous r.buffer r.contiguous r.assigned
  { r with
    ackedSeq := if r.ackedSeq < ackSeq then ackSeq else r.ackedSeq
    buffer := unacked ackSeq r.buffer
    contiguous := kept.1
    assigned := kept.2.1
    acked := by
      have covered := kept.2.2
      have before := r.acked
      split <;> omega }

/-- The same frames, with other attempts on record. -/
def withBuffer (buffer : List Pending)
    (same : buffer.map Pending.seq = r.buffer.map Pending.seq) : ReliableOutbound :=
  have length : buffer.length = r.buffer.length := by
    simpa using congrArg List.length same
  { r with
    buffer
    contiguous := by rw [same, r.contiguous, length]
    assigned := length ▸ r.assigned
    acked := length ▸ r.acked }

/-- A number that was assigned is acknowledged, or its frame waits. -/
theorem retained (upTo : seq ≤ r.nextSeq) : seq ≤ r.ackedSeq ∨ ∃ p ∈ r.buffer, p.seq = seq := by
  by_cases old : seq ≤ r.nextSeq - r.buffer.length
  · exact .inl (Nat.le_trans old r.acked)
  · right
    have listed : seq ∈ r.buffer.map Pending.seq := by
      rw [r.contiguous, window, List.mem_range'_1]
      omega
    exact List.mem_map.mp listed

end ReliableOutbound

structure PerConnectionOutbox where
  q : List OutboundItem := []
  capacity : Nat := 128
  slowHits : Nat := 0
  dropPending : Bool := false

def OutboundItem.isLow (item : OutboundItem) : Bool := decide (item.priority = .low)

/-- The drop an overflow leaves behind. -/
def slowDrop : OutboundItem := ⟨.high, .dropConnection ⟨4409, "slow_outbox_overflow"⟩⟩

namespace PerConnectionOutbox

/-- The queue without its newest low-priority item. -/
def withoutNewestLow (q : List OutboundItem) : List OutboundItem :=
  (q.reverse.eraseP OutboundItem.isLow).reverse

def enqueue (ob : PerConnectionOutbox) (item : OutboundItem) : PerConnectionOutbox :=
  if ob.q.length < ob.capacity then { ob with q := ob.q ++ [item] }
  else if item.isLow then ob
  else if ob.q.any OutboundItem.isLow then { ob with q := withoutNewestLow ob.q ++ [item] }
  else if 4 ≤ ob.slowHits + 1 then { ob with q := [slowDrop], slowHits := 0, dropPending := true }
  else { ob with slowHits := ob.slowHits + 1 }

end PerConnectionOutbox

/-- Which call hands a frame to the socket: `send_payload` with a plain or a reliable
payload, or the sweep. -/
inductive SendKind where
  | plain
  | reliable
  | resend
deriving DecidableEq, Repr

/-- What happens to a connection.  `time` is the worker's clock for a transmission;
`backpressured` is a flush that found the socket backed up. -/
inductive LineEvent where
  | distributed (item : OutboundItem)
  | handled (item : OutboundItem)
  | transmitted (kind : SendKind) (frame : Frame) (status : SendStatus) (time : Nat)
  | backpressured
deriving DecidableEq, Repr

-- `ConnectionContext`, less the heartbeat, the transport kind, the port and
-- the unused `pending`.  `handleValid` is `handle.valid()`.
structure ConnectionContext where
  handleValid : Bool := true
  authState : AuthState := .authPending
  authExpiresAt : Nat := 0
  userId : Option UserId := none
  outbox : PerConnectionOutbox := {}
  reliable : ReliableOutbound := {}
  log : List LineEvent := []

namespace ConnectionContext

variable (ctx : ConnectionContext)

def emit (event : LineEvent) : ConnectionContext :=
  { ctx with log := event :: ctx.log }

variable (update : UpdateAuthState)

-- `OutgoingWorker::flush_connection_outbox`, an `UpdateAuthState`: a failed
-- authentication is final.
def applyAuth : ConnectionContext :=
  if ctx.authState = .authFailed ∧ update.state ≠ .authFailed then ctx
  else
    { ctx with
      authState := update.state
      authExpiresAt := update.expiresAt
      userId := update.userId }

/-- An update of the authentication touches nothing else. -/
@[simp] theorem applyAuth_log : (ctx.applyAuth update).log = ctx.log := by
  unfold applyAuth
  split <;> rfl

@[simp] theorem applyAuth_reliable : (ctx.applyAuth update).reliable = ctx.reliable := by
  unfold applyAuth
  split <;> rfl

@[simp] theorem applyAuth_handleValid : (ctx.applyAuth update).handleValid = ctx.handleValid := by
  unfold applyAuth
  split <;> rfl

end ConnectionContext

end Kergit
