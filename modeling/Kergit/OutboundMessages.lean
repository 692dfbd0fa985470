import Kergit.Ids

/-!
Outbound messages and the queue they wait in.

An `OutgoingMessage` is one action for many connections; an `OutboundItem` is its
copy in one connection's outbox.  A payload is a serialised envelope without a
sequence number, and what goes over the wire is a `Frame`: the same content with the
number stamped on, or with none.  Bytes of an envelope are taken for the envelope.

`OutgoingQueue` is the queue the application pushes to and the worker drains, high
priority first.
-/

namespace Kergit

inductive OutboundPriority where
  | high
  | low
deriving DecidableEq, Repr

structure Payload where
  data : Option String
  isBinary : Bool := true
deriving DecidableEq, Repr

structure SendPayload where
  payload : Payload
  reliable : Bool := false
deriving DecidableEq, Repr

inductive AuthState where
  | authPending
  | authenticated
  | authFailed
deriving DecidableEq, Repr

structure UpdateAuthState where
  state : AuthState
  expiresAt : Nat := 0
  userId : Option UserId := none
deriving DecidableEq, Repr

structure DropConnection where
  code : Nat
  reason : String
deriving DecidableEq, Repr

inductive OutboundAction where
  | sendPayload (send : SendPayload)
  | updateAuthState (update : UpdateAuthState)
  | dropConnection (drop : DropConnection)
deriving DecidableEq, Repr

structure OutgoingMessage where
  priority : OutboundPriority := .high
  target : List GlobalConnId
  action : OutboundAction
deriving DecidableEq, Repr

structure OutboundItem where
  priority : OutboundPriority := .high
  action : OutboundAction
deriving DecidableEq, Repr

/-- An envelope on the wire; a `seq` of zero is an envelope without one. -/
structure Frame where
  seq : Nat := 0
  content : String
deriving DecidableEq, Repr

def stampEnvelopeSeq (base : String) (seq : Nat) : Frame := ⟨seq, base⟩

-- `uWS::WebSocket::SendStatus`.  A frame answered with `backpressure` has
-- been accepted and waits in the socket; only a `dropped` one has not.
inductive SendStatus where
  | backpressure
  | success
  | dropped
deriving DecidableEq, Repr

def SendStatus.accepted : SendStatus → Bool
  | .backpressure | .success => true
  | .dropped => false

structure OutgoingQueue where
  high : List OutgoingMessage := []
  low : List OutgoingMessage := []
  capacity : Nat := 50000
  size : Nat := high.length + low.length
  counted : size = high.length + low.length := by rfl

inductive PushResult where
  | ok
  | droppedLowPriority
  | droppedHighPriority
deriving DecidableEq, Repr

namespace OutgoingQueue

def empty : OutgoingQueue := {}

variable (q : OutgoingQueue)

def append (msg : OutgoingMessage) : OutgoingQueue :=
  match msg.priority with
  | .low =>
    { q with
      low := q.low ++ [msg]
      size := q.size + 1
      counted := by simp [q.counted]; omega }
  | .high =>
    { q with
      high := q.high ++ [msg]
      size := q.size + 1
      counted := by simp [q.counted]; omega }

/-- `low_.pop_back()`. -/
def evictLow (occupied : q.low ≠ []) : OutgoingQueue :=
  { q with
    low := q.low.dropLast
    size := q.size - 1
    counted := by
      have := List.length_pos_iff.mpr occupied
      simp [q.counted]
      omega }

def push (msg : OutgoingMessage) : PushResult × OutgoingQueue :=
  if 0 < q.capacity ∧ q.capacity ≤ q.size then
    if msg.priority = .low then (.droppedLowPriority, q)
    else if occupied : q.low ≠ [] then (.ok, (q.evictLow occupied).append msg)
    else (.droppedHighPriority, q)
  else (.ok, q.append msg)

def tryPop : Option (OutgoingMessage × OutgoingQueue) :=
  match front : q.high with
  | msg :: rest =>
    some (msg, { q with
      high := rest
      size := q.size - 1
      counted := by simp [q.counted, front] })
  | [] =>
    match back : q.low with
    | msg :: rest =>
      some (msg, { q with
        low := rest
        size := q.size - 1
        counted := by simp [q.counted, back] })
    | [] => none

end OutgoingQueue

end Kergit
