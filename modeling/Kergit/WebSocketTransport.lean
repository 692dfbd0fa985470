import Kergit.FlushCompleteness

/-!
The socket layer: `TextWSServer`, with the heartbeat sweep and the outgoing worker.

Everything here runs on one loop thread: a socket opens, a frame comes in, the heartbeat
timer or the worker's tick fires, a socket closes.  A `LoopEvent` is one of these, or a
push by the application to the outgoing queue, which may come at any point between.

Three parts write `auth_state`: the `open` handler starts a connection as pending, the
sweep fails one that waits too long or whose token has expired, and a flush applies the
updates the application has queued, which may be late.

- `Barred` says that a connection is failed or not attached.  It is kept by every event
  but an `open` of the same id (`barred_step`), since `applyAuth` does not take a failed
  connection back.
- `forwarded_unauthenticated`: nothing but AUTH is forwarded from a connection that is not
  authenticated; `pending_ping_ack`: a PING or an ACK before that does nothing.

Ids are never given out twice, so an `open` of the id of an earlier connection does not
occur; `NotReopened` is that.
-/

namespace Kergit

open Lib

-- `Envelope::Type`, as far as the transport looks at it.
inductive EnvelopeType where
  | ping
  | ack
  | auth
  | other (value : Nat)
deriving DecidableEq, Repr

structure Envelope where
  version : Nat
  type : EnvelopeType
  payload : String
deriving DecidableEq, Repr

/-- What a socket receives; `envelope` is what the bytes parse to. -/
structure InboundFrame where
  binary : Bool := true
  size : Nat
  envelope : Option Envelope
deriving DecidableEq, Repr

-- `WsLimits`, `HeartbeatConfig` (times in milliseconds) and the configuration of the
-- outgoing worker.  `parsePing` and `parseAck` give `last_recv_seq` and `ack_seq`.
structure TextWSConfig where
  maxMessageBytes : Nat := 256 * 1024
  timeout : Nat := 75000
  authPendingTimeout : Nat := 5000
  closeCode : Nat := 4000
  closeReason : String := "client_heartbeat_timeout"
  parsePing : String → Option Nat
  parseAck : String → Option Nat
  outgoing : OutgoingWorkerConfig := {}

structure HeartbeatState where
  connectedAt : Nat := 0
  lastSeenAt : Nat := 0
deriving DecidableEq, Repr

/-- What leaves the socket layer: a frame handed to the application, a PONG, and the end of
a socket the layer closes itself. -/
inductive SocketOutput where
  | message (conn : ConnId) (envelope : Envelope)
  | pong (conn : ConnId)
  | ended (conn : ConnId) (code : Nat) (reason : String)
deriving DecidableEq, Repr

/-- The registry and the worker's queue, the heartbeat part of each `ConnectionContext`, and
the outputs, newest first. -/
structure TextWSServer where
  worker : OutgoingWorker := {}
  heartbeats : Map ConnId HeartbeatState := ∅
  outputs : List SocketOutput := []

/-- The connection is attached with a failed authentication, or not attached. -/
def WorkerState.Barred (w : WorkerState) (conn : ConnId) : Prop :=
  ∀ ctx, w.conns.lookup conn = some ctx → ctx.authState = .authFailed

namespace TextWSServer

variable (cfg : TextWSConfig) (s : TextWSServer)

def context (conn : ConnId) : Option ConnectionContext := s.worker.state.conns.lookup conn

def emit (output : SocketOutput) : TextWSServer := { s with outputs := output :: s.outputs }

def withState (state : WorkerState) : TextWSServer := { s with worker := { s.worker with state } }

/-- `ws->end(code, reason)`: the close handler runs and detaches. -/
def endSocket (conn : ConnId) (code : Nat) (reason : String) : TextWSServer :=
  (s.withState (s.worker.state.detach conn)).emit (.ended conn code reason)

variable (now : Nat)

def onOpen (conn : ConnId) (handleValid : Bool) : TextWSServer :=
  { s.withState (s.worker.state.attach cfg.outgoing conn handleValid) with
    heartbeats := s.heartbeats.insert conn ⟨now, now⟩ }

def heartbeat (conn : ConnId) : HeartbeatState := (s.heartbeats.lookup conn).getD {}

def noteSeen (conn : ConnId) : TextWSServer :=
  match s.context conn with
  | none => s
  | some _ =>
    { s with heartbeats := s.heartbeats.insert conn { s.heartbeat conn with lastSeenAt := now } }

def onAck (conn : ConnId) (ackSeq : Nat) : TextWSServer :=
  s.withState (s.worker.state.onAck conn ackSeq)

def onPing (conn : ConnId) (payload : String) : TextWSServer :=
  let s := s.noteSeen now conn
  let s := match cfg.parsePing payload with
    | some lastRecvSeq => if 0 < lastRecvSeq then s.onAck conn lastRecvSeq else s
    | none => s
  s.emit (.pong conn)

-- the `message` handler, once the connection may send this.
def dispatch (conn : ConnId) (envelope : Envelope) : TextWSServer :=
  match envelope.type with
  | .ping => s.onPing cfg now conn envelope.payload
  | .ack =>
    match cfg.parseAck envelope.payload with
    | some ackSeq => s.onAck conn ackSeq
    | none => s
  | _ => s.emit (.message conn envelope)

def receive (conn : ConnId) (envelope : Envelope) : TextWSServer :=
  match s.context conn with
  | none => s.endSocket conn 4401 "connection_not_found"
  | some ctx =>
    if ctx.authState = .authFailed then s.endSocket conn 4401 "auth_failed"
    else if ctx.authState ≠ .authenticated ∧ envelope.type ≠ .auth then s
    else s.dispatch cfg now conn envelope

def onMessage (conn : ConnId) (frame : InboundFrame) : TextWSServer :=
  if !frame.binary then s
  else if cfg.maxMessageBytes < frame.size then s.endSocket conn 1009 "Message too big"
  else
    match frame.envelope with
    | none => s.endSocket conn 1002 "Invalid envelope"
    | some envelope =>
      if envelope.version ≠ 1 then s.endSocket conn 1002 "Protocol version mismatch"
      else s.receive cfg now conn envelope

/-- The connection's `auth_state` set to `AUTH_FAILED`. -/
def fail (conn : ConnId) (ctx : ConnectionContext) : TextWSServer :=
  s.withState { s.worker.state with
    conns := s.worker.state.conns.insert conn { ctx with authState := .authFailed } }

def sweep (conn : ConnId) : TextWSServer :=
  match s.context conn with
  | none => s
  | some ctx =>
    if !ctx.handleValid then s
    else
      match ctx.authState with
      | .authFailed => s.endSocket conn 4401 "auth_failed"
      | .authPending =>
        if (s.heartbeat conn).connectedAt + cfg.authPendingTimeout ≤ now then
          (s.fail conn ctx).endSocket conn 4403 "auth_timeout"
        else s
      | .authenticated =>
        if ctx.authExpiresAt ≤ now then
          (s.fail conn ctx).endSocket conn 4402 "auth_token_expired"
        else if (s.heartbeat conn).lastSeenAt + cfg.timeout < now then
          s.endSocket conn cfg.closeCode cfg.closeReason
        else s

def heartbeatTick : TextWSServer :=
  let (conns, io) := s.worker.state.io.arrange cfg.outgoing s.worker.state.conns.keys
  conns.foldl (fun s conn => s.sweep cfg now conn) (s.withState { s.worker.state with io })

/-- What happens on the loop thread, and the application's pushes. -/
inductive LoopEvent where
  | opened (now : Nat) (conn : ConnId) (handleValid : Bool)
  | frame (now : Nat) (conn : ConnId) (frame : InboundFrame)
  | heartbeat (now : Nat)
  | outgoing
  | pushed (msg : OutgoingMessage)
  | closed (conn : ConnId)
deriving DecidableEq, Repr

def step : LoopEvent → TextWSServer
  | .opened now conn handleValid => s.onOpen cfg now conn handleValid
  | .frame now conn frame => s.onMessage cfg now conn frame
  | .heartbeat now => s.heartbeatTick cfg now
  | .outgoing => { s with worker := s.worker.tick cfg.outgoing }
  | .pushed msg => { s with worker := { s.worker with queue := (s.worker.queue.push msg).2 } }
  | .closed conn => s.withState (s.worker.state.detach conn)

/-! ## What is said about a connection -/

section

variable (conn : ConnId)

/-- The frames of the connection that were handed to the application, newest first. -/
def forwarded : List Envelope :=
  s.outputs.filterMap fun
    | .message other envelope => if other = conn then some envelope else none
    | _ => none

def Failed : Prop := ∃ ctx, s.context conn = some ctx ∧ ctx.authState = .authFailed

def Pending : Prop := ∃ ctx, s.context conn = some ctx ∧ ctx.authState = .authPending

def Authenticated : Prop :=
  ∃ ctx, s.context conn = some ctx ∧ ctx.authState = .authenticated

def Barred : Prop := s.worker.state.Barred conn

/-- The event does not open a connection with an id that is not in use. -/
def NotReopened : LoopEvent → Prop
  | .opened _ other _ => other = conn → conn ∈ s.worker.state.conns
  | _ => True

end

end TextWSServer

/-! ## A failed connection stays failed -/

namespace ConnectionContext

variable {cfg : OutgoingWorkerConfig} {ctx ctx' : ConnectionContext}

theorem pump_failed (turn : Pump cfg ctx ctx') (failed : ctx.authState = .authFailed) :
    ctx'.authState = .authFailed := by
  cases turn with
  | updated item rest update front is =>
    change (ctx.applyAuth update).authState = _
    unfold applyAuth
    grind
  | _ => exact failed

/-- Nothing the worker does to a connection takes a failure back. -/
theorem line_failed (action : LineAction) (failed : ctx.authState = .authFailed) :
    (ctx.line cfg action).authState = .authFailed :=
  line_keeps cfg (·.authState = .authFailed) failed (fun _ _ turn kept => pump_failed turn kept)
    (fun _ _ _ _ _ _ kept => kept) (fun _ _ => failed) (fun _ _ => failed)

end ConnectionContext

namespace WorkerState

variable {cfg : OutgoingWorkerConfig} {w w' : WorkerState} {conn other : ConnId}

section

variable (barred : w.Barred conn)

include barred

/-- What the worker's calls leave of a failed connection is failed. -/
theorem Barred.evolves (evolves : Evolves cfg Guard w w') : w'.Barred conn := by
  intro ctx' found
  obtain ⟨ctx, before, steps⟩ := evolves.live conn ctx' found
  apply steps.invariant _ (barred ctx before)
  exact fun _ action _ failed => ConnectionContext.line_failed action failed

theorem Barred.detach (other : ConnId) : (w.detach other).Barred conn :=
  barred.evolves (detach_evolves other : Evolves {} (fun _ _ _ => True) w _)

theorem Barred.onAck (other : ConnId) (seq : Nat) : (w.onAck other seq).Barred conn :=
  barred.evolves (onAck_evolves fun _ _ => trivial : Evolves {} (fun _ _ _ => True) w _)

/-- A connection that is already there is not replaced. -/
theorem Barred.attach (again : other = conn → conn ∈ w.conns) :
    (w.attach cfg other handleValid).Barred conn := by
  unfold WorkerState.attach
  split
  · exact barred
  · rename_i absent
    have apart : conn ≠ other := by
      rintro rfl
      exact absent (again rfl)
    intro ctx found
    rw [Map.lookup_insert_if, if_neg apart] at found
    exact barred ctx found

end

end WorkerState

namespace TextWSServer

variable {cfg : TextWSConfig} {s : TextWSServer} {conn other : ConnId}

/-- What every sweep of a connection keeps, the sweep of all keeps. -/
theorem heartbeatTick_keeps (P : TextWSServer → Prop) (now : Nat)
    (began : ∀ io, P (s.withState { s.worker.state with io }))
    (sweeps : ∀ t other, P t → P (t.sweep cfg now other)) : P (s.heartbeatTick cfg now) :=
  run_invariant sweeps (began _)

section

variable (barred : s.Barred conn)

include barred

theorem barred_endSocket (code : Nat) (reason : String) :
    (s.endSocket other code reason).Barred conn :=
  WorkerState.Barred.detach barred other

theorem barred_fail (ctx : ConnectionContext) : (s.fail other ctx).Barred conn := by
  intro ctx' found
  change AList.lookup conn (s.worker.state.conns.insert other _) = some ctx' at found
  rw [Map.lookup_insert_if] at found
  split at found
  · obtain rfl := Option.some.inj found
    rfl
  · exact barred ctx' found

theorem barred_dispatch (now : Nat) (envelope : Envelope) :
    (s.dispatch cfg now other envelope).Barred conn := by
  unfold dispatch
  split
  · have seen : (s.noteSeen now other).Barred conn := by
      unfold noteSeen
      split <;> exact barred
    unfold onPing
    split
    · split
      · exact WorkerState.Barred.onAck seen other _
      · exact seen
    · exact seen
  · split
    · exact WorkerState.Barred.onAck barred other _
    · exact barred
  · exact barred

theorem barred_heartbeatTick (now : Nat) : (s.heartbeatTick cfg now).Barred conn := by
  refine heartbeatTick_keeps (·.Barred conn) now (fun _ => barred) fun t other kept => ?_
  unfold sweep
  grind [barred_endSocket, barred_fail]

/-- **A failure is final.**  Every event but the opening of a new connection under the id
leaves a failed connection failed, or detaches it. -/
theorem barred_step (event : LoopEvent) (same : s.NotReopened conn event) :
    (s.step cfg event).Barred conn := by
  cases event with
  | opened now other handleValid => exact WorkerState.Barred.attach barred same
  | frame now other frame =>
    unfold step onMessage receive
    grind [barred_endSocket, barred_dispatch]
  | heartbeat now => exact barred_heartbeatTick barred now
  | outgoing =>
    exact WorkerState.Barred.evolves barred
      (WorkerState.evolves_of_performs (OutgoingWorker.tick_eq_run s.worker))
  | pushed msg => exact barred
  | closed other => exact WorkerState.Barred.detach barred other

end

/-! ## What is forwarded -/

section

variable (now : Nat)

theorem forwarded_sweep (other : ConnId) :
    (s.sweep cfg now other).forwarded conn = s.forwarded conn := by
  unfold sweep
  repeat' split
  all_goals rfl

theorem forwarded_heartbeatTick : (s.heartbeatTick cfg now).forwarded conn = s.forwarded conn :=
  heartbeatTick_keeps (·.forwarded conn = s.forwarded conn) now (fun _ => rfl)
    fun _ other kept => (forwarded_sweep now other).trans kept

/-- The connection may send the envelope: it is authenticated, or has not failed and the
envelope is an AUTH. -/
def MaySend (s : TextWSServer) (conn : ConnId) (envelope : Envelope) : Prop :=
  ∃ ctx, s.context conn = some ctx ∧ ctx.authState ≠ .authFailed ∧
    (ctx.authState = .authenticated ∨ envelope.type = .auth)

/-- The event hands nothing of the connection to the application, or one envelope the
connection may send. -/
def Forwards (s s' : TextWSServer) (conn : ConnId) : Prop :=
  s'.forwarded conn = s.forwarded conn ∨
    ∃ envelope, s.MaySend conn envelope ∧ s'.forwarded conn = envelope :: s.forwarded conn

theorem forwarded_onPing (payload : String) :
    (s.onPing cfg now other payload).forwarded conn = s.forwarded conn := by
  have seen : (s.noteSeen now other).forwarded conn = s.forwarded conn := by
    unfold noteSeen
    split <;> rfl
  unfold onPing
  repeat' split
  all_goals exact seen

theorem forwarded_message (envelope : Envelope) :
    (s.emit (.message other envelope)).forwarded conn =
      if other = conn then envelope :: s.forwarded conn else s.forwarded conn := by
  by_cases same : other = conn <;> simp [forwarded, emit, same]

theorem forwards_dispatch (envelope : Envelope) (may : s.MaySend other envelope) :
    Forwards s (s.dispatch cfg now other envelope) conn := by
  have sent : Forwards s (s.emit (.message other envelope)) conn := by
    unfold Forwards
    rw [forwarded_message]
    grind
  unfold dispatch
  split
  · exact .inl (forwarded_onPing now _)
  · split <;> exact .inl rfl
  · exact sent

theorem forwards_receive (envelope : Envelope) :
    Forwards s (s.receive cfg now other envelope) conn := by
  unfold receive
  split
  · exact .inl rfl
  · rename_i ctx found
    split
    · exact .inl rfl
    · rename_i live
      split
      · exact .inl rfl
      · apply forwards_dispatch
        refine ⟨ctx, found, live, ?_⟩
        grind

end

theorem forwards_step (event : LoopEvent) : Forwards s (s.step cfg event) conn := by
  cases event with
  | frame now other frame =>
    simp only [step, onMessage]
    split
    · exact .inl rfl
    · split
      · exact .inl rfl
      · split
        · exact .inl rfl
        · split
          · exact .inl rfl
          · exact forwards_receive now _
  | heartbeat now => exact .inl (forwarded_heartbeatTick now)
  | opened | outgoing | pushed | closed => exact .inl rfl

/-- Nothing of a failed connection is handed on. -/
theorem forwarded_barred (barred : s.Barred conn) (event : LoopEvent) :
    (s.step cfg event).forwarded conn = s.forwarded conn := by
  rcases forwards_step event with nothing | ⟨envelope, ⟨ctx, found, live, -⟩, -⟩
  · exact nothing
  · exact absurd (barred ctx found) live

/-- Before a connection is authenticated nothing but AUTH is handed on. -/
theorem forwarded_unauthenticated (not : ¬ s.Authenticated conn) (event : LoopEvent) :
    (s.step cfg event).forwarded conn = s.forwarded conn ∨
      ∃ envelope, envelope.type = .auth ∧
        (s.step cfg event).forwarded conn = envelope :: s.forwarded conn := by
  rcases forwards_step event with nothing | ⟨envelope, ⟨ctx, found, -, may⟩, sent⟩
  · exact .inl nothing
  · rcases may with authenticated | kind
    · exact absurd ⟨ctx, found, authenticated⟩ not
    · exact .inr ⟨envelope, kind, sent⟩

/-! ## PING and ACK -/

/-- The frame is a PING or an ACK. -/
def PingOrAck (frame : InboundFrame) : Prop :=
  ∃ envelope, frame.envelope = some envelope ∧ (envelope.type = .ping ∨ envelope.type = .ack)

/-- The frame is one the socket takes: not too long, and of the protocol's version. -/
def Acceptable (cfg : TextWSConfig) (frame : InboundFrame) : Prop :=
  frame.size ≤ cfg.maxMessageBytes ∧
    ∀ envelope, frame.envelope = some envelope → envelope.version = 1

/-- A PING or an ACK does nothing before the connection is authenticated, unless the frame
itself, or the failed connection it comes from, is a reason to close the socket. -/
theorem unauthenticated_ping_ack (not : ¬ s.Authenticated conn) (now : Nat) (frame : InboundFrame)
    (kind : PingOrAck frame) :
    s.onMessage cfg now conn frame = s ∨
      ∃ code reason, s.onMessage cfg now conn frame = s.endSocket conn code reason := by
  obtain ⟨envelope, parsed, kind⟩ := kind
  have notAuth : envelope.type ≠ .auth := by
    rcases kind with is | is <;> simp [is]
  unfold onMessage receive
  split
  · exact .inl rfl
  · split
    · exact .inr ⟨_, _, rfl⟩
    · rw [parsed]
      dsimp only
      split
      · exact .inr ⟨_, _, rfl⟩
      · split
        · exact .inr ⟨_, _, rfl⟩
        · rename_i ctx found
          split
          · exact .inr ⟨_, _, rfl⟩
          · have unauthenticated : ctx.authState ≠ .authenticated := fun is => not ⟨ctx, found, is⟩
            rw [if_pos ⟨unauthenticated, notAuth⟩]
            exact .inl rfl

/-- From a connection that is pending, a frame that the socket takes is ignored. -/
theorem pending_ping_ack (pending : s.Pending conn) (now : Nat) (frame : InboundFrame)
    (kind : PingOrAck frame) (acceptable : Acceptable cfg frame) :
    s.onMessage cfg now conn frame = s := by
  obtain ⟨envelope, parsed, kind⟩ := kind
  obtain ⟨ctx, found, waiting⟩ := pending
  obtain ⟨fits, version⟩ := acceptable
  have notAuth : envelope.type ≠ .auth := by
    rcases kind with is | is <;> simp [is]
  have supported := version envelope parsed
  unfold onMessage receive
  rw [if_neg (Nat.not_lt.mpr fits), parsed, found]
  simp [supported, waiting, notAuth]

/-! ## Runs -/

/-- What a run leaves of a failed connection: nothing more of it is handed on, and it is
failed or detached. -/
theorem barred_run (events : List LoopEvent) (barred : s.Barred conn)
    (once : Staged (step cfg) (fun s => NotReopened s conn) s events) :
    (run (step cfg) s events).Barred conn ∧
      (run (step cfg) s events).forwarded conn = s.forwarded conn := by
  apply once.invariant (fun t => t.Barred conn ∧ t.forwarded conn = s.forwarded conn) _ ⟨barred, rfl⟩
  rintro t event ⟨barred, kept⟩ same
  exact ⟨barred_step barred event same, (forwarded_barred barred event).trans kept⟩

/-- **The socket's authentication.**  Whatever has happened on the loop thread so far: a
failed connection stays failed until it is detached, and none of its frames is handed to
the application any more; and as long as a connection is not authenticated, an event hands
on nothing of it but an AUTH, and a PING or an ACK of it is ignored or is the end of its
socket, always ignored if the connection is pending and the frame acceptable. -/
theorem auth_first_and_failure_final (cfg : TextWSConfig) (conn : ConnId) (s : TextWSServer) :
    (s.Failed conn → ∀ events, Staged (step cfg) (fun s => NotReopened s conn) s events →
      (run (step cfg) s events).Barred conn ∧
        (run (step cfg) s events).forwarded conn = s.forwarded conn) ∧
    (¬ s.Authenticated conn →
      (∀ event, (s.step cfg event).forwarded conn = s.forwarded conn ∨
        ∃ envelope, envelope.type = .auth ∧
          (s.step cfg event).forwarded conn = envelope :: s.forwarded conn) ∧
      ∀ now frame, PingOrAck frame →
        (s.step cfg (.frame now conn frame) = s ∨
          ∃ code reason, s.step cfg (.frame now conn frame) = s.endSocket conn code reason) ∧
        (s.Pending conn → Acceptable cfg frame → s.step cfg (.frame now conn frame) = s)) := by
  constructor
  · rintro ⟨ctx, found, failed⟩ events once
    apply barred_run events _ once
    intro ctx' found'
    obtain rfl : ctx = ctx' := Option.some.inj (found.symm.trans found')
    exact failed
  · intro not
    constructor
    · exact forwarded_unauthenticated not
    · intro now frame kind
      constructor
      · exact unauthenticated_ping_ack not now frame kind
      · exact fun pending acceptable => pending_ping_ack pending now frame kind acceptable

/-! ## A late update -/

namespace LateUpdate

def defaults : TextWSConfig where
  parsePing := fun _ => some 1
  parseAck := fun _ => some 1

def phone : ConnId := ⟨"phone"⟩

def update (state : AuthState) : OutgoingMessage where
  target := [⟨⟨"net"⟩, phone⟩]
  action := .updateAuthState { state, expiresAt := 1000000 }

/-- The application has refused the phone's token. -/
def refused : TextWSServer :=
  run (step defaults) {} [.opened 0 phone true, .pushed (update .authFailed), .outgoing]

/-- An update for a token accepted meanwhile comes later, and then another frame. -/
def late : List LoopEvent :=
  [.pushed (update .authenticated), .outgoing, .frame 9 phone ⟨true, 4, some ⟨1, .auth, "token"⟩⟩]

/-- The late update does not bring the phone back. -/
theorem auth_first_and_failure_final_late :
    refused.Failed phone ∧ (run (step defaults) refused late).Barred phone ∧
      (run (step defaults) refused late).forwarded phone = refused.forwarded phone := by
  have failed : refused.Failed phone := ⟨_, rfl, rfl⟩
  refine ⟨failed, (auth_first_and_failure_final defaults phone refused).1 failed late ?_⟩
  exact ⟨trivial, trivial, trivial, trivial⟩

end LateUpdate

end TextWSServer

end Kergit
