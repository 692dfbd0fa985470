import Kergit.ConnectionRegistery
import Kergit.Lib.Maps
import Kergit.Lib.Staged

/-!
`OutgoingWorker`: the one place where outbound actions are executed.

A tick drains the shared queue into the outboxes of the connections addressed, then
flushes the outboxes it touched, then resends what is overdue.  Everything runs on
one thread.  What it meets outside is a `Script`: the readings of the clock, whether
the socket is backed up, what a send returns, and the order a hash set is walked in,
each by the number of the call, so a theorem over all scripts is a theorem over all
answers.

`WorkerState` is the registry with the worker's own index.  Its changes are the
`OutboundStep`s, and a tick is a sequence of them (`tick_eq_run`).
-/

namespace Kergit

open Lib

/-- What the worker finds outside, call by call. -/
structure Script where
  /-- The `n`-th reading of the steady clock. -/
  now : Nat → Nat := fun n => n
  /-- Whether the socket's buffer is over the high watermark at the `n`-th look. -/
  isBackpressured : Nat → Bool := fun _ => false
  /-- What the `n`-th call on a socket returns, if it is a send of this kind. -/
  send : SendKind → Nat → SendStatus := fun _ _ => .success
  /-- The order in which the `n`-th walk over a set of connections goes. -/
  arrange : Nat → List ConnId → List ConnId := fun _ conns => conns
  arrange_perm : ∀ n conns, (arrange n conns).Perm conns := by exact fun _ _ => .refl _

-- `OutgoingWorkerConfig`, with the two capacities a connection starts with.
structure OutgoingWorkerConfig where
  timeBudget : Nat := 1000
  maxPerTick : Nat := 256
  retransmitTimeout : Nat := 500
  maxRetransmits : Nat := 8
  outboxCapacity : Nat := 128
  reliableCapacity : Nat := 256
  script : Script := {}

/-- How far the script has been read. -/
structure Io where
  reads : Nat := 0
  calls : Nat := 0
  walks : Nat := 0
deriving DecidableEq, Repr

namespace Io

variable (cfg : OutgoingWorkerConfig) (io : Io)

def now : Nat × Io := (cfg.script.now io.reads, { io with reads := io.reads + 1 })

def isBackpressured : Bool × Io :=
  (cfg.script.isBackpressured io.calls, { io with calls := io.calls + 1 })

def send (kind : SendKind) : SendStatus × Io :=
  (cfg.script.send kind io.calls, { io with calls := io.calls + 1 })

def arrange (conns : List ConnId) : List ConnId × Io :=
  (cfg.script.arrange io.walks conns, { io with walks := io.walks + 1 })

end Io

/-! ## One connection -/

namespace ConnectionContext

variable (cfg : OutgoingWorkerConfig)

/-- A connection being flushed; `unacked` once it has sent a reliable frame. -/
structure Flushing where
  ctx : ConnectionContext
  io : Io
  unacked : Bool := false

variable (f : Flushing)

/-- The frame handed to the socket, and what came of it. -/
def Flushing.transmit (kind : SendKind) (frame : Frame) : SendStatus × Flushing :=
  let (status, io) := f.io.send cfg kind
  (status,
    { f with ctx := f.ctx.emit (.transmitted kind frame status (cfg.script.now f.io.reads)), io })

/-- A reliable frame went out: its number is used, and it waits for its ack. -/
def Flushing.record (wire : Frame) : Flushing :=
  let (now, io) := f.io.now cfg
  { ctx := { f.ctx with reliable := f.ctx.reliable.record wire now }, io, unacked := true }

-- `OutgoingWorker::send_payload`, with `TextWSServer::is_backpressured` and
-- `TextWSServer::send`: only `SUCCESS` counts as sent.
def sendPayload (action : SendPayload) : Bool × Flushing :=
  match action.payload.data with
  | none => (true, f)
  | some data =>
    if !f.ctx.handleValid then (true, f)
    else
      let (backpressured, io) := f.io.isBackpressured cfg
      let f := { f with io }
      if backpressured then (false, { f with ctx := f.ctx.emit .backpressured })
      else if action.reliable then
        let wire := stampEnvelopeSeq data (f.ctx.reliable.nextSeq + 1)
        let (status, f) := f.transmit cfg .reliable wire
        if status = .success then (true, f.record cfg wire) else (false, f)
      else
        let (status, f) := f.transmit cfg .plain ⟨0, data⟩
        (decide (status = .success), f)

/-- The outbox holds what is left. -/
def Flushing.leave (q : List OutboundItem) : Flushing :=
  { f with ctx := { f.ctx with outbox := { f.ctx.outbox with q } } }

def Flushing.handle (item : OutboundItem) : Flushing :=
  { f with ctx := f.ctx.emit (.handled item) }

-- `OutgoingWorker::flush_connection_outbox`, under the registry lock; the drop
-- it meets, if any, clears the rest.
def flushQueue : List OutboundItem → Flushing → Option DropConnection × Flushing
  | [], f => (none, f.leave [])
  | item :: rest, f =>
    match item.action with
    | .sendPayload action =>
      let (processed, f) := sendPayload cfg f action
      if processed then flushQueue rest (f.handle item) else (none, f.leave (item :: rest))
    | .updateAuthState update =>
      flushQueue rest ({ f with ctx := f.ctx.applyAuth update }.handle item)
    | .dropConnection drop => (some drop, (f.handle item).leave [])

def flush (io : Io) (ctx : ConnectionContext) : Option DropConnection × Flushing :=
  flushQueue cfg ctx.outbox.q { ctx, io }

/-- The log and the script while a buffer is gone through. -/
structure Resending where
  log : List LineEvent
  io : Io

-- `OutgoingWorker::retransmit_sweep`, the loop over a buffer; says whether the
-- connection is given up.
def resend (now : Nat) : List Pending → Resending → Bool × List Pending × Resending
  | [], r => (false, [], r)
  | p :: rest, r =>
    if now < p.lastSentAt + cfg.retransmitTimeout then
      let (giveUp, rest, r) := resend now rest r
      (giveUp, p :: rest, r)
    else if cfg.maxRetransmits ≤ p.attempts then (true, p :: rest, r)
    else
      let (backpressured, io) := r.io.isBackpressured cfg
      if backpressured then (false, p :: rest, { r with io })
      else
        let (status, io) := io.send cfg .resend
        let (giveUp, rest, r) :=
          resend now rest { log := .transmitted .resend p.bytes status now :: r.log, io }
        (giveUp, p.retried status now :: rest, r)

theorem resend_seq (now : Nat) (buffer : List Pending) (r : Resending) :
    (resend cfg now buffer r).2.1.map Pending.seq = buffer.map Pending.seq := by
  induction buffer generalizing r with
  | nil => rfl
  | cons p rest ih =>
    simp only [resend]
    split
    · rw [List.map_cons, List.map_cons, ih]
    · split
      · rfl
      · split
        · rfl
        · rw [List.map_cons, List.map_cons, ih, Pending.retried_seq]

/-- What a sweep makes of a connection. -/
inductive Swept where
  | drained
  | kept
  | dropped (drop : DropConnection)
deriving DecidableEq, Repr

def sweep (now : Nat) (io : Io) (ctx : ConnectionContext) : Swept × ConnectionContext × Io :=
  if ctx.reliable.buffer = [] then (.drained, ctx, io)
  else if ctx.reliable.capacity < ctx.reliable.buffer.length then
    (.dropped ⟨4409, "reliable_buffer_overflow"⟩, ctx, io)
  else if !ctx.handleValid then (.kept, ctx, io)
  else
    let resent := resend cfg now ctx.reliable.buffer ⟨ctx.log, io⟩
    (if resent.1 then .dropped ⟨4409, "reliable_ack_timeout"⟩ else .kept,
      { ctx with
        reliable := ctx.reliable.withBuffer resent.2.1 (resend_seq cfg _ _ _)
        log := resent.2.2.log },
      resent.2.2.io)

-- The context the `open` handler builds.
def opened (handleValid : Bool) : ConnectionContext where
  handleValid
  outbox := { capacity := cfg.outboxCapacity }
  reliable := { capacity := cfg.reliableCapacity }

end ConnectionContext

/-! ## All connections -/

/-- The registry, the worker's index of connections with unacked frames, and the
connections that are gone as they were at their end. -/
structure WorkerState where
  conns : Map ConnId ConnectionContext := ∅
  pendingUnacked : List ConnId := []
  io : Io := {}
  gone : List (ConnId × ConnectionContext) := []

namespace WorkerState

variable (cfg : OutgoingWorkerConfig) (w : WorkerState)

section

variable (conn : ConnId)

-- `ConnectionRegistery::attach`, which does not replace.
def attach (handleValid : Bool) : WorkerState :=
  if conn ∈ w.conns then w
  else { w with conns := w.conns.insert conn (.opened cfg handleValid) }

def detach : WorkerState :=
  match w.conns.lookup conn with
  | none => w
  | some ctx => { w with conns := w.conns.erase conn, gone := (conn, ctx) :: w.gone }

/-- `handle.end(...)`: the close handler runs and detaches. -/
def endIf (handleValid : Bool) : WorkerState :=
  if handleValid then w.detach conn else w

-- `OutgoingWorker::enqueue_to_outbox`; says whether the connection was found.
def enqueueToOutbox (item : OutboundItem) : Bool × WorkerState :=
  match w.conns.lookup conn with
  | none => (false, w)
  | some ctx =>
    (true, { w with
      conns := w.conns.insert conn
        { ctx with outbox := ctx.outbox.enqueue item, log := .distributed item :: ctx.log } })

def flushConnectionOutbox : WorkerState :=
  match w.conns.lookup conn with
  | none => w
  | some ctx =>
    let (drop, f) := ctx.flush cfg w.io
    let w := { w with
      conns := w.conns.insert conn f.ctx
      io := f.io
      pendingUnacked := if f.unacked then w.pendingUnacked.insert conn else w.pendingUnacked }
    if drop.isSome then w.endIf conn f.ctx.handleValid else w

def onAck (ackSeq : Nat) : WorkerState :=
  match w.conns.lookup conn with
  | none => { w with pendingUnacked := w.pendingUnacked.erase conn }
  | some ctx =>
    let reliable := ctx.reliable.acknowledge ackSeq
    { w with
      conns := w.conns.insert conn { ctx with reliable }
      pendingUnacked :=
        if reliable.buffer = [] then w.pendingUnacked.erase conn else w.pendingUnacked }

end

/-- The loop of a sweep: the state, what leaves the index, and who is ended after. -/
structure Sweeping where
  state : WorkerState
  toErase : List ConnId := []
  drops : List (ConnId × Bool) := []

def sweepConnection (now : Nat) (s : Sweeping) (conn : ConnId) : Sweeping :=
  match s.state.conns.lookup conn with
  | none => { s with toErase := conn :: s.toErase }
  | some ctx =>
    let (swept, ctx, io) := ctx.sweep cfg now s.state.io
    let s := { s with state := { s.state with conns := s.state.conns.insert conn ctx, io } }
    match swept with
    | .kept => s
    | .drained => { s with toErase := conn :: s.toErase }
    | .dropped _ =>
      { s with toErase := conn :: s.toErase, drops := (conn, ctx.handleValid) :: s.drops }

def sweepLoop : Sweeping :=
  let (now, io) := w.io.now cfg
  let (conns, io) := io.arrange cfg w.pendingUnacked
  conns.foldl (sweepConnection cfg now) { state := { w with io } }

def retransmitSweep : WorkerState :=
  if w.pendingUnacked = [] then w
  else
    let s := w.sweepLoop cfg
    let w := { s.state with
      pendingUnacked := s.state.pendingUnacked.filter fun conn => decide (conn ∉ s.toErase) }
    s.drops.reverse.foldl (fun w drop => w.endIf drop.1 drop.2) w

/-- A look at the clock. -/
def glance : WorkerState := { w with io := (w.io.now cfg).2 }

end WorkerState

/-- One change of the registry: the sockets' `open` and `close`, an ack, and the pieces
a tick is made of. -/
inductive OutboundStep where
  | attach (conn : ConnId) (handleValid : Bool)
  | close (conn : ConnId)
  | distribute (conn : ConnId) (item : OutboundItem)
  | flush (conn : ConnId)
  | sweep
  | ack (conn : ConnId) (seq : Nat)
  | glance
  /-- A walk over a set of connections begins. -/
  | arrange
deriving DecidableEq, Repr

namespace WorkerState

def act (cfg : OutgoingWorkerConfig) (w : WorkerState) : OutboundStep → WorkerState
  | .attach conn handleValid => w.attach cfg conn handleValid
  | .close conn => w.detach conn
  | .distribute conn item => (w.enqueueToOutbox conn item).2
  | .flush conn => w.flushConnectionOutbox cfg conn
  | .sweep => w.retransmitSweep cfg
  | .ack conn seq => w.onAck conn seq
  | .glance => w.glance cfg
  | .arrange => { w with io := (w.io.arrange cfg []).2 }

end WorkerState

/-! ## The tick -/

/-- The worker with its queue. -/
structure OutgoingWorker where
  state : WorkerState := {}
  queue : OutgoingQueue := .empty

namespace OutgoingWorker

variable (cfg : OutgoingWorkerConfig)

/-- A tick under way: the connections it touched, and whether it ran out of time. -/
structure Tick where
  worker : OutgoingWorker
  deadline : Nat
  touched : List ConnId := []
  late : Bool := false

/-- `tick_deadline_enabled_ && now() >= tick_deadline_`. -/
def Tick.pastDeadline (t : Tick) : Bool × Tick :=
  if cfg.timeBudget = 0 then (false, t)
  else
    let (now, io) := t.worker.state.io.now cfg
    (decide (t.deadline ≤ now),
      { t with worker := { t.worker with state := { t.worker.state with io } } })

def Tick.enqueue (msg : OutgoingMessage) (t : Tick) (target : GlobalConnId) : Tick :=
  let (found, state) := t.worker.state.enqueueToOutbox target.connId ⟨msg.priority, msg.action⟩
  { t with
    worker := { t.worker with state }
    touched := if found then t.touched.insert target.connId else t.touched }

def Tick.distribute (t : Tick) (msg : OutgoingMessage) : Tick := msg.target.foldl (Tick.enqueue msg) t

def Tick.drainQueue : Nat → Tick → Tick
  | 0, t => t
  | more + 1, t =>
    match t.pastDeadline cfg with
    | (true, t) => { t with late := true }
    | (false, t) =>
      match t.worker.queue.tryPop with
      | none => t
      | some (msg, queue) =>
        drainQueue more (Tick.distribute { t with worker := { t.worker with queue } } msg)

def Tick.flushAll : List ConnId → Tick → Tick
  | [], t => t
  | conn :: rest, t =>
    match t.pastDeadline cfg with
    | (true, t) => { t with late := true }
    | (false, t) =>
      flushAll rest { t with
        worker := { t.worker with state := t.worker.state.flushConnectionOutbox cfg conn } }

variable (w : OutgoingWorker)

/-- The tick's start, with its deadline. -/
def startTick : Tick :=
  let (start, io) := w.state.io.now cfg
  { worker := { w with state := { w.state with io } }, deadline := start + cfg.timeBudget }

/-- The tick once its messages are distributed. -/
def drained : Tick := Tick.drainQueue cfg cfg.maxPerTick (w.startTick cfg)

/-- The touched connections in the order they are walked. -/
def Tick.walk (t : Tick) : List ConnId × Tick :=
  let (conns, io) := t.worker.state.io.arrange cfg t.touched
  (conns, { t with worker := { t.worker with state := { t.worker.state with io } } })

/-- The tick before its sweep. -/
def beforeSweep : Tick :=
  let (conns, t) := (w.drained cfg).walk cfg
  Tick.flushAll cfg conns t

def tick : OutgoingWorker :=
  let t := w.beforeSweep cfg
  { t.worker with state := t.worker.state.retransmitSweep cfg }

end OutgoingWorker

end Kergit
