import Kergit.OutgoingWorker

/-!
What the worker can do to one connection.

Four functions change a connection's state: an item is put in its outbox, the outbox
is flushed, its buffer is swept, or an ack takes frames out of the buffer.  A
`LineAction` is a call of one of them.  `Evolves` says that everything a step of the
worker leaves, in the registry or among the connections gone, comes from what it found
by such calls, so that a fact about connections is proved per call (`Evolves.everywhere`,
`act_everywhere`).
-/

namespace Kergit

open Lib

/-- A call of one of the four functions, with the script where it finds it. -/
inductive LineAction where
  | enqueue (item : OutboundItem)
  | flush (io : Io)
  | sweep (now : Nat) (io : Io)
  | ack (seq : Nat)
deriving DecidableEq, Repr

/-- The event ends a flush with items left. -/
def LineEvent.stops : LineEvent → Bool
  | .transmitted .plain _ status _ | .transmitted .reliable _ status _ => decide (status ≠ .success)
  | .backpressured => true
  | .transmitted .resend _ _ _ | .distributed _ | .handled _ => false

namespace ConnectionContext

variable (cfg : OutgoingWorkerConfig)

def line (ctx : ConnectionContext) : LineAction → ConnectionContext
  | .enqueue item =>
    { ctx with outbox := ctx.outbox.enqueue item, log := .distributed item :: ctx.log }
  | .flush io => (ctx.flush cfg io).2.ctx
  | .sweep now io => (ctx.sweep cfg now io).2.1
  | .ack seq => { ctx with reliable := ctx.reliable.acknowledge seq }

/-! ## A flush, turn by turn -/

/-- The front item is done with and leaves the outbox. -/
def pop (ctx : ConnectionContext) (item : OutboundItem) (rest : List OutboundItem) :
    ConnectionContext :=
  { ctx with outbox := { ctx.outbox with q := rest }, log := .handled item :: ctx.log }

/-- One turn of the loop of `flush_connection_outbox` that changes the connection, by
what it does with the front item. -/
inductive Pump (ctx : ConnectionContext) : ConnectionContext → Prop where
  /-- A payload without bytes, or on a dead handle, is passed over. -/
  | skipped (item : OutboundItem) (rest : List OutboundItem) (send : SendPayload)
      (front : ctx.outbox.q = item :: rest) (is : item.action = .sendPayload send)
      (nothing : send.payload.data = none ∨ ctx.handleValid = false) :
      Pump ctx (ctx.pop item rest)
  | sentPlain (item : OutboundItem) (rest : List OutboundItem) (send : SendPayload) (data : String)
      (status : SendStatus) (time : Nat) (front : ctx.outbox.q = item :: rest)
      (is : item.action = .sendPayload send) (bytes : send.payload.data = some data)
      (plain : send.reliable = false) (sent : status = .success) :
      Pump ctx ((ctx.emit (.transmitted .plain ⟨0, data⟩ status time)).pop item rest)
  | sentReliable (item : OutboundItem) (rest : List OutboundItem) (send : SendPayload)
      (data : String) (status : SendStatus) (time : Nat) (front : ctx.outbox.q = item :: rest)
      (is : item.action = .sendPayload send) (bytes : send.payload.data = some data)
      (reliable : send.reliable = true) (valid : ctx.handleValid = true) (sent : status = .success) :
      Pump ctx (pop
        { ctx.emit (.transmitted .reliable (stampEnvelopeSeq data (ctx.reliable.nextSeq + 1)) status
            time) with
          reliable := ctx.reliable.record (stampEnvelopeSeq data (ctx.reliable.nextSeq + 1)) time }
        item rest)
  /-- A send that does not say `SUCCESS` leaves the item where it is. -/
  | failed (item : OutboundItem) (rest : List OutboundItem) (send : SendPayload) (data : String)
      (kind : SendKind) (frame : Frame) (n time : Nat) (front : ctx.outbox.q = item :: rest)
      (is : item.action = .sendPayload send) (bytes : send.payload.data = some data)
      (frames : (kind, frame) = if send.reliable then
        (.reliable, stampEnvelopeSeq data (ctx.reliable.nextSeq + 1)) else (.plain, ⟨0, data⟩))
      (refused : cfg.script.send kind n ≠ .success) :
      Pump ctx (ctx.emit (.transmitted kind frame (cfg.script.send kind n) time))
  | blocked (item : OutboundItem) (rest : List OutboundItem) (front : ctx.outbox.q = item :: rest) :
      Pump ctx (ctx.emit .backpressured)
  | updated (item : OutboundItem) (rest : List OutboundItem) (update : UpdateAuthState)
      (front : ctx.outbox.q = item :: rest) (is : item.action = .updateAuthState update) :
      Pump ctx ((ctx.applyAuth update).pop item rest)
  /-- A drop takes the rest of the outbox with it. -/
  | dropped (item : OutboundItem) (rest : List OutboundItem) (drop : DropConnection)
      (front : ctx.outbox.q = item :: rest) (is : item.action = .dropConnection drop) :
      Pump ctx (ctx.pop item [])

abbrev Pumps : ConnectionContext → ConnectionContext → Prop := Relation.ReflTransGen (Pump cfg)

/-- The outbox with this content. -/
def withQueue (ctx : ConnectionContext) (q : List OutboundItem) : ConnectionContext :=
  { ctx with outbox := { ctx.outbox with q } }

theorem applyAuth_withQueue (ctx : ConnectionContext) (q : List OutboundItem)
    (update : UpdateAuthState) :
    (ctx.withQueue q).applyAuth update = (ctx.applyAuth update).withQueue q := by
  by_cases final : ctx.authState = .authFailed ∧ update.state ≠ .authFailed
  · have final' : (ctx.withQueue q).authState = .authFailed ∧ _ := final
    rw [applyAuth, applyAuth, if_pos final, if_pos final']
  · have open' : ¬ ((ctx.withQueue q).authState = .authFailed ∧ _) := final
    rw [applyAuth, applyAuth, if_neg final, if_neg open']
    rfl

variable {cfg} in
/-- A payload is sent and popped, or is left in front. -/
theorem sendPayload_pumps (f : Flushing) (item : OutboundItem) (rest : List OutboundItem)
    (send : SendPayload) (is : item.action = .sendPayload send) :
    ((sendPayload cfg f send).1 = true ∧
      Pumps cfg (f.ctx.withQueue (item :: rest))
        (((sendPayload cfg f send).2.handle item).ctx.withQueue rest)) ∨
    ((sendPayload cfg f send).1 = false ∧
      Pumps cfg (f.ctx.withQueue (item :: rest))
        ((sendPayload cfg f send).2.ctx.withQueue (item :: rest)) ∧
      ∃ event, (sendPayload cfg f send).2.ctx.log = event :: f.ctx.log ∧ event.stops = true) := by
  unfold sendPayload
  cases bytes : send.payload.data with
  | none => exact .inl ⟨rfl, .single (.skipped item rest send rfl is (.inl bytes))⟩
  | some data =>
    dsimp only
    split
    · rename_i dead
      rw [Bool.not_eq_true'] at dead
      exact .inl ⟨rfl, .single (.skipped item rest send rfl is (.inr dead))⟩
    · rename_i alive
      rw [Bool.not_eq_true', Bool.not_eq_false] at alive
      split
      · exact .inr ⟨rfl, .single (.blocked item rest rfl), .backpressured, rfl, rfl⟩
      · split
        · rename_i reliable
          split
          · rename_i sent
            exact .inl ⟨rfl, .single (.sentReliable item rest send data _ _ rfl is bytes reliable alive
              sent)⟩
          · rename_i refused
            right
            refine ⟨rfl, .single ?_, _, rfl, decide_eq_true refused⟩
            apply Pump.failed item rest send data .reliable _ _ _ rfl is bytes _ refused
            rw [if_pos reliable]
            rfl
        · rename_i plain
          rw [Bool.not_eq_true] at plain
          by_cases sent : (Flushing.transmit cfg { f with io := (f.io.isBackpressured cfg).2 } .plain
              ⟨0, data⟩).1 = .success
          · exact .inl ⟨decide_eq_true sent,
              .single (.sentPlain item rest send data _ _ rfl is bytes plain sent)⟩
          · right
            refine ⟨decide_eq_false sent, .single ?_, _, rfl, decide_eq_true sent⟩
            apply Pump.failed item rest send data .plain _ _ _ rfl is bytes _ sent
            rw [plain]
            rfl

/-- **A flush is a sequence of turns.** -/
theorem flushQueue_pumps (q : List OutboundItem) (f : Flushing) :
    Pumps cfg (f.ctx.withQueue q) (flushQueue cfg q f).2.ctx := by
  induction q generalizing f with
  | nil => exact .refl
  | cons item rest ih =>
    unfold flushQueue
    cases is : item.action with
    | sendPayload send =>
      rcases sendPayload_pumps f item rest send is with ⟨done, turns⟩ | ⟨left, turns, -⟩
      · dsimp only
        rw [if_pos done]
        exact turns.trans (ih _)
      · dsimp only
        rw [if_neg (by rw [left]; simp)]
        exact turns
    | updateAuthState update =>
      have turn : Pump cfg (f.ctx.withQueue (item :: rest))
          (((f.ctx.withQueue (item :: rest)).applyAuth update).pop item rest) :=
        .updated item rest update rfl is
      rw [applyAuth_withQueue] at turn
      have later := ih ({ f with ctx := f.ctx.applyAuth update }.handle item)
      exact (Relation.ReflTransGen.single turn).trans later
    | dropConnection drop => exact .single (.dropped item rest drop rfl is)

variable {cfg} in
/-- A turn adds to the log. -/
theorem pump_log (turn : Pump cfg ctx ctx') : ctx.log <:+ ctx'.log := by
  cases turn with
  | sentPlain | sentReliable => exact (List.suffix_cons _ _).trans (List.suffix_cons _ _)
  | updated item rest update front is =>
    exact (applyAuth_log ctx update) ▸ List.suffix_cons _ _
  | skipped | failed | blocked | dropped => exact List.suffix_cons _ _

variable {cfg} in
theorem pumps_log (turns : Pumps cfg ctx ctx') : ctx.log <:+ ctx'.log := by
  induction turns with
  | refl => exact List.suffix_refl _
  | tail _ turn ih => exact ih.trans (pump_log turn)

/-! ## A sweep, frame by frame -/

/-- The connection with this buffer and log. -/
def withFrames (ctx : ConnectionContext) (buffer : List Pending) (log : List LineEvent)
    (same : buffer.map Pending.seq = ctx.reliable.buffer.map Pending.seq) : ConnectionContext :=
  { ctx with reliable := ctx.reliable.withBuffer buffer same, log }

/-- One overdue frame of a buffer is handed to the socket again, and logged. -/
inductive Retry (now : Nat) : List Pending × List LineEvent → List Pending × List LineEvent → Prop where
  | resent (before : List Pending) (p : Pending) (after : List Pending) (log : List LineEvent) (n : Nat)
      (overdue : p.lastSentAt + cfg.retransmitTimeout ≤ now)
      (allowed : p.attempts < cfg.maxRetransmits) :
      Retry now (before ++ p :: after, log)
        (before ++ p.retried (cfg.script.send .resend n) now :: after,
          .transmitted .resend p.bytes (cfg.script.send .resend n) now :: log)

abbrev Retries (now : Nat) :
    List Pending × List LineEvent → List Pending × List LineEvent → Prop :=
  Relation.ReflTransGen (Retry cfg now)

/-- **The sweep of a buffer is a sequence of retries.**  `before` is the part of it the
loop has passed. -/
theorem resend_retries (now : Nat) (buffer before : List Pending) (r : Resending) :
    Retries cfg now (before ++ buffer, r.log)
      (before ++ (resend cfg now buffer r).2.1, (resend cfg now buffer r).2.2.log) := by
  induction buffer generalizing before r with
  | nil => exact .refl
  | cons p rest ih =>
    simp only [resend]
    split
    · have later := ih (before ++ [p]) r
      simpa using later
    · rename_i overdue
      split
      · exact .refl
      · rename_i allowed
        split
        · exact .refl
        · have first : Retry cfg now (before ++ p :: rest, r.log) _ :=
            .resent before p rest r.log (r.io.calls + 1) (Nat.le_of_not_lt overdue)
              (Nat.lt_of_not_le allowed)
          have later := ih (before ++ [p.retried (cfg.script.send .resend (r.io.calls + 1)) now])
            { log := .transmitted .resend p.bytes (cfg.script.send .resend (r.io.calls + 1)) now :: r.log
              io := ((r.io.isBackpressured cfg).2.send cfg .resend).2 }
          rw [List.append_assoc, List.append_assoc] at later
          exact (Relation.ReflTransGen.single first).trans later

/-- What a sweep does to a connection. -/
theorem sweep_retries (now : Nat) (io : Io) (ctx : ConnectionContext) :
    ∃ buffer log same, (ctx.sweep cfg now io).2.1 = ctx.withFrames buffer log same ∧
      Retries cfg now (ctx.reliable.buffer, ctx.log) (buffer, log) := by
  unfold sweep
  split
  · exact ⟨_, _, rfl, rfl, .refl⟩
  · split
    · exact ⟨_, _, rfl, rfl, .refl⟩
    · split
      · exact ⟨_, _, rfl, rfl, .refl⟩
      · exact ⟨_, _, resend_seq cfg _ _ _, rfl,
          resend_retries cfg now ctx.reliable.buffer [] ⟨ctx.log, io⟩⟩

/-- A retry by its parts. -/
theorem Retry.parts {log log' : List LineEvent}
    (retry : Retry cfg now (buffer, log) (buffer', log')) :
    ∃ before p after status, buffer = before ++ p :: after ∧
      buffer' = before ++ p.retried status now :: after ∧
      log' = .transmitted .resend p.bytes status now :: log ∧
      p.lastSentAt + cfg.retransmitTimeout ≤ now ∧ p.attempts < cfg.maxRetransmits ∧
      ∃ n, status = cfg.script.send .resend n := by
  cases retry with
  | resent before p after log n overdue allowed =>
    exact ⟨before, p, after, _, rfl, rfl, rfl, overdue, allowed, n, rfl⟩

theorem Retry.seq {log log' : List LineEvent}
    (retry : Retry cfg now (buffer, log) (buffer', log')) :
    buffer'.map Pending.seq = buffer.map Pending.seq := by
  obtain ⟨before, p, after, status, rfl, rfl, -⟩ := retry.parts
  simp

variable (Inv : ConnectionContext → Prop)

/-- What every turn of a flush keeps, the flush keeps. -/
theorem flush_keeps (pump : ∀ ctx ctx', Pump cfg ctx ctx' → Inv ctx → Inv ctx') (io : Io)
    (ctx : ConnectionContext) (start : Inv ctx) : Inv (ctx.line cfg (.flush io)) := by
  have every : ∀ ctx', Pumps cfg ctx ctx' → Inv ctx' := by
    intro ctx' turns
    induction turns with
    | refl => exact start
    | tail _ turn ih => exact pump _ _ turn ih
  exact every _ (flushQueue_pumps cfg ctx.outbox.q { ctx, io })

/-- What every retry of a sweep keeps, the sweep keeps. -/
theorem sweep_keeps
    (retry : ∀ now ctx buffer log same,
      Retry cfg now (ctx.reliable.buffer, ctx.log) (buffer, log) → Inv ctx →
        Inv (ctx.withFrames buffer log same))
    (now : Nat) (io : Io) (ctx : ConnectionContext) (start : Inv ctx) :
    Inv (ctx.line cfg (.sweep now io)) := by
  obtain ⟨buffer, log, same, swept, retries⟩ := sweep_retries cfg now io ctx
  have every : ∀ frames, Retries cfg now (ctx.reliable.buffer, ctx.log) frames →
      ∃ same, Inv (ctx.withFrames frames.1 frames.2 same) := by
    intro frames chain
    induction chain with
    | refl => exact ⟨rfl, start⟩
    | tail _ next ih =>
      obtain ⟨same, kept⟩ := ih
      have same' := Retry.seq cfg next
      exact ⟨same'.trans same, retry now (ctx.withFrames _ _ same) _ _ same' next kept⟩
  obtain ⟨_, kept⟩ := every _ retries
  rw [line, swept]
  exact kept

/-- **The invariant rule for calls**: flushes and sweeps turn by turn. -/
theorem line_keeps (start : Inv ctx) (pump : ∀ ctx ctx', Pump cfg ctx ctx' → Inv ctx → Inv ctx')
    (retry : ∀ now ctx buffer log same,
      Retry cfg now (ctx.reliable.buffer, ctx.log) (buffer, log) → Inv ctx →
        Inv (ctx.withFrames buffer log same))
    (enqueue : ∀ item, action = .enqueue item → Inv (ctx.line cfg (.enqueue item)))
    (ack : ∀ seq, action = .ack seq → Inv (ctx.line cfg (.ack seq))) :
    Inv (ctx.line cfg action) := by
  cases action with
  | enqueue item => exact enqueue item rfl
  | flush io => exact flush_keeps cfg Inv pump io ctx start
  | sweep now io => exact sweep_keeps cfg Inv retry now io ctx start
  | ack seq => exact ack seq rfl

/-! ## What a call leaves alone -/

section Calls

variable {cfg} {ctx ctx' : ConnectionContext}

theorem pump_handleValid (turn : Pump cfg ctx ctx') : ctx'.handleValid = ctx.handleValid := by
  cases turn with
  | updated item rest update front is => exact applyAuth_handleValid ctx update
  | _ => rfl

theorem line_handleValid (action : LineAction) :
    (ctx.line cfg action).handleValid = ctx.handleValid :=
  line_keeps cfg (fun ctx' => ctx'.handleValid = ctx.handleValid) rfl
    (fun _ _ turn kept => (pump_handleValid turn).trans kept) (fun _ _ _ _ _ _ kept => kept)
    (fun _ _ => rfl) (fun _ _ => rfl)

/-- The connection later on: more has happened to it. -/
structure Continues (ctx ctx' : ConnectionContext) : Prop where
  log : ctx.log <:+ ctx'.log
  handleValid : ctx'.handleValid = ctx.handleValid

/-- **Every call adds to the log.** -/
theorem line_continues (ctx : ConnectionContext) (action : LineAction) :
    Continues ctx (ctx.line cfg action) := by
  refine ⟨?_, line_handleValid action⟩
  apply line_keeps cfg (fun ctx' => ctx.log <:+ ctx'.log) (List.suffix_refl _)
  · exact fun _ _ turn before => before.trans (pump_log turn)
  · intro now found buffer log same retry before
    obtain ⟨-, -, -, -, -, -, rfl, -⟩ := retry.parts
    exact before.trans (List.suffix_cons _ _)
  · exact fun _ _ => List.suffix_cons _ _
  · exact fun _ _ => List.suffix_refl _

end Calls

end ConnectionContext

namespace WorkerState

variable {cfg : OutgoingWorkerConfig} {Guard : ConnId → ConnectionContext → LineAction → Prop}
  {w w' t : WorkerState} {conn : ConnId} {ctx ctx' : ConnectionContext}

variable (cfg Guard) in
/-- One allowed call on the connection. -/
def LineStep (conn : ConnId) (ctx ctx' : ConnectionContext) : Prop :=
  ∃ action, Guard conn ctx action ∧ ctx' = ctx.line cfg action

variable (cfg Guard) in
abbrev LineSteps (conn : ConnId) : ConnectionContext → ConnectionContext → Prop :=
  Relation.ReflTransGen (LineStep cfg Guard conn)

theorem LineSteps.of_action (allowed : Guard conn ctx action) :
    LineSteps cfg Guard conn ctx (ctx.line cfg action) :=
  .single ⟨action, allowed, rfl⟩

variable {Inv : ConnectionContext → Prop}

/-- What every allowed call keeps, a chain of them keeps. -/
theorem LineSteps.invariant (steps : LineSteps cfg Guard conn ctx ctx')
    (keeps : ∀ ctx action, Guard conn ctx action → Inv ctx → Inv (ctx.line cfg action))
    (start : Inv ctx) : Inv ctx' := by
  induction steps with
  | refl => exact start
  | tail _ step ih =>
    obtain ⟨action, allowed, rfl⟩ := step
    exact keeps _ action allowed ih

variable (cfg Guard) in
/-- Every connection of `w'`, live or gone, comes from one of `w` by allowed calls. -/
structure Evolves (w w' : WorkerState) : Prop where
  live : ∀ conn ctx', w'.conns.lookup conn = some ctx' →
    ∃ ctx, w.conns.lookup conn = some ctx ∧ LineSteps cfg Guard conn ctx ctx'
  gone : ∀ entry ∈ w'.gone, entry ∈ w.gone ∨
    ∃ ctx, w.conns.lookup entry.1 = some ctx ∧ LineSteps cfg Guard entry.1 ctx entry.2

theorem Evolves.of_same (conns : w'.conns = w.conns) (gone : w'.gone = w.gone) :
    Evolves cfg Guard w w' where
  live := fun _ ctx' found => ⟨ctx', conns ▸ found, .refl⟩
  gone := fun _ listed => .inl (gone ▸ listed)

theorem Evolves.refl (w : WorkerState) : Evolves cfg Guard w w := .of_same rfl rfl

theorem Evolves.trans (first : Evolves cfg Guard w t) (second : Evolves cfg Guard t w') :
    Evolves cfg Guard w w' where
  live := by
    intro conn ctx'' found
    obtain ⟨ctx', between, later⟩ := second.live conn ctx'' found
    obtain ⟨ctx, before, earlier⟩ := first.live conn ctx' between
    exact ⟨ctx, before, earlier.trans later⟩
  gone := by
    intro entry listed
    rcases second.gone entry listed with already | ⟨ctx', between, later⟩
    · exact first.gone entry already
    · obtain ⟨ctx, before, earlier⟩ := first.live entry.1 ctx' between
      exact .inr ⟨ctx, before, earlier.trans later⟩

/-- One connection is changed by allowed calls. -/
theorem Evolves.of_insert (found : w.conns.lookup conn = some ctx)
    (steps : LineSteps cfg Guard conn ctx ctx') (conns : w'.conns = w.conns.insert conn ctx')
    (gone : w'.gone = w.gone) : Evolves cfg Guard w w' where
  live := by
    grind
  gone := fun _ listed => .inl (gone ▸ listed)

theorem detach_evolves (conn : ConnId) : Evolves cfg Guard w (w.detach conn) := by
  unfold detach
  cases found : w.conns.lookup conn with
  | none => exact .refl w
  | some ctx =>
    constructor
    · grind
    · grind

theorem endIf_evolves (conn : ConnId) (handleValid : Bool) :
    Evolves cfg Guard w (w.endIf conn handleValid) := by
  unfold endIf
  split
  · exact detach_evolves conn
  · exact .refl w

theorem enqueueToOutbox_evolves
    (allowed : ∀ ctx, w.conns.lookup conn = some ctx → Guard conn ctx (.enqueue item)) :
    Evolves cfg Guard w (w.enqueueToOutbox conn item).2 := by
  unfold enqueueToOutbox
  cases found : w.conns.lookup conn with
  | none => exact .refl w
  | some ctx => exact .of_insert found (.of_action (allowed ctx found)) rfl rfl

theorem onAck_evolves
    (allowed : ∀ ctx, w.conns.lookup conn = some ctx → Guard conn ctx (.ack seq)) :
    Evolves cfg Guard w (w.onAck conn seq) := by
  unfold onAck
  cases found : w.conns.lookup conn with
  | none => exact .of_same rfl rfl
  | some ctx => exact .of_insert found (.of_action (allowed ctx found)) rfl rfl

section Loops

variable (flushes : ∀ conn ctx io, Guard conn ctx (.flush io))
  (sweeps : ∀ conn ctx now io, Guard conn ctx (.sweep now io))

include flushes in
theorem flushConnectionOutbox_evolves (conn : ConnId) :
    Evolves cfg Guard w (w.flushConnectionOutbox cfg conn) := by
  unfold flushConnectionOutbox
  cases found : w.conns.lookup conn with
  | none => exact .refl w
  | some ctx =>
    have flushed : LineSteps cfg Guard conn ctx (ctx.flush cfg w.io).2.ctx :=
      .of_action (flushes conn ctx w.io)
    dsimp only
    split
    · apply Evolves.trans _ (endIf_evolves _ _)
      exact .of_insert found flushed rfl rfl
    · exact .of_insert found flushed rfl rfl

include sweeps in
theorem sweepConnection_evolves (now : Nat) (s : Sweeping) (conn : ConnId) :
    Evolves cfg Guard s.state (sweepConnection cfg now s conn).state := by
  unfold sweepConnection
  cases found : s.state.conns.lookup conn with
  | none => exact .refl s.state
  | some ctx =>
    have swept : LineSteps cfg Guard conn ctx (ctx.sweep cfg now s.state.io).2.1 :=
      .of_action (sweeps conn ctx now s.state.io)
    dsimp only
    split <;> exact .of_insert found swept rfl rfl

include sweeps in
theorem sweepAll_evolves (now : Nat) (conns : List ConnId) (s : Sweeping) :
    Evolves cfg Guard s.state (conns.foldl (sweepConnection cfg now) s).state := by
  induction conns generalizing s with
  | nil => exact .refl s.state
  | cons conn rest ih => exact (sweepConnection_evolves sweeps now s conn).trans (ih _)

theorem endAll_evolves (drops : List (ConnId × Bool)) (w : WorkerState) :
    Evolves cfg Guard w (drops.foldl (fun w drop => w.endIf drop.1 drop.2) w) :=
  run_invariant (fun _ _ evolves => evolves.trans (endIf_evolves _ _)) (.refl w)

include sweeps in
theorem retransmitSweep_evolves : Evolves cfg Guard w (w.retransmitSweep cfg) := by
  unfold retransmitSweep
  split
  · exact .refl w
  · apply Evolves.trans _ (endAll_evolves _ _)
    have looped : Evolves cfg Guard
        { w with io := ((w.io.now cfg).2.arrange cfg w.pendingUnacked).2 } (w.sweepLoop cfg).state :=
      sweepAll_evolves sweeps _ _ { state := _ }
    have swept : Evolves cfg Guard w (w.sweepLoop cfg).state := by
      apply Evolves.trans _ looped
      exact .of_same rfl rfl
    exact swept.trans (.of_same rfl rfl)

/-- The calls a step makes are allowed. -/
structure Allows (Guard : ConnId → ConnectionContext → LineAction → Prop) (w : WorkerState)
    (step : OutboundStep) : Prop where
  enqueue : ∀ conn item ctx, step = .distribute conn item → w.conns.lookup conn = some ctx →
    Guard conn ctx (.enqueue item)
  ack : ∀ conn seq ctx, step = .ack conn seq → w.conns.lookup conn = some ctx →
    Guard conn ctx (.ack seq)

include flushes sweeps in
/-- **What a step of the worker does.**  It opens a connection that was not there, or
everything it leaves evolves from what it found. -/
theorem act_cases (allows : Allows Guard w step) :
    (∃ conn handleValid, step = .attach conn handleValid ∧ w.conns.lookup conn = none ∧
      w.act cfg step = { w with conns := w.conns.insert conn (.opened cfg handleValid) }) ∨
      Evolves cfg Guard w (w.act cfg step) := by
  cases step with
  | attach conn handleValid =>
    rw [act, attach]
    split
    · exact .inr (.refl w)
    · rename_i absent
      exact .inl ⟨conn, handleValid, rfl, AList.lookup_eq_none.mpr absent, rfl⟩
  | close conn => exact .inr (detach_evolves conn)
  | distribute conn item =>
    exact .inr (enqueueToOutbox_evolves fun ctx => allows.enqueue conn item ctx rfl)
  | flush conn => exact .inr (flushConnectionOutbox_evolves flushes conn)
  | sweep => exact .inr (retransmitSweep_evolves sweeps)
  | ack conn seq => exact .inr (onAck_evolves fun ctx => allows.ack conn seq ctx rfl)
  | glance | arrange => exact .inr (.of_same rfl rfl)

end Loops

/-- The fact holds of every connection, live or gone. -/
structure Everywhere (Inv : ConnectionContext → Prop) (w : WorkerState) : Prop where
  live : ∀ conn ctx, w.conns.lookup conn = some ctx → Inv ctx
  gone : ∀ entry ∈ w.gone, Inv entry.2

theorem Evolves.everywhere (evolves : Evolves cfg Guard w w')
    (keeps : ∀ conn ctx action, Guard conn ctx action → Inv ctx → Inv (ctx.line cfg action))
    (all : Everywhere Inv w) : Everywhere Inv w' where
  live := by
    intro conn ctx' found
    obtain ⟨ctx, before, steps⟩ := evolves.live conn ctx' found
    exact steps.invariant (fun ctx action => keeps conn ctx action) (all.live conn ctx before)
  gone := by
    intro entry listed
    rcases evolves.gone entry listed with already | ⟨ctx, before, steps⟩
    · exact all.gone entry already
    · exact steps.invariant (fun ctx action => keeps entry.1 ctx action) (all.live _ ctx before)

/-- **The invariant rule for connections.**  A fact that a connection starts with and
every allowed call keeps is kept by every step. -/
theorem act_everywhere (Guard : ConnId → ConnectionContext → LineAction → Prop)
    (flushes : ∀ conn ctx io, Guard conn ctx (.flush io))
    (sweeps : ∀ conn ctx now io, Guard conn ctx (.sweep now io)) (allows : Allows Guard w step)
    (fresh : ∀ handleValid, Inv (.opened cfg handleValid))
    (keeps : ∀ conn ctx action, Guard conn ctx action → Inv ctx → Inv (ctx.line cfg action))
    (all : Everywhere Inv w) : Everywhere Inv (w.act cfg step) := by
  rcases act_cases flushes sweeps allows with ⟨conn, handleValid, -, -, opened⟩ | evolves
  · rw [opened]
    refine ⟨fun other ctx lookup => ?_, all.gone⟩
    rw [Map.lookup_insert_if] at lookup
    split at lookup
    · obtain rfl := Option.some.inj lookup
      exact fresh handleValid
    · exact all.live other ctx lookup
  · exact evolves.everywhere keeps all

theorem everywhere_empty : Everywhere Inv {} :=
  ⟨fun _ _ found => absurd found (by simp), nofun⟩

end WorkerState

/-! ## A tick is a sequence of steps -/

/-- The steps a tick is made of. -/
def OutboundStep.ofTick : OutboundStep → Bool
  | .distribute .. | .flush _ | .sweep | .glance | .arrange => true
  | .attach .. | .close _ | .ack .. => false

namespace OutgoingWorker

variable {cfg : OutgoingWorkerConfig} {w w' t : WorkerState}

variable (cfg) in
/-- From `w` to `w'` by steps of a tick. -/
def Performs (w w' : WorkerState) : Prop :=
  ∃ steps : List OutboundStep, (∀ step ∈ steps, step.ofTick = true) ∧
    w' = run (WorkerState.act cfg) w steps

theorem Performs.refl (w : WorkerState) : Performs cfg w w :=
  ⟨[], nofun, rfl⟩

theorem Performs.trans (first : Performs cfg w t) (second : Performs cfg t w') :
    Performs cfg w w' := by
  obtain ⟨earlier, allowed, rfl⟩ := first
  obtain ⟨later, allowed', rfl⟩ := second
  refine ⟨earlier ++ later, fun step listed => ?_, (run_append _ _ _ _).symm⟩
  exact (List.mem_append.mp listed).elim (allowed step) (allowed' step)

theorem Performs.single (step : OutboundStep) (allowed : step.ofTick = true) :
    Performs cfg w (w.act cfg step) :=
  ⟨[step], by simpa using allowed, rfl⟩

theorem pastDeadline_performs (t : Tick) :
    Performs cfg t.worker.state (t.pastDeadline cfg).2.worker.state := by
  unfold Tick.pastDeadline
  split
  · exact .refl _
  · exact .single .glance rfl

theorem distribute_performs (t : Tick) (msg : OutgoingMessage) :
    Performs cfg t.worker.state (t.distribute msg).worker.state := by
  unfold Tick.distribute
  induction msg.target generalizing t with
  | nil => exact .refl _
  | cons target rest ih =>
    have first : Performs cfg t.worker.state (Tick.enqueue msg t target).worker.state :=
      .single (.distribute target.connId ⟨msg.priority, msg.action⟩) rfl
    exact first.trans (ih _)

theorem drainQueue_performs (more : Nat) (t : Tick) :
    Performs cfg t.worker.state (Tick.drainQueue cfg more t).worker.state := by
  induction more generalizing t with
  | zero => exact .refl _
  | succ more ih =>
    have looked : Performs cfg t.worker.state _ := pastDeadline_performs t
    unfold Tick.drainQueue
    rcases judged : t.pastDeadline cfg with ⟨late, t'⟩
    rw [judged] at looked
    cases late with
    | true => exact looked
    | false =>
      dsimp only at looked ⊢
      split
      · exact looked
      · rename_i msg queue popped
        have spread : Performs cfg t'.worker.state _ :=
          distribute_performs { t' with worker := { t'.worker with queue } } msg
        exact looked.trans (spread.trans (ih _))

theorem flushAll_performs (conns : List ConnId) (t : Tick) :
    Performs cfg t.worker.state (Tick.flushAll cfg conns t).worker.state := by
  induction conns generalizing t with
  | nil => exact .refl _
  | cons conn rest ih =>
    have looked : Performs cfg t.worker.state _ := pastDeadline_performs t
    unfold Tick.flushAll
    rcases judged : t.pastDeadline cfg with ⟨late, t'⟩
    rw [judged] at looked
    cases late with
    | true => exact looked
    | false =>
      have flushed : Performs cfg t'.worker.state (t'.worker.state.flushConnectionOutbox cfg conn) :=
        .single (.flush conn) rfl
      exact looked.trans (flushed.trans (ih _))

/-- **A tick is a sequence of distributions, flushes and a sweep**, with looks at the
clock between them. -/
theorem tick_eq_run (w : OutgoingWorker) : Performs cfg w.state (w.tick cfg).state := by
  have started : Performs cfg w.state (w.startTick cfg).worker.state := .single .glance rfl
  have drained : Performs cfg (w.startTick cfg).worker.state (w.drained cfg).worker.state :=
    drainQueue_performs _ _
  have walked : Performs cfg (w.drained cfg).worker.state ((w.drained cfg).walk cfg).2.worker.state :=
    .single .arrange rfl
  have flushed : Performs cfg ((w.drained cfg).walk cfg).2.worker.state
      (w.beforeSweep cfg).worker.state := flushAll_performs _ _
  have swept : Performs cfg (w.beforeSweep cfg).worker.state (w.tick cfg).state :=
    .single .sweep rfl
  exact started.trans (drained.trans (walked.trans (flushed.trans swept)))

end OutgoingWorker

end Kergit
