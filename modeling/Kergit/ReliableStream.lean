import Kergit.Retransmission

/-!
The reliable stream from end to end.

A `Stream` is one connection with its client.  Everything the socket took may reach the
client at any time, any number of times or never, so loss, duplication and reordering
are choices of the run.  The client processes the frame that comes next in number and
no other, and acknowledges what it has processed; the ack may be late.

`InStep` relates the two ends: what the client has processed is an initial part of the
payloads taken from the outbox, and the acks on the server do not run ahead of it.  It
needs the frames on the wire to be payloads taken (`Stamped`), which fails for a frame
the socket took with `BACKPRESSURE`: the server takes that for a failure.
-/

namespace Kergit

open Lib

structure Stream where
  ctx : ConnectionContext
  /-- The payloads the client has processed. -/
  processed : List String := []

/-- A call of the worker on the connection, a frame that arrives, or an ack that does. -/
inductive StreamStep where
  | enqueue (item : OutboundItem)
  | flush (io : Io)
  | sweep (now : Nat) (io : Io)
  /-- The frame of the `n`-th newest event arrives, if the socket took it. -/
  | deliver (n : Nat)
  /-- An ack up to this number arrives, or up to all that was processed. -/
  | ack (upTo : Nat)
deriving DecidableEq, Repr

namespace Stream

/-- The client processes the frame that is next. -/
def receive (processed : List String) (frame : Frame) : List String :=
  if frame.seq = processed.length + 1 then processed ++ [frame.content] else processed

def deliver (s : Stream) : LineEvent → Stream
  | .transmitted _ frame status _ =>
    if status.accepted then { s with processed := receive s.processed frame } else s
  | .distributed _ | .handled _ | .backpressured => s

def step (cfg : OutgoingWorkerConfig) (s : Stream) : StreamStep → Stream
  | .enqueue item => { s with ctx := s.ctx.line cfg (.enqueue item) }
  | .flush io => { s with ctx := s.ctx.line cfg (.flush io) }
  | .sweep now io => { s with ctx := s.ctx.line cfg (.sweep now io) }
  | .deliver n => (s.ctx.log[n]?).elim s s.deliver
  | .ack upTo => { s with ctx := s.ctx.line cfg (.ack (min upTo s.processed.length)) }

def initial (cfg : OutgoingWorkerConfig) : Stream := { ctx := .opened cfg true }

end Stream

/-- A reliable payload's first send was answered with `BACKPRESSURE`. -/
def LineEvent.isAhead : LineEvent → Bool
  | .transmitted .reliable _ status _ => decide (status = .backpressure)
  | .transmitted .plain _ _ _ | .transmitted .resend _ _ _ | .distributed _ | .handled _
  | .backpressured => false

namespace ConnectionContext

variable {cfg : OutgoingWorkerConfig} {ctx ctx' : ConnectionContext} {action : LineAction}

/-- The payloads taken are never fewer. -/
theorem takenReliable_mono (log : ctx.log <:+ ctx'.log) :
    ctx.takenReliable <+: ctx'.takenReliable := by
  obtain ⟨new, log⟩ := log
  rw [takenReliable, takenReliable, ← log, List.filterMap_append, List.reverse_append]
  exact List.prefix_append _ _

theorem pump_ackedSeq (turn : Pump cfg ctx ctx') : ctx'.reliable.ackedSeq = ctx.reliable.ackedSeq := by
  cases turn with
  | updated item rest update front is => simp [pop]
  | _ => rfl

/-- Only an ack acknowledges. -/
theorem line_ackedSeq (other : ∀ seq, action ≠ .ack seq) :
    (ctx.line cfg action).reliable.ackedSeq = ctx.reliable.ackedSeq :=
  line_keeps cfg (fun ctx' => ctx'.reliable.ackedSeq = ctx.reliable.ackedSeq) rfl
    (fun _ _ turn kept => (pump_ackedSeq turn).trans kept) (fun _ _ _ _ _ _ kept => kept)
    (fun _ _ => rfl) (fun seq is => absurd is (other seq))

/-- No first send of a reliable payload was answered with `BACKPRESSURE`. -/
def Prompt (ctx : ConnectionContext) : Prop := ∀ event ∈ ctx.log, event.isAhead = false
deriving Decidable

/-- **What the socket took is a payload with its number, or has none.** -/
theorem Stamped.accepted (stamped : ctx.Stamped) (prompt : ctx.Prompt)
    (listed : .transmitted kind frame status time ∈ ctx.log) (accepted : status.accepted = true) :
    frame.seq = 0 ∨ ctx.Assigned frame := by
  cases kind with
  | plain => exact or_iff_not_imp_left.mpr fun numbered =>
      stamped.wired _ listed frame (if_neg numbered)
  | reliable =>
    right
    have known : status ≠ .backpressure := of_decide_eq_false (prompt _ listed)
    obtain rfl := (accepted_iff known).mp accepted
    exact stamped.wired _ listed frame rfl
  | resend => exact .inr (stamped.wired _ listed frame rfl)

end ConnectionContext

namespace Stream

variable {cfg : OutgoingWorkerConfig} {s : Stream}

/-- The two ends agree. -/
structure InStep (s : Stream) : Prop where
  valid : s.ctx.handleValid = true
  stamped : s.ctx.Stamped
  order : s.processed <+: s.ctx.takenReliable
  acked : s.ctx.reliable.ackedSeq ≤ s.processed.length

/-- A call of the worker other than an ack. -/
theorem InStep.call (inStep : s.InStep) (action : LineAction) (other : ∀ seq, action ≠ .ack seq) :
    ({ s with ctx := s.ctx.line cfg action } : Stream).InStep where
  valid := (ConnectionContext.line_handleValid action).trans inStep.valid
  stamped := ConnectionContext.line_numbered cfg action (fun _ => inStep.stamped)
    ((ConnectionContext.line_handleValid action).trans inStep.valid)
  order := inStep.order.trans
    (ConnectionContext.takenReliable_mono (s.ctx.line_continues action).log)
  acked := by
    rw [ConnectionContext.line_ackedSeq other]
    exact inStep.acked

/-- An ack that reaches the server says what was processed. -/
theorem InStep.ack (inStep : s.InStep) (upTo : Nat) : (s.step cfg (.ack upTo)).InStep where
  valid := inStep.valid
  stamped := ConnectionContext.line_numbered cfg (.ack _) (fun _ => inStep.stamped) inStep.valid
  order := inStep.order
  acked := by
    have before := inStep.acked
    have named : min upTo s.processed.length ≤ s.processed.length := Nat.min_le_right _ _
    change (if _ then _ else _) ≤ s.processed.length
    split
    · exact named
    · exact before

/-- The next frame is the next payload. -/
theorem receive_order {taken processed : List String} (order : processed <+: taken)
    (assigned : frame.seq = 0 ∨ 0 < frame.seq ∧ taken[frame.seq - 1]? = some frame.content) :
    receive processed frame <+: taken ∧ processed.length ≤ (receive processed frame).length := by
  unfold receive
  split
  · rename_i next
    obtain ⟨later, rfl⟩ := order
    rcases assigned with none' | ⟨-, found⟩
    · nomatch none'.symm.trans next
    · rw [next, Nat.add_sub_cancel, List.getElem?_append_right (Nat.le_refl _), Nat.sub_self] at found
      obtain ⟨rest, rfl⟩ : ∃ rest, later = frame.content :: rest := by
        cases later with
        | nil => nomatch found
        | cons head rest =>
          obtain rfl := Option.some.inj found
          exact ⟨rest, rfl⟩
      refine ⟨⟨rest, by simp⟩, by simp⟩
  · exact ⟨order, Nat.le_refl _⟩

/-- A frame that arrives. -/
theorem InStep.deliver (inStep : s.InStep) (prompt : s.ctx.Prompt) (n : Nat) :
    (s.step cfg (.deliver n)).InStep := by
  rw [step]
  cases event : s.ctx.log[n]? with
  | none => exact inStep
  | some event' =>
    have listed : event' ∈ s.ctx.log := List.mem_of_getElem? event
    cases event' with
    | transmitted kind frame status time =>
      simp [Stream.deliver]
      split
      · rename_i accepted
        have assigned := inStep.stamped.accepted prompt listed accepted
        obtain ⟨order, longer⟩ := receive_order inStep.order assigned
        exact ⟨inStep.valid, inStep.stamped, order, Nat.le_trans inStep.acked longer⟩
      · exact inStep
    | distributed item | handled item | backpressured => exact inStep

theorem step_log (s : Stream) (input : StreamStep) : s.ctx.log <:+ (s.step cfg input).ctx.log := by
  cases input with
  | enqueue item => exact List.suffix_cons _ _
  | flush io => exact (s.ctx.line_continues (.flush io)).log
  | sweep now io => exact (s.ctx.line_continues (.sweep now io)).log
  | ack upTo => exact List.suffix_refl _
  | deliver n =>
    rw [step]
    cases s.ctx.log[n]? with
    | none => exact List.suffix_refl _
    | some event =>
      cases event with
      | transmitted kind frame status time =>
        simp [Stream.deliver]
        split <;> exact List.suffix_refl _
      | distributed | handled | backpressured => exact List.suffix_refl _

/-- The two ends agree as long as the socket's answers are told apart. -/
def Faithful (s : Stream) : Prop := s.ctx.Prompt → s.InStep

/-- **Every step keeps the two ends in step.** -/
theorem step_faithful (input : StreamStep) (inStep : s.Faithful) : (s.step cfg input).Faithful := by
  intro prompt
  have prompt' : s.ctx.Prompt := fun event listed => prompt event ((s.step_log input).subset listed)
  cases input with
  | enqueue item => exact (inStep prompt').call (.enqueue item) (by simp)
  | flush io => exact (inStep prompt').call (.flush io) (by simp)
  | sweep now io => exact (inStep prompt').call (.sweep now io) (by simp)
  | ack upTo => exact (inStep prompt').ack upTo
  | deliver n => exact (inStep prompt').deliver prompt' n

/-- **The client processes the payloads in order, without gaps or repeats, and what it has
not processed is kept for it.**  In every run of a connection on which no first send of a
reliable payload was answered with `BACKPRESSURE`: what the client has processed is an
initial part of the payloads taken from the outbox; the numbers assigned are theirs; and
a payload that was taken and not processed waits, with its number, in the buffer. -/
theorem reliable_stream (cfg : OutgoingWorkerConfig) (inputs : List StreamStep) (s : Stream)
    (reached : s = run (step cfg) (initial cfg) inputs) (prompt : s.ctx.Prompt) :
    s.processed <+: s.ctx.takenReliable ∧
      s.ctx.reliable.nextSeq = s.ctx.takenReliable.length ∧
      ∀ seq data, s.processed.length ≤ seq → s.ctx.takenReliable[seq]? = some data →
        ∃ p ∈ s.ctx.reliable.buffer, p.seq = seq + 1 ∧ p.bytes = stampEnvelopeSeq data (seq + 1) := by
  have always : (run (step cfg) (initial cfg) inputs).Faithful :=
    run_invariant (fun _ input faithful => step_faithful input faithful) fun _ =>
      ⟨rfl, ConnectionContext.opened_numbered true rfl, List.prefix_refl _, Nat.le_refl 0⟩
  rw [← reached] at always
  have inStep := always prompt
  refine ⟨inStep.order, inStep.stamped.counted, fun seq data unprocessed taken => ?_⟩
  apply (inStep.stamped.kept taken).resolve_left
  have := inStep.acked
  omega

end Stream

/-! ## Two payloads -/

namespace Delivered

open SlowClient (item)

open Resent (busy)

/-- Two payloads are sent.  The second arrives first and is passed over; then the first
arrives, twice, and is acknowledged. -/
def inputs : List StreamStep :=
  [.enqueue (item "a"), .enqueue (item "b"), .flush {}, .deliver 1, .deliver 3, .deliver 3, .ack 1]

/-- The second is still kept for the client. -/
theorem reliable_stream_delivered :
    (run (Stream.step {}) (Stream.initial {}) inputs).processed = ["a"] ∧
      ∃ p ∈ (run (Stream.step {}) (Stream.initial {}) inputs).ctx.reliable.buffer,
        p.seq = 2 ∧ p.bytes = stampEnvelopeSeq "b" 2 :=
  ⟨by decide, (Stream.reliable_stream {} inputs _ rfl (by decide)).2.2 1 "b" (by decide) (by decide)⟩

/-- **The client is ahead of the server.**  It has processed a payload that is still in the
outbox, without a number. -/
theorem client_is_ahead :
    ∃ s, s = run (Stream.step busy) (Stream.initial busy)
        [.enqueue (item "a"), .flush {}, .deliver 0] ∧
      s.processed = ["a"] ∧ s.ctx.takenReliable = [] ∧ s.ctx.outbox.q = [item "a"] ∧
      s.ctx.reliable.nextSeq = 0 :=
  ⟨_, rfl, by decide, by decide, by decide, by decide⟩

end Delivered

end Kergit
