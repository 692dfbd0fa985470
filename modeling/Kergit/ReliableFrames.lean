import Kergit.OutboundLines

/-!
The numbers of reliable payloads.

`takenReliable` is the reliable payloads that have left the outbox, in order.  The
`i`-th of them is number `i + 1`, and `Stamped` says that the connection's counter, its
retransmit buffer and everything it has handed to the socket agree on that.  It holds
of every connection with a live handle, whatever the script answers (`line_numbered`).
-/

namespace Kergit

open Lib

/-- The reliable payload an item carries. -/
def OutboundItem.reliableData? (item : OutboundItem) : Option String :=
  match item.action with
  | .sendPayload send => if send.reliable then send.payload.data else none
  | .updateAuthState _ | .dropConnection _ => none

/-- The reliable payload an event takes from the outbox. -/
def LineEvent.taken? : LineEvent → Option String
  | .handled item => item.reliableData?
  | .distributed _ | .transmitted .. | .backpressured => none

/-- The numbered frame an event puts on the wire for good: one that was taken from the
outbox with it, or one sent again. -/
def LineEvent.numbered? : LineEvent → Option Frame
  | .transmitted .reliable frame .success _ | .transmitted .resend frame _ _ => some frame
  | .transmitted .plain frame _ _ => if frame.seq = 0 then none else some frame
  | .transmitted .reliable _ _ _ | .distributed _ | .handled _ | .backpressured => none

/-- An event on a connection that uses no number. -/
def LineEvent.Unnumbered (handleValid : Bool) : LineEvent → Prop
  | .handled item => handleValid = true → item.reliableData? = none
  | .transmitted .plain frame _ _ => frame.seq = 0
  | .transmitted .reliable _ status _ => status ≠ .success
  | .transmitted .resend _ _ _ => False
  | .distributed _ | .backpressured => True

theorem LineEvent.Unnumbered.quiet {event : LineEvent} (unnumbered : event.Unnumbered true) :
    event.taken? = none ∧ event.numbered? = none := by
  cases event with
  | handled item => exact ⟨unnumbered rfl, rfl⟩
  | transmitted kind frame status time =>
    cases kind with
    | plain => exact ⟨rfl, if_pos unnumbered⟩
    | reliable =>
      cases status with
      | success => exact absurd rfl unnumbered
      | backpressure | dropped => exact ⟨rfl, rfl⟩
    | resend => exact unnumbered.elim
  | distributed | backpressured => exact ⟨rfl, rfl⟩

namespace ConnectionContext

/-- The reliable payloads that have left the outbox, oldest first. -/
def takenReliable (ctx : ConnectionContext) : List String := (ctx.log.filterMap LineEvent.taken?).reverse

/-- The frame is the one its number belongs to. -/
def Assigned (ctx : ConnectionContext) (frame : Frame) : Prop :=
  0 < frame.seq ∧ ctx.takenReliable[frame.seq - 1]? = some frame.content

/-- Counter, buffer and socket agree on the numbers of the payloads taken. -/
structure Stamped (ctx : ConnectionContext) : Prop where
  counted : ctx.reliable.nextSeq = ctx.takenReliable.length
  buffered : ∀ p ∈ ctx.reliable.buffer, p.bytes.seq = p.seq ∧ ctx.Assigned p.bytes
  wired : ∀ event ∈ ctx.log, ∀ frame, event.numbered? = some frame → ctx.Assigned frame
  /-- Every payload taken was sent. -/
  sent : ∀ seq data, ctx.takenReliable[seq]? = some data → ∃ time,
    .transmitted .reliable (stampEnvelopeSeq data (seq + 1)) .success time ∈ ctx.log

variable {cfg : OutgoingWorkerConfig} {ctx ctx' : ConnectionContext} {item : OutboundItem}
  {frame : Frame} {event : LineEvent}

theorem Assigned.mono (assigned : ctx.Assigned frame)
    (taken : ctx'.takenReliable = ctx.takenReliable ++ later) : ctx'.Assigned frame := by
  refine ⟨assigned.1, ?_⟩
  obtain ⟨within, _⟩ := List.getElem?_eq_some_iff.mp assigned.2
  rw [taken, List.getElem?_append_left within]
  exact assigned.2

/-- A payload taken waits under its number until that is acknowledged. -/
theorem Stamped.kept (stamped : ctx.Stamped) {data : String}
    (taken : ctx.takenReliable[seq]? = some data) : seq + 1 ≤ ctx.reliable.ackedSeq ∨
      ∃ p ∈ ctx.reliable.buffer, p.seq = seq + 1 ∧ p.bytes = stampEnvelopeSeq data (seq + 1) := by
  obtain ⟨within, -⟩ := List.getElem?_eq_some_iff.mp taken
  rw [← stamped.counted] at within
  rcases ctx.reliable.retained within with acked | ⟨p, listed, number⟩
  · exact .inl acked
  · obtain ⟨same, -, assigned⟩ := stamped.buffered p listed
    have number : p.seq = seq + 1 := number
    rw [same, number, Nat.add_sub_cancel, taken] at assigned
    obtain rfl := Option.some.inj assigned
    refine .inr ⟨p, listed, number, ?_⟩
    rw [stampEnvelopeSeq, ← number, ← same]

/-- A change that takes nothing and sends nothing new. -/
theorem Stamped.of_same (stamped : ctx.Stamped) (taken : ctx'.takenReliable = ctx.takenReliable)
    (nextSeq : ctx'.reliable.nextSeq = ctx.reliable.nextSeq)
    (buffer : ∀ p ∈ ctx'.reliable.buffer, ∃ p' ∈ ctx.reliable.buffer,
      p'.seq = p.seq ∧ p'.bytes = p.bytes)
    (kept : ∀ event ∈ ctx.log, event ∈ ctx'.log)
    (wired : ∀ event ∈ ctx'.log, ∀ frame, event.numbered? = some frame → ctx.Assigned frame) :
    ctx'.Stamped where
  counted := by rw [nextSeq, taken, stamped.counted]
  buffered := by
    intro p listed
    obtain ⟨p', listed', seq, bytes⟩ := buffer p listed
    obtain ⟨number, assigned⟩ := stamped.buffered p' listed'
    rw [← seq, ← bytes]
    exact ⟨number, assigned.mono (taken.trans (List.append_nil _).symm)⟩
  wired := fun event listed frame is =>
    (wired event listed frame is).mono (taken.trans (List.append_nil _).symm)
  sent := by
    intro seq data found
    rw [taken] at found
    obtain ⟨time, listed⟩ := stamped.sent seq data found
    exact ⟨time, kept _ listed⟩

/-- Events that use no number. -/
theorem Stamped.of_quiet (stamped : ctx.Stamped) (events : List LineEvent)
    (quiet : ∀ event ∈ events, event.Unnumbered true)
    (log : ctx'.log = events ++ ctx.log) (nextSeq : ctx'.reliable.nextSeq = ctx.reliable.nextSeq)
    (buffer : ∀ p ∈ ctx'.reliable.buffer, p ∈ ctx.reliable.buffer) : ctx'.Stamped := by
  have untaken : events.filterMap LineEvent.taken? = [] :=
    List.filterMap_eq_nil_iff.mpr fun event listed => (quiet event listed).quiet.1
  apply stamped.of_same _ nextSeq
  · exact fun p listed => ⟨p, buffer p listed, rfl, rfl⟩
  · intro event listed
    rw [log]
    exact List.mem_append_right _ listed
  · intro event listed frame is
    rw [log] at listed
    rcases List.mem_append.mp listed with new | old
    · exact absurd is (by simp [(quiet event new).quiet])
    · exact stamped.wired event old frame is
  · rw [takenReliable, log, List.filterMap_append, untaken]
    rfl

/-- The item's payload is sent under the next number, and taken. -/
def recorded (ctx : ConnectionContext) (item : OutboundItem) (rest : List OutboundItem)
    (data : String) (time : Nat) : ConnectionContext :=
  pop
    { ctx.emit (.transmitted .reliable (stampEnvelopeSeq data (ctx.reliable.nextSeq + 1)) .success
        time) with
      reliable := ctx.reliable.record (stampEnvelopeSeq data (ctx.reliable.nextSeq + 1)) time }
    item rest

/-- A reliable payload that was sent takes the next number. -/
theorem Stamped.record (stamped : ctx.Stamped) (carries : item.reliableData? = some data) :
    (ctx.recorded item rest data time).Stamped := by
  generalize after : ctx.recorded item rest data time = ctx'
  have log : ctx'.log = .handled item ::
      .transmitted .reliable (stampEnvelopeSeq data (ctx.reliable.nextSeq + 1)) .success time ::
        ctx.log := by rw [← after]; rfl
  have taken : ctx'.takenReliable = ctx.takenReliable ++ [data] := by
    simp [takenReliable, log, List.filterMap_cons, LineEvent.taken?, carries]
  have assigned : ctx'.Assigned (stampEnvelopeSeq data (ctx.reliable.nextSeq + 1)) := by
    refine ⟨Nat.succ_pos _, ?_⟩
    rw [taken, stampEnvelopeSeq, stamped.counted]
    exact List.getElem?_concat_length
  constructor
  · rw [taken, List.length_append, ← stamped.counted, ← after]
    rfl
  · intro p listed
    rw [← after] at listed
    rcases List.mem_append.mp listed with old | new
    · obtain ⟨number, before⟩ := stamped.buffered p old
      exact ⟨number, before.mono taken⟩
    · obtain rfl := List.mem_singleton.mp new
      exact ⟨rfl, assigned⟩
  · intro event listed frame is
    rw [log] at listed
    rcases List.mem_cons.mp listed with rfl | listed
    · exact absurd is (by simp [LineEvent.numbered?])
    · rcases List.mem_cons.mp listed with rfl | old
      · obtain rfl := Option.some.inj is
        exact assigned
      · exact (stamped.wired event old frame is).mono taken
  · intro seq content found
    rw [log]
    by_cases old : seq < ctx.takenReliable.length
    · rw [taken, List.getElem?_append_left old] at found
      obtain ⟨sentAt, listed⟩ := stamped.sent seq content found
      exact ⟨sentAt, List.mem_cons_of_mem _ (List.mem_cons_of_mem _ listed)⟩
    · obtain ⟨within, rfl⟩ := List.getElem?_eq_some_iff.mp found
      have last : seq = ctx.takenReliable.length := by
        rw [taken, List.length_append] at within
        exact Nat.le_antisymm (Nat.le_of_lt_succ within) (Nat.le_of_not_lt old)
      subst last
      simp [taken, stamped.counted]

/-- A turn of a flush records a payload, or uses no number. -/
theorem pump_numbers (turn : Pump cfg ctx ctx') :
    (∃ item rest data time, item.reliableData? = some data ∧ ctx' = ctx.recorded item rest data time) ∨
      ∃ events, ctx'.log = events ++ ctx.log ∧ ctx'.reliable = ctx.reliable ∧
        ∀ event ∈ events, event.Unnumbered ctx.handleValid := by
  cases turn with
  | sentReliable item rest send data status time front is bytes reliable valid sent =>
    subst sent
    exact .inl ⟨item, rest, data, time,
      by simp [OutboundItem.reliableData?, is, reliable, bytes], rfl⟩
  | skipped item rest send front is nothing =>
    refine .inr ⟨[.handled item], rfl, rfl, List.forall_mem_singleton.mpr fun valid => ?_⟩
    have nothing : send.payload.data = none := nothing.resolve_right (by simp [valid])
    simp [OutboundItem.reliableData?, is, nothing]
  | sentPlain item rest send data status time front is bytes plain sent =>
    refine .inr ⟨[.handled item, .transmitted .plain ⟨0, data⟩ status time], rfl, rfl, ?_⟩
    simp [LineEvent.Unnumbered, OutboundItem.reliableData?, is, plain]
  | failed item rest send data kind frame n time front is bytes frames refused =>
    refine .inr ⟨[.transmitted kind frame (cfg.script.send kind n) time], rfl, rfl,
      List.forall_mem_singleton.mpr ?_⟩
    split at frames
    · obtain ⟨rfl, -⟩ := Prod.mk.inj frames
      exact refused
    · obtain ⟨rfl, rfl⟩ := Prod.mk.inj frames
      rfl
  | blocked item rest front =>
    exact .inr ⟨[.backpressured], rfl, rfl, List.forall_mem_singleton.mpr trivial⟩
  | updated item rest update front is =>
    refine .inr ⟨[.handled item], by simp [pop], by simp [pop], ?_⟩
    simp [LineEvent.Unnumbered, OutboundItem.reliableData?, is]
  | dropped item rest drop front is =>
    refine .inr ⟨[.handled item], rfl, rfl, ?_⟩
    simp [LineEvent.Unnumbered, OutboundItem.reliableData?, is]

/-- **A turn of a flush keeps the numbers.** -/
theorem Stamped.pump (turn : Pump cfg ctx ctx') (valid : ctx.handleValid = true)
    (stamped : ctx.Stamped) : ctx'.Stamped := by
  rcases pump_numbers turn with ⟨item, rest, data, time, carries, rfl⟩ | ⟨events, log, same, quiet⟩
  · exact stamped.record carries
  · rw [valid] at quiet
    exact stamped.of_quiet events quiet log (by rw [same]) (by simp [same])

/-- **A retry of a sweep keeps the numbers.** -/
theorem Stamped.retry {log : List LineEvent}
    (retry : Retry cfg now (ctx.reliable.buffer, ctx.log) (buffer, log)) (stamped : ctx.Stamped) :
    (ctx.withFrames buffer log same).Stamped := by
  obtain ⟨before, p, after, status, listed, rfl, rfl, -⟩ := retry.parts
  have mine : p ∈ ctx.reliable.buffer := by
    rw [listed]
    exact List.mem_append_right _ List.mem_cons_self
  refine stamped.of_same rfl rfl ?_ ?_ ?_
  · intro q member
    rcases List.mem_append.mp member with earlier | member
    · exact ⟨q, listed ▸ List.mem_append_left _ earlier, rfl, rfl⟩
    · rcases List.mem_cons.mp member with rfl | later
      · exact ⟨p, mine, by simp, by simp⟩
      · exact ⟨q, listed ▸ List.mem_append_right _ (List.mem_cons_of_mem _ later), rfl, rfl⟩
  · exact fun event member => List.mem_cons_of_mem _ member
  · intro event member frame is
    rcases List.mem_cons.mp member with rfl | old
    · obtain rfl := Option.some.inj is
      exact (stamped.buffered p mine).2
    · exact stamped.wired event old frame is

/-- The numbers of a connection whose handle is live. -/
def Numbered (ctx : ConnectionContext) : Prop := ctx.handleValid = true → ctx.Stamped

theorem opened_numbered (handleValid : Bool) : (opened cfg handleValid).Numbered :=
  fun _ => ⟨rfl, nofun,
    nofun,
    fun _ _ found => absurd found (by simp [opened, takenReliable])⟩

/-- **Every call keeps the numbers.** -/
theorem line_numbered (cfg : OutgoingWorkerConfig) (action : LineAction) (numbered : ctx.Numbered) :
    (ctx.line cfg action).Numbered := by
  intro valid
  rw [line_handleValid] at valid
  have stamped := numbered valid
  refine (line_keeps cfg (fun ctx => ctx.handleValid = true ∧ ctx.Stamped) ⟨valid, stamped⟩
    ?_ ?_ ?_ ?_).2
  · exact fun _ _ turn kept => ⟨(pump_handleValid turn).trans kept.1, kept.2.pump turn kept.1⟩
  · exact fun _ _ _ _ _ retry kept => ⟨kept.1, kept.2.retry retry⟩
  · exact fun item _ => ⟨valid, stamped.of_quiet [.distributed item]
      (List.forall_mem_singleton.mpr trivial) rfl rfl (fun _ listed => listed)⟩
  · exact fun seq _ => ⟨valid, stamped.of_quiet [] (by simp) rfl rfl
      (fun _ listed => (List.dropWhile_sublist _).subset listed)⟩

end ConnectionContext

namespace WorkerState

/-- **A number stands for one payload.**  In every run, on every live handle, whatever the socket
answers: a numbered frame, sent for good, sent again or kept for that, is the payload its number
was given to, and every payload taken was sent. -/
theorem numbers_agree (cfg : OutgoingWorkerConfig) (steps : List OutboundStep) :
    Everywhere ConnectionContext.Numbered (run (act cfg) {} steps) := by
  apply run_invariant _ everywhere_empty
  intro w step all
  exact act_everywhere (fun _ _ _ => True) (fun _ _ _ => trivial) (fun _ _ _ _ => trivial)
    ⟨fun _ _ _ _ _ => trivial, fun _ _ _ _ _ => trivial⟩ ConnectionContext.opened_numbered
    (fun _ _ action _ => ConnectionContext.line_numbered cfg action) all

end WorkerState

end Kergit
