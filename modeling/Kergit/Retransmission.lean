import Kergit.HighPriority

/-!
How often one thing is handed to a socket that takes it.

A socket that answers `BACKPRESSURE` has taken the frame, but `TextWSServer::send`
counts only `SUCCESS`: the item stays in the outbox, or the attempt off the record,
and is sent again.  Where no send is answered so, a plain payload is taken once, and
the transmissions of a numbered frame are the ones its record counts: `Paced` says
that the record of a frame that waits has the time of the last and the number of all.
-/

namespace Kergit

open Lib

/-- The plain payload an item carries. -/
def OutboundItem.plainData? (item : OutboundItem) : Option String :=
  match item.action with
  | .sendPayload send => if send.reliable then none else send.payload.data
  | .updateAuthState _ | .dropConnection _ => none

/-- The plain payload an event puts in the outbox. -/
def LineEvent.distributedPlain? : LineEvent → Option String
  | .distributed item => item.plainData?
  | .handled _ | .transmitted .. | .backpressured => none

/-- The plain payload an event makes the socket take. -/
def LineEvent.acceptedPlain? : LineEvent → Option String
  | .transmitted .plain frame status _ => if status.accepted then some frame.content else none
  | .transmitted .reliable _ _ _ | .transmitted .resend _ _ _ | .distributed _ | .handled _
  | .backpressured => none

/-- When an event makes the socket take the frame of this number. -/
def LineEvent.acceptedAt? (seq : Nat) : LineEvent → Option Nat
  | .transmitted .reliable frame status time | .transmitted .resend frame status time =>
    if frame.seq = seq ∧ status.accepted then some time else none
  | .transmitted .plain _ _ _ | .distributed _ | .handled _ | .backpressured => none

/-- The event is a send answered with `BACKPRESSURE`. -/
def LineEvent.isMistaken : LineEvent → Bool
  | .transmitted _ _ status _ => decide (status = .backpressure)
  | .distributed _ | .handled _ | .backpressured => false

namespace ConnectionContext

open LineEvent (acceptedAt? acceptedPlain? distributedPlain?)

open OutboundItem (plainData?)

variable {cfg : OutgoingWorkerConfig} {ctx ctx' : ConnectionContext} {item : OutboundItem}

section

variable (ctx : ConnectionContext)

/-- The plain payloads distributed to the connection, oldest first. -/
def distributedPlain : List String :=
  (ctx.log.filterMap distributedPlain?).reverse

/-- The ones its socket has taken. -/
def acceptedPlain : List String :=
  (ctx.log.filterMap acceptedPlain?).reverse

/-- When the socket took the frame of this number, newest first. -/
def acceptedTimes (seq : Nat) : List Nat :=
  ctx.log.filterMap (acceptedAt? seq)

/-- No send on the connection was answered with `BACKPRESSURE`. -/
def Answered : Prop := ∀ event ∈ ctx.log, event.isMistaken = false
deriving Decidable

end

theorem accepted_iff {status : SendStatus} (known : status ≠ .backpressure) :
    status.accepted = true ↔ status = .success := by
  cases status with
  | backpressure => exact absurd rfl known
  | success | dropped => simp [SendStatus.accepted]

/-! ## Plain payloads -/

/-- What the socket took and what waits are, in order, among what was distributed. -/
def TakenOnce (ctx : ConnectionContext) : Prop :=
  (ctx.acceptedPlain ++ ctx.outbox.q.filterMap plainData?).Sublist ctx.distributedPlain

/-- An event that concerns no plain payload. -/
theorem TakenOnce.of_queue (once : ctx.TakenOnce) (events : List LineEvent)
    (accepts : events.filterMap acceptedPlain? = [])
    (distributes : events.filterMap distributedPlain? = [])
    (log : ctx'.log = events ++ ctx.log)
    (queue : (ctx'.outbox.q.filterMap plainData?).Sublist
      (ctx.outbox.q.filterMap plainData?)) : ctx'.TakenOnce := by
  have accepted : ctx'.acceptedPlain = ctx.acceptedPlain := by
    rw [acceptedPlain, log, List.filterMap_append, accepts]
    rfl
  have distributed : ctx'.distributedPlain = ctx.distributedPlain := by
    rw [distributedPlain, log, List.filterMap_append, distributes]
    rfl
  rw [TakenOnce, accepted, distributed]
  exact (queue.append_left _).trans once

theorem withoutNewestLow_sublist (q : List OutboundItem) :
    (PerConnectionOutbox.withoutNewestLow q).Sublist q := by
  have kept := (List.eraseP_sublist (p := OutboundItem.isLow) (l := q.reverse)).reverse
  rw [List.reverse_reverse] at kept
  exact kept

/-- The outbox takes the item at its end, or takes nothing. -/
theorem enqueue_plain (ob : PerConnectionOutbox) (item : OutboundItem) :
    ((ob.enqueue item).q.filterMap plainData?).Sublist
      (ob.q.filterMap plainData? ++ item.plainData?.toList) := by
  have single : [item].filterMap plainData? = item.plainData?.toList := by
    cases is : item.plainData? <;> simp [is]
  unfold PerConnectionOutbox.enqueue
  split
  · rw [List.filterMap_append, single]
  · split
    · exact List.sublist_append_left _ _
    · split
      · rw [List.filterMap_append]
        exact ((withoutNewestLow_sublist ob.q).filterMap _).append_right _
      · split
        · exact List.nil_sublist _
        · exact List.sublist_append_left _ _

theorem TakenOnce.enqueue (once : ctx.TakenOnce) : (ctx.line cfg (.enqueue item)).TakenOnce := by
  have accepted : (ctx.line cfg (.enqueue item)).acceptedPlain = ctx.acceptedPlain := rfl
  have distributed : (ctx.line cfg (.enqueue item)).distributedPlain =
      ctx.distributedPlain ++ item.plainData?.toList := by
    rw [distributedPlain, distributedPlain, line]
    cases is : item.plainData? <;> simp [distributedPlain?, is]
  rw [TakenOnce, distributed]
  have waiting := (enqueue_plain ctx.outbox item).append_left ctx.acceptedPlain
  rw [← List.append_assoc] at waiting
  exact waiting.trans (once.append_right _)

/-- The front item leaves the outbox with what it made the socket take. -/
theorem TakenOnce.popped (once : ctx.TakenOnce)
    (front : ctx.outbox.q = item :: rest) (carries : item.plainData? = some data) :
    ((ctx.emit (.transmitted .plain ⟨0, data⟩ .success time)).pop item rest).TakenOnce := by
  rw [TakenOnce, front, List.filterMap_cons_some carries] at once
  have accepted : ((ctx.emit (.transmitted .plain ⟨0, data⟩ .success time)).pop item
      rest).acceptedPlain = ctx.acceptedPlain ++ [data] := by
    simp [acceptedPlain, pop, emit, List.filterMap_cons, acceptedPlain?, SendStatus.accepted]
  rw [TakenOnce, accepted, List.append_assoc]
  exact once

/-- **A turn of a flush makes the socket take a plain payload only with its item.** -/
theorem TakenOnce.pump (turn : Pump cfg ctx ctx') (answered : ctx'.Answered)
    (once : ctx.TakenOnce) : ctx'.TakenOnce := by
  have shorter {item : OutboundItem} {rest : List OutboundItem}
      (front : ctx.outbox.q = item :: rest) : (rest.filterMap plainData?).Sublist
        (ctx.outbox.q.filterMap plainData?) := by
    rw [front]
    exact (List.sublist_cons_self item rest).filterMap _
  cases turn with
  | skipped item rest send front is nothing =>
    exact once.of_queue [.handled item] rfl rfl rfl (shorter front)
  | sentPlain item rest send data status time front is bytes plain sent =>
    subst sent
    apply once.popped front
    simp [plainData?, is, plain, bytes]
  | sentReliable item rest send data status time front is bytes reliable valid sent =>
    exact once.of_queue [.handled item, .transmitted .reliable _ status time] rfl rfl rfl
      (shorter front)
  | failed item rest send data kind frame n time front is bytes frames refused =>
    have known : cfg.script.send kind n ≠ .backpressure :=
      of_decide_eq_false (answered _ List.mem_cons_self)
    have dropped : (cfg.script.send kind n).accepted = false := by
      rw [← Bool.not_eq_true, accepted_iff known]
      exact refused
    refine once.of_queue [.transmitted kind frame (cfg.script.send kind n) time] ?_ rfl rfl (.refl _)
    cases kind <;> simp [acceptedPlain?, dropped]
  | blocked item rest front =>
    exact once.of_queue [.backpressured] rfl rfl rfl (.refl _)
  | updated item rest update front is =>
    exact once.of_queue [.handled item] rfl rfl
      (congrArg (LineEvent.handled item :: ·) (applyAuth_log ctx update)) (shorter front)
  | dropped item rest drop front is =>
    exact once.of_queue [.handled item] rfl rfl rfl (List.nil_sublist _)

/-! ## Numbered frames -/

/-- Two transmissions of one frame, the later first, are the timeout apart. -/
def Apart (cfg : OutgoingWorkerConfig) (later earlier : Nat) : Prop :=
  earlier + cfg.retransmitTimeout ≤ later

/-- The records of the frames that wait say when and how often each was taken. -/
structure Paced (cfg : OutgoingWorkerConfig) (ctx : ConnectionContext) : Prop where
  stamped : ∀ p ∈ ctx.reliable.buffer, p.bytes.seq = p.seq
  unused : ∀ seq, ctx.reliable.nextSeq < seq → ctx.acceptedTimes seq = []
  recorded : ∀ p ∈ ctx.reliable.buffer, ∃ older, ctx.acceptedTimes p.seq = p.lastSentAt :: older ∧
    older.length + 1 = p.attempts
  spaced : ∀ seq, (ctx.acceptedTimes seq).Pairwise (Apart cfg)
  few : ∀ seq, (ctx.acceptedTimes seq).length ≤ cfg.maxRetransmits

/-- Events that make the socket take no numbered frame. -/
theorem Paced.of_quiet (paced : Paced cfg ctx) (events : List LineEvent)
    (quiet : ∀ seq, events.filterMap (acceptedAt? seq) = [])
    (log : ctx'.log = events ++ ctx.log) (nextSeq : ctx'.reliable.nextSeq = ctx.reliable.nextSeq)
    (buffer : ∀ p ∈ ctx'.reliable.buffer, p ∈ ctx.reliable.buffer) : Paced cfg ctx' := by
  have times : ∀ seq, ctx'.acceptedTimes seq = ctx.acceptedTimes seq := by
    intro seq
    rw [acceptedTimes, log, List.filterMap_append, quiet]
    rfl
  constructor
  · exact fun p listed => paced.stamped p (buffer p listed)
  · intro seq unused
    rw [times]
    exact paced.unused seq (nextSeq ▸ unused)
  · intro p listed
    rw [times]
    exact paced.recorded p (buffer p listed)
  · intro seq
    rw [times]
    exact paced.spaced seq
  · intro seq
    rw [times]
    exact paced.few seq

/-- A number that has been used is not new. -/
theorem seq_le_nextSeq {r : ReliableOutbound} (listed : p ∈ r.buffer) : p.seq ≤ r.nextSeq := by
  have member : p.seq ∈ r.buffer.map Pending.seq := List.mem_map_of_mem listed
  rw [r.contiguous, window, List.mem_range'_1] at member
  have := r.assigned
  omega

/-- The first transmission of a frame. -/
theorem Paced.record (paced : Paced cfg ctx) (allowed : 1 ≤ cfg.maxRetransmits) {data : String} :
    Paced cfg (ctx.recorded item rest data time) := by
  generalize after : ctx.recorded item rest data time = ctx'
  have times : ∀ seq, ctx'.acceptedTimes seq =
      if ctx.reliable.nextSeq + 1 = seq then [time] else ctx.acceptedTimes seq := by
    intro seq
    rw [← after]
    by_cases mine : ctx.reliable.nextSeq + 1 = seq
    · subst mine
      rw [← paced.unused _ (Nat.lt_succ_self ctx.reliable.nextSeq)]
      simp [acceptedTimes, ConnectionContext.recorded, pop, emit, List.filterMap_cons,
        acceptedAt?, stampEnvelopeSeq, SendStatus.accepted]
    · simp [acceptedTimes, ConnectionContext.recorded, pop, emit, List.filterMap_cons,
        acceptedAt?, stampEnvelopeSeq, mine]
  have old : ∀ seq, seq ≤ ctx.reliable.nextSeq → ctx'.acceptedTimes seq = ctx.acceptedTimes seq :=
    fun seq used => (times seq).trans (if_neg (Nat.ne_of_gt (Nat.lt_succ_of_le used)))
  have new : ctx'.acceptedTimes (ctx.reliable.nextSeq + 1) = [time] := (times _).trans (if_pos rfl)
  constructor
  · intro p listed
    rw [← after] at listed
    rcases List.mem_append.mp listed with before | last
    · exact paced.stamped p before
    · obtain rfl := List.mem_singleton.mp last
      rfl
  · intro seq unused
    have unused : ctx.reliable.nextSeq + 1 < seq := by
      rw [← after] at unused
      exact unused
    rw [times, if_neg (Nat.ne_of_lt unused)]
    exact paced.unused seq (Nat.lt_of_succ_lt unused)
  · intro p listed
    rw [← after] at listed
    rcases List.mem_append.mp listed with before | last
    · rw [old _ (seq_le_nextSeq before)]
      exact paced.recorded p before
    · obtain rfl := List.mem_singleton.mp last
      exact ⟨[], new, rfl⟩
  · intro seq
    rw [times]
    split
    · exact List.pairwise_singleton _ _
    · exact paced.spaced seq
  · intro seq
    rw [times]
    split
    · exact allowed
    · exact paced.few seq

/-- An event that uses no number is none of a numbered frame being taken. -/
theorem acceptedAt?_unnumbered {event : LineEvent}
    (unnumbered : event.Unnumbered valid) (known : event.isMistaken = false) :
    event.acceptedAt? seq = none := by
  cases event with
  | transmitted kind frame status time =>
    cases kind with
    | plain => rfl
    | reliable =>
      have dropped : ¬ status.accepted = true := by
        rw [accepted_iff (of_decide_eq_false known)]
        exact unnumbered
      simp [acceptedAt?, dropped]
    | resend => exact unnumbered.elim
  | distributed | handled | backpressured => rfl

/-- **A turn of a flush keeps the pace.** -/
theorem Paced.pump (turn : Pump cfg ctx ctx') (allowed : 1 ≤ cfg.maxRetransmits)
    (answered : ctx'.Answered) (paced : Paced cfg ctx) : Paced cfg ctx' := by
  rcases pump_numbers turn with ⟨item, rest, data, time, -, rfl⟩ | ⟨events, log, same, quiet⟩
  · exact paced.record allowed
  · refine paced.of_quiet events (fun seq => ?_) log (by rw [same]) (by simp [same])
    apply List.filterMap_eq_nil_iff.mpr
    intro event listed
    apply acceptedAt?_unnumbered (quiet event listed)
    apply answered
    rw [log]
    exact List.mem_append_left _ listed

/-- A buffer holds a number once. -/
theorem seq_ne_of_mem {r : ReliableOutbound}
    (listed : r.buffer = before ++ p :: after) (member : q ∈ before ++ after) : q.seq ≠ p.seq := by
  have distinct : (r.buffer.map Pending.seq).Nodup := by
    rw [r.contiguous]
    exact List.nodup_range'
  rw [listed, List.map_append, List.map_cons, List.nodup_middle, ← List.map_append] at distinct
  intro same
  exact (List.nodup_cons.mp distinct).1 (same ▸ List.mem_map_of_mem member)

/-- A further transmission of a frame that waits. -/
theorem Paced.resent (paced : Paced cfg ctx) {before after : List Pending}
    (listed : ctx.reliable.buffer = before ++ p :: after)
    (overdue : p.lastSentAt + cfg.retransmitTimeout ≤ now) (allowed : p.attempts < cfg.maxRetransmits)
    (log : ctx'.log = .transmitted .resend p.bytes .success now :: ctx.log)
    (nextSeq : ctx'.reliable.nextSeq = ctx.reliable.nextSeq)
    (buffer : ctx'.reliable.buffer = before ++ p.retried .success now :: after) : Paced cfg ctx' := by
  have mine : p ∈ ctx.reliable.buffer := by
    rw [listed]
    exact List.mem_append_right _ List.mem_cons_self
  obtain ⟨older, recorded, count⟩ := paced.recorded p mine
  have number := paced.stamped p mine
  have times : ∀ seq, ctx'.acceptedTimes seq =
      if p.seq = seq then now :: ctx.acceptedTimes seq else ctx.acceptedTimes seq := by
    intro seq
    rw [acceptedTimes, log, List.filterMap_cons, acceptedAt?, number]
    by_cases same : p.seq = seq <;> simp [same, SendStatus.accepted, acceptedTimes]
  -- Every entry of the new buffer is the one resent or one that was there with another number.
  have others : ∀ q ∈ ctx'.reliable.buffer, q = p.retried .success now ∨
      (q ∈ ctx.reliable.buffer ∧ q.seq ≠ p.seq) := by
    grind [seq_ne_of_mem]
  constructor
  · intro q member
    rcases others q member with rfl | ⟨old, -⟩
    · exact number
    · exact paced.stamped q old
  · intro seq unused
    rw [nextSeq] at unused
    rw [times, if_neg (Nat.ne_of_lt (Nat.lt_of_le_of_lt (seq_le_nextSeq mine) unused))]
    exact paced.unused seq unused
  · intro q member
    rcases others q member with rfl | ⟨old, different⟩
    · refine ⟨p.lastSentAt :: older, ?_, ?_⟩
      · rw [Pending.retried_seq, times, if_pos rfl, recorded]
        rfl
      · rw [List.length_cons, count]
        rfl
    · rw [times, if_neg different.symm]
      exact paced.recorded q old
  · intro seq
    rw [times]
    split
    · rename_i same
      subst same
      have spaced := paced.spaced p.seq
      rw [recorded] at spaced ⊢
      refine List.pairwise_cons.mpr ⟨fun earlier member => ?_, spaced⟩
      rcases List.mem_cons.mp member with rfl | member
      · exact overdue
      · have before := (List.pairwise_cons.mp spaced).1 earlier member
        exact Nat.le_trans before (Nat.le_of_add_right_le overdue)
    · exact paced.spaced seq
  · intro seq
    rw [times]
    split
    · grind
    · exact paced.few seq

/-- **A retry of a sweep keeps the pace**: it comes only when the last transmission is
the timeout ago, and only so often. -/
theorem Paced.retry {log : List LineEvent}
    (retry : Retry cfg now (ctx.reliable.buffer, ctx.log) (buffer, log))
    (answered : (ctx.withFrames buffer log same).Answered) (paced : Paced cfg ctx) :
    Paced cfg (ctx.withFrames buffer log same) := by
  obtain ⟨before, p, after, status, listed, rfl, rfl, overdue, allowed, -⟩ := retry.parts
  have known : status ≠ .backpressure := of_decide_eq_false (answered _ List.mem_cons_self)
  cases status with
  | backpressure => exact absurd rfl known
  | dropped =>
    refine paced.of_quiet [.transmitted .resend p.bytes .dropped now] ?_ rfl rfl ?_
    · simp [acceptedAt?, SendStatus.accepted]
    · intro q member
      rw [listed]
      exact member
  | success => exact paced.resent listed overdue allowed rfl rfl rfl

/-! ## Every call -/

/-- If no send was answered with `BACKPRESSURE`, nothing was sent too often. -/
def Sparing (cfg : OutgoingWorkerConfig) (ctx : ConnectionContext) : Prop :=
  ctx.Answered → ctx.TakenOnce ∧ Paced cfg ctx

theorem Answered.before (answered : ctx'.Answered) (log : ctx.log <:+ ctx'.log) : ctx.Answered :=
  fun event listed => answered event (log.subset listed)

theorem line_sparing (allowed : 1 ≤ cfg.maxRetransmits) (action : LineAction)
    (sparing : Sparing cfg ctx) : Sparing cfg (ctx.line cfg action) := by
  apply line_keeps cfg (Sparing cfg) sparing
  · intro _ _ turn sparing answered
    obtain ⟨once, paced⟩ := sparing (answered.before (pump_log turn))
    exact ⟨once.pump turn answered, paced.pump turn allowed answered⟩
  · intro now ctx buffer log same retry sparing answered
    obtain ⟨-, p, -, status, -, -, rfl, -⟩ := retry.parts
    obtain ⟨once, paced⟩ := sparing (answered.before (List.suffix_cons _ _))
    refine ⟨?_, paced.retry retry answered⟩
    exact once.of_queue [.transmitted .resend p.bytes status now] rfl rfl rfl (.refl _)
  · intro item _ answered
    obtain ⟨once, paced⟩ := sparing (answered.before (List.suffix_cons _ _))
    exact ⟨once.enqueue,
      paced.of_quiet [.distributed item] (fun _ => rfl) rfl rfl (fun _ listed => listed)⟩
  · intro seq _ answered
    obtain ⟨once, paced⟩ := sparing answered
    exact ⟨once, paced.of_quiet [] (fun _ => rfl) rfl rfl
      (fun _ listed => (List.dropWhile_sublist _).subset listed)⟩

end ConnectionContext

namespace WorkerState

/-- **Nothing is sent too often**, on a connection whose sends were never answered with
`BACKPRESSURE`, in any run.  The plain payloads its socket took are among those
distributed to it, in order, each at most once; and the times at which it took the
frame of one number are at least the timeout apart and at most `maxRetransmits` many. -/
theorem no_spurious_retransmission (cfg : OutgoingWorkerConfig) (allowed : 1 ≤ cfg.maxRetransmits)
    (steps : List OutboundStep) (conn : ConnId) (ctx : ConnectionContext)
    (known : (run (act cfg) {} steps).Known conn ctx) (answered : ctx.Answered) :
    ctx.acceptedPlain.Sublist ctx.distributedPlain ∧
      ∀ seq,
        (ctx.acceptedTimes seq).Pairwise
          (fun later earlier => earlier + cfg.retransmitTimeout ≤ later) ∧
        (ctx.acceptedTimes seq).length ≤ cfg.maxRetransmits := by
  obtain ⟨once, paced⟩ := known.invariant
    (fun _ _ => ⟨List.Sublist.refl _, nofun, fun _ _ => rfl, nofun, fun _ => List.Pairwise.nil,
      fun _ => Nat.zero_le _⟩)
    (fun _ action sparing => ConnectionContext.line_sparing allowed action sparing) answered
  refine ⟨(List.sublist_append_left _ _).trans once, fun seq => ⟨paced.spaced seq, paced.few seq⟩⟩

end WorkerState

/-! ## A slow network -/

namespace Resent

open SlowClient (conn item)

/-- A reliable payload is sent, and twice more while its ack does not come. -/
def steps : List OutboundStep :=
  [.attach conn true, .distribute conn (item "a"), .flush conn, .sweep, .sweep]

/-- A second passes between any two readings of the clock. -/
def cfg : OutgoingWorkerConfig := { script := { now := fun n => 1000 * n } }

def sent : Option ConnectionContext := (run (WorkerState.act cfg) {} steps).conns.lookup conn

theorem sent_found : sent.isSome = true := by decide

theorem no_spurious_retransmission_resent :
    (sent.get sent_found).acceptedTimes 1 = [2000, 1000, 0] ∧
      ((sent.get sent_found).acceptedTimes 1).Pairwise (fun later earlier => earlier + 500 ≤ later) ∧
      ((sent.get sent_found).acceptedTimes 1).length ≤ 8 :=
  ⟨by decide, (WorkerState.no_spurious_retransmission cfg (by decide) steps conn _
    (.inl (Option.some_get sent_found).symm) (by decide)).2 1⟩

/-- The socket takes the first frame it is handed, and says that it is backed up. -/
def busy : OutgoingWorkerConfig :=
  { script := { send := fun _ n => if n = 1 then .backpressure else .success } }

/-- A plain payload is distributed once, and the outbox flushed twice. -/
def plain : List OutboundStep :=
  [.attach conn true, .distribute conn ⟨.low, .sendPayload ⟨⟨some "a", true⟩, false⟩⟩, .flush conn,
    .flush conn]

/-- **One item is taken twice.** -/
theorem backpressured_item_is_sent_twice :
    ∃ ctx, (run (WorkerState.act busy) {} plain).conns.lookup conn = some ctx ∧
      ctx.distributedPlain = ["a"] ∧ ctx.acceptedPlain = ["a", "a"] :=
  ⟨_, rfl, by decide, by decide⟩

end Resent

end Kergit
