import Kergit.HighPriority

/-!
Which outboxes a tick flushes.

A tick flushes the connections its own drain has put something in, and no others: what
an earlier tick left behind waits until the connection is addressed again.  `Settled`
is what a flush leaves: an empty outbox, or a send that failed, or a socket found
backed up.  `tick_settles_leftovers` is that a tick within its time leaves every
connection settled if it drains a message for every connection with leftovers.

The phases of a tick are followed for one connection: the drain (`drainQueue_spread`),
the flushes (`flushAll_settles`) and the sweep (`sweep_settled`).
-/

namespace Kergit

open Lib

/-- The event is a send of the sweep. -/
def LineEvent.isResend : LineEvent → Bool
  | .transmitted .resend _ _ _ => true
  | .transmitted .plain _ _ _ | .transmitted .reliable _ _ _ | .distributed _ | .handled _
  | .backpressured => false

theorem LineEvent.stops_cases {event : LineEvent} (stops : event.stops = true) :
    event = .backpressured ∨ ∃ kind frame status time,
      event = .transmitted kind frame status time ∧ kind ≠ .resend ∧ status ≠ .success := by
  cases event with
  | backpressured => exact .inl rfl
  | distributed item | handled item => exact absurd stops (by simp [LineEvent.stops])
  | transmitted kind frame status time =>
    right
    cases kind with
    | plain => exact ⟨.plain, frame, status, time, rfl, by simp, of_decide_eq_true stops⟩
    | reliable => exact ⟨.reliable, frame, status, time, rfl, by simp, of_decide_eq_true stops⟩
    | resend => exact absurd stops (by simp [LineEvent.stops])

namespace ConnectionContext

variable {cfg : OutgoingWorkerConfig} {ctx ctx' : ConnectionContext} {base : List LineEvent}

/-- Since `base` the outbox was emptied, or its last event but for resends stopped a
flush. -/
def Settled (base : List LineEvent) (ctx : ConnectionContext) : Prop :=
  ctx.outbox.q = [] ∨ ∃ resends last older, ctx.log = resends ++ last :: older ++ base ∧
    (∀ event ∈ resends, event.isResend = true) ∧ last.stops = true

/-- **A flush settles the outbox.** -/
theorem flushQueue_settles (q : List OutboundItem) (f : Flushing) (since : base <:+ f.ctx.log) :
    Settled base (flushQueue cfg q f).2.ctx := by
  induction q generalizing f with
  | nil => exact .inl rfl
  | cons item rest ih =>
    unfold flushQueue
    cases is : item.action with
    | sendPayload send =>
      dsimp only
      rcases sendPayload_pumps f item rest send is with ⟨done, turns⟩ | ⟨left, -, event, log, stops⟩
      · rw [if_pos done]
        have grown := pumps_log turns
        exact ih _ (since.trans grown)
      · rw [if_neg (by simp [left])]
        obtain ⟨older, since⟩ := since
        right
        refine ⟨[], event, older, ?_, by simp, stops⟩
        rw [List.nil_append, List.cons_append, since]
        exact log
    | updateAuthState update =>
      apply ih
      apply since.trans
      exact (applyAuth_log f.ctx update) ▸ List.suffix_cons _ _
    | dropConnection drop => exact .inl rfl

/-- **A sweep leaves the outbox settled.** -/
theorem sweep_settled (now : Nat) (io : Io) (settled : Settled base ctx) :
    Settled base (ctx.line cfg (.sweep now io)) := by
  apply sweep_keeps cfg (Settled base) _ now io ctx settled
  intro now ctx buffer log same retry settled
  obtain ⟨-, p, -, status, -, -, rfl, -⟩ := retry.parts
  rcases settled with empty | ⟨resends, last, older, log, resent, stops⟩
  · exact .inl empty
  · right
    refine ⟨.transmitted .resend p.bytes status now :: resends, last, older, ?_, ?_, stops⟩
    · exact congrArg (LineEvent.transmitted .resend p.bytes status now :: ·) log
    · rintro event (_ | ⟨_, listed⟩)
      · rfl
      · exact resent event listed

end ConnectionContext

/-! ## One connection through a tick -/

namespace WorkerState

variable {cfg : OutgoingWorkerConfig} {w w' : WorkerState} {conn other : ConnId}
  {base : List LineEvent}

/-- A flush of another connection leaves this one alone. -/
theorem lookup_flush_of_ne (different : conn ≠ other) :
    (w.flushConnectionOutbox cfg other).conns.lookup conn = w.conns.lookup conn := by
  unfold flushConnectionOutbox
  cases w.conns.lookup other with
  | none => rfl
  | some ctx =>
    have kept : (w.conns.insert other (ctx.flush cfg w.io).2.ctx).lookup conn =
        w.conns.lookup conn := by
      rw [Map.lookup_insert_if, if_neg different]
    dsimp only
    split
    · unfold endIf
      split
      · unfold detach
        grind
      · exact kept
    · exact kept

/-- After its own flush the connection is gone or flushed. -/
theorem lookup_flush_self
    (found : (w.flushConnectionOutbox cfg conn).conns.lookup conn = some ctx') :
    ∃ ctx, w.conns.lookup conn = some ctx ∧ ctx' = ctx.line cfg (.flush w.io) := by
  unfold flushConnectionOutbox at found
  cases before : w.conns.lookup conn with
  | none => exact absurd found (by simp [before])
  | some ctx =>
    have flushed : (w.conns.insert conn (ctx.flush cfg w.io).2.ctx).lookup conn =
        some (ctx.line cfg (.flush w.io)) := by
      rw [Map.lookup_insert_if, if_pos rfl]
      rfl
    simp only [before] at found
    split at found
    · unfold endIf at found
      grind [detach]
    · exact ⟨ctx, rfl, Option.some.inj (found.symm.trans flushed)⟩

theorem lookup_enqueue_of_ne (different : conn ≠ other) (item : OutboundItem) :
    (w.enqueueToOutbox other item).2.conns.lookup conn = w.conns.lookup conn := by
  unfold enqueueToOutbox
  grind

/-- Putting something in an outbox detaches nobody. -/
theorem isSome_enqueue (item : OutboundItem) (attached : (w.conns.lookup conn).isSome) :
    ((w.enqueueToOutbox other item).2.conns.lookup conn).isSome := by
  by_cases same : conn = other
  · unfold enqueueToOutbox
    grind
  · rw [lookup_enqueue_of_ne same]
    exact attached

theorem enqueueToOutbox_found (w : WorkerState) (conn : ConnId) (item : OutboundItem) :
    (w.enqueueToOutbox conn item).1 = (w.conns.lookup conn).isSome := by
  unfold enqueueToOutbox
  cases w.conns.lookup conn <;> rfl

/-- Nothing is put in the outbox of a connection that is not there. -/
theorem enqueueToOutbox_absent (item : OutboundItem) (absent : w.conns.lookup conn = none) :
    (w.enqueueToOutbox conn item).2 = w := by
  unfold enqueueToOutbox
  rw [absent]

/-- The connections after steps of a tick come from those before. -/
theorem evolves_of_performs (performs : OutgoingWorker.Performs cfg w w') :
    Evolves cfg (fun _ _ _ => True) w w' := by
  obtain ⟨steps, allowed, rfl⟩ := performs
  induction steps generalizing w with
  | nil => exact .refl w
  | cons step rest ih =>
    have first : Evolves cfg (fun _ _ _ => True) w (w.act cfg step) := by
      have allows : Allows (fun _ _ _ => True) w step :=
        ⟨fun _ _ _ _ _ => trivial, fun _ _ _ _ _ => trivial⟩
      rcases act_cases (fun _ _ _ => trivial) (fun _ _ _ _ => trivial) allows with
        ⟨conn, valid, rfl, -⟩ | evolves
      · exact absurd (allowed _ List.mem_cons_self) (by simp [OutboundStep.ofTick])
      · exact evolves
    exact first.trans (ih fun step listed => allowed step (List.mem_cons_of_mem _ listed))

theorem continues_of_performs (performs : OutgoingWorker.Performs cfg w w') {ctx' : ConnectionContext}
    (found : w'.conns.lookup conn = some ctx') :
    ∃ ctx, w.conns.lookup conn = some ctx ∧ ctx.Continues ctx' := by
  obtain ⟨ctx, before, steps⟩ := (evolves_of_performs performs).live conn ctx' found
  refine ⟨ctx, before, ?_⟩
  refine steps.invariant (fun later action _ before => ?_) ⟨List.suffix_refl _, rfl⟩
  have next : later.Continues (later.line cfg action) := later.line_continues action
  exact ⟨before.log.trans next.log, next.handleValid.trans before.handleValid⟩

end WorkerState

namespace OutgoingWorker

variable {cfg : OutgoingWorkerConfig} {conn : ConnId} {base : List LineEvent}

theorem tryPop_some {q q' : OutgoingQueue} (popped : q.tryPop = some (msg, q')) :
    q.high ++ q.low = msg :: (q'.high ++ q'.low) := by
  unfold OutgoingQueue.tryPop at popped
  grind

/-! ### The drain -/

/-- What distributing messages means for one connection. -/
structure Spread (conn : ConnId) (t t' : Tick) : Prop where
  unchanged : conn ∉ t'.touched →
    t'.worker.state.conns.lookup conn = t.worker.state.conns.lookup conn
  attached : (t.worker.state.conns.lookup conn).isSome → (t'.worker.state.conns.lookup conn).isSome
  touched : conn ∈ t.touched → conn ∈ t'.touched

theorem Spread.refl (t : Tick) : Spread conn t t := ⟨fun _ => rfl, id, id⟩

theorem Spread.trans {t t' t'' : Tick} (first : Spread conn t t') (second : Spread conn t' t'') :
    Spread conn t t'' where
  unchanged := fun untouched =>
    (second.unchanged untouched).trans (first.unchanged fun before => untouched (second.touched before))
  attached := second.attached ∘ first.attached
  touched := second.touched ∘ first.touched

theorem enqueue_spread (conn : ConnId) (msg : OutgoingMessage) (t : Tick) (target : GlobalConnId) :
    Spread conn t (Tick.enqueue msg t target) ∧
      (target.connId = conn → (t.worker.state.conns.lookup conn).isSome →
        conn ∈ (Tick.enqueue msg t target).touched) := by
  have found := t.worker.state.enqueueToOutbox_found target.connId ⟨msg.priority, msg.action⟩
  have touched : (Tick.enqueue msg t target).touched =
      if (t.worker.state.conns.lookup target.connId).isSome then t.touched.insert target.connId
      else t.touched := by
    rw [← found]
    rfl
  refine ⟨⟨fun untouched => ?_, WorkerState.isSome_enqueue _, fun before => ?_⟩, ?_⟩
  · by_cases same : conn = target.connId
    · subst same
      rw [touched] at untouched
      split at untouched
      · exact absurd (List.mem_insert_self) untouched
      · rename_i absent
        have same := WorkerState.enqueueToOutbox_absent ⟨msg.priority, msg.action⟩
          (Option.not_isSome_iff_eq_none.mp absent)
        exact congrArg (fun w : WorkerState => w.conns.lookup target.connId) same
    · exact WorkerState.lookup_enqueue_of_ne same _
  · grind
  · grind

theorem distribute_spread (conn : ConnId) (msg : OutgoingMessage) (t : Tick) :
    Spread conn t (t.distribute msg) ∧
      ((∃ target ∈ msg.target, target.connId = conn) →
        (t.worker.state.conns.lookup conn).isSome → conn ∈ (t.distribute msg).touched) := by
  unfold Tick.distribute
  induction msg.target generalizing t with
  | nil => exact ⟨.refl t, fun ⟨_, listed, _⟩ => nomatch listed⟩
  | cons target rest ih =>
    obtain ⟨first, reached⟩ := enqueue_spread conn msg t target
    obtain ⟨later, reached'⟩ := ih (Tick.enqueue msg t target)
    refine ⟨first.trans later, ?_⟩
    rintro ⟨found, listed, same⟩ attached
    rcases List.mem_cons.mp listed with rfl | listed
    · exact later.touched (reached same attached)
    · exact reached' ⟨found, listed, same⟩ (first.attached attached)

theorem distribute_queue (msg : OutgoingMessage) (t : Tick) :
    (t.distribute msg).worker.queue = t.worker.queue := by
  unfold Tick.distribute
  induction msg.target generalizing t with
  | nil => rfl
  | cons target rest ih => exact ih (Tick.enqueue msg t target)

section

variable (cfg : OutgoingWorkerConfig)

theorem pastDeadline_same (t : Tick) :
    (t.pastDeadline cfg).2.late = t.late ∧ (t.pastDeadline cfg).2.worker.queue = t.worker.queue ∧
      (t.pastDeadline cfg).2.worker.state.conns = t.worker.state.conns := by
  unfold Tick.pastDeadline
  split <;> exact ⟨rfl, rfl, rfl⟩

/-- The queue holds a message for the connection among its first ones. -/
def Addressed (queue : OutgoingQueue) (more : Nat) (conn : ConnId) : Prop :=
  ∃ msg ∈ (queue.high ++ queue.low).take more, ∃ target ∈ msg.target, target.connId = conn

/-- **The drain reaches every connection it has a message for.** -/
theorem drainQueue_spread (conn : ConnId) (more : Nat) (t : Tick) :
    Spread conn t (Tick.drainQueue cfg more t) ∧
      ((Tick.drainQueue cfg more t).late = false → Addressed t.worker.queue more conn →
        (t.worker.state.conns.lookup conn).isSome → conn ∈ (Tick.drainQueue cfg more t).touched) := by
  induction more generalizing t with
  | zero => exact ⟨.refl t, fun _ ⟨_, listed, _⟩ => absurd listed (by simp)⟩
  | succ more ih =>
    have looked : Spread conn t (t.pastDeadline cfg).2 := by
      unfold Tick.pastDeadline
      split <;> exact ⟨fun _ => rfl, id, id⟩
    have queue := (pastDeadline_same cfg t).2.1
    unfold Tick.drainQueue
    rcases judged : t.pastDeadline cfg with ⟨late, t'⟩
    rw [judged] at looked queue
    cases late with
    | true =>
      exact ⟨⟨looked.unchanged, looked.attached, looked.touched⟩, fun late => absurd late (by simp)⟩
    | false =>
      dsimp only at looked queue ⊢
      rw [← queue]
      split
      · rename_i empty
        refine ⟨looked, fun _ ⟨msg, listed, _⟩ => ?_⟩
        unfold OutgoingQueue.tryPop at empty
        grind
      · rename_i msg queue' popped
        generalize started : ({ t' with worker := { t'.worker with queue := queue' } } : Tick) = t₁
        have same : Spread conn t' t₁ := by
          rw [← started]
          exact ⟨fun _ => rfl, id, id⟩
        have rest : (t₁.distribute msg).worker.queue = queue' := by
          rw [distribute_queue, ← started]
        obtain ⟨spread, reached⟩ := distribute_spread conn msg t₁
        obtain ⟨later, reached'⟩ := ih (t₁.distribute msg)
        refine ⟨looked.trans (same.trans (spread.trans later)), ?_⟩
        rintro onTime ⟨found, listed, mine⟩ attached
        have attached := same.attached (looked.attached attached)
        rw [tryPop_some popped] at listed
        rcases List.mem_cons.mp listed with rfl | listed
        · exact later.touched (reached mine attached)
        · exact reached' onTime ⟨found, rest ▸ listed, mine⟩ (spread.attached attached)

/-! ### The flushes -/

/-- The tick after one more flush. -/
def Tick.flushed (t : Tick) (conn : ConnId) : Tick :=
  { t with worker := { t.worker with state := t.worker.state.flushConnectionOutbox cfg conn } }

end

/-- A flush loop that ran to its end. -/
theorem flushAll_onTime (onTime : (Tick.flushAll cfg (conn :: rest) t).late = false) :
    Tick.flushAll cfg (conn :: rest) t =
      Tick.flushAll cfg rest ((t.pastDeadline cfg).2.flushed cfg conn) := by
  rw [Tick.flushAll] at onTime ⊢
  rcases judged : t.pastDeadline cfg with ⟨late, t'⟩
  rw [judged] at onTime
  cases late with
  | false => rfl
  | true => nomatch onTime

theorem late_of_flushAll {conns : List ConnId}
    (onTime : (Tick.flushAll cfg conns t).late = false) : t.late = false := by
  induction conns generalizing t with
  | nil => exact onTime
  | cons conn rest ih =>
    rw [flushAll_onTime onTime] at onTime
    have before : ((t.pastDeadline cfg).2.flushed cfg conn).late = false := ih onTime
    exact (pastDeadline_same cfg t).1.symm.trans before

/-- **The flushes settle every connection they are for.** -/
theorem flushAll_settles (conns : List ConnId) (t : Tick)
    (onTime : (Tick.flushAll cfg conns t).late = false)
    (since : ∀ ctx, t.worker.state.conns.lookup conn = some ctx → base <:+ ctx.log)
    (due : conn ∈ conns ∨
      ∀ ctx, t.worker.state.conns.lookup conn = some ctx → ctx.Settled base) :
    ∀ ctx, (Tick.flushAll cfg conns t).worker.state.conns.lookup conn = some ctx →
      ctx.Settled base := by
  induction conns generalizing t with
  | nil => exact due.resolve_left List.not_mem_nil
  | cons first rest ih =>
    have loop := flushAll_onTime onTime
    rw [loop] at onTime ⊢
    have conns := (pastDeadline_same cfg t).2.2
    by_cases mine : conn = first
    · subst mine
      have flushed : ∀ ctx, ((t.pastDeadline cfg).2.flushed cfg conn).worker.state.conns.lookup conn =
          some ctx → base <:+ ctx.log ∧ ctx.Settled base := by
        intro ctx' found
        obtain ⟨ctx, before, rfl⟩ := WorkerState.lookup_flush_self found
        rw [conns] at before
        have start := since ctx before
        exact ⟨start.trans (ctx.line_continues _).log, ConnectionContext.flushQueue_settles _ _ start⟩
      exact ih _ onTime (fun ctx found => (flushed ctx found).1)
        (.inr fun ctx found => (flushed ctx found).2)
    · have same : ((t.pastDeadline cfg).2.flushed cfg first).worker.state.conns.lookup conn =
          t.worker.state.conns.lookup conn := by
        rw [← conns]
        exact WorkerState.lookup_flush_of_ne mine
      apply ih _ onTime
      · rw [same]
        exact since
      · grind

/-! ### The tick -/

/-- The tick drains a message for every connection with a live handle that something
was left for. -/
def LeftoversAddressed (cfg : OutgoingWorkerConfig) (w : OutgoingWorker) : Prop :=
  ∀ conn ctx, w.state.conns.lookup conn = some ctx → ctx.handleValid = true → ctx.outbox.q ≠ [] →
    Addressed w.queue cfg.maxPerTick conn

theorem drained_performs (w : OutgoingWorker) :
    Performs cfg w.state (w.drained cfg).worker.state := by
  have started : Performs cfg w.state (w.startTick cfg).worker.state := .single .glance rfl
  exact started.trans (drainQueue_performs _ _)

/-- A connection the drain did not touch is as it was, and no message was for it. -/
theorem drained_untouched {w : OutgoingWorker}
    (onTime : (w.drained cfg).late = false) (untouched : conn ∉ (w.drained cfg).touched)
    (attached : w.state.conns.lookup conn = some ctx) :
    (w.drained cfg).worker.state.conns.lookup conn = some ctx ∧
      ¬ Addressed w.queue cfg.maxPerTick conn := by
  obtain ⟨spread, reached⟩ := drainQueue_spread cfg conn cfg.maxPerTick (w.startTick cfg)
  refine ⟨(spread.unchanged untouched).trans attached, fun addressed => untouched ?_⟩
  exact reached onTime addressed (Option.isSome_iff_exists.mpr ⟨ctx, attached⟩)

/-- The last phase only sweeps. -/
theorem sweep_evolves (w : OutgoingWorker) :
    WorkerState.Evolves cfg (fun _ _ action => ∃ now io, action = .sweep now io)
      (w.beforeSweep cfg).worker.state (w.tick cfg).state :=
  WorkerState.retransmitSweep_evolves fun _ _ now io => ⟨now, io, rfl⟩

/-- **A tick in time flushes what it should.**  If it has a message for every connection
with leftovers, then of every connection with a live handle that is still there after it,
and whose socket the tick did not find backed up, the outbox is empty, or the last thing
handed to the socket, but for resends, was refused. -/
theorem tick_settles_leftovers (cfg : OutgoingWorkerConfig) (w : OutgoingWorker)
    (onTime : (w.beforeSweep cfg).late = false) (addressed : w.LeftoversAddressed cfg)
    (conn : ConnId) (ctx' : ConnectionContext)
    (attached : (w.tick cfg).state.conns.lookup conn = some ctx')
    (valid : ctx'.handleValid = true) :
    ∃ ctx new, w.state.conns.lookup conn = some ctx ∧ ctx'.log = new ++ ctx.log ∧
      (.backpressured ∉ new → ctx'.outbox.q = [] ∨
        ∃ resends kind frame status time older,
          new = resends ++ .transmitted kind frame status time :: older ∧
            (∀ event ∈ resends, event.isResend = true) ∧ kind ≠ .resend ∧ status ≠ .success) := by
  obtain ⟨ctx, before, continues⟩ := WorkerState.continues_of_performs (tick_eq_run w) attached
  obtain ⟨mid, flushed, swept⟩ := (sweep_evolves w).live conn ctx' attached
  have drained : ∀ ctx₁, (w.drained cfg).worker.state.conns.lookup conn = some ctx₁ →
      ctx.log <:+ ctx₁.log := by
    intro ctx₁ found
    obtain ⟨ctx₀, before', continues⟩ := WorkerState.continues_of_performs (drained_performs w) found
    obtain rfl := Option.some.inj (before.symm.trans before')
    exact continues.log
  have settled : mid.Settled ctx.log := by
    apply flushAll_settles ((w.drained cfg).walk cfg).1 ((w.drained cfg).walk cfg).2 onTime drained _ mid
      flushed
    by_cases touched : conn ∈ (w.drained cfg).touched
    · exact .inl ((cfg.script.arrange_perm _ _).mem_iff.mpr touched)
    · right
      intro ctx₁ found
      have inTime : ((w.drained cfg).walk cfg).2.late = false := late_of_flushAll onTime
      obtain ⟨same, none'⟩ := drained_untouched inTime touched before
      obtain rfl := Option.some.inj (same.symm.trans found)
      left
      by_contra leftovers
      exact none' (addressed conn ctx before (continues.handleValid ▸ valid) leftovers)
  have settled : ctx'.Settled ctx.log := by
    apply swept.invariant _ settled
    rintro later _ ⟨now, io, rfl⟩ settled
    exact ConnectionContext.sweep_settled now io settled
  rcases settled with empty | ⟨resends, last, older, log, resent, stops⟩
  · obtain ⟨new, log⟩ := continues.log
    exact ⟨ctx, new, before, log.symm, fun _ => .inl empty⟩
  · refine ⟨ctx, resends ++ last :: older, before, log, fun free => .inr ?_⟩
    rcases LineEvent.stops_cases stops with rfl | ⟨kind, frame, status, time, rfl, first, refused⟩
    · exact absurd (List.mem_append_right _ List.mem_cons_self) free
    · exact ⟨resends, kind, frame, status, time, older, rfl, resent, first, refused⟩

end OutgoingWorker

/-! ## A send that failed -/

namespace LeftBehind

open OutgoingWorker

open SlowClient (conn item)

def message (content : String) : OutgoingMessage where
  target := [⟨⟨"n"⟩, conn⟩]
  action := (item content).action

/-- The socket drops the first frame it is handed, and takes every later one. -/
def cfg : OutgoingWorkerConfig :=
  { script := { send := fun _ n => if n = 1 then .dropped else .success } }

/-- The worker with the connection open and one message waiting. -/
def ready : OutgoingWorker where
  state := WorkerState.act cfg {} (.attach conn true)
  queue := (OutgoingQueue.empty.push (message "hello")).2

/-- After the tick whose send failed. -/
def failed : OutgoingWorker := ready.tick cfg

/-- Another message for the connection is pushed. -/
def addressed : OutgoingWorker := { failed with queue := (failed.queue.push (message "again")).2 }

theorem addressed_leftovers : addressed.LeftoversAddressed cfg := by
  intro other ctx found _ _
  have only : addressed.state.conns.keys = [conn] := by decide
  have listed : other ∈ addressed.state.conns.keys :=
    AList.mem_keys.mp (AList.lookup_isSome.mp (Option.isSome_iff_exists.mpr ⟨ctx, found⟩))
  obtain rfl := List.mem_singleton.mp listed
  exact ⟨message "again", by decide, ⟨⟨"n"⟩, conn⟩, by decide, rfl⟩

/-- The connection after the tick with the second message. -/
def retried : Option ConnectionContext := (addressed.tick cfg).state.conns.lookup conn

theorem retried_found : retried.isSome = true := by decide

/-- With another message for the connection the first is sent too. -/
theorem tick_settles_leftovers_addressed :
    (retried.get retried_found).takenReliable = ["hello", "again"] ∧
    ∃ ctx new, addressed.state.conns.lookup conn = some ctx ∧
      (retried.get retried_found).log = new ++ ctx.log ∧
      (.backpressured ∉ new → (retried.get retried_found).outbox.q = [] ∨
        ∃ resends kind frame status time older,
          new = resends ++ .transmitted kind frame status time :: older ∧
            (∀ event ∈ resends, event.isResend = true) ∧ kind ≠ .resend ∧ status ≠ .success) :=
  ⟨by decide, tick_settles_leftovers cfg addressed (by decide) addressed_leftovers conn _
    (Option.some_get retried_found).symm (by decide)⟩

/-- **Without one it is not retried.**  The next tick is in time and the socket free, but
the outbox keeps the item, and nothing is handed to the socket. -/
theorem leftover_is_not_retried :
    (failed.beforeSweep cfg).late = false ∧
    ∃ ctx ctx', failed.state.conns.lookup conn = some ctx ∧
      (failed.tick cfg).state.conns.lookup conn = some ctx' ∧ ctx'.handleValid = true ∧
      ctx.outbox.q = [⟨.high, (message "hello").action⟩] ∧ ctx'.outbox.q = ctx.outbox.q ∧
      ctx'.log = ctx.log := by
  refine ⟨by decide, _, _, rfl, rfl, rfl, ?_⟩
  decide

end LeftBehind

end Kergit
