import Kergit.ReliableFrames

/-!
What becomes of high-priority items.

A high-priority item may not be lost without a trace: it waits in the outbox, or has
been executed, or the connection is being given up.  Evictions take only low-priority
items, and a flush executes what it pops.  The one leak is an overflow of an outbox
that holds nothing to evict: the first three of them only count the hit.

`Accounted` is conservation in order: what was distributed is what was handled, then
what waits.  `high_priority_accounted` is that it holds, or a drop waits or was executed,
in every run in which no overflow is let pass.
-/

namespace Kergit

open Lib

def OutboundItem.isHigh (item : OutboundItem) : Bool := !item.isLow

/-- The item ends its connection. -/
def OutboundItem.isDrop (item : OutboundItem) : Bool :=
  match item.action with
  | .dropConnection _ => true
  | .sendPayload _ | .updateAuthState _ => false

open OutboundItem (isHigh isLow isDrop)

/-- The high-priority item an event puts in the outbox. -/
def LineEvent.distributedHigh? : LineEvent → Option OutboundItem
  | .distributed item => if item.isHigh then some item else none
  | .handled _ | .transmitted .. | .backpressured => none

/-- The high-priority item an event executes. -/
def LineEvent.handledHigh? : LineEvent → Option OutboundItem
  | .handled item => if item.isHigh then some item else none
  | .distributed _ | .transmitted .. | .backpressured => none

/-- The event is the execution of a `DropConnection`. -/
def LineEvent.isDrop : LineEvent → Bool
  | .handled item => item.isDrop
  | .distributed _ | .transmitted .. | .backpressured => false

/-- Removing a marked element does not change what is not marked. -/
theorem filter_eraseP {α : Type} (marked : α → Bool) (l : List α) :
    (l.eraseP marked).filter (fun a => !marked a) = l.filter fun a => !marked a := by
  induction l with
  | nil => rfl
  | cons a rest ih =>
    cases is : marked a with
    | true => simp [is]
    | false => simp [is, ih]

namespace ConnectionContext

variable {cfg : OutgoingWorkerConfig} {ctx ctx' : ConnectionContext} {item : OutboundItem}

section

variable (ctx : ConnectionContext)

/-- The high-priority items distributed to the connection, oldest first. -/
def distributedHigh : List OutboundItem :=
  (ctx.log.filterMap LineEvent.distributedHigh?).reverse

/-- The ones executed. -/
def handledHigh : List OutboundItem :=
  (ctx.log.filterMap LineEvent.handledHigh?).reverse

/-- The ones that wait. -/
def waitingHigh : List OutboundItem := ctx.outbox.q.filter isHigh

/-- Every high-priority item was executed or waits, in order. -/
def Accounted : Prop :=
  ctx.distributedHigh = ctx.handledHigh ++ ctx.waitingHigh

/-- A `DropConnection` waits that no eviction can take. -/
def DropQueued : Prop :=
  ∃ item ∈ ctx.outbox.q, item.isHigh = true ∧ item.isDrop = true
deriving Decidable

/-- A `DropConnection` was executed. -/
def DropExecuted : Prop := ∃ event ∈ ctx.log, event.isDrop = true
deriving Decidable

/-- Nothing was lost, or the connection is given up. -/
def Honest : Prop :=
  ctx.Accounted ∨ ctx.DropQueued ∨ ctx.DropExecuted

end

/-- Putting the item in this outbox would only count a hit: the outbox is full, holds
nothing to evict and no drop, and has not been hit often enough to drop the client. -/
def Spills (ctx : ConnectionContext) (item : OutboundItem) : Prop :=
  item.isHigh = true ∧ ctx.outbox.capacity ≤ ctx.outbox.q.length ∧
    ctx.outbox.q.any isLow = false ∧ ctx.outbox.slowHits + 1 < 4 ∧ ¬ ctx.DropQueued
deriving Decidable

theorem waitingHigh_evicted (q : List OutboundItem) :
    (PerConnectionOutbox.withoutNewestLow q).filter isHigh =
      q.filter isHigh := by
  have kept := congrArg List.reverse (filter_eraseP isLow q.reverse)
  rw [← List.filter_reverse, ← List.filter_reverse, List.reverse_reverse] at kept
  exact kept

theorem executed_of_handled (handled : item ∈ ctx.handledHigh) (drop : item.isDrop = true) :
    ctx.DropExecuted := by
  obtain ⟨event, logged, is⟩ := List.mem_filterMap.mp (List.mem_reverse.mp handled)
  cases event with
  | handled other =>
    simp [LineEvent.handledHigh?] at is
    exact ⟨_, logged, is.2 ▸ drop⟩
  | distributed _ | transmitted _ _ _ _ | backpressured => nomatch is

/-- What is high in the queue decides whether a drop waits. -/
theorem dropQueued_iff : ctx.DropQueued ↔ ∃ item ∈ ctx.waitingHigh, item.isDrop = true := by
  constructor
  · rintro ⟨item, listed, high, drop⟩
    exact ⟨item, List.mem_filter.mpr ⟨listed, high⟩, drop⟩
  · rintro ⟨item, listed, drop⟩
    obtain ⟨listed, high⟩ := List.mem_filter.mp listed
    exact ⟨item, listed, high, drop⟩

/-- **Conservation.**  What is distributed comes in behind what waits, and what is executed
leaves from its front. -/
theorem Honest.flows (honest : ctx.Honest) (new done : List OutboundItem)
    (distributed : ctx'.distributedHigh = ctx.distributedHigh ++ new)
    (handled : ctx'.handledHigh = ctx.handledHigh ++ done)
    (waiting : ctx.waitingHigh ++ new = done ++ ctx'.waitingHigh)
    (log : ctx.log ⊆ ctx'.log) : ctx'.Honest := by
  rcases honest with accounted | queued | ⟨event, listed, drop⟩
  · left
    rw [Accounted, distributed, accounted, handled, List.append_assoc, waiting, List.append_assoc]
  · obtain ⟨item, listed, drop⟩ := dropQueued_iff.mp queued
    have among : item ∈ done ++ ctx'.waitingHigh := waiting ▸ List.mem_append_left _ listed
    rcases List.mem_append.mp among with out | waits
    · exact .inr (.inr (executed_of_handled (handled ▸ List.mem_append_right _ out) drop))
    · exact .inr (.inl (dropQueued_iff.mpr ⟨item, waits, drop⟩))
  · exact .inr (.inr ⟨event, log listed, drop⟩)

/-- **An item put in the outbox.**  It is lost only where it spills. -/
theorem Honest.enqueue (honest : ctx.Honest) (room : ¬ ctx.Spills item) :
    (ctx.line cfg (.enqueue item)).Honest := by
  generalize after : ctx.line cfg (.enqueue item) = ctx'
  have log : ctx'.log = .distributed item :: ctx.log := by rw [← after]; rfl
  have outbox : ctx'.outbox = ctx.outbox.enqueue item := by rw [← after]; rfl
  have handled : ctx'.handledHigh = ctx.handledHigh := by
    rw [handledHigh, log, List.filterMap_cons_none rfl, handledHigh]
  have same (waiting : ctx'.waitingHigh = ctx.waitingHigh) (low : item.isHigh = false) :
      ctx'.Honest := by
    apply honest.flows [] [] <;>
      simp [distributedHigh, handled, log, LineEvent.distributedHigh?, low, waiting]
  have more (waiting : ctx'.waitingHigh = ctx.waitingHigh ++ [item]) (high : item.isHigh = true) :
      ctx'.Honest := by
    apply honest.flows [item] [] <;>
      simp [distributedHigh, handled, log, LineEvent.distributedHigh?, high, waiting]
  unfold PerConnectionOutbox.enqueue at outbox
  split at outbox
  · cases high : item.isHigh with
    | true =>
      apply more _ high
      rw [waitingHigh, outbox, List.filter_append, List.filter_cons_of_pos high]
      rfl
    | false =>
      apply same _ high
      rw [waitingHigh, outbox, List.filter_append, List.filter_cons_of_neg (by simp [high])]
      exact List.append_nil _
  · rename_i full
    split at outbox
    · rename_i low
      exact same (by rw [waitingHigh, outbox, waitingHigh]) (by rw [isHigh, low]; rfl)
    · rename_i low
      have high : item.isHigh = true := by
        rw [isHigh, eq_false_of_ne_true low]
        rfl
      split at outbox
      · apply more _ high
        rw [waitingHigh, outbox, List.filter_append, waitingHigh_evicted,
          List.filter_cons_of_pos high]
        rfl
      · rename_i noneLow
        split at outbox
        · right; left
          rw [DropQueued, outbox]
          exact ⟨slowDrop, List.mem_singleton_self _, rfl, rfl⟩
        · rename_i few
          have queued : ctx.DropQueued := by
            by_contra none
            exact room ⟨high, Nat.le_of_not_lt full, eq_false_of_ne_true noneLow,
              Nat.lt_of_not_le few, none⟩
          right; left
          rw [DropQueued, outbox]
          exact queued

/-- The front item leaves the outbox and is executed. -/
theorem Honest.popped (honest : ctx.Honest) (events : List LineEvent)
    (front : ctx.outbox.q = item :: rest) (queue : ctx'.outbox.q = rest)
    (log : ctx'.log = .handled item :: events ++ ctx.log)
    (sends : ∀ event ∈ events, ∃ kind frame status time, event = .transmitted kind frame status time) :
    ctx'.Honest := by
  have quiet (f : LineEvent → Option OutboundItem)
      (none' : ∀ kind frame status time, f (.transmitted kind frame status time) = none) :
      events.filterMap f = [] := by
    rw [List.filterMap_eq_nil_iff]
    intro event listed
    obtain ⟨kind, frame, status, time, rfl⟩ := sends event listed
    exact none' kind frame status time
  apply honest.flows [] ([item].filter isHigh)
  · rw [distributedHigh, log, List.cons_append, List.filterMap_cons_none rfl, List.filterMap_append,
      quiet _ fun _ _ _ _ => rfl, List.append_nil]
    rfl
  · rw [handledHigh, log, List.cons_append, List.filterMap_cons, List.filterMap_append,
      quiet _ fun _ _ _ _ => rfl]
    cases high : item.isHigh <;> simp [handledHigh, LineEvent.handledHigh?, high]
  · rw [waitingHigh, waitingHigh, front, queue, List.append_nil, ← List.filter_append]
    rfl
  · rw [log]
    exact fun _ listed => List.mem_cons_of_mem _ (List.mem_append_right events listed)

/-- An event that is neither a distribution nor an execution. -/
theorem Honest.unchanged (honest : ctx.Honest)
    (queue : ctx'.outbox.q = ctx.outbox.q) (log : ctx'.log = event :: ctx.log)
    (distributes : event.distributedHigh? = none) (executes : event.handledHigh? = none) :
    ctx'.Honest := by
  apply honest.flows [] [] <;>
    simp [distributedHigh, handledHigh, waitingHigh, log, queue, distributes, executes]

/-- **A turn of a flush loses nothing.** -/
theorem Honest.pump (turn : Pump cfg ctx ctx') (honest : ctx.Honest) : ctx'.Honest := by
  cases turn with
  | skipped item rest send front is nothing =>
    exact honest.popped [] front rfl rfl (nofun)
  | sentPlain item rest send data status time front is bytes plain sent =>
    exact honest.popped [.transmitted .plain ⟨0, data⟩ status time] front rfl rfl (by simp)
  | sentReliable item rest send data status time front is bytes reliable valid sent =>
    exact honest.popped
      [.transmitted .reliable (stampEnvelopeSeq data (ctx.reliable.nextSeq + 1)) status time]
      front rfl rfl (by simp)
  | failed item rest send data kind frame n time front is bytes frames refused =>
    exact honest.unchanged rfl rfl rfl rfl
  | blocked item rest front => exact honest.unchanged rfl rfl rfl rfl
  | updated item rest update front is =>
    exact honest.popped [] front rfl (congrArg (LineEvent.handled item :: ·) (applyAuth_log _ _))
      (nofun)
  | dropped item rest drop front is =>
    exact .inr (.inr ⟨.handled item, List.mem_cons_self, by rw [LineEvent.isDrop, isDrop, is]⟩)

theorem Honest.retry {log : List LineEvent}
    (retry : Retry cfg now (ctx.reliable.buffer, ctx.log) (buffer, log)) (honest : ctx.Honest) :
    (ctx.withFrames buffer log same).Honest := by
  obtain ⟨-, -, -, -, -, -, rfl, -⟩ := retry.parts
  exact honest.unchanged rfl rfl rfl rfl

/-- **Every call that does not let an item spill loses nothing.** -/
theorem line_honest (action : LineAction) (room : ∀ item, action = .enqueue item → ¬ ctx.Spills item)
    (honest : ctx.Honest) : (ctx.line cfg action).Honest :=
  line_keeps cfg Honest honest (fun _ _ turn honest => honest.pump turn)
    (fun _ _ _ _ _ retry honest => honest.retry retry)
    (fun item is => honest.enqueue (room item is)) (fun _ _ => honest)

end ConnectionContext

namespace WorkerState

variable {cfg : OutgoingWorkerConfig} {w : WorkerState} {step : OutboundStep}

/-- The connection is, or was when it ended, in this state. -/
def Known (w : WorkerState) (conn : ConnId) (ctx : ConnectionContext) : Prop :=
  w.conns.lookup conn = some ctx ∨ (conn, ctx) ∈ w.gone

theorem Everywhere.known {Inv : ConnectionContext → Prop}
    (all : Everywhere Inv w) (known : w.Known conn ctx) : Inv ctx :=
  known.elim (all.live conn ctx) (all.gone (conn, ctx))

/-- What a connection starts with and every call keeps holds of it in every run. -/
theorem Known.invariant {Inv : ConnectionContext → Prop} {conn : ConnId}
    {ctx : ConnectionContext} (known : (run (act cfg) {} steps).Known conn ctx)
    (fresh : ∀ handleValid, Inv (.opened cfg handleValid))
    (keeps : ∀ ctx action, Inv ctx → Inv (ctx.line cfg action)) : Inv ctx := by
  have all : Everywhere Inv (run (act cfg) {} steps) := by
    apply run_invariant _ everywhere_empty
    intro w step all
    exact act_everywhere (fun _ _ _ => True) (fun _ _ _ => trivial) (fun _ _ _ _ => trivial)
      ⟨fun _ _ _ _ _ => trivial, fun _ _ _ _ _ => trivial⟩ fresh
      (fun _ ctx action _ inv => keeps ctx action inv) all
  exact all.known known

/-- The step puts no high-priority item in an outbox that would let it spill. -/
def NoSpill (w : WorkerState) : OutboundStep → Prop
  | .distribute conn item =>
    ∀ ctx ∈ w.conns.lookup conn, ctx.handleValid = true → ¬ ctx.Spills item
  | .attach .. | .close _ | .flush _ | .sweep | .ack .. | .glance | .arrange => True

instance (w : WorkerState) (step : OutboundStep) : Decidable (w.NoSpill step) := by
  cases step <;> unfold NoSpill <;> infer_instance

/-- On a live handle the numbers are right and nothing was lost. -/
def Faithful (ctx : ConnectionContext) : Prop :=
  ctx.handleValid = true → ctx.Stamped ∧ ctx.Honest

theorem act_faithful (clean : w.NoSpill step) (all : Everywhere Faithful w) :
    Everywhere Faithful (w.act cfg step) := by
  let Guard (_ : ConnId) (ctx : ConnectionContext) (action : LineAction) : Prop :=
    ∀ item, action = .enqueue item → ctx.handleValid = true → ¬ ctx.Spills item
  refine act_everywhere Guard ?_ ?_ ?_ ?_ ?_ all
  · exact fun _ _ _ item is => nomatch is
  · exact fun _ _ _ _ item is => nomatch is
  · constructor
    · rintro conn item ctx rfl found _ ⟨⟩ valid
      exact clean ctx found valid
    · exact fun _ _ _ _ _ item is => nomatch is
  · intro handleValid valid
    exact ⟨ConnectionContext.opened_numbered handleValid valid, .inl rfl⟩
  · intro _ ctx action room faithful valid
    have numbered := ConnectionContext.line_numbered cfg action fun valid => (faithful valid).1
    refine ⟨numbered valid, ?_⟩
    rw [ConnectionContext.line_handleValid] at valid
    exact ConnectionContext.line_honest action (fun item is => room item is valid) (faithful valid).2

/-- **No high-priority item is lost in silence.**  In every run in which none is let
spill, and for every connection with a live handle: the high-priority items distributed
to it are the ones executed, then the ones that wait, unless a `DropConnection` waits or
was executed.  A reliable payload that was executed was sent with its number, and waits
in the buffer until the number is acknowledged. -/
theorem high_priority_accounted (cfg : OutgoingWorkerConfig) (steps : List OutboundStep)
    (clean : Staged (act cfg) NoSpill {} steps) (conn : ConnId) (ctx : ConnectionContext)
    (known : (run (act cfg) {} steps).Known conn ctx) (valid : ctx.handleValid = true) :
    (ctx.distributedHigh = ctx.handledHigh ++ ctx.waitingHigh ∨ ctx.DropQueued ∨
        ctx.DropExecuted) ∧
      ∀ seq data, ctx.takenReliable[seq]? = some data →
        (∃ time, .transmitted .reliable (stampEnvelopeSeq data (seq + 1)) .success time ∈ ctx.log) ∧
          (seq + 1 ≤ ctx.reliable.ackedSeq ∨
            ∃ p ∈ ctx.reliable.buffer, p.seq = seq + 1 ∧ p.bytes = stampEnvelopeSeq data (seq + 1)) := by
  have all : Everywhere Faithful (run (act cfg) {} steps) :=
    clean.invariant _ (fun _ _ all clean => act_faithful clean all) everywhere_empty
  obtain ⟨stamped, honest⟩ := all.known known valid
  exact ⟨honest, fun seq data taken => ⟨stamped.sent seq data taken, stamped.kept taken⟩⟩

end WorkerState

/-! ## A slow client -/

namespace SlowClient

def conn : ConnId := ⟨"c"⟩

def item (content : String) : OutboundItem :=
  ⟨.high, .sendPayload ⟨⟨some content, true⟩, true⟩⟩

/-- The socket is backed up while the outbox fills, so nothing is flushed. -/
def filled : List OutboundStep :=
  .attach conn true :: List.replicate 128 (.distribute conn (item "a"))

/-- Two items are sent, and the first is acknowledged. -/
def served : List OutboundStep :=
  [.attach conn true, .distribute conn (item "a"), .distribute conn (item "b"), .flush conn,
    .ack conn 1]

/-- Both are accounted for: they were sent in order. -/
theorem high_priority_accounted_served :
    ∃ ctx, (run (WorkerState.act {}) {} served).Known conn ctx ∧
      ctx.distributedHigh = [item "a", item "b"] ∧
      (ctx.distributedHigh = ctx.handledHigh ++ ctx.waitingHigh ∨ ctx.DropQueued ∨
        ctx.DropExecuted) := by
  refine ⟨_, .inl rfl, by decide, ?_⟩
  exact (WorkerState.high_priority_accounted {} served (by decide) conn _ (.inl rfl)
    rfl).1

/-- The connection once the outbox is full and one more item has come. -/
def overflowed : Option ConnectionContext :=
  (run (WorkerState.act {}) {} (filled ++ [.distribute conn (item "b")])).conns.lookup conn

/-- **The 129th item is lost.**  The outbox is full and holds nothing to evict: the
overflow is counted, and the item is neither queued nor executed, and no drop is. -/
theorem overflow_is_only_counted :
    ∃ ctx, overflowed = some ctx ∧ ctx.handleValid = true ∧ item "b" ∈ ctx.distributedHigh ∧
      item "b" ∉ ctx.waitingHigh ∧ item "b" ∉ ctx.handledHigh ∧ ¬ ctx.DropQueued ∧
      ¬ ctx.DropExecuted := by
  decide +kernel

end SlowClient

end Kergit
