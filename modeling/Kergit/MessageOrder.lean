import Kergit.Engine

/-!
The order of one connection's messages.

The queue hands the messages of a connection to the workers in the order in which they
came, but two workers may hold two of them at once, and the faster one stores and fans out
first.  `sent_in_order`: where a worker takes a message of the connection for the channel
only when those taken before are done, whatever is called for one message is called before
anything is called for a later one.
-/

namespace Kergit

open Lib

namespace MessageOrder

section Orders

variable (k : GlobalConnId) (channel : ChannelId)

/-- The message of a MESSAGE_SEND of the connection for the channel. -/
def messageOf : Command → Option SendMessage
  | .sendMessage conn msg => if conn = k ∧ msg.channelId = channel then some msg else none
  | _ => none

variable (s : EngineScene)

/-- The messages the queue has accepted, latest first. -/
def received : List SendMessage :=
  s.history.filterMap fun
    | .called _ (.inr (.pushEvent cmd)) (.ok .ok) => messageOf k channel cmd
    | _ => none

/-- The workers that have taken a message, latest first. -/
def taken : List (Nat × SendMessage) :=
  s.history.filterMap fun
    | .called i (.inr .popEvent) (.ok (some cmd)) => (messageOf k channel cmd).map (i, ·)
    | _ => none

/-- The messages in the queue. -/
def queued (q : EventQueue Command) : List SendMessage := q.high.filterMap (messageOf k channel)

/-- A message is taken only when the workers that have taken one before are done. -/
def Serial (_i : Nat) (_env : ServerEnv) : ServerCall → Prop
  | .inr .popEvent => (s.shared.events.high.head?.bind (messageOf k channel)).isSome = true →
    ∀ worker ∈ taken k channel s, s.Returned worker.1 fun _ => true
  | _ => True

instance (s : EngineScene) (i : Nat) (env : ServerEnv) (c : ServerCall) :
    Decidable (Serial k channel s i env c) := by
  unfold Serial
  split <;> infer_instance

/-- Nothing is left of task `i` once task `j` has made a call. -/
def Precedes (i j : Nat) : Prop :=
  ∀ later c answer earlier, s.history = later ++ .called j c answer :: earlier →
    ∀ event ∈ later, event.task ≠ i

/-- What is in the queue and what has been taken is what was accepted, in order; all workers
but the last to take a message are done, one after the other. -/
structure Inv (s : EngineScene) : Prop where
  lows : ∀ cmd ∈ s.shared.events.low, messageOf k channel cmd = none
  fifo : received k channel s =
    (queued k channel s.shared.events).reverse ++ (taken k channel s).map Prod.snd
  done : ∀ worker ∈ (taken k channel s).tail, s.Returned worker.1 fun _ => true
  order : (taken k channel s).Pairwise fun late early => Precedes s early.1 late.1

end Orders

variable {k : GlobalConnId} {channel : ChannelId}

/-! ## The queue -/

theorem push_queued (cmd : Command) (lows : ∀ low ∈ q.low, messageOf k channel low = none) :
    (∀ low ∈ (q.push cmd.priority cmd).2.low, messageOf k channel low = none) ∧
      queued k channel (q.push cmd.priority cmd).2 = queued k channel q ++
        if (q.push cmd.priority cmd).1 = .ok then (messageOf k channel cmd).toList else [] := by
  have single : [cmd].filterMap (messageOf k channel) = (messageOf k channel cmd).toList := by
    rw [List.filterMap_cons]
    cases messageOf k channel cmd <;> rfl
  rcases q.push_cases cmd.priority cmd with
    ⟨-, is⟩ | ⟨-, -, is⟩ | ⟨occupied, -, high, is⟩ | ⟨-, -, -, is⟩ <;> rw [is]
  · cases priority : cmd.priority with
    | low =>
      have none : messageOf k channel cmd = none := by
        cases cmd <;> first | rfl | nomatch priority
      refine ⟨?_, by simp [queued, EventQueue.append, none]⟩
      intro low listed
      rcases List.mem_append.mp listed with before | new
      · exact lows low before
      · rw [List.mem_singleton.mp new, none]
    | high => exact ⟨lows, by simp [queued, EventQueue.append, single]⟩
  · exact ⟨lows, by simp⟩
  · rw [high]
    refine ⟨fun low listed => lows low (List.dropLast_subset _ listed), ?_⟩
    simp [queued, EventQueue.append, EventQueue.evictLow, single]
  · exact ⟨lows, by simp⟩

theorem pop_queued
    (lows : ∀ low ∈ q.low, messageOf k channel low = none) (is : q.pop = some (cmd, rest)) :
    (∀ low ∈ rest.low, messageOf k channel low = none) ∧
      queued k channel q = (messageOf k channel cmd).toList ++ queued k channel rest ∧
      (messageOf k channel cmd = none ∨ q.high.head? = some cmd) := by
  rcases q.pop_cases with ⟨-, -, none⟩ | ⟨event, left, front, same, -, some⟩ |
    ⟨event, left, front, empty, back, -, some⟩
  · nomatch is.symm.trans none
  · obtain ⟨rfl, rfl⟩ := Prod.mk.inj (Option.some.inj (is.symm.trans some))
    refine ⟨same ▸ lows, ?_, .inr (by rw [front]; rfl)⟩
    rw [queued, front, List.filterMap_cons]
    cases messageOf k channel cmd <;> rfl
  · obtain ⟨rfl, rfl⟩ := Prod.mk.inj (Option.some.inj (is.symm.trans some))
    have none := lows cmd (back ▸ List.mem_cons_self)
    refine ⟨fun low listed => lows low (back ▸ List.mem_cons_of_mem _ listed), ?_, .inl none⟩
    rw [none, queued, queued, front, empty]
    rfl

/-! ## One move -/

section Step

variable {s : EngineScene} {i : Nat} {env : ServerEnv} {c : ServerCall} {job : Job}
  {event : Event ServerCall ServerCall.Answer Thrown Job Reply} {shared : Server}

/-- A worker pops once, at the start. -/
theorem transcript_of_pop
    (rule : job.Rule (fun _ _ _ => True) (s.transcript i) (.inr .popEvent)) :
    s.transcript i = [] := by
  cases job with
  | receive cmd | writeNext => nomatch rule
  | work =>
    rcases rule with ⟨fresh, -⟩ | ⟨cmd, -, works, -⟩
    · exact fresh
    · rcases works with ⟨makes, -⟩ | ⟨_, _, -, marks | unmarks⟩ | ⟨_, pushes, -⟩
      · cases cmd <;> exact makes.elim
      · nomatch marks
      · nomatch unmarks
      · nomatch pushes

theorem Precedes.log (precedes : Precedes s i j) (other : event.task ≠ i) :
    Precedes (s.log event shared) i j := by
  intro later c answer earlier is
  cases later with
  | nil => exact nofun
  | cons first rest =>
    obtain ⟨rfl, before⟩ := List.cons.inj is
    exact List.forall_mem_cons.mpr ⟨other, precedes rest c answer earlier before⟩

/-- Those that are done stay done, and in order. -/
theorem Inv.log (inv : Inv k channel s)
    (event : Event ServerCall ServerCall.Answer Thrown Job Reply) (shared : Server)
    (running : ¬ s.Returned event.task fun _ => true) :
    (∀ worker, s.Returned worker (fun _ => true) →
      (s.log event shared).Returned worker fun _ => true) ∧
    (taken k channel s).Pairwise fun late early =>
      Precedes (s.log event shared) early.1 late.1 := by
  constructor
  · rintro worker ⟨ended, listed, returns⟩
    exact ⟨ended, List.mem_cons_of_mem _ listed, returns⟩
  · have done := inv.done
    have order := inv.order
    cases is : taken k channel s with
    | nil => exact .nil
    | cons last rest =>
      rw [is] at done order
      have other : ∀ worker ∈ rest, event.task ≠ worker.1 := by
        intro worker listed same
        exact running (same ▸ done worker listed)
      obtain ⟨first, others⟩ := List.pairwise_cons.mp order
      refine .cons (fun early listed => (first early listed).log (other early listed)) ?_
      exact others.imp_of_mem fun _ listed precedes => precedes.log (other _ listed)

/-- A move that takes no message. -/
theorem Inv.quiet (inv : Inv k channel s) (running : ¬ s.Returned event.task fun _ => true)
    (same : taken k channel (s.log event shared) = taken k channel s)
    (lows : ∀ cmd ∈ shared.events.low, messageOf k channel cmd = none)
    (fifo : received k channel (s.log event shared) =
      (queued k channel shared.events).reverse ++ (taken k channel s).map Prod.snd) :
    Inv k channel (s.log event shared) := by
  obtain ⟨done, order⟩ := inv.log event shared running
  refine ⟨lows, by rwa [same], ?_, by rwa [same]⟩
  rw [same]
  exact fun worker listed => done _ (inv.done worker listed)

theorem Inv.call (inv : Inv k channel s) (rule : job.Rule (fun _ _ _ => True) (s.transcript i) c)
    (running : ¬ s.Returned i fun _ => true) (serial : Serial k channel s i env c) :
    Inv k channel (Server.after s i env c) := by
  cases c with
  | inl c =>
    cases c with
    | outside c =>
      cases c with
      | pushConnectionEvent conn user =>
        obtain ⟨lows, grown⟩ := push_queued (.request (.bootstrap conn user)) inv.lows
        refine inv.quiet running rfl lows (inv.fifo.trans ?_)
        exact congrArg (List.reverse · ++ _) (grown.trans (by simp [messageOf])).symm
      | _ => exact inv.quiet running rfl inv.lows inv.fifo
    | _ => exact inv.quiet running rfl inv.lows inv.fifo
  | inr c =>
    cases c with
    | pushEvent cmd =>
      obtain ⟨lows, grown⟩ := push_queued cmd inv.lows
      refine inv.quiet running rfl lows ?_
      change _ = (queued k channel (s.shared.events.push cmd.priority cmd).2).reverse ++ _
      rw [grown, List.reverse_append, List.append_assoc, ← inv.fifo]
      simp only [received, Scene.log_history, Server.exec, DeskCall.exec]
      cases (s.shared.events.push cmd.priority cmd).1 with
      | ok => cases sent : messageOf k channel cmd <;> simp [sent]
      | droppedLow | droppedHigh => rfl
    | popEvent =>
      simp only [Server.after, Server.exec, DeskCall.exec]
      cases popped : s.shared.events.pop with
      | none => exact inv.quiet running rfl inv.lows inv.fifo
      | some out =>
        obtain ⟨cmd, rest⟩ := out
        obtain ⟨lows, left, front⟩ := pop_queued inv.lows popped
        have fifo := inv.fifo
        rw [left, List.reverse_append, List.append_assoc] at fifo
        cases sent : messageOf k channel cmd with
        | none =>
          rw [sent] at fifo
          exact inv.quiet running (by simp [taken, sent]) lows fifo
        | some msg =>
          rw [sent] at fifo front
          have ended : ∀ worker ∈ taken k channel s, s.Returned worker.1 fun _ => true := by
            apply serial
            rw [front.resolve_left (by simp)]
            exact Option.isSome_of_eq_some sent
          obtain ⟨done, order⟩ := inv.log (.called i (.inr .popEvent) (.ok (some cmd)))
            { s.shared with events := rest } running
          have now : taken k channel (s.log (.called i (.inr .popEvent) (.ok (some cmd)))
              { s.shared with events := rest }) = (i, msg) :: taken k channel s := by
            simp [taken, sent]
          refine ⟨lows, by rw [now]; exact fifo, ?_, ?_⟩
          · rw [now]
            exact fun worker listed => done _ (ended worker listed)
          · rw [now]
            refine .cons (fun early listed later c answer earlier is => ?_) order
            -- The worker has made no call before.
            cases later with
            | nil => simp
            | cons first others =>
              have called : .called i c answer ∈ s.history := by
                rw [(List.cons.inj is).2]
                exact List.mem_append_right _ List.mem_cons_self
              have none := Scene.mem_transcript.mpr called
              rw [transcript_of_pop rule] at none
              cases none
    | tryMarkExecuting conn type =>
      have same : (s.shared.tryMarkExecuting conn type).2.events = s.shared.events := by
        unfold Server.tryMarkExecuting
        split <;> rfl
      exact inv.quiet running rfl (same ▸ inv.lows)
        (inv.fifo.trans (congrArg (fun q => (queued k channel q).reverse ++ _) same.symm))
    | _ => exact inv.quiet running rfl inv.lows inv.fifo

end Step

/-! ## Every interleaving -/

/-- **Messages keep their order.**  Any run from an empty queue in which a message of the
connection for the channel is taken only when the workers that have taken one before are done:
the messages are taken in the order they were received in, and whatever is called for one, to
store it and to fan it out, is called before anything is called for a later one. -/
theorem sent_in_order (mode : WriteMode) (k : GlobalConnId) (channel : ChannelId) (server : Server)
    (empty : server.events.high = [] ∧ server.events.low = []) (moves : List (Move Job ServerEnv))
    (serial : Staged (Pool.step (engine mode)) (Pool.NextCall (Serial k channel))
      (Pool.idle server) moves) :
    let s := (run (Pool.step (engine mode)) (Pool.idle server) moves).scene
    (taken k channel s).map Prod.snd <:+ received k channel s ∧
      (taken k channel s).Pairwise fun late early => Precedes s early.1 late.1 := by
  intro s
  have begins : Inv k channel { shared := server } := by
    refine ⟨by rw [empty.2]; exact nofun, by rw [queued, empty.1]; rfl, nofun, .nil⟩
  have preserves : (engineDiscipline (fun _ _ _ => True) (fun _ _ _ => True) mode).Preserves
      (fun _ _ => True) (Serial k channel) (Inv k channel) := by
    constructor
    · intro s n job inv _ fresh
      exact inv.quiet (Scene.not_returned_of_fresh fresh) rfl inv.lows inv.fifo
    · exact fun _ _ _ _ _ inv _ running rule serial => inv.call rule running serial
    · exact fun _ _ _ _ inv _ running _ => inv.quiet running rfl inv.lows inv.fifo
  have inv : Inv k channel s := Discipline.run_inv
    (fun _ _ _ => engine_keeps fun cmd => .of_only (perform_works mode cmd)
      (fun _ _ _ _ => ⟨trivial, fun _ _ => trivial⟩) trivial) preserves
    (serial.mono fun _ _ calls => calls.next fun _ _ => trivial) begins
  exact ⟨⟨_, inv.fifo.symm⟩, inv.order⟩

end MessageOrder

/-! ## Two workers -/

namespace Overtaken

open Lobby

/-- Bob has opened the channel. -/
def lobby : Server :=
  { Lobby.server with
    world := { Lobby.world with
      subscriptions :=
        (Lobby.world.subscriptions.subscribeConnection phone (.channelTopic home general)).2 } }

def sequel : SendMessage := { greeting with content := "again" }

/-- Alice sends two messages. -/
def sent : List (Move Job ServerEnv) :=
  [.start (.receive (.sendMessage desk greeting)), .turn 0 {}, .turn 0 {},
    .start (.receive (.sendMessage desk sequel)), .turn 1 {}, .turn 1 {}]

def after (moves : List (Move Job ServerEnv)) : EnginePool :=
  run (Pool.step (engine .asynchronous)) (Pool.idle lobby) (sent ++ moves)

/-- Worker `i` goes on; a message is queued under the id. -/
def works (i : Nat) (id : String) (n : Nat) : List (Move Job ServerEnv) :=
  List.replicate n (.turn i { sends with messageId := ⟨id⟩ })

/-- Two workers take them, and the second is faster. -/
def raced : List (Move Job ServerEnv) :=
  [.start .work] ++ works 2 "m" 1 ++ [.start .work] ++ works 3 "n" 16 ++ works 2 "m" 9

/-- The second message is handed to the writer and fanned out before the first. -/
theorem sequel_is_first :
    MessageOrder.received desk general (after raced).scene = [sequel, greeting] ∧
      (after raced).scene.shared.store.writer.arrived.map (fun req => req.msg.text) =
        [sequel.content, greeting.content] ∧
      (after raced).scene.shared.outgoing.map (fun out => out.notice) =
        [.stateDelta ⟨home, [.messageAppend general (greeting.message alice ⟨"m"⟩ [] none)]⟩,
          .stateDelta ⟨home, [.messageAppend general (sequel.message alice ⟨"n"⟩ [] none)]⟩] := by
  decide +kernel

/-- One worker after the other. -/
def single : List (Move Job ServerEnv) :=
  [.start .work] ++ works 2 "m" 16 ++ [.start .work] ++ works 3 "n" 9

theorem sent_in_order_single :
    let s := (after single).scene
    MessageOrder.taken desk general s = [(3, sequel), (2, greeting)] ∧
      (MessageOrder.taken desk general s).map Prod.snd <:+ MessageOrder.received desk general s ∧
      (MessageOrder.taken desk general s).Pairwise fun late early =>
        MessageOrder.Precedes s early.1 late.1 :=
  ⟨by decide +kernel, MessageOrder.sent_in_order .asynchronous desk general lobby ⟨rfl, rfl⟩
    (sent ++ single) (by decide +kernel)⟩

end Overtaken

end Kergit
