import Kergit.Lib.Lifting
import Kergit.EventQueue
import Kergit.Handlers
import Kergit.MessageWrites
import Kergit.SendMessage
import Kergit.Snapshots

/-!
The workers with all they share.

To the handlers of `Handlers` come MESSAGE_SEND and VOICE_ACTIVITY, the messages and
their writer, the voice sessions, the event queue, and the outgoing queue: when a
handler has returned, its worker pushes what it sends, one notice after the other.

A call is of the handlers' kind or a `DeskCall`.  The handlers know messages and the
event queue as something outside; here they are what is outside, so a fetch answers
with the rows there are and AUTH finds the queue as full as it is.
-/

namespace Kergit

open Lib

open HubProg (session subscription)

open Snapshots (Sane exec_sane)

open VoiceState (Refusal)

/-- What a worker is given to do; and one step of the asynchronous writer's thread. -/
inductive Command where
  | request (r : Request)
  | sendMessage (conn : GlobalConnId) (cmd : SendMessage)
  | voiceActivity (conn : GlobalConnId) (hub : HubId) (channel : ChannelId) (muted deafened : Bool)
  | writeNext
deriving DecidableEq

inductive CommandType where
  | auth
  | activeChannel
  | voiceActivity
  | messageSend
  | hubCreate
  | hubJoin
  | hubCreateJoinCode
  | hubLeave
  | hubRemove
  | hubMemberKick
  | hubUpdate
  | hubMemberRoleUpdate
  | channelCreate
  | channelUpdate
  | channelRemove
deriving DecidableEq, Repr

namespace Command

/-- The connection of a command and the type of its envelope; the events of a connection
come without one. -/
def envelope : Command → Option (GlobalConnId × CommandType)
  | request (.authenticate conn _ _) => some (conn, .auth)
  | request (.bootstrap _ _) => none
  | request (.disconnect _) => none
  | request (.selectActiveChannel conn _ _ _ _) => some (conn, .activeChannel)
  | request (.createChannel conn _ _ _) => some (conn, .channelCreate)
  | request (.renameChannel conn _ _ _) => some (conn, .channelUpdate)
  | request (.removeChannel conn _ _) => some (conn, .channelRemove)
  | request (.createHub conn _) => some (conn, .hubCreate)
  | request (.updateHub conn _ _ _) => some (conn, .hubUpdate)
  | request (.deleteHub conn _) => some (conn, .hubRemove)
  | request (.joinHubByInvite conn _) => some (conn, .hubJoin)
  | request (.leaveHub conn _) => some (conn, .hubLeave)
  | request (.kickHubMember conn _ _) => some (conn, .hubMemberKick)
  | request (.updateHubMemberRole conn _ _ _) => some (conn, .hubMemberRoleUpdate)
  | request (.getHubInvite conn _) => some (conn, .hubCreateJoinCode)
  | sendMessage conn _ => some (conn, .messageSend)
  | voiceActivity conn _ _ _ _ => some (conn, .voiceActivity)
  | writeNext => none

def priority : Command → EventPriority
  | voiceActivity _ _ _ _ _ => .low
  | request _ | sendMessage _ _ | writeNext => .high

end Command

/-! ## What is shared -/

/-- A message to be sent: its text, and what goes with it. -/
structure Draft where
  channelId : ChannelId
  senderId : UserId
  content : String
  attachments : List MessageAttachment
  linkPreview : Option MessageLinkPreview
deriving DecidableEq, Repr

-- `MessageService::sendMessage`, the message that is queued.
def Draft.toMessage (draft : Draft) (id : MessageId) (now : Nat) : Message where
  id
  chId := draft.channelId
  senderId := draft.senderId
  text := draft.content
  attachments := draft.attachments
  linkPreview := draft.linkPreview
  createdAtUnixUs := now

structure Server where
  world : World
  store : MessageStore
  voice : VoiceSessionManager := .empty
  events : EventQueue Command := {}
  /-- The commands in flight, by connection and type. -/
  executing : List (GlobalConnId × CommandType) := []
  /-- What has been pushed to the outgoing queue, latest first. -/
  outgoing : List Outgoing := []

/-- Nothing goes wrong, and there are no channels. -/
def InsertScript.plain : InsertScript where
  dir := { channelType := fun _ => none, deleted := fun _ => none }
  draws := fun _ => { attachmentId := fun _ => "0", drawn := fun _ => by decide }

/-- What a call finds outside: besides a `CallEnv`, what befalls the transaction of a
message, whether messages can be read, and the id and the time of a queued message. -/
structure ServerEnv extends CallEnv where
  script : InsertScript := .plain
  readable : Bool := true
  messageId : MessageId := {}
  now : Nat := 0

/-! ## Calls -/

inductive DeskCall where
  | sendMessage (draft : Draft)
  | enqueue (draft : Draft)
  | arrive (ticket : Nat)
  | writeNext
  | userChannel (user : UserId)
  | userSession (user : UserId)
  | participantsInChannel (channel : ChannelId)
  | setDeafened (user : UserId) (deafened : Bool)
  | setMuted (user : UserId) (muted : Bool)
  | getUserSessionIds (user : UserId)
  | getSessionIdConnections (sessionId : Nat)
  | pushEvent (cmd : Command)
  | popEvent
  | tryMarkExecuting (conn : GlobalConnId) (type : CommandType)
  | unmarkExecuting (conn : GlobalConnId) (type : CommandType)
  | push (out : Outgoing)

@[reducible] def DeskCall.Answer : DeskCall → Type
  | sendMessage _ => Option Message
  | enqueue _ => Option WriteRequest
  | arrive _ | writeNext | push _ | unmarkExecuting _ _ => Unit
  | userChannel _ => Option ChannelId
  | userSession _ => Option Nat
  | participantsInChannel _ => List ParticipantInfo
  | setDeafened _ _ | setMuted _ _ | tryMarkExecuting _ _ => Bool
  | getUserSessionIds _ => List Nat
  | getSessionIdConnections _ => List GlobalConnId
  | pushEvent _ => EventQueue.PushResult
  | popEvent => Option Command

/-- A call of the handlers' kind, or one of the rest. -/
abbrev ServerCall : Type := HubCall ⊕ DeskCall

abbrev ServerCall.Answer : ServerCall → Type := Answers HubCall.Answer DeskCall.Answer

def MessageRepository.fetchMessagesAfter (r : MessageRepository) (channel : ChannelId)
    (after limit : Nat) : List Message :=
  ((((r.tables.messages.filter fun row => row.channelId = channel ∧ after < row.messageSeq).insertionSort
    MessageRow.Newer).reverse).take limit).map r.message

-- `MessageRepository::sendMessage`, its transaction: the message it returns, if it
-- does, and the tables.
def InsertScript.send (script : InsertScript) (draft : Draft) (r : MessageRepository) :
    Option Message × MessageRepository :=
  match TransactionRunner.write script.toFaultScript
      (fun attempt r => r.sendMessage script.dir (script.draws attempt) draft.channelId
        draft.senderId draft.content draft.attachments draft.linkPreview) r with
  | (.ok msg, r') => (some msg, r')
  | (.error _, r') => (none, r')

namespace Server

variable (s : Server)

-- `MessageService::fetchMessages`, `fetchMessagesAfter`; PostgreSQL takes no
-- negative limit.
def fetch (env : ServerEnv) (channel : ChannelId) (after : Option Nat) (limit : Int) :
    Option (List Message) :=
  if env.readable = true ∧ 0 ≤ limit then
    match after with
    | none => some (s.store.repository.fetchMessages channel limit.toNat)
    | some seq => some (s.store.repository.fetchMessagesAfter channel seq limit.toNat)
  else none

/-- What a handler's call finds outside: the messages there are, and an event queue that
throws nothing. -/
def outlook (env : ServerEnv) : HubCall → CallEnv
  | .outside (.fetchMessages channel after limit) =>
    { env.toCallEnv with thrown := none, fetched := s.fetch env channel after limit }
  | .outside (.pushConnectionEvent _ _) => { env.toCallEnv with thrown := none }
  | _ => env.toCallEnv

-- `AuthenticateCommand::execute`, the ConnectionEvent; whether the queue took it
-- is not looked at.
def eventsAfter : HubCall → EventQueue Command
  | .outside (.pushConnectionEvent conn user) =>
    (s.events.push .high (.request (.bootstrap conn user))).2
  | _ => s.events

def enqueue (env : ServerEnv) (draft : Draft) : Option WriteRequest × Server :=
  let msg := draft.toMessage env.messageId env.now
  (if s.store.writer.queue.Free then some { msg, ticket := s.store.writer.tickets } else none,
    { s with store := s.store.step (.enqueue msg) })

def arrive (ticket : Nat) : Server :=
  { s with
    store := s.store.step (.arrive (s.store.writer.arriving.findIdx fun req => req.ticket = ticket)) }

end Server

def Server.tryMarkExecuting (s : Server) (conn : GlobalConnId) (type : CommandType) :
    Bool × Server :=
  if (conn, type) ∈ s.executing then (false, s)
  else (true, { s with executing := (conn, type) :: s.executing })

def DeskCall.exec (env : ServerEnv) (s : Server) : (c : DeskCall) → c.Answer × Server
  | sendMessage draft =>
    ((env.script.send draft s.store.repository).1,
      { s with store := { s.store with repository := (env.script.send draft s.store.repository).2 } })
  | enqueue draft => s.enqueue env draft
  | arrive ticket => ((), s.arrive ticket)
  | writeNext => ((), { s with store := s.store.step (.work env.script) })
  | userChannel user => (s.voice.userChannel user, s)
  | userSession user => (s.voice.userSession user, s)
  | participantsInChannel channel => (s.voice.participantsInChannel channel, s)
  | setDeafened user deafened =>
    ((s.voice.setDeafened user deafened).1, { s with voice := (s.voice.setDeafened user deafened).2 })
  | setMuted user muted =>
    ((s.voice.setMuted user muted).1, { s with voice := (s.voice.setMuted user muted).2 })
  | getUserSessionIds user => (s.world.sessions.getUserSessionIds user, s)
  | getSessionIdConnections sessionId => (s.world.sessions.getSessionIdConnections sessionId, s)
  | pushEvent cmd =>
    ((s.events.push cmd.priority cmd).1, { s with events := (s.events.push cmd.priority cmd).2 })
  | popEvent =>
    match s.events.pop with
    | none => (none, s)
    | some (cmd, events) => (some cmd, { s with events })
  | tryMarkExecuting conn type => s.tryMarkExecuting conn type
  | unmarkExecuting conn type => ((), { s with executing := s.executing.erase (conn, type) })
  | push out => ((), { s with outgoing := out :: s.outgoing })

/-- One call. -/
def Server.exec (env : ServerEnv) :
    (c : ServerCall) → Server → Except Thrown (ServerCall.Answer c) × Server
  | .inl c, s =>
    ((World.exec (s.outlook env c) c s.world).1,
      { s with
        world := (World.exec (s.outlook env c) c s.world).2
        events := s.eventsAfter c })
  | .inr c, s => (.ok (c.exec env s).1, (c.exec env s).2)

/-! ## Handlers -/

abbrev ServerProg := Prog ServerCall ServerCall.Answer Thrown

namespace ServerProg

def hub {α : Type} (p : HubProg α) : ServerProg α := p.lift

def desk (c : DeskCall) : ServerProg c.Answer := Prog.ask (Sum.inr c : ServerCall)

end ServerProg

open ServerProg (hub desk)

inductive MessageError where
  | repoFailure
  | queueFull
deriving DecidableEq, Repr

namespace Handlers

def saveMessage (mode : WriteMode) (draft : Draft) : ServerProg (Except MessageError Message) :=
  match mode with
  | .synchronous => do
    match ← desk (.sendMessage draft) with
    | none => return .error .repoFailure
    | some saved => return .ok saved
  | .asynchronous => do
    match ← desk (.enqueue draft) with
    | none => return .error .queueFull
    | some req =>
      desk (.arrive req.ticket)
      return .ok req.msg

def postMessage (mode : WriteMode) (hubId : HubId) (draft : Draft) : ServerProg Reply := do
  match ← saveMessage mode draft with
  | .error .queueFull =>
    return .refused (.error .rateLimited "Message queue is full, try again later")
  | .error .repoFailure => return .refused (.error .internalError "Failed to send message")
  | .ok saved =>
    let subs ← hub (subscription (.getSubscribers (.channelTopic hubId draft.channelId)))
    return .done (Outgoing.delta subs hubId [.messageAppend draft.channelId saved])

-- `SendMessageCommand::execute`, the checks that look something up.
def draftMessage (conn : GlobalConnId) (cmd : SendMessage) : HubProg (Except Refusal Draft) := do
  if cmd.hubId.value = "" ∨ cmd.channelId.value = "" then
    return .error (.error .invalidArgument "channel.hub_id and channel.channel_id are required")
  else
    match ← session (.sessionOfConnection conn) with
    | .error _ => return .error (.drop .forbidden "Authenticate before sending messages")
    | .ok user =>
      match cmd.check user with
      | .error refusal => return .error refusal
      | .ok (attachments, linkPreview) =>
        match ← HubService.getChannel cmd.channelId with
        | none => return .error (.error .notFound "Channel not found")
        | some info =>
          if info.hubId ≠ cmd.hubId then return .error (.error .notFound "Channel not found")
          else if ← HubService.isHubMember cmd.hubId user then
            return .ok ⟨cmd.channelId, user, cmd.content, attachments, linkPreview⟩
          else
            return .error
              (.error .forbidden "Must be a member of the channel's hub to send messages")

def sendMessage (mode : WriteMode) (conn : GlobalConnId) (cmd : SendMessage) :
    ServerProg Reply := do
  match ← hub (draftMessage conn cmd) with
  | .error refusal => return .refused refusal
  | .ok draft => postMessage mode cmd.hubId draft

-- `VoiceChannelActivityCommand::execute`, the checks before the voice sessions:
-- the user, and the session of the connection.
def checkActivity (conn : GlobalConnId) (hubId : HubId) (channel : ChannelId) :
    HubProg (Except Refusal (UserId × Nat)) := do
  if hubId.value = "" ∨ channel.value = "" then
    return .error (.error .invalidArgument "channel.hub_id and channel.channel_id are required")
  else
    match ← session (.sessionOfConnection conn) with
    | .error _ => return .error (.drop .unauthorized "Authenticate first")
    | .ok user =>
      match ← session (.sessionIdOfConnection conn) with
      | .error _ => return .error (.drop .unauthorized "Runtime session missing")
      | .ok sessionId =>
        match ← HubService.getChannel channel with
        | none => return .error (.error .notFound "Channel not found")
        | some info =>
          if info.hubId ≠ hubId then return .error (.error .notFound "Channel not found")
          else if info.type ≠ .voice then
            return .error (.error .invalidArgument "Channel is not a voice channel")
          else if ← HubService.isHubMember hubId user then return .ok (user, sessionId)
          else return .error (.error .forbidden "Join the hub before updating voice state")

/-- The participant's entry in a channel. -/
def flagsOf (user : UserId) (channel : ChannelId) : ServerProg (Option ParticipantInfo) := do
  let present ← desk (.participantsInChannel channel)
  return present.find? fun info => info.userId = user

/-- A flag is set where it is not as desired; whether that changed anything. -/
def setFlag (current desired : Bool) (set : Bool → ServerProg Bool) : ServerProg Bool :=
  if current ≠ desired then set desired else return false

-- `VoiceChannelActivityCommand::execute`, what is sent after a change.
def tellVoice (user : UserId) (hubId : HubId) (channel : ChannelId) : ServerProg Reply := do
  let final ← flagsOf user channel
  let subs ← hub (subscription (.getSubscribers (.hubTopic hubId)))
  let sessions ← desk (.getUserSessionIds user)
  let own ← Prog.collect (fun sessionId => do
    let conns ← desk (.getSessionIdConnections sessionId)
    return Outgoing.toAny conns (.voiceSelfStatus (some channel) (some hubId))) sessions
  return .done (Outgoing.delta subs hubId
      [.voiceUpsert channel user (final.elim false fun info => info.muted)
        (final.elim false fun info => info.deafened)] ++
    own.flatten)

def changeFlags (user : UserId) (hubId : HubId) (channel : ChannelId) (muted deafened : Bool) :
    ServerProg Reply := do
  match ← flagsOf user channel with
  | none => return .done
  | some current =>
    if current.muted = (muted || deafened) ∧ current.deafened = deafened then return .done
    else
      let first ← setFlag current.deafened deafened fun flag => desk (.setDeafened user flag)
      match ← flagsOf user channel with
      | none => return .done
      | some current =>
        let second ← setFlag current.muted (muted || deafened) fun flag => desk (.setMuted user flag)
        if first || second then tellVoice user hubId channel else return .done

def voiceActivity (conn : GlobalConnId) (hubId : HubId) (channel : ChannelId)
    (muted deafened : Bool) : ServerProg Reply := do
  match ← hub (checkActivity conn hubId channel) with
  | .error refusal => return .refused refusal
  | .ok (user, sessionId) =>
    let current ← desk (.userChannel user)
    let owner ← desk (.userSession user)
    match current with
    | none => return .refused (.error .invalidArgument "Join a voice channel first")
    | some current =>
      if owner.any fun owner => owner ≠ sessionId then
        return .refused (.error .forbidden "Voice is connected from another session")
      else if current ≠ channel then
        return .refused
          (.error .invalidArgument "Voice activity must target the active voice channel")
      else changeFlags user hubId channel muted deafened

end Handlers

/-! ## The machine -/

-- `WorkerPool::worker_loop`, past the pop: the handler, and the pushes of what it
-- returns.
def serve (conn : GlobalConnId) (handler : ServerProg Reply) : ServerProg Reply := do
  let reply ← handler
  Prog.forEach (fun out => desk (.push out)) (reply.outgoing conn)
  return reply

def Command.prog (mode : WriteMode) : Command → ServerProg Reply
  | request r => serve r.conn (hub r.prog)
  | sendMessage conn cmd => serve conn (Handlers.sendMessage mode conn cmd)
  | voiceActivity conn hubId channel muted deafened =>
    serve conn (Handlers.voiceActivity conn hubId channel muted deafened)
  | writeNext => do
    desk .writeNext
    return .done

/-- Any number of commands at once, in any order; `mode` is fixed at the start of the
process. -/
def server (mode : WriteMode) :
    Machine ServerCall ServerCall.Answer Thrown Command Reply Server ServerEnv where
  exec := Server.exec
  prog := Command.prog mode

abbrev ServerScene := Scene ServerCall ServerCall.Answer Thrown Command Reply Server

abbrev ServerPool := Pool ServerCall ServerCall.Answer Thrown Command Reply Server

abbrev ServerEvent := Event ServerCall ServerCall.Answer Thrown Command Reply

/-- The scene after a call. -/
abbrev Server.after (s : Scene ServerCall ServerCall.Answer Thrown Cmd Reply Server) (i : Nat)
    (env : ServerEnv) (c : ServerCall) :=
  s.log (.called i c (exec env c s.shared).1) (exec env c s.shared).2

abbrev ServerTranscript := Transcript ServerCall ServerCall.Answer Thrown

abbrev ServerEntry := (c : ServerCall) × Except Thrown (ServerCall.Answer c)

/-! ## What a call can answer -/

/-- The rest throws as little as the managers do. -/
def SaneCall : (c : ServerCall) → Except Thrown (ServerCall.Answer c) → Prop
  | .inl c, answer => Sane c answer
  | .inr _, answer => ∃ a, answer = .ok a

theorem exec_saneCall (env : ServerEnv) (c : ServerCall) (s : Server) :
    SaneCall c (Server.exec env c s).1 := by
  cases c with
  | inl c => exact exec_sane _ c s.world
  | inr c => exact ⟨_, rfl⟩

section Subscribe

variable {α : Type} {Rule : HubTranscript → HubCall → Prop}
  {R : Except Thrown α → HubTranscript → Prop} {conn : GlobalConnId} {topic : Topic}
  {f : Unit → HubProg α} {t : HubTranscript}

/-- A connection is subscribed, and what follows. -/
theorem bind_subscribe (rule : Rule t (.subscription (.subscribeConnection conn topic)))
    (rest : ∀ added, (f ()).Along Sane Rule R
      (⟨.subscription (.subscribeConnection conn topic), .ok added⟩ :: t)) :
    (Handlers.subscribe conn topic >>= f).Along Sane Rule R t := by
  refine ⟨rule, ?_⟩
  rintro _ ⟨added, rfl⟩
  exact rest added

end Subscribe

/-! ## Messages stay -/

/-- A row with the id is stored in the channel. -/
def MessageRepository.StoredIn (r : MessageRepository) (channel : ChannelId) (id : MessageId) :
    Prop :=
  ∃ row ∈ r.tables.messages, row.id = id ∧ row.channelId = channel

instance (r : MessageRepository) (channel : ChannelId) (id : MessageId) :
    Decidable (r.StoredIn channel id) :=
  List.decidableBEx (fun row : MessageRow => row.id = id ∧ row.channelId = channel)
    r.tables.messages

/-- What sending a message can do: it is stored and returned, or nobody is told. -/
inductive Sent (draft : Draft) (r : MessageRepository) : Option Message × MessageRepository → Prop
  | stored (msg : Message) (r' : MessageRepository) (row : MessageRow)
    (rows : r'.tables.messages = r.tables.messages ++ [row]) (id : row.id = msg.id)
    (channel : row.channelId = draft.channelId) (here : msg.chId = draft.channelId) :
    Sent draft r (some msg, r')
  | unsure (r' : MessageRepository) (grown : r.tables.messages ⊆ r'.tables.messages) :
    Sent draft r (none, r')

theorem send_cases (script : InsertScript) (draft : Draft) (r : MessageRepository) :
    Sent draft r (script.send draft r) := by
  have written := TransactionRunner.write_cases script.toFaultScript
    (fun attempt (r : MessageRepository) => r.sendMessage script.dir (script.draws attempt)
      draft.channelId draft.senderId draft.content draft.attachments draft.linkPreview) r
  unfold InsertScript.send
  generalize TransactionRunner.write _ _ r = result at written ⊢
  cases written with
  | done attempt msg r' reached is =>
    obtain ⟨takes, rfl, tables⟩ := (MessageRepository.sendMessage_eq_some rfl).mp is
    exact .stored _ _ _ (congrArg MessageTables.messages tables) rfl rfl rfl
  | undone e => exact .unsure r fun _ listed => listed
  | inDoubt attempt msg r' reached broken is =>
    obtain ⟨takes, rfl, tables⟩ := (MessageRepository.sendMessage_eq_some rfl).mp is
    refine .unsure r' ?_
    rw [tables]
    exact List.subset_append_left _ _

/-- A message that is returned is stored in its channel. -/
theorem send_some {script : InsertScript} (sent : (script.send draft r).1 = some msg) :
    msg.chId = draft.channelId ∧ (script.send draft r).2.StoredIn msg.chId msg.id := by
  have cases_ := send_cases script draft r
  generalize script.send draft r = result at cases_ sent ⊢
  cases cases_ with
  | unsure r' grown => nomatch sent
  | stored found r' row rows id channel here =>
    obtain rfl := Option.some.inj sent
    refine ⟨here, row, ?_, id, channel.trans here.symm⟩
    rw [rows]
    exact List.mem_append_right _ List.mem_cons_self

theorem insert_grows (script : InsertScript) (msg : Message) (r : MessageRepository) :
    r.tables.messages ⊆ (script.insert msg r).2.tables.messages := by
  have grown : ∀ {draws r'}, r.insertMessage script.dir draws msg = some r' →
      r.tables.messages ⊆ r'.tables.messages := by
    intro draws r' is
    rw [(MessageRepository.insertMessage_eq_some.mp is).2]
    exact List.subset_append_left _ _
  have inserted := insert_cases script msg r
  generalize script.insert msg r = result at inserted ⊢
  cases inserted with
  | stored draws r' is => exact grown is
  | refused => exact fun _ listed => listed
  | inDoubt draws r' is unsure => exact grown is

/-- The rest of the calls leaves the handlers' world alone. -/
theorem exec_desk_world (env : ServerEnv) (c : DeskCall) (s : Server) :
    (c.exec env s).2.world = s.world := by
  cases c with
  | popEvent =>
    simp only [DeskCall.exec]
    split <;> rfl
  | tryMarkExecuting conn type =>
    simp only [DeskCall.exec, Server.tryMarkExecuting]
    split <;> rfl
  | _ => rfl

/-- No call takes a stored message away. -/
theorem exec_grows (env : ServerEnv) (c : ServerCall) (s : Server) :
    s.store.repository.tables.messages ⊆
      (Server.exec env c s).2.store.repository.tables.messages := by
  cases c with
  | inl c => exact fun _ listed => listed
  | inr c =>
    cases c with
    | sendMessage draft =>
      have sent := send_cases env.script draft s.store.repository
      simp only [Server.exec, DeskCall.exec]
      generalize env.script.send draft s.store.repository = result at sent ⊢
      cases sent with
      | stored msg r' row rows id channel here =>
        rw [rows]
        exact List.subset_append_left _ _
      | unsure r' grown => exact grown
    | writeNext =>
      simp only [Server.exec, DeskCall.exec, MessageStore.step]
      cases at_ : s.store.writer.phase with
      | writing req =>
        rw [MessageStore.outcome_writing at_]
        exact insert_grows _ _ _
      | popping | popped req | retrying req | pushing req =>
        rw [MessageStore.outcome_idle (by simp [at_])]
        exact fun _ listed => listed
    | popEvent =>
      simp only [Server.exec, DeskCall.exec]
      split <;> exact fun _ listed => listed
    | tryMarkExecuting conn type =>
      simp only [Server.exec, DeskCall.exec, Server.tryMarkExecuting]
      split <;> exact fun _ listed => listed
    | _ => exact fun _ listed => listed

section Serve

variable {Law : ServerTranscript → ServerCall → Prop}
  {Q End : Except Thrown Reply → ServerTranscript → Prop} {conn : GlobalConnId}
  {handler : ServerProg Reply} {t : ServerTranscript}

/-- A part that makes the handlers' calls only. -/
theorem hub_along (along : p.Along Sane Rule R t.firsts)
    (law : ∀ t c, Rule t.firsts c → Law t (.inl c)) :
    (hub p).Along SaneCall Law (fun r t' => R r t'.firsts ∧ t'.seconds = t.seconds) t :=
  along.lift (fun _ _ sane => sane) law

/-- The pushes of a list, each made with what holds before it, `K`. -/
theorem pushAll_along {K : ServerTranscript → Prop} (each : ∀ out t, out ∈ outs → K t →
      Law t (.inr (.push out)) ∧ K (⟨.inr (.push out), .ok ()⟩ :: t)) (start : K t) :
    (Prog.forEach (fun out => desk (.push out)) outs).Along SaneCall Law (fun
        | .ok _ => fun t => K t ∧ ∀ out ∈ outs, ⟨.inr (.push out), .ok ()⟩ ∈ t
        | .error _ => fun _ => False) t := by
  -- What is left to push, and what has been pushed.
  refine (Prog.Along.forEach
    (fun rest t => K t ∧ (∀ out ∈ rest, out ∈ outs) ∧
      ∀ out ∈ outs, out ∈ rest ∨ ⟨.inr (.push out), .ok ()⟩ ∈ t)
    (fun _ _ => False) (fun out rest t held => ?_)
    ⟨start, fun _ listed => listed, fun _ => .inl⟩).mono ?_
  · obtain ⟨kept, listed, pushed⟩ := held
    obtain ⟨law, kept'⟩ := each out t (listed out List.mem_cons_self) kept
    refine Prog.Along.ask law fun answer sane => ?_
    obtain ⟨_, rfl⟩ := sane
    grind
  · grind

/-- A worker keeps the law if its handler does and its pushes do, each with what the
handler has left behind, `K`. -/
theorem serve_along (K : Reply → ServerTranscript → Prop)
    (first : handler.Along SaneCall Law Q t) (start : ∀ reply t, Q (.ok reply) t → K reply t)
    (each : ∀ reply out t, out ∈ reply.outgoing conn → K reply t →
      Law t (.inr (.push out)) ∧ K reply (⟨.inr (.push out), .ok ()⟩ :: t))
    (ends : ∀ reply t, K reply t →
      (∀ out ∈ reply.outgoing conn, ⟨.inr (.push out), .ok ()⟩ ∈ t) → End (.ok reply) t)
    (thrown : ∀ e t, Q (.error e) t → End (.error e) t) :
    (serve conn handler).Along SaneCall Law End t := by
  refine first.bind (fun reply t held => ?_) thrown
  refine (pushAll_along (each reply) (start reply t held)).bind (fun _ t held => ?_) ?_
  · exact ends reply t held.1 held.2
  · exact fun e t broken => absurd broken id

end Serve

namespace Lobby

/-- Nothing has been written, and the writer has room for eight messages. -/
def server : Server where
  world := world
  store := ⟨.fresh 8 3, .empty⟩

/-- Alice greets the channel. -/
def greeting : SendMessage where
  hubId := home
  channelId := general
  content := "hi"

/-- The message gets an id, and the database takes it. -/
def sends : ServerEnv where
  script :=
    { dir := { channelType := fun _ => some .chat, deleted := fun _ => some false }
      draws := fun _ =>
        { messageId := ⟨"m"⟩, attachmentId := fun _ => "a", drawn := fun _ => by decide } }
  messageId := ⟨"m"⟩

/-- Task `i` takes `n` turns. -/
def steps {Cmd : Type} (i n : Nat) (env : ServerEnv := {}) : List (Move Cmd ServerEnv) :=
  List.replicate n (.turn i env)

end Lobby

end Kergit
