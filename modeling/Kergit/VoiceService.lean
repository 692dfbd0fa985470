import Kergit.ChannelKeyService

/-!
`VoiceService`: LiveKit's events, the reconcile pass, restart recovery and the
join token.

LiveKit is the authority on who is in a room, and its events reach the service
as webhooks in any order, more than once or never.  A join is admitted only
against a pending intent; a leave is applied only when it fits the tracked
session or the intent's old channel; and reconcile compares a whole room with
the tracked members.  The two event handlers are cut into the decision
(`correlatedIntent`, `leavingCurrentVoice`, `oldLeaveForSwitch`) and the update
it selects, so that a proof about the update never reopens the decision.
-/

namespace Kergit

open Lib

-- `LivekitEvent.h`.  The track, egress and ingress types are logged and
-- nothing else; they are one constructor here.
inductive LiveKitEventType where
  | roomStarted
  | roomFinished
  | participantJoined
  | participantLeft
  | participantConnectionAborted
  | telemetry
  | unknown
deriving DecidableEq, Repr

structure LiveKitEvent where
  type : LiveKitEventType
  eventId : String := ""
  rawEventName : String := ""
  channelId : ChannelId
  userId : UserId := {}
  appSessionId : Nat := 0
  intentNonce : String := ""
  nodeId : String := ""
  timestampMs : Nat := 0
deriving DecidableEq, Repr

namespace VoiceState

variable (cfg : Config) (env : Env) (s : VoiceState)

/-! ## LiveKit removals -/

section

variable (channel : ChannelId)

def kickUser (target : UserId) : Bool × VoiceState :=
  match s.anyNode.1 with
  | none => (false, s.anyNode.2)
  | some node =>
    (env.removeParticipant node.privateHost channel target,
      s.anyNode.2.emit (.removeParticipant channel target))

-- `verified_kick_user`: no node counts as done, and a refused removal
-- counts as done when LiveKit no longer lists the user.
def verifiedKickUser (target : UserId) : Bool × VoiceState :=
  match s.anyNode.1 with
  | none => (true, s.anyNode.2)
  | some node =>
    let removed := env.removeParticipant node.privateHost channel target ||
      match env.listParticipants node.privateHost channel with
      | none => false
      | some participants => !participants.any (·.identity = target)
    (removed, s.anyNode.2.emit (.removeParticipant channel target))

/-! ## Leaving -/

def onChannelEmpty : VoiceState :=
  { s with keys := s.keys.clearChannel env channel, nodes := s.nodes.clearRoom channel }

/-- What every departure ends with: an emptied channel is forgotten, key and
all; one that is still occupied gets a new key. -/
def closeOrRotate (emptied : Bool) : VoiceState :=
  if emptied then
    { s with channelStartedAtUnix := s.channelStartedAtUnix.erase channel }.onChannelEmpty env channel
  else (s.rotateAndBroadcast cfg env channel).2

/-- Tell the hub's subscribers, if the hub lookup answers. -/
def announceRemove (user : UserId) : VoiceState :=
  s.emitAll <| match env.getChannel channel with
    | some info => voiceParticipantRemove env info.hubId channel user
    | none => []

end

/-- Tell the user's own sessions that they are out, and drop the resume id. -/
def dismiss (user : UserId) : VoiceState :=
  { s.emitAll (s.selfStatus env user false none none) with
    resumeRegistry := s.resumeRegistry.clear env.redis user }

/-- The user out of the channel, as far as the tracked members go. -/
def unseated (channel : ChannelId) (user : UserId) : VoiceState :=
  { s with
    sessions := (s.sessions.leave channel user).2
    reconciler := s.reconciler.clearParticipantMissing channel user }

/-- The channel's members gone, with what was suspected of them. -/
def disbanded (channel : ChannelId) : VoiceState :=
  { s with
    sessions := (s.sessions.clearChannel channel).2
    reconciler := s.reconciler.resetChannel channel }

def dismissFrom (channel : ChannelId) (user : UserId) : VoiceState :=
  (s.announceRemove env channel user).dismiss env user

def onChannelFinish (channel : ChannelId) : VoiceState :=
  let removedUsers := (s.sessions.clearChannel channel).1
  let s := removedUsers.foldl (fun s user => s.dismissFrom env channel user) (s.disbanded channel)
  { s with
    nodes := s.nodes.clearRoom channel
    keys := s.keys.clearChannel env channel
    channelStartedAtUnix := s.channelStartedAtUnix.erase channel }

def forceLocalLeave (user : UserId) (channel : ChannelId) : VoiceState :=
  let emptied := (s.sessions.leave channel user).1
  let s := ((s.unseated channel user).announceRemove env channel user).dismiss env user
  s.closeOrRotate cfg env channel emptied

/-! ## Joining -/

section Joined

variable (event : LiveKitEvent)

-- `handle_participant_joined`, the computation of
-- `has_correlated_intent`; the intent it admits under, if any.
def correlatedIntent : Option PendingJoinIntent :=
  match s.pendingIntents.read env.redis event.userId with
  | some intent =>
    if event.channelId ≠ intent.toChannel then none
    else if event.appSessionId ≠ 0 ∨ event.intentNonce ≠ "" then
      if event.appSessionId = intent.sessionId ∧ intent.intentNonce ≠ "" ∧
          event.intentNonce = intent.intentNonce then some intent
      else none
    else if s.sessionManager.getUserSessionIds event.userId = [intent.sessionId] then some intent
    else none
  | none =>
    if event.appSessionId = 0 ∧ event.intentNonce = "" then
      match s.sessionManager.getUserSessionIds event.userId with
      | [sessionId] => some { sessionId, toChannel := event.channelId }
      | _ => none
    else none

/-- A join that repeats what is tracked already. -/
def alreadyOwnerHere : Bool :=
  decide (event.appSessionId ≠ 0 ∧
    s.sessions.voiceState event.userId = some ⟨event.channelId, event.appSessionId⟩)

/-- The seat a join takes: `join`, then the flags of the intent. -/
def seat (intent : PendingJoinIntent) : Bool × VoiceSessionManager :=
  let (first, sessions) := s.sessions.join event.channelId event.userId intent.sessionId
  let sessions := (sessions.setDeafened event.userId intent.deafened).2
  (first, if intent.deafened then sessions else (sessions.setMuted event.userId intent.muted).2)

/-- Give the user a resume id unless there is one. -/
def ensureResumeId (user : UserId) : VoiceState :=
  let missing := (s.resumeRegistry.read user).isNone
  { s with
    resumeRegistry :=
      if missing then s.resumeRegistry.rotate env.redis user (cfg.generateNonceHex s.nonceDraws)
      else s.resumeRegistry
    nonceDraws := if missing then s.nonceDraws + 1 else s.nonceDraws }

/-- The roster messages of a join, if the hub lookup answers. -/
def announceJoin (first : Bool) : VoiceState :=
  let flags := (s.sessions.participantsInChannel event.channelId).find? (·.userId = event.userId)
  s.emitAll <| match env.getChannel event.channelId with
    | some info =>
      (if first then
        s.voiceSnapshot env info.hubId event.channelId
          ((s.channelStartedAtUnix.lookup event.channelId).getD 0)
      else []) ++
        voiceParticipantUpsert env info.hubId event.channelId event.userId
          ((flags.map (·.muted)).getD false) ((flags.map (·.deafened)).getD false)
    | none => []

/-- The clock reading a first join starts the channel at. -/
def startedAt : Nat := if 0 < event.timestampMs then event.timestampMs / 1000 else env.unixNow

/-- The seat taken and recorded; a first join starts the channel's clock. -/
def seated (intent : PendingJoinIntent) : VoiceState :=
  { s with
    sessions := (s.seat event intent).2
    channelStartedAtUnix :=
      if (s.seat event intent).1 then
        s.channelStartedAtUnix.insert event.channelId (startedAt env event)
      else s.channelStartedAtUnix }.emit
    (.voiceJoin event.userId event.channelId (s.sessions.userChannel event.userId) event.intentNonce)

/-- Tell the hub and the user's own sessions about a join. -/
def greet (intent : PendingJoinIntent) (first : Bool) : VoiceState :=
  let s := (s.ensureResumeId cfg env event.userId).announceJoin env event first
  s.emitAll (s.selfStatus env event.userId true (some intent.sessionId) (some event.channelId))

def applyJoin (intent : PendingJoinIntent) : VoiceState :=
  ((s.seated env event intent).greet cfg env event intent (s.seat event intent).1).resyncToUser env
    event.userId

/-- What becomes of the intent once its join is seen. -/
def settleJoin (store : PendingJoinIntentStore) (user : UserId) (intent : PendingJoinIntent) :
    PendingJoinIntentStore :=
  if intent.isSwitch ∧ ¬ intent.oldLeaveSeen then
    (store.update env.redis user { intent with newJoinSeen := true }).2
  else store.clear env.redis user

def handleParticipantJoined : VoiceState :=
  let s := s.onReconciler fun r =>
    (r.clearChannelMissing event.channelId).clearParticipantMissing event.channelId event.userId
  let pending := s.pendingIntents.read env.redis event.userId
  match s.correlatedIntent env event with
  | none =>
    if s.alreadyOwnerHere event then s
    else ((s.onReconciler (·.request event.channelId)).kickUser env event.channelId event.userId).2
  | some intent =>
    let s := s.applyJoin cfg env event intent
    if pending.isSome then
      { s with pendingIntents := settleJoin env s.pendingIntents event.userId intent }
    else s

end Joined

/-! ## `participant_left` -/

section Left

variable (event : LiveKitEvent) (pending : Option PendingJoinIntent)

/-- `matches_owner_session`. -/
def matchesOwnerSession : Bool :=
  decide (event.appSessionId = 0 ∨
    s.sessions.userSession event.userId = some event.appSessionId)

/-- `nonce_mismatch_to_pending`. -/
def nonceMismatchToPending : Bool :=
  match pending with
  | none => false
  | some intent =>
    decide (intent.toChannel = event.channelId ∧ intent.intentNonce ≠ "" ∧
      event.intentNonce ≠ "" ∧ event.intentNonce ≠ intent.intentNonce)

/-- `leaving_current_voice`. -/
def leavingCurrentVoice : Bool :=
  decide (s.sessions.userChannel event.userId = some event.channelId) &&
    s.matchesOwnerSession event && !nonceMismatchToPending event pending

/-- `old_leave_for_switch`, with the intent it belongs to. -/
def oldLeaveForSwitch : Option PendingJoinIntent :=
  pending.filter fun intent => intent.isSwitch && decide (intent.fromChannel = event.channelId)

/-- What becomes of the intent once its old leave is seen. -/
def settleOldLeave (store : PendingJoinIntentStore) (user : UserId)
    (switch : Option PendingJoinIntent) : PendingJoinIntentStore :=
  match switch with
  | none => store
  | some intent =>
    if intent.newJoinSeen then store.clear env.redis user
    else (store.update env.redis user { intent with oldLeaveSeen := true }).2

/-- The records and messages of a leave that was applied. -/
def farewell (switch : Option PendingJoinIntent) : VoiceState :=
  let s := (s.emit (.voiceLeave event.userId event.channelId)).announceRemove env event.channelId
    event.userId
  { s.emitAll (s.selfStatus env event.userId false none none) with
    resumeRegistry :=
      if switch.isSome then s.resumeRegistry else s.resumeRegistry.clear env.redis event.userId }

/-- Note the old leave of a switch in the stored intent. -/
def noteOldLeave (user : UserId) (switch : Option PendingJoinIntent) : VoiceState :=
  { s with pendingIntents := settleOldLeave env s.pendingIntents user switch }

def leaveCurrentVoice (switch : Option PendingJoinIntent) : VoiceState :=
  let emptied := (s.sessions.leave event.channelId event.userId).1
  let s := (s.unseated event.channelId event.userId).farewell env event switch
  (s.closeOrRotate cfg env event.channelId emptied).noteOldLeave env event.userId switch

-- `handle_participant_left`, the branch `old_leave_for_switch` alone: the
-- leave does not fit the tracked seat, and `leave` is called all the same.
def leaveOldChannel (switch : Option PendingJoinIntent) : VoiceState :=
  let s := (s.unseated event.channelId event.userId).announceRemove env event.channelId event.userId
  (s.closeOrRotate cfg env event.channelId (s.sessions.isEmpty event.channelId)).noteOldLeave env
    event.userId switch

def handleParticipantLeft : VoiceState :=
  let pending := s.pendingIntents.read env.redis event.userId
  let switch := oldLeaveForSwitch event pending
  if s.leavingCurrentVoice event pending then s.leaveCurrentVoice cfg env event switch
  else if switch.isSome then s.leaveOldChannel cfg env event switch
  else s.onReconciler (·.request event.channelId)

end Left

/-! ## Webhooks -/

section Webhook

variable (event : LiveKitEvent)

/-- `"voice:webhook_seen:" + event_id`. -/
def webhookSeenKey (eventId : String) : String := "voice:webhook_seen:" ++ eventId

-- `mark_webhook_event_seen`: an event without an id is processed, and so
-- is one whose first delivery Redis cannot vouch for.
def markWebhookEventSeen (eventId : String) : Bool × VoiceState :=
  if eventId = "" then (true, s)
  else
    let answer := env.redis.setnxex webhookSeenKey s.webhookSeen eventId cfg.webhookDedupTtl ()
    (answer.1.getD true, { s with webhookSeen := answer.2 })

/-- `last_ts != 0 && timestamp < last_ts`. -/
def isStale (lastTs timestampMs : Nat) : Bool := decide (lastTs ≠ 0 ∧ timestampMs < lastTs)

def isStaleParticipantEvent : Bool × VoiceState :=
  if event.timestampMs = 0 ∨ event.userId.value = "" then (false, s)
  else
    let lastTs := (s.userLastEventTsMs.lookup event.userId).getD 0
    (isStale lastTs event.timestampMs,
      { s with
        userLastEventTsMs := s.userLastEventTsMs.insert event.userId (max lastTs event.timestampMs) })

def isStaleRoomEvent : Bool × VoiceState :=
  if event.timestampMs = 0 ∨ event.channelId.value = "" then (false, s)
  else
    let lastTs := (s.channelLastRoomEventTsMs.lookup event.channelId).getD 0
    (isStale lastTs event.timestampMs,
      { s with
        channelLastRoomEventTsMs :=
          s.channelLastRoomEventTsMs.insert event.channelId (max lastTs event.timestampMs) })

/-- The two staleness filters, by event type. -/
def isStaleEvent : Bool × VoiceState :=
  match event.type with
  | .participantJoined | .participantLeft | .participantConnectionAborted =>
    s.isStaleParticipantEvent event
  | .roomStarted | .roomFinished => s.isStaleRoomEvent event
  | .telemetry | .unknown => (false, s)

-- `consume_channel_takeover_guard`: erased either way, honoured while it
-- has not run out.
def consumeChannelTakeoverGuard (channel : ChannelId) : Bool × VoiceState :=
  (match s.channelTakeoverGuard.lookup channel with
    | none => false
    | some deadline => decide (env.steadyNow ≤ deadline),
    { s with channelTakeoverGuard := s.channelTakeoverGuard.erase channel })

/-- The node the event's room is bound to; empty when unbound. -/
def currentNodeId : String := ((s.nodes.getRoomNode event.channelId).map (·.nodeId)).getD ""

def onRoomStarted : VoiceState :=
  if s.currentNodeId event = "" then s
  else { s with nodes := s.nodes.incrementRoom event.channelId (s.currentNodeId event) }

def onRoomFinished : VoiceState :=
  let s := { s with nodes := s.nodes.decrementRoom event.channelId }
  match s.consumeChannelTakeoverGuard env event.channelId with
  | (true, s) => s
  | (false, s) =>
    s.onReconciler fun r => (r.resetChannel event.channelId).request event.channelId

def onParticipantJoined : VoiceState :=
  let current := s.currentNodeId event
  let before := s.sessions.userChannel event.userId
  let binds : Bool := event.nodeId ≠ "" && current = ""
  let effective := if binds then event.nodeId else current
  let s := { s with
    nodes := if binds then s.nodes.bindRoom event.channelId event.nodeId else s.nodes }
  let s := s.handleParticipantJoined cfg env event
  let entered := s.sessions.userChannel event.userId = some event.channelId ∧
    before ≠ some event.channelId
  { s with
    nodes := if entered ∧ effective ≠ "" then s.nodes.incrementUser effective else s.nodes }

def onParticipantLeft : VoiceState :=
  let current := s.currentNodeId event
  let nodeMismatch : Bool := event.nodeId ≠ "" && current ≠ "" && event.nodeId ≠ current
  let before := s.sessions.userChannel event.userId
  let s := s.handleParticipantLeft cfg env event
  let left := before = some event.channelId ∧
    s.sessions.userChannel event.userId ≠ some event.channelId
  let counted := if event.nodeId ≠ "" then event.nodeId else current
  let s := { s with
    nodes := if left ∧ counted ≠ "" then s.nodes.decrementUser counted else s.nodes }
  s.onReconciler fun r => if nodeMismatch then r.request event.channelId else r

def dispatch : VoiceState :=
  match event.type with
  | .roomStarted => s.onRoomStarted event
  | .roomFinished => s.onRoomFinished env event
  | .participantJoined => s.onParticipantJoined cfg env event
  | .participantLeft | .participantConnectionAborted => s.onParticipantLeft cfg env event
  | .telemetry | .unknown => s

def onLivekitEvent : VoiceState :=
  match s.markWebhookEventSeen cfg env event.eventId with
  | (false, s) => s
  | (true, s) =>
    match s.isStaleEvent event with
    | (true, s) => s.onReconciler (·.request event.channelId)
    | (false, s) => s.dispatch cfg env event

end Webhook

/-! ## Reconcile -/

section Reconcile

variable (channel : ChannelId)

def hasActiveOwnerConnection (user : UserId) : Bool :=
  match s.sessions.voiceState user with
  | none => false
  | some st => decide (st.channel = channel) && s.sessionManager.sessionIdHasConnections st.ownerSession

def activeOwnerConnectionCount : Nat :=
  (s.sessions.participantsInChannel channel).countP fun participant =>
    s.hasActiveOwnerConnection channel participant.userId

/-- `remote_by_user`: entries without an identity are skipped, and `emplace`
keeps a user's first entry. -/
def remoteByUser (participants : List RemoteParticipant) : Map UserId ParticipantMetadata :=
  participants.foldl (fun remote participant =>
    if participant.identity.value = "" ∨ participant.identity ∈ remote then remote
    else remote.insert participant.identity participant.metadata) ∅

-- `reconcile_channel_state`, an answer that names nobody.
def reconcileAbsent (reason : String) (participants : List RemoteParticipant) : VoiceState :=
  if participants ≠ [] ∨ s.sessions.isEmpty channel ∨ 0 < s.activeOwnerConnectionCount channel then
    s.onReconciler (·.clearChannelMissing channel)
  else
    let (result, reconciler) := s.reconciler.observeChannelMissing channel reason env.steadyNow
    let s := { s with reconciler }
    if result.confirmed then s.onChannelFinish env channel else s

variable (userEnv : UserId → Env)

-- `reconcile_channel_state`, a tracked participant against the listed ones.  `userEnv` is what
-- is found outside, the clock too, when a participant's turn comes, which need not be what the
-- poll found.
def reconcileLocal (remote : Map UserId ParticipantMetadata) (participant : ParticipantInfo) :
    VoiceState :=
  let user := participant.userId
  if user ∈ remote then s
  else if s.hasActiveOwnerConnection channel user then
    s.onReconciler (·.clearParticipantMissing channel user)
  else
    let (result, reconciler) := s.reconciler.observeParticipantMissing channel user
      "participant_missing_in_livekit" (userEnv user).steadyNow
    let s := { s with reconciler }
    if result.confirmed then s.forceLocalLeave cfg (userEnv user) user channel else s

def correlationValid (user : UserId) (metadata : ParticipantMetadata) : Bool :=
  match (s.pendingIntents.read env.redis user).filter (·.toChannel = channel) with
  | some pending =>
    decide (metadata.appSessionId ≠ 0 ∧ metadata.appSessionId = pending.sessionId ∧
      pending.intentNonce ≠ "" ∧ metadata.intentNonce ≠ "" ∧
      pending.intentNonce = metadata.intentNonce)
  | none =>
    decide (metadata.appSessionId ≠ 0 ∧
      metadata.appSessionId ∈ s.sessionManager.getUserSessionIds user)

/-- The join event reconcile makes up for a participant it adopts. -/
def syntheticJoin (user : UserId) (metadata : ParticipantMetadata) : LiveKitEvent where
  type := .participantJoined
  rawEventName := "participant_joined(reconcile)"
  channelId := channel
  userId := user
  appSessionId := metadata.appSessionId
  intentNonce := metadata.intentNonce
  nodeId := metadata.nodeId
  timestampMs := env.unixNow * 1000

-- `reconcile_channel_state`, a listed participant against the tracked ones.
def reconcileRemote (host : String) (localUsers : List UserId)
    (entry : (_ : UserId) × ParticipantMetadata) : VoiceState :=
  let s := s.onReconciler (·.clearParticipantMissing channel entry.1)
  if entry.1 ∈ localUsers then s
  else if s.correlationValid env channel entry.1 entry.2 then
    s.handleParticipantJoined cfg (userEnv entry.1) (syntheticJoin env channel entry.1 entry.2)
  else if host = "" then s
  else s.emit (.removeParticipant channel entry.1)

-- `reconcile_channel_state`, an answer that names somebody.
def reconcilePresent (host : String) (remote : Map UserId ParticipantMetadata) : VoiceState :=
  let tracked := s.sessions.participantsInChannel channel
  let s := s.onReconciler (·.clearChannelMissing channel)
  let s := tracked.foldl (fun s participant => s.reconcileLocal cfg channel userEnv remote participant) s
  remote.entries.foldl
    (fun s entry => s.reconcileRemote cfg env channel userEnv host (tracked.map (·.userId)) entry) s

/-- The answer of the one `ListParticipants` a reconcile makes, with the host
asked; `none` without a node or when the request throws. -/
def poll : Option (String × List RemoteParticipant) :=
  s.nodes.anyNode.1.bind fun node =>
    (env.listParticipants node.privateHost channel).map fun participants =>
      (node.privateHost, participants)

def reconcileChannelState (reason : String) : VoiceState :=
  let answer := s.poll env channel
  let s := s.anyNode.2
  match answer with
  | none => s.onReconciler (·.resetChannel channel)
  | some (host, participants) =>
    let remote := remoteByUser participants
    if Map.isEmpty remote then s.reconcileAbsent env channel reason participants
    else s.reconcilePresent cfg env channel userEnv host remote

end Reconcile

end VoiceState

end Kergit
