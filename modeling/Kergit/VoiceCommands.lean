import Kergit.VoiceService

/-!
The commands and lifecycle events that reach the voice service besides LiveKit's
webhooks: `VOICE_JOIN`, `AUTH` with its voice resume, a closed connection, and a
restart of the process with its recovery.

A command returns the messages it wants sent.  The worker pushes them after the
command has run, so they come after everything the service published itself.
-/

namespace Kergit

open Lib

namespace VoiceState

variable (cfg : Config) (env : Env) (s : VoiceState)

/-! ## Joining -/

-- `VoiceService::JoinVoiceToken`, when a token was minted.
structure JoinVoiceToken where
  token : VoiceToken
  key : ChannelKey
  resumeId : String
deriving DecidableEq, Repr

/-- `expires_in`: the token's ten minutes, in seconds. -/
def tokenLifetime : Nat := 600

-- `join_voice`; an error carries `error_reason`.
def joinVoice (channel : ChannelId) (user : UserId) (appSessionId : Nat) (intentNonce : String) :
    Except String JoinVoiceToken × VoiceState :=
  match s.anyNode.1 with
  | none => (.error "", s.anyNode.2)
  | some node =>
    let s := s.anyNode.2.onReconciler (·.clearChannelMissing channel)
    match s.acquireForJoin cfg env channel user with
    | (.error reason, s) => (.error reason, s)
    | (.ok key, s) =>
      let resumeId := cfg.generateNonceHex s.nonceDraws
      (.ok ⟨⟨user, channel, ⟨node.nodeId, appSessionId, intentNonce⟩⟩, key, resumeId⟩,
        { s with
          nonceDraws := s.nonceDraws + 1
          resumeRegistry := s.resumeRegistry.rotate env.redis user resumeId })

structure JoinVoiceChannelRequest where
  conn : GlobalConnId
  hub : HubId
  channel : ChannelId
  preferMuted : Bool := false
  preferDeafened : Bool := false
deriving DecidableEq, Repr

/-- A command's refusal: an error the client sees, or the end of its connection. -/
inductive Refusal where
  | error (code : CommandErrorCode) (text : String)
  | drop (code : CommandErrorCode) (text : String)
deriving DecidableEq, Repr

variable (conn : GlobalConnId)

def Refusal.effect : Refusal → Effect
  | .error code text => .commandError conn code text
  | .drop code text => .dropConnection conn code text

variable (request : JoinVoiceChannelRequest)

-- `JoinVoiceChannelCommand::execute`, up to the membership check: who
-- asks, on which session, or the refusal.
def authorizeJoin : Except Refusal (UserId × Nat) :=
  if request.hub.value = "" ∨ request.channel.value = "" then
    .error (.error .invalidArgument "channel.hub_id and channel.channel_id are required")
  else
    match s.sessionManager.sessionOfConnection request.conn,
        s.sessionManager.sessionIdOfConnection request.conn with
    | .error _, _ => .error (.drop .unauthorized "Authenticate first")
    | .ok _, .error _ => .error (.drop .unauthorized "Runtime session missing")
    | .ok user, .ok sessionId =>
      match env.getChannel request.channel with
      | none => .error (.error .notFound "Channel not found")
      | some info =>
        if info.hubId ≠ request.hub then .error (.error .notFound "Channel not found")
        else if info.type ≠ .voice then
          .error (.error .invalidArgument "Channel is not a voice channel")
        else if !env.isHubMember request.hub user then
          .error (.error .forbidden "Join the hub before joining voice")
        else .ok (user, sessionId)

section

variable (user : UserId) (sessionId : Nat)

-- `JoinVoiceChannelCommand::execute`, `taking_over` and
-- `switching_channel` together: another seat of the user has to go first.
def previousSeat : Option UserVoiceState :=
  (s.sessions.voiceState user).filter fun st =>
    decide (st.ownerSession ≠ sessionId ∨ st.channel ≠ request.channel)

/-- The messages that tell the previous owner, or the switching session. -/
def revokeMessages (seat : UserVoiceState) : List Effect :=
  if seat.ownerSession ≠ sessionId then
    let conns := s.sessionManager.getSessionIdConnections seat.ownerSession
    if conns.isEmpty then [] else [.selfRevoked conns, .selfStatus conns false none none]
  else
    let conns := s.sessionManager.getSessionIdConnections sessionId
    if conns.isEmpty then [] else [.selfStatus conns false none none]

def revokePreviousSeat : Except Refusal (List Effect) × VoiceState :=
  match s.previousSeat request user sessionId with
  | none => (.ok [], s)
  | some seat =>
    let guarded := seat.ownerSession ≠ sessionId ∧ seat.channel = request.channel ∧
      (s.sessions.participantsInChannel seat.channel).length = 1
    let s := { s with
      channelTakeoverGuard :=
        if guarded then
          s.channelTakeoverGuard.insert seat.channel (env.steadyNow + cfg.takeoverGuardTtl)
        else s.channelTakeoverGuard }
    match s.verifiedKickUser env seat.channel user with
    | (false, s) =>
      (.error (.error .internalError "Failed to revoke previous voice session"), s)
    | (true, s) => (.ok (s.revokeMessages sessionId seat), s)

/-- The intent a join stages. -/
def stagedIntent (nonce : String) : PendingJoinIntent :=
  let old := (s.sessions.userChannel user).filter fun channel => decide (channel ≠ request.channel)
  { sessionId
    intentNonce := nonce
    toChannel := request.channel
    fromChannel := old.getD {}
    hasFromChannel := old.isSome
    muted := request.preferMuted || request.preferDeafened
    deafened := request.preferDeafened }

/-- What becomes of a join that has its key, or has none. -/
def concludeJoin (intent : PendingJoinIntent) :
    Except String JoinVoiceToken → Except Refusal Effect × VoiceState
  | .error reason =>
    (.error (.error .internalError
      (if reason = "" then "Voice token issuance failed" else reason)), s)
  | .ok issued =>
    if cfg.livekitClusterUrl = "" then
      (.error (.error .internalError "Voice token issuance failed"), s)
    else
      let staged := s.pendingIntents.stage env.redis user env.unixNow intent tokenLifetime
      (if staged.1 then
        .ok (.tokenIssued request.conn issued.token issued.key issued.resumeId tokenLifetime)
      else .error (.error .internalError "Failed to stage voice join intent"),
        { s with pendingIntents := staged.2 })

def issueToken : Except Refusal Effect × VoiceState :=
  let nonce := cfg.generateNonceHex s.nonceDraws
  let intent := s.stagedIntent request user sessionId nonce
  let joined := { s with nonceDraws := s.nonceDraws + 1 }.joinVoice cfg env request.channel user
    sessionId nonce
  joined.2.concludeJoin cfg env request user intent joined.1

end

def executeJoin : List Effect × VoiceState :=
  match s.authorizeJoin env request with
  | .error refusal => ([refusal.effect request.conn], s)
  | .ok (user, sessionId) =>
    match s.revokePreviousSeat cfg env request user sessionId with
    | (.error refusal, s) => ([refusal.effect request.conn], s)
    | (.ok revoked, s) =>
      match s.issueToken cfg env request user sessionId with
      | (.error refusal, s) => (revoked ++ [refusal.effect request.conn], s)
      | (.ok issued, s) => (revoked ++ [issued], s)

/-- `VOICE_JOIN`, with its messages pushed. -/
def voiceJoin : VoiceState :=
  let (out, s) := s.executeJoin cfg env request
  s.emitAll out

/-! ## Sessions -/

structure VoiceResume where
  hub : HubId
  channel : ChannelId
  resumeId : String
deriving DecidableEq, Repr

section

variable (user : UserId)

/-- Whether `try_resume_voice_ownership` hands the seat over. -/
def resumable (resume : VoiceResume) (nextOwner : Nat) : Option UserVoiceState :=
  (s.sessions.voiceState user).filter fun st => decide (
    resume.resumeId ≠ "" ∧ st.channel = resume.channel ∧
    (env.getChannel st.channel).map (·.hubId) = some resume.hub ∧
    st.ownerSession ≠ nextOwner ∧ s.resumeRegistry.read user = some resume.resumeId)

def resumeOwnership (nextOwner previousOwner : Nat) : VoiceState :=
  { s with
    sessions := (s.sessions.transferOwnerSession user previousOwner nextOwner).2
    resumeRegistry := s.resumeRegistry.rotate env.redis user (cfg.generateNonceHex s.nonceDraws)
    nonceDraws := s.nonceDraws + 1 }

def tryResume (sessionId : Nat) (resume : VoiceResume) : List Effect × VoiceState :=
  if resume.hub.value = "" ∨ resume.channel.value = "" then ([], s)
  else
    match s.resumable env user resume sessionId with
    | none => ([], s)
    | some seat =>
      let conns := s.sessionManager.getSessionIdConnections seat.ownerSession
      (if conns.isEmpty then [] else [.selfRevoked conns, .selfStatus conns false none none],
        (s.resumeOwnership cfg env user sessionId seat.ownerSession).resyncToUser env user)

-- `AuthenticateCommand::execute`, once the token has been verified.
def executeAuth (resume : Option VoiceResume) : List Effect × VoiceState :=
  match s.sessionManager.sessionOfConnection conn with
  | .ok existing => ([.authUpdate conn (existing = user)], s)
  | .error _ =>
    match s.sessionManager.attachConnection conn user with
    | (.error _, sessionManager) =>
      ([.commandError conn .sessionLimitExceeded "Session limit exceeded"],
        { s with sessionManager })
    | (.ok sessionId, sessionManager) =>
      let s := { s with sessionManager }
      let (out, s) :=
        match resume with
        | none => ([], s)
        | some resume => s.tryResume cfg env user sessionId resume
      (out ++ [.authUpdate conn true], s)

/-- `AUTH`, with its messages pushed. -/
def authenticate (resume : Option VoiceResume) : VoiceState :=
  let (out, s) := s.executeAuth cfg env conn user resume
  s.emitAll out

def onSessionDestroyed : VoiceState :=
  s.onReconciler fun r =>
    match s.sessions.userChannel user with
    | none => r
    | some channel => r.request channel

end

-- `DisconnectionCommand::execute`, its session and voice part.  A user
-- with another session left is not looked at.
def disconnect : VoiceState :=
  match s.sessionManager.sessionOfConnection conn with
  | .error _ => s
  | .ok user =>
    let s := { s with sessionManager := s.sessionManager.removeConnection conn }
    if (s.sessionManager.getUserSessionIds user).isEmpty then s.onSessionDestroyed user else s

/-! ## Restart -/

/-- A new process over the same Redis and the same LiveKit: every in-memory
member starts over, session ids included. -/
def restart : VoiceState :=
  { initial s.sessionManager.tables.maxSessionsPerUser s.reconciler.missingTtl
      (s.nodes.listNodes.map fun node => { node with activeRooms := 0, activeUsers := 0 }) with
    pendingIntents := s.pendingIntents
    resumeRegistry := { stored := s.resumeRegistry.stored }
    keys := { storedBlobs := s.keys.storedBlobs, storedIndices := s.keys.storedIndices }
    webhookSeen := s.webhookSeen
    keyDraws := s.keyDraws
    nonceDraws := s.nonceDraws
    journal := s.journal }

/-- The accumulators of `recover_from_restart`. -/
structure Recovery where
  state : VoiceState
  recoveredRooms : List ChannelId := []
  recoveredUsers : Map UserId ChannelId := ∅

-- `next_recovery_session_id`: above every id a session manager mints.
def recoverySessionId : Nat := 2 ^ 63 + (s.recoverySessions + 1)

/-- The owner a recovered participant gets: the session its old token names, or a
made-up one. -/
def recoveredSession (metadata : ParticipantMetadata) : Nat :=
  if metadata.appSessionId ≠ 0 then metadata.appSessionId else s.recoverySessionId

/-- `read`, else `load_from_storage`, else `rotate`. -/
def recoverResumeId (user : UserId) : VoiceState :=
  if (s.resumeRegistry.read user).isSome then s
  else
    match s.resumeRegistry.loadFromStorage env.redis user with
    | (some _, resumeRegistry) => { s with resumeRegistry }
    | (none, _) => s.ensureResumeId cfg env user

-- `recover_from_restart`, one participant that is not recovered yet.
def recoverParticipant (nodeId : String) (room : ChannelId) (participant : RemoteParticipant) :
    VoiceState :=
  let user := participant.identity
  let (first, sessions) := s.sessions.join room user (s.recoveredSession participant.metadata)
  let sessions := ((sessions.setMuted user false).2.setDeafened user false).2
  let effective := if participant.metadata.nodeId ≠ "" then participant.metadata.nodeId else nodeId
  let s := { s with
    sessions
    recoverySessions :=
      if participant.metadata.appSessionId ≠ 0 then s.recoverySessions else s.recoverySessions + 1
    channelStartedAtUnix :=
      if first then s.channelStartedAtUnix.insert room env.unixNow else s.channelStartedAtUnix
    nodes := if effective ≠ "" then s.nodes.incrementUser effective else s.nodes }
  s.recoverResumeId cfg env user

-- `recover_from_restart`, the loop over a room's participants: a user
-- found in two rooms stays in the first.
def recoverListed (nodeId : String) (room : ChannelId) (r : Recovery)
    (participant : RemoteParticipant) : Recovery :=
  if participant.identity.value = "" ∨ participant.identity ∈ r.recoveredUsers then r
  else
    { r with
      state := r.state.recoverParticipant cfg env nodeId room participant
      recoveredUsers := r.recoveredUsers.insert participant.identity room }

-- `resolve_participant_node_assignment`: the registered node every
-- participant names, if they agree.
def resolveNode : Option String → List ParticipantMetadata → Option String
  | named, [] => named
  | named, metadata :: rest =>
    if metadata.nodeId = "" ∨ (s.nodes.getNode metadata.nodeId).isNone then resolveNode named rest
    else
      match named with
      | none => resolveNode (some metadata.nodeId) rest
      | some first => if first = metadata.nodeId then resolveNode named rest else none

/-- `bind_room` and `increment_room`. -/
def countRoom (room : ChannelId) (nodeId : String) : VoiceState :=
  { s with nodes := (s.nodes.bindRoom room nodeId).incrementRoom room nodeId }

/-- A room met for the first time. -/
def openRecoveredRoom (nodeId : String) (room : ChannelId) : VoiceState :=
  { s.countRoom room nodeId with
    channelStartedAtUnix := s.channelStartedAtUnix.insert room env.unixNow }

/-- The room's node as its participants name it, and its stored key. -/
def adoptRoom (room : ChannelId) (participants : List RemoteParticipant) : VoiceState :=
  let s :=
    match s.resolveNode none ((remoteByUser participants).entries.map (·.2)) with
    | some nodeId => s.countRoom room nodeId
    | none => s
  if participants.isEmpty then s else s.restoreKeyForRecovery cfg env room

def recoverRoom (node : LivekitNode) (r : Recovery) (info : RoomInfo) : Recovery :=
  let room := info.room
  let r :=
    if room ∈ r.recoveredRooms then r
    else
      { r with
        state := r.state.openRecoveredRoom env node.nodeId room
        recoveredRooms := room :: r.recoveredRooms }
  match env.listParticipants node.privateHost room with
  | none => r
  | some participants =>
    participants.foldl (recoverListed cfg env node.nodeId room)
      { r with state := r.state.adoptRoom cfg env room participants }

def recoverNode (r : Recovery) (node : LivekitNode) : Recovery :=
  ((env.listRooms node.privateHost).getD []).foldl (recoverRoom cfg env node) r

/-- A channel out of the seats and the room bindings. -/
def forgetChannel (channel : ChannelId) : VoiceState :=
  { s with
    sessions := (s.sessions.clearChannel channel).2
    nodes := s.nodes.clearRoom channel }

def clearForRecovery : VoiceState :=
  let s := s.sessions.activeChannels.foldl forgetChannel s
  { s with
    channelStartedAtUnix := ∅
    userLastEventTsMs := ∅
    channelLastRoomEventTsMs := ∅
    resumeRegistry := s.resumeRegistry.clearAll }

def recoverFromRestart : VoiceState :=
  (s.clearForRecovery.nodes.listNodes.foldl (recoverNode cfg env) { state := s.clearForRecovery }).state

end VoiceState

end Kergit
