import Kergit.SessionManager
import Kergit.VoiceSessionManager
import Kergit.VoiceStores
import Kergit.LivekitNodeRegistry
import Kergit.VoiceReconciler

/-!
The state of the voice service, what it reads from outside, and what it sends.

`VoiceState` is every member the voice code writes: the session tables it shares
with the rest of the app, its own maps, and the Redis content that outlives the
process.  `Config` is fixed for a process; `Env` is what one handler call finds
when it looks outside — clocks, Redis, the hub service, subscribers, LiveKit —
and is an argument of every step, so a theorem over all steps is a theorem over
all answers.  Random draws are `Config` streams with a counter in the state.

Output goes to `journal`, newest first: messages pushed to the outbound sink,
requests to LiveKit, and the two `EventLogger` records that say a join or a leave
was applied.
-/

namespace Kergit

open Lib

structure ChannelKey where
  key : String := ""
  keyIndex : Nat := 0
deriving DecidableEq, Repr

/-- What `parse_participant_metadata` yields: the claims of the join token that
LiveKit hands back. -/
structure ParticipantMetadata where
  nodeId : String := ""
  appSessionId : Nat := 0
  intentNonce : String := ""
deriving DecidableEq, Repr

-- `livekit::cli::ParticipantInfo`, with its metadata parsed.
structure RemoteParticipant where
  identity : UserId
  metadata : ParticipantMetadata := {}
deriving DecidableEq, Repr

structure RoomInfo where
  room : ChannelId
  numParticipants : Nat
deriving DecidableEq, Repr

-- `ParticipantTokenRequest`, the claims of the minted LiveKit token.
structure VoiceToken where
  identity : UserId
  room : ChannelId
  metadata : ParticipantMetadata
deriving DecidableEq, Repr

-- `sercom::protocol::event::CommandErrorCode`, the codes the voice and
-- hub commands answer with.
inductive CommandErrorCode where
  | invalidArgument
  | unauthorized
  | notFound
  | forbidden
  | internalError
  | sessionLimitExceeded
  | inviteExpired
  | rateLimited
deriving DecidableEq, Repr

/-- Everything the voice code does to the outside. -/
inductive Effect where
  | snapshot (targets : List GlobalConnId) (hub : HubId) (channel : ChannelId) (startedAt : Nat)
      (participants : List ParticipantInfo)
  | upsert (targets : List GlobalConnId) (hub : HubId) (channel : ChannelId) (user : UserId)
      (muted deafened : Bool)
  | remove (targets : List GlobalConnId) (hub : HubId) (channel : ChannelId) (user : UserId)
  /-- `VOICE_KEY_UPDATE`, published for `user`. -/
  | keyUpdate (targets : List GlobalConnId) (hub : HubId) (channel : ChannelId) (user : UserId)
      (key : ChannelKey)
  | selfStatus (targets : List GlobalConnId) (isOwner : Bool) (place : Option (HubId × ChannelId))
      (resumeId : Option String)
  | selfRevoked (targets : List GlobalConnId)
  /-- `VOICE_TOKEN_ISSUED`, the answer to a join. -/
  | tokenIssued (target : GlobalConnId) (token : VoiceToken) (key : ChannelKey) (resumeId : String)
      (expiresIn : Nat)
  | commandError (target : GlobalConnId) (code : CommandErrorCode) (text : String)
  | dropConnection (target : GlobalConnId) (code : CommandErrorCode) (text : String)
  /-- `AUTH_STATE` of a connection: authenticated or failed. -/
  | authUpdate (target : GlobalConnId) (authenticated : Bool)
  /-- A `RemoveParticipant` request to LiveKit. -/
  | removeParticipant (channel : ChannelId) (user : UserId)
  /-- `EventLogger::voice_join`, with where the user was before and the nonce of
  the event that was admitted. -/
  | voiceJoin (user : UserId) (channel : ChannelId) (before : Option ChannelId) (nonce : String)
  /-- `EventLogger::voice_leave`. -/
  | voiceLeave (user : UserId) (channel : ChannelId)
deriving DecidableEq, Repr

/-- Fixed for the life of a process, except the two random streams, which no
process ever draws from twice at the same index. -/
structure Config where
  keyTtl : Nat := 24 * 60 * 60
  joinRotateDebounceTtl : Nat := 15
  takeoverGuardTtl : Nat := 45
  webhookDedupTtl : Nat := 24 * 60 * 60
  livekitClusterUrl : String := "wss://livekit"
  /-- Whether a storage master key could be derived from the secret. -/
  storageKeyReady : Bool := true
  decryptKeyBlob : String → Option String := some
  /-- The `n`-th call of `generate_key`; `none` when `RAND_bytes` fails. -/
  generateKey : Nat → Option String
  /-- The `n`-th call of `generate_nonce_hex`. -/
  generateNonceHex : Nat → String

/-- What one handler call finds outside the process. -/
structure Env where
  steadyNow : Nat
  unixNow : Nat
  redis : Link
  encryptKeyBlob : String → Option String := some
  getChannel : ChannelId → Option Channel
  isHubMember : HubId → UserId → Bool
  getSubscribers : HubId → List GlobalConnId
  /-- `ListParticipants` by the node asked; `none` when the request throws. -/
  listParticipants : String → ChannelId → Option (List RemoteParticipant)
  listRooms : String → Option (List RoomInfo)
  removeParticipant : String → ChannelId → UserId → Bool

structure KeyTables where
  channels : Map ChannelId ChannelKey := ∅
  storedBlobs : Store ChannelId String := ∅
  storedIndices : Store ChannelId Nat := ∅
  joinRotateSeen : Map ChannelId (Map UserId Nat) := ∅

structure VoiceState where
  sessionManager : SessionManager
  sessions : VoiceSessionManager
  pendingIntents : PendingJoinIntentStore
  resumeRegistry : VoiceResumeRegistry
  keys : KeyTables
  nodes : LivekitNodeRegistry
  reconciler : VoiceReconciler
  channelTakeoverGuard : Map ChannelId Nat
  channelStartedAtUnix : Map ChannelId Nat
  userLastEventTsMs : Map UserId Nat
  channelLastRoomEventTsMs : Map ChannelId Nat
  webhookSeen : Store String Unit
  recoverySessions : Nat
  keyDraws : Nat
  nonceDraws : Nat
  journal : List Effect

namespace VoiceState

/-- A fresh process over an empty Redis. -/
def initial (maxSessionsPerUser missingTtl : Nat) (nodes : List LivekitNode) : VoiceState where
  sessionManager := SessionManager.empty maxSessionsPerUser
  sessions := VoiceSessionManager.empty
  pendingIntents := ∅
  resumeRegistry := {}
  keys := {}
  nodes := nodes.foldl LivekitNodeRegistry.registerNode {}
  reconciler := { missingTtl }
  channelTakeoverGuard := ∅
  channelStartedAtUnix := ∅
  userLastEventTsMs := ∅
  channelLastRoomEventTsMs := ∅
  webhookSeen := ∅
  recoverySessions := 0
  keyDraws := 0
  nonceDraws := 0
  journal := []

def emit (s : VoiceState) (effect : Effect) : VoiceState := { s with journal := effect :: s.journal }

/-- Change the reconciler's tables. -/
def onReconciler (s : VoiceState) (change : VoiceReconciler → VoiceReconciler) : VoiceState :=
  { s with reconciler := change s.reconciler }

/-- `any_node`, advancing the cursor. -/
def anyNode (s : VoiceState) : Option LivekitNode × VoiceState :=
  (s.nodes.anyNode.1, { s with nodes := s.nodes.anyNode.2 })

end VoiceState

end Kergit
