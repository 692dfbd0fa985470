import Kergit.VoiceState

/-!
`VoicePublisher`, `E2EEKeyManager` and `ChannelKeyService`: one end-to-end key per
voice channel, and who is told of it.

The publisher's functions are pure here: each returns the messages it would
push, in push order, and `VoiceState.emitAll` pushes them.  A key update goes to
the connections of the *session id* recorded as the participant's owner; the
publisher never looks at the user behind that id again.

`acquireForJoin` decides which key a join token carries.  Others in the channel:
rotate, unless the same user has just made it rotate.  Nobody else: the current
key, or a stored one, or a fresh one.
-/

namespace Kergit

open Lib

namespace VoiceState

/-- Push messages in order. -/
def emitAll (s : VoiceState) (effects : List Effect) : VoiceState :=
  { s with journal := effects.reverse ++ s.journal }

/-! ## VoicePublisher -/

section Publisher

variable (env : Env) (s : VoiceState) (hub : HubId) (channel : ChannelId) (user : UserId)

def voiceSnapshot (startedAt : Nat) : List Effect :=
  let subs := env.getSubscribers hub
  if subs.isEmpty then []
  else [.snapshot subs hub channel startedAt (s.sessions.participantsInChannel channel)]

def voiceParticipantUpsert (muted deafened : Bool) : List Effect :=
  let subs := env.getSubscribers hub
  if subs.isEmpty then [] else [.upsert subs hub channel user muted deafened]

def voiceParticipantRemove : List Effect :=
  let subs := env.getSubscribers hub
  if subs.isEmpty then [] else [.remove subs hub channel user]

def voiceKeyUpdateToUser (key : ChannelKey) : List Effect :=
  match s.sessions.userSession user with
  | none => []
  | some ownerSession =>
    let conns := s.sessionManager.getSessionIdConnections ownerSession
    if conns.isEmpty then [] else [.keyUpdate conns hub channel user key]

-- `publish_voice_key_update`: every tracked participant of the channel.
def voiceKeyUpdate (key : ChannelKey) : List Effect :=
  (s.sessions.participantsInChannel channel).flatMap fun participant =>
    s.voiceKeyUpdateToUser hub channel participant.userId key

def selfStatus (connected : Bool) (ownerSessionId : Option Nat) (channel : Option ChannelId) :
    List Effect :=
  let place := if connected then channel.bind fun c => (env.getChannel c).map fun info => (info.hubId, c)
    else none
  let resumeId := s.resumeRegistry.read user
  (s.sessionManager.getUserSessionIds user).flatMap fun sessionId =>
    let conns := s.sessionManager.getSessionIdConnections sessionId
    if conns.isEmpty then []
    else
      match place with
      | none => [.selfStatus conns false none none]
      | some place =>
        let isOwner := decide (ownerSessionId = some sessionId)
        [.selfStatus conns isOwner (some place)
          (if isOwner then resumeId.filter (· ≠ "") else none)]

end Publisher

end VoiceState

/-! ## E2EEKeyManager -/

def keyringSize : Nat := 16

namespace KeyTables

variable (k : KeyTables) (channel : ChannelId)

-- `get_key`: an entry whose key is empty reads as none.
def getKey : Option ChannelKey :=
  (k.channels.lookup channel).filter (·.key ≠ "")

def setKey (key : ChannelKey) : KeyTables :=
  { k with channels := k.channels.insert channel ⟨key.key, key.keyIndex % keyringSize⟩ }

/-- The entry `channels_[channel]` leaves when the draw that follows throws. -/
def touch : KeyTables :=
  if channel ∈ k.channels then k else { k with channels := k.channels.insert channel {} }

/-- `rotate_key`'s index: the next slot of the keyring, or the first one. -/
def nextIndex : Nat :=
  match k.getKey channel with
  | some current => (current.keyIndex + 1) % keyringSize
  | none => 0

/-- The entry a failed draw leaves behind, or the entry a successful one writes. -/
def install (drawn : Option ChannelKey) : KeyTables :=
  match drawn with
  | some key => { k with channels := k.channels.insert channel key }
  | none => k.touch channel

/-! ## Storage -/

/-- `"voice:e2ee:channel:" + channel`. -/
def keyStorageKey : String := "voice:e2ee:channel:" ++ channel.value

/-- `"voice:e2ee_idx:channel:" + channel`. -/
def indexStorageKey : String := "voice:e2ee_idx:channel:" ++ channel.value

variable (cfg : Config) (env : Env) (k : KeyTables) (channel : ChannelId)

/-- The two `setex` of `persist_to_storage` and `load_from_storage`. -/
def writeStorage (blob : String) (keyIndex : Nat) : KeyTables :=
  { k with
    storedBlobs := env.redis.setex keyStorageKey k.storedBlobs channel cfg.keyTtl blob
    storedIndices := env.redis.setex indexStorageKey k.storedIndices channel cfg.keyTtl keyIndex }

def persistToStorage (key : ChannelKey) : KeyTables :=
  if !cfg.storageKeyReady ∨ key.key = "" then k
  else
    match env.encryptKeyBlob key.key with
    | none => k
    | some blob => k.writeStorage cfg env channel blob key.keyIndex

-- `load_from_storage`; what was read is written back with a new
-- lifetime.
def loadFromStorage : Option ChannelKey × KeyTables :=
  if !cfg.storageKeyReady then (none, k)
  else
    match env.redis.get keyStorageKey k.storedBlobs channel with
    | none => (none, k)
    | some raw =>
      if raw = "" then (none, k)
      else
        match cfg.decryptKeyBlob raw with
        | none => (none, k)
        | some key =>
          let keyIndex :=
            (env.redis.get indexStorageKey k.storedIndices channel).getD 0 % keyringSize
          (some ⟨key, keyIndex⟩, k.writeStorage cfg env channel raw keyIndex)

def clearChannel : KeyTables where
  channels := k.channels.erase channel
  storedBlobs := env.redis.del keyStorageKey k.storedBlobs channel
  storedIndices := env.redis.del indexStorageKey k.storedIndices channel
  joinRotateSeen := k.joinRotateSeen.erase channel

/-- When this user last made the channel rotate; zero if never. -/
def lastJoinRotation (user : UserId) : Nat :=
  ((Map.inner k.joinRotateSeen channel).lookup user).getD 0

def shouldDebounce (user : UserId) : Bool :=
  decide (k.lastJoinRotation channel user ≠ 0 ∧
    env.steadyNow < k.lastJoinRotation channel user + cfg.joinRotateDebounceTtl)

def recordJoin (user : UserId) : KeyTables :=
  { k with
    joinRotateSeen := k.joinRotateSeen.insert channel
      ((Map.inner k.joinRotateSeen channel).insert user env.steadyNow) }

end KeyTables

/-! ## ChannelKeyService -/

namespace VoiceState

variable (cfg : Config) (env : Env) (s : VoiceState) (channel : ChannelId) (user : UserId)

/-- Change the key tables. -/
def onKeys (change : KeyTables → KeyTables) : VoiceState := { s with keys := change s.keys }

/-- Draw a key for an index and install it; nothing comes back when the draw
fails. -/
def drawKey (keyIndex : Nat) : Option ChannelKey × VoiceState :=
  let drawn := (cfg.generateKey s.keyDraws).map fun key => ⟨key, keyIndex⟩
  (drawn, { s with keyDraws := s.keyDraws + 1, keys := s.keys.install channel drawn })

def getOrCreateKey : Option ChannelKey × VoiceState :=
  match s.keys.getKey channel with
  | some key => (some key, s)
  | none => s.drawKey cfg channel 0

def rotateKey : Option ChannelKey × VoiceState :=
  s.drawKey cfg channel (s.keys.nextIndex channel)

/-- Tell every tracked participant, if the hub lookup answers. -/
def broadcastKey (key : ChannelKey) : VoiceState :=
  s.emitAll <| match env.getChannel channel with
    | some info => s.voiceKeyUpdate info.hubId channel key
    | none => []

def rotateAndBroadcast : ChannelKey × VoiceState :=
  match s.rotateKey cfg channel with
  | (none, s) => ({}, s)
  | (some key, s) =>
    (key, (s.onKeys (·.persistToStorage cfg env channel key)).broadcastKey env channel key)

-- `is_channel_effectively_empty`, the sweep over the nodes: `none` once
-- a node lists a participant, else how many answered.
def sweepNodes : List LivekitNode → Option Nat
  | [] => some 0
  | node :: rest =>
    match env.listParticipants node.privateHost channel with
    | none => sweepNodes rest
    | some [] => (sweepNodes rest).map (· + 1)
    | some (_ :: _) => none

-- `is_channel_effectively_empty`: `none` is an inconclusive sweep.
def isChannelEffectivelyEmpty : Option Bool :=
  if !s.sessions.isEmpty channel then some false
  else
    match sweepNodes env channel s.nodes.listNodes with
    | none => some false
    | some answered => if answered = s.nodes.listNodes.length then some true else none

def acquireShared : Option ChannelKey × VoiceState :=
  let current := if s.keys.shouldDebounce cfg env channel user then s.keys.getKey channel else none
  let s := s.onKeys (·.recordJoin env channel user)
  match current with
  | some key => (some key, s)
  | none => (some (s.rotateAndBroadcast cfg env channel).1, (s.rotateAndBroadcast cfg env channel).2)

-- `acquire_for_join`, no key in memory and LiveKit agrees that the room
-- is empty: never stored material, always a fresh key.
def acquireFresh : Option ChannelKey × VoiceState :=
  match s.getOrCreateKey cfg channel with
  | (none, s) => (none, s)
  | (some key, s) => (some key, s.onKeys (·.persistToStorage cfg env channel key))

-- `acquire_for_join`, no key in memory and the room may be live: the
-- stored key, else a fresh one that tracked members are told.
def acquireRecovered : Option ChannelKey × VoiceState :=
  match s.keys.loadFromStorage cfg env channel with
  | (some key, keys) =>
    (some key,
      { s with keys := (keys.setKey channel key).persistToStorage cfg env channel key })
  | (none, keys) =>
    match { s with keys }.getOrCreateKey cfg channel with
    | (none, s) => (none, s)
    | (some key, s) =>
      (some key,
        (s.onKeys (·.persistToStorage cfg env channel key)).broadcastKey env channel key)

-- `acquire_for_join`, no other member present.
def acquireAlone : Option ChannelKey × VoiceState :=
  match s.keys.getKey channel with
  | some key => (some key, s.onKeys (·.persistToStorage cfg env channel key))
  | none =>
    if s.isChannelEffectivelyEmpty env channel = some true then s.acquireFresh cfg env channel
    else s.acquireRecovered cfg env channel

/-- `other_members_present`: the channel is occupied and not by this user. -/
def otherMembersPresent : Bool :=
  decide (s.sessions.userChannel user ≠ some channel) && !s.sessions.isEmpty channel

def acquireForJoin : Except String ChannelKey × VoiceState :=
  let (acquired, s) :=
    if s.otherMembersPresent channel user then s.acquireShared cfg env channel user
    else s.acquireAlone cfg env channel
  match acquired.filter (·.key ≠ "") with
  | some key => (.ok key, s)
  | none => (.error "voice_key_unavailable", s)

def resyncToUser : VoiceState :=
  s.emitAll <| match s.sessions.userChannel user with
    | none => []
    | some channel =>
      match s.keys.getKey channel, env.getChannel channel with
      | some key, some info => s.voiceKeyUpdateToUser info.hubId channel user key
      | _, _ => []

def restoreKeyForRecovery : VoiceState :=
  match s.keys.loadFromStorage cfg env channel with
  | (some key, keys) =>
    { s with keys := (keys.setKey channel key).persistToStorage cfg env channel key }
  | (none, keys) => { s with keys }

end VoiceState

end Kergit
