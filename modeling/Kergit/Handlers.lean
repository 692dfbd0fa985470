import Mathlib.Data.UInt
import Kergit.HubService
import Kergit.Notices

/-!
The handlers that touch sessions, subscriptions or hubs, as programs.

Each handler is the source's `execute`, call by call; what it sends is its `Reply`.
`workers` is the machine they run on: any number of handlers at once, in any
interleaving of their calls.
-/

namespace Kergit

open Lib

open HubProg (session subscription cache database outside)

open VoiceState (Refusal)

inductive HubRole where
  | unspecified
  | member
  | admin
  | owner
deriving DecidableEq, Repr

namespace Handlers

/-! ## State syncs -/

def hubSync (channels : List Channel) (hub : Hub) (topology : HubService.HubTopology) :
    HubSync where
  hubId := hub.id
  profile := hub.profile
  members := topology.members
  channels := topology.channelIds.map fun id => (id, channels.find? fun channel => channel.id = id)

-- `StateSyncBuilder.cpp`, `collect_hub_inputs` and what is made of it.
def collectHubInputs (hubs : List Hub) : HubProg (List HubSync) := do
  HubService.warmSnapshotsForHubs hubs
  let topologies ← Prog.collect (fun hub => HubService.getHubTopology hub.id) hubs
  outside (.getUsersByIds (topologies.flatMap fun topology =>
    topology.members.map fun member => member.1).dedup)
  let channels ← HubService.getChannelsByIds
    (topologies.flatMap fun topology => topology.channelIds).dedup
  return List.zipWith (hubSync channels) hubs topologies

def buildStateSyncForUser (user : UserId) : HubProg (List HubSync) := do
  outside (.getUser user)
  let hubs ← HubService.getUserHubs user
  collectHubInputs hubs

/-- The ids of which the user is a member. -/
def authorizedHubIds (user : UserId) (hubs : List HubId) : HubProg (List HubId) := do
  let roles ← Prog.collect
    (fun hub => do return (hub, ← HubService.getMembershipRole hub user)) hubs
  return roles.filterMap fun entry => if entry.2.isSome then some entry.1 else none

def buildStateSyncForRequestedHubs (user : UserId) (requested : List HubId) :
    HubProg (List HubSync) := do
  outside (.getUser user)
  let authorized ← authorizedHubIds user requested
  let hubs ← HubService.getHubsByIds authorized
  collectHubInputs hubs

/-! ## Sessions -/

variable (conn : GlobalConnId)

def authenticated (user : UserId) : Reply :=
  .done [.one conn (.authUpdate { state := .authenticated, userId := some user }), .one conn .authOk]

def authenticate (token : String) (resumes : Bool) : HubProg Reply := do
  if token = "" then return .authFailed
  else
    match ← outside (.authenticate token) with
    | none => return .authFailed
    | some user =>
      match ← session (.sessionOfConnection conn) with
      | .ok existing =>
        if existing ≠ user then return .authFailed else return authenticated conn user
      | .error _ =>
        match ← session (.attachConnection conn user) with
        | .error .sessionLimitExceeded =>
          return .refused (.error .sessionLimitExceeded "Session limit exceeded")
        | .ok _ =>
          if resumes then
            outside (.tryResumeVoiceOwnership user)
            outside (.pushConnectionEvent conn user)
            return authenticated conn user
          else
            outside (.pushConnectionEvent conn user)
            return authenticated conn user

/-- Subscribe a connection; whether it was subscribed before is not looked at. -/
def subscribe (topic : Topic) : HubProg Unit := do
  let _ ← subscription (.subscribeConnection conn topic)
  return ()

def unsubscribe (topic : Topic) : HubProg Unit := do
  let _ ← subscription (.unsubscribeConnection conn topic)
  return ()

section

variable (user : UserId)

def voiceStatus : HubProg Notice := do
  match ← outside (.userChannel user) with
  | none => return .voiceSelfStatus none none
  | some channel =>
    return .voiceSelfStatus (some channel)
      ((← HubService.getChannel channel).map fun info => info.hubId)

-- `BootstrapCommand::execute`, past the subscriptions: the state sync, the voice
-- status, and the presence of a first connection.
def announce (sync : List HubSync) (hubs : List HubId) : HubProg Reply := do
  let status ← voiceStatus user
  let own := [.one conn (.stateSync sync), .one conn status]
  let conns ← session (.getSessionConnections user)
  if conns.length ≠ 1 then return .done own
  else
    let told ← Prog.collect (fun hub => do
      let subs ← subscription (.getSubscribers (.hubTopic hub))
      return Outgoing.toAny (subs.filter fun k => k ∉ conns) (.presence hub user true)) hubs
    return .done (own ++ told.flatten)

def bootstrap : HubProg Reply := do
  if user.value = "" then return .refused (.drop .unauthorized "Authenticate first")
  else
    match ← session (.sessionIdOfConnection conn) with
    | .error _ => return .refused (.drop .unauthorized "Session not found")
    | .ok _ =>
      let sync ← buildStateSyncForUser user
      let ids := (sync.map fun hub => hub.hubId).filter fun hub => hub.value ≠ ""
      Prog.forEach (fun hub => subscribe conn (.hubTopic hub)) ids
      announce conn user sync ids

/-- The hubs of hub topics. -/
def hubsOf (topics : List Topic) : List HubId :=
  topics.filterMap fun topic => if topic.kind = .hub then some ⟨topic.primary⟩ else none

-- `DisconnectionCommand::execute`, past the check that the connection has a
-- session.
def closeConnection : HubProg Reply := do
  let topics ← subscription (.getSubscriptionsForConnection conn)
  session (.removeConnection conn)
  subscription (.removeAllForConnection conn)
  if ← session (.hasSession user) then return .done
  else
    outside (.onSessionDestroyed user)
    let told ← Prog.collect (fun hub => do
      let subs ← subscription (.getSubscribers (.hubTopic hub))
      return Outgoing.toAny subs (.presence hub user false))
      (match topics with | .ok topics => hubsOf topics | .error _ => [])
    return .done told.flatten

end

def disconnect : HubProg Reply := do
  match ← session (.sessionOfConnection conn) with
  | .error _ => return .done
  | .ok user =>
    match ← session (.sessionIdOfConnection conn) with
    | .error _ => return .done
    | .ok _ => closeConnection conn user

/-! ## Channels -/

-- `clamp_limit`, with the `int` an `uint32_t` is cast to.
def clampLimit (limit : Nat) : Int :=
  if limit = 0 then 50 else min (if limit < 2 ^ 31 then limit else limit - 2 ^ 32) 100

/-- The batch of the messages fetched. -/
def batch (hub : HubId) (channel : ChannelId) (states : List Message) : Reply :=
  .done [.one conn (.stateDelta ⟨hub, [.messageBatch channel states]⟩)]

-- `SelectActiveChannelCommand::execute`, past the checks; `cursor` is the known
-- latest message of the request.
def openChannel (user : UserId) (hub : HubId) (channel : ChannelId) (cursor : Option Nat)
    (latestLimit : Nat) : HubProg Reply := do
  subscribe conn (.channelTopic hub channel)
  session (.joinTextChannel user hub channel)
  if cursor = some 0 then
    return .refused (.error .invalidArgument "known_latest_cursor.message_seq is required")
  else
    match ← outside (.fetchMessages channel cursor (clampLimit latestLimit)) with
    | none => return .refused (.error .internalError "Failed to fetch latest messages")
    | some messages =>
      if cursor = none then return batch conn hub channel messages.reverse
      else if messages.isEmpty then return .done
      else return batch conn hub channel messages

def selectActiveChannel (hub : HubId) (channel : ChannelId) (cursor : Option Nat)
    (latestLimit : Nat) : HubProg Reply := do
  if hub.value = "" ∨ channel.value = "" then
    return .refused (.error .invalidArgument "channel.hub_id and channel.channel_id are required")
  else
    match ← session (.sessionOfConnection conn) with
    | .error _ =>
      return .refused (.drop .unauthorized "Unauthorized: No session associated with this connection")
    | .ok user =>
      match ← HubService.getChannel channel with
      | none => return .refused (.error .notFound "Channel not found")
      | some info =>
        if info.hubId ≠ hub then return .refused (.error .notFound "Channel not found")
        else if info.type ≠ .chat then
          return .refused (.error .invalidArgument "Channel is not a text channel")
        else if ← HubService.isHubMember hub user then
          openChannel conn user hub channel cursor latestLimit
        else return .refused (.error .forbidden "Join the hub before selecting a channel")

-- `std::isspace`, in the C locale.
def isSpace (c : Char) : Bool := c = ' ' || (9 ≤ c.toNat && c.toNat ≤ 13)

def sanitize (text : String) : String :=
  String.ofList (((text.toList.dropWhile isSpace).reverse.dropWhile isSpace).reverse)

def normalizeNameLowercase (text : String) : String := String.ofList (text.toList.map Char.toLower)

/-- The check that `CreateChannelCommand`, `RenameChannelCommand`, `CreateHubCommand` and
`UpdateHubCommand` make of a text: it is sanitised, and neither empty nor too long. -/
def checkText (what : String) (bound : Nat) (raw : String) : Except Refusal String :=
  let text := sanitize raw
  if text = "" then .error (.error .invalidArgument (what ++ " is required"))
  else if bound < text.length then
    .error (.error .invalidArgument (what ++ " must be at most " ++ toString bound ++ " characters"))
  else .ok text

/-- The text occurs in the other. -/
def contains (text part : String) : Bool := decide (part.toList <:+: text.toList)

def mapChannelWriteError (what : String) : Option String :=
  if contains what "idx_channels_hub_name_unique" || contains what "23505" ||
      contains what "duplicate key" then
    some "Channel name already exists"
  else if contains what "Channel limit reached" || contains what "max 3 channels" then
    some "Channel limit reached: max 3 channels per hub"
  else if contains what "channels_name_length" then
    some "Channel name must be between 1 and 80 characters"
  else if contains what "Channel type cannot be changed" then some "Channel type cannot be changed"
  else none

/-- Another channel has the name, up to case. -/
def nameTaken (name : String) (channels : List Channel) : Bool :=
  channels.any fun channel => normalizeNameLowercase channel.name = normalizeNameLowercase name

def addChannel (hub : HubId) (type : ChannelType) (name : String) : HubProg Reply := do
  let channelIds ← HubService.getHubChannelIds hub
  if 3 ≤ channelIds.length then
    return .refused (.error .invalidArgument "Channel limit reached: max 3 channels per hub")
  else
    let existing ← HubService.getChannelsByIds channelIds
    if nameTaken name existing then
      return .refused (.error .invalidArgument "Channel name already exists")
    else
      match ← (HubService.createChannel hub type name).attempt with
      | .error (.exception what) =>
        match mapChannelWriteError what with
        | some text => return .refused (.error .invalidArgument text)
        | none => return .refused (.error .internalError "Unable to create channel")
      | .error .unknown => return .refused (.error .internalError "Unable to create channel")
      | .ok id =>
        let subs ← subscription (.getSubscribers (.hubTopic hub))
        return .done (Outgoing.delta subs hub [.channelUpsert { id, hubId := hub, type, name }])

-- `CreateChannelCommand::execute`; a type that is neither is `none`.
def createChannel (hub : HubId) (type : Option ChannelType) (name : String) : HubProg Reply := do
  match ← session (.sessionOfConnection conn) with
  | .error _ => return .refused (.error .unauthorized "Authenticate first")
  | .ok user =>
    if hub.value = "" then return .refused (.error .invalidArgument "hub_id is required")
    else
      match type with
      | none => return .refused (.error .invalidArgument "Channel type must be text or voice")
      | some type =>
        match checkText "Channel name" 80 name with
        | .error refusal => return .refused refusal
        | .ok name =>
          match ← HubService.getMembershipRole hub user with
          | none => return .refused (.error .forbidden "Join the hub before creating channels")
          | some .user => return .refused (.error .forbidden "Only admins/owners can create channels")
          | some .admin | some .owner => addChannel hub type name

def giveName (channel : Channel) (name : String) : HubProg Reply := do
  let channelIds ← HubService.getHubChannelIds channel.hubId
  let existing ← HubService.getChannelsByIds channelIds
  if nameTaken name (existing.filter fun other => other.id ≠ channel.id) then
    return .refused (.error .invalidArgument "Channel name already exists")
  else
    match ← (HubService.renameChannel channel.id name).attempt with
    | .error .unknown => Prog.raise .unknown
    | .error (.exception what) =>
      match mapChannelWriteError what with
      | some text => return .refused (.error .invalidArgument text)
      | none => return .refused (.error .internalError "Unable to rename channel at this time")
    | .ok false =>
      return .refused (.error .internalError "Unable to rename channel at this time")
    | .ok true =>
      let subs ← subscription (.getSubscribers (.hubTopic channel.hubId))
      return .done (Outgoing.delta subs channel.hubId [.channelUpsert { channel with name }])

-- `RenameChannelCommand::execute`; a request without a name is `none`.
def renameChannel (hub : HubId) (channel : ChannelId) (name : Option String) : HubProg Reply := do
  match ← session (.sessionOfConnection conn) with
  | .error _ => return .refused (.error .unauthorized "Authenticate first")
  | .ok user =>
    if hub.value = "" ∨ channel.value = "" then
      return .refused
        (.error .invalidArgument "channel.hub_id and channel.channel_id are required")
    else
      match ← HubService.getChannel channel with
      | none => return .refused (.error .notFound "Channel not found")
      | some info =>
        if info.hubId ≠ hub then return .refused (.error .notFound "Channel not found")
        else
          match name with
          | none => return .refused (.error .invalidArgument "No changes requested")
          | some name =>
            match checkText "Channel name" 80 name with
            | .error refusal => return .refused refusal
            | .ok name =>
              match ← HubService.getMembershipRole info.hubId user with
              | none => return .refused (.error .forbidden "Join the hub before renaming channels")
              | some .user =>
                return .refused (.error .forbidden "Only admins/owners can rename channels")
              | some .admin | some .owner => giveName info name

def removeChannel (hub : HubId) (channel : ChannelId) : HubProg Reply := do
  match ← session (.sessionOfConnection conn) with
  | .error _ => return .refused (.error .unauthorized "Authenticate first")
  | .ok user =>
    if hub.value = "" ∨ channel.value = "" then
      return .refused
        (.error .invalidArgument "channel.hub_id and channel.channel_id are required")
    else
      match ← HubService.getChannel channel with
      | none => return .refused (.error .notFound "Channel not found")
      | some info =>
        if info.hubId ≠ hub then return .refused (.error .notFound "Channel not found")
        else
          match ← HubService.getMembershipRole hub user with
          | none => return .refused (.error .forbidden "Join the hub before removing channels")
          | some .user | some .admin =>
            return .refused (.error .forbidden "Only owners can delete channels")
          | some .owner =>
            if ← HubService.deleteChannel info.id hub then
              subscription (.removeAllForTopic (.channelTopic hub info.id))
              let subs ← subscription (.getSubscribers (.hubTopic hub))
              return .done (Outgoing.delta subs hub [.channelRemove info.id])
            else return .refused (.error .internalError "Unable to delete channel at this time")

/-! ## Hubs -/

def mapHubWriteError (what : String) : Option String :=
  if contains what "Hub ownership limit reached" || contains what "max 2 hubs" then
    some "Hub limit reached: you can own at most 2 hubs"
  else if contains what "hubs_name_length" then some "Hub name must be between 1 and 80 characters"
  else if contains what "hubs_avatar_seed_length" then
    some "Avatar seed must be at most 128 characters"
  else none

/-- The user's connections, or at least the one that asked. -/
def ownConnections (user : UserId) : HubProg (List GlobalConnId) := do
  let conns ← session (.getSessionConnections user)
  if conns.isEmpty then return [conn] else return conns

/-- Subscribe every connection of the user to the hub, and tell them its state. -/
def enterHub (user : UserId) (hub : HubId) : HubProg Outgoing := do
  let conns ← ownConnections conn user
  Prog.forEach (fun conn => subscribe conn (.hubTopic hub)) conns
  return ⟨conns, .stateSync (← buildStateSyncForRequestedHubs user [hub])⟩

def createHub (name : String) : HubProg Reply := do
  match ← session (.sessionOfConnection conn) with
  | .error _ => return .refused (.error .unauthorized "Authenticate first")
  | .ok user =>
    match checkText "Hub name" 80 name with
    | .error refusal => return .refused refusal
    | .ok name =>
      match ← (HubService.createHub user name).attempt with
      | .error (.exception what) =>
        match mapHubWriteError what with
        | some text => return .refused (.error .invalidArgument text)
        | none => return .refused (.error .internalError "Failed to create hub")
      | .error .unknown => return .refused (.error .internalError "Failed to create hub")
      | .ok hub =>
        -- The default channel; a hub without it is a hub still.
        let _ ← (HubService.createChannel hub.id .chat "general").attempt
        let entered ← enterHub conn user hub.id
        return .done [entered]

/-- The check of a text that may be missing. -/
def checkAsked (what : String) (bound : Nat) : Option String → Except Refusal (Option String)
  | none => .ok none
  | some raw => (checkText what bound raw).map some

-- `UpdateHubCommand::execute`, the texts of the request, if they are acceptable.
def checkProfile (name seed : Option String) :
    Except Refusal (Option String × Option String) := do
  let name ← checkAsked "Hub name" 80 name
  let seed ← checkAsked "Avatar seed" 128 seed
  if name = none ∧ seed = none then .error (.error .invalidArgument "No changes requested")
  else return (name, seed)

/-- The write of a text, if it is asked for. -/
def writeAsked (write : String → HubProg Bool) : Option String → HubProg Bool
  | none => return true
  | some text => write text

section

variable (hub : HubId) (name seed : Option String)

-- `UpdateHubCommand::execute`, the `try` block: which write found no hub, if one
-- did.
def writeProfile : HubProg (Option String) := do
  if ← writeAsked (HubService.renameHub hub) name then
    if ← writeAsked (HubService.updateHubAvatarSeed hub) seed then return none
    else return some "Unable to update hub avatar at this time"
  else return some "Unable to rename hub at this time"

def changeProfile : HubProg Reply := do
  match ← (writeProfile hub name seed).attempt with
  | .error (.exception what) =>
    match mapHubWriteError what with
    | some text => return .refused (.error .invalidArgument text)
    | none => return .refused (.error .internalError "Unable to update hub settings")
  | .error .unknown => return .refused (.error .internalError "Unable to update hub settings")
  | .ok (some failure) => return .refused (.error .internalError failure)
  | .ok none =>
    match ← HubService.getHub hub with
    | none => return .done
    | some updated =>
      let subs ← subscription (.getSubscribers (.hubTopic hub))
      return .done (Outgoing.delta subs hub [.hubUpsert updated.profile])

def updateHub : HubProg Reply := do
  match ← session (.sessionOfConnection conn) with
  | .error _ => return .refused (.error .unauthorized "Authenticate first")
  | .ok user =>
    match checkProfile name seed with
    | .error refusal => return .refused refusal
    | .ok (name, seed) =>
      match ← HubService.getMembershipRole hub user with
      | none => return .refused (.error .forbidden "Join the hub before updating it")
      | some .user =>
        return .refused (.error .forbidden "Only admins or owners can update hub settings")
      | some .admin | some .owner => changeProfile hub name seed

def eraseHub (user : UserId) : HubProg Bool := do
  if ← HubService.deleteHub hub user then
    outside (.revokeInvitesForHub hub)
    return true
  else return false

-- `DeleteHubCommand::execute`; what is not a `std::exception` ends in the
-- worker.
def deleteHub : HubProg Reply := do
  match ← session (.sessionOfConnection conn) with
  | .error _ => return .refused (.drop .forbidden "Authenticate first")
  | .ok user =>
    match ← HubService.getMembershipRole hub user with
    | none => return .refused (.error .forbidden "Join the hub before removing it")
    | some .user | some .admin =>
      return .refused (.error .forbidden "Only owners can remove hubs")
    | some .owner =>
      let channelIds ← HubService.getHubChannelIds hub
      match ← (eraseHub hub user).attempt with
      | .error .unknown => Prog.raise .unknown
      | .error (.exception _) =>
        return .refused (.error .internalError "Unable to delete hub at this time")
      | .ok false => return .refused (.error .internalError "Unable to remove hub at this time")
      | .ok true =>
        let subs ← subscription (.getSubscribers (.hubTopic hub))
        subscription (.removeAllForTopic (.hubTopic hub))
        Prog.forEach (fun channel => subscription (.removeAllForTopic (.channelTopic hub channel)))
          channelIds
        return .done (Outgoing.delta subs hub [.hubRemove])

end

def inviteToken (code : String) : String :=
  match code.splitOn "/invite/" with
  | _ :: rest@(_ :: _) => "/invite/".intercalate rest
  | _ => code

-- `JoinHubByInviteCommand::execute`, for a user who is not a member yet.
def becomeMember (user : UserId) (hub : HubId) : HubProg Reply := do
  match ← HubService.getHub hub with
  | none => return .refused (.error .notFound "Hub not found")
  | some _ =>
    match ← (HubService.addMember hub user .user).attempt with
    | .error _ => return .refused (.error .internalError "Failed to join hub")
    | .ok () =>
      let entered ← enterHub conn user hub
      let subs ← subscription (.getSubscribers (.hubTopic hub))
      return .done (entered ::
        Outgoing.delta (subs.filter fun k => k ∉ entered.targets) hub [.memberUpsert user .user])

def joinHubByInvite (code : String) : HubProg Reply := do
  match ← session (.sessionOfConnection conn) with
  | .error _ => return .refused (.error .unauthorized "Authenticate first")
  | .ok user =>
    match ← outside (.resolveInvite (inviteToken code)) with
    | none => return .refused (.error .inviteExpired "Invite link is invalid or has expired")
    | some hub =>
      match ← HubService.getMembershipRole hub user with
      | some _ =>
        let entered ← enterHub conn user hub
        return .done [entered]
      | none => becomeMember conn user hub

section

variable (hub : HubId)

/-- Take the connections off the hub's topic and off its channels' topics. -/
def dropSubscriptions (channels : List ChannelId) (conns : List GlobalConnId) : HubProg Unit :=
  Prog.forEach (fun conn => do
    unsubscribe conn (.hubTopic hub)
    Prog.forEach (fun channel => unsubscribe conn (.channelTopic hub channel)) channels) conns

-- `LeaveHubCommand::execute`, `KickHubMemberCommand::execute`, past the
-- member's connections: who is left hears `ops`, the connections that the hub is gone.
def evict (conns : List GlobalConnId) (ops : List DeltaOp) : HubProg Reply := do
  let channels ← HubService.getHubChannelIds hub
  dropSubscriptions hub channels conns
  let subs ← subscription (.getSubscribers (.hubTopic hub))
  return .done (Outgoing.delta subs hub ops ++ Outgoing.delta conns hub [.hubRemove])

def giveUpMembership (user : UserId) : HubProg Reply := do
  match ← (HubService.removeMember hub user).attempt with
  | .error (.exception _) =>
    return .refused (.error .internalError "Unable to leave hub at this time")
  | .error .unknown => return .refused (.error .internalError "Failed to leave hub")
  | .ok () =>
    let conns ← ownConnections conn user
    evict hub conns [.memberRemove user]

def leaveHub : HubProg Reply := do
  match ← session (.sessionOfConnection conn) with
  | .error _ => return .refused (.error .unauthorized "Authenticate first")
  | .ok user =>
    match ← HubService.getMembershipRole hub user with
    | none => return .refused (.error .forbidden "Join the hub before leaving it")
    | some .owner =>
      return .refused (.error .forbidden "Owners must transfer ownership before leaving")
    | some .admin | some .user => giveUpMembership conn hub user

variable (target : UserId)

def authorizeKick : HubProg (Except Refusal Unit) := do
  match ← session (.sessionOfConnection conn) with
  | .error _ => return .error (.error .unauthorized "Authenticate first")
  | .ok actor =>
    if hub.value = "" ∨ target.value = "" then
      return .error (.error .invalidArgument "hub_id and user_id are required")
    else
      match ← HubService.getMembershipRole hub actor with
      | none => return .error (.error .forbidden "Join the hub before moderating members")
      | some actorRole =>
        match ← HubService.getMembershipRole hub target with
        | none => return .error (.error .notFound "Target user is not a member")
        | some targetRole =>
          if canKickHubMember actorRole targetRole actor target then return .ok ()
          else return .error (.error .forbidden "You are not allowed to kick this member")

def kickFromVoice : HubProg Bool := do
  match ← outside (.userChannel target) with
  | none => return true
  | some channel =>
    match ← HubService.getChannel channel with
    | none => return true
    | some info =>
      if info.hubId = hub then outside (.verifiedKickUser channel target) else return true

def expel : HubProg Reply := do
  match ← (HubService.removeMember hub target).attempt with
  | .error _ => return .refused (.error .internalError "Failed to kick member")
  | .ok () =>
    let _ ← (outside (.revokeInvitesForHub hub)).attempt
    let conns ← session (.getSessionConnections target)
    evict hub conns [.memberRemove target, .joinCodeSet ""]

def kickHubMember : HubProg Reply := do
  match ← authorizeKick conn hub target with
  | .error refusal => return .refused refusal
  | .ok () =>
    if ← kickFromVoice hub target then expel hub target
    else return .refused (.error .internalError "Failed to remove user from voice channel")

end

def parseTargetRole : HubRole → Option Role
  | .admin => some .admin
  | .member => some .user
  | .unspecified | .owner => none

def changeRole (hub : HubId) (target : UserId) (desiredRole : Role) : HubProg Reply := do
  match ← (HubService.addMember hub target desiredRole).attempt with
  | .error (.exception _) =>
    return .refused (.error .internalError "Unable to update member role at this time")
  | .error .unknown => return .refused (.error .internalError "Failed to update member role")
  | .ok () =>
    let subs ← subscription (.getSubscribers (.hubTopic hub))
    return .done (Outgoing.delta (if subs.isEmpty then [conn] else subs) hub
      [.memberUpsert target desiredRole])

def updateHubMemberRole (hub : HubId) (target : UserId) (role : HubRole) : HubProg Reply := do
  match ← session (.sessionOfConnection conn) with
  | .error _ => return .refused (.error .unauthorized "Authenticate first")
  | .ok actor =>
    if hub.value = "" ∨ target.value = "" then
      return .refused (.error .invalidArgument "hub_id and user_id are required")
    else
      match parseTargetRole role with
      | none => return .refused (.error .invalidArgument "Role must be MEMBER or ADMIN")
      | some desiredRole =>
        match ← HubService.getMembershipRole hub actor with
        | none => return .refused (.error .forbidden "Join the hub before updating member roles")
        | some actorRole =>
          match ← HubService.getMembershipRole hub target with
          | none => return .refused (.error .notFound "Target user is not a member")
          | some targetRole =>
            if canChangeMemberRole actorRole targetRole desiredRole actor target then
              changeRole conn hub target desiredRole
            else
              return .refused
                (.error .forbidden "You are not allowed to update this member role")

def getHubInvite (hub : HubId) : HubProg Reply := do
  match ← session (.sessionOfConnection conn) with
  | .error _ => return .refused (.drop .forbidden "Authenticate before sending messages")
  | .ok user =>
    match ← HubService.getMembershipRole hub user with
    | none => return .refused (.error .forbidden "Join the hub before requesting a join code")
    | some role =>
      if canInvite role then
        let code ← outside (.createInvite hub)
        let conns ← ownConnections conn user
        return .done [⟨conns, .stateDelta ⟨hub, [.joinCodeSet code]⟩⟩]
      else return .refused (.error .forbidden "Only owners or admins can create join codes")

/-! ## Checked texts -/

theorem checkAsked_some (checked : checkAsked what bound (some raw) = .ok asked) :
    ∃ text, checkText what bound raw = .ok text ∧ asked = some text := by
  rw [checkAsked] at checked
  cases passed : checkText what bound raw with
  | error refusal => simp [passed, Except.map] at checked
  | ok text =>
    rw [passed] at checked
    cases checked
    exact ⟨text, rfl, rfl⟩

theorem checkAsked_ok (checked : checkAsked what bound given = .ok asked) :
    ∀ text ∈ asked, ∃ raw ∈ given, checkText what bound raw = .ok text := by
  cases given with
  | none =>
    cases checked
    simp
  | some raw =>
    obtain ⟨text, passed, rfl⟩ := checkAsked_some checked
    simp [passed]

/-- The texts that pass the checks of a profile. -/
theorem checkProfile_ok (checked : checkProfile name seed = .ok (name', seed')) :
    checkAsked "Hub name" 80 name = .ok name' ∧
      checkAsked "Avatar seed" 128 seed = .ok seed' := by
  unfold checkProfile at checked
  cases named : checkAsked "Hub name" 80 name with
  | error refusal => simp [named, bind, Except.bind] at checked
  | ok text =>
    cases seeded : checkAsked "Avatar seed" 128 seed with
    | error refusal => simp [named, seeded, bind, Except.bind] at checked
    | ok text' =>
      simp only [named, seeded, bind, Except.bind] at checked
      split at checked <;> cases checked
      exact ⟨rfl, rfl⟩

/-! ## State syncs only look up -/

section StateSync

variable {P : HubCall → Prop} (reads : ∀ c : HubCall, c.Reads → P c)
  (finds : ∀ user, P (.outside (.getUser user)))
  (gathers : ∀ users, P (.outside (.getUsersByIds users)))

include reads gathers

theorem collectHubInputs_only (hubs : List Hub) : (collectHubInputs hubs).Only P := by
  refine .bind ((HubService.warmSnapshotsForHubs_reads hubs).mono reads) fun _ => ?_
  refine .bind (.collect fun hub _ => (HubService.getHubTopology_reads hub.id).mono reads)
    fun topologies => ?_
  refine .bind (.ask (gathers _)) fun _ => ?_
  exact .bind ((HubService.getChannelsByIds_reads _).mono reads) fun _ => trivial

include finds

theorem buildStateSyncForUser_only (user : UserId) : (buildStateSyncForUser user).Only P := by
  refine .bind (.ask (finds user)) fun _ => ?_
  refine .bind (.ask (reads (.database (.getUserHubs user)) trivial)) fun hubs => ?_
  exact collectHubInputs_only reads gathers hubs

theorem buildStateSyncForRequestedHubs_only (user : UserId) (requested : List HubId) :
    (buildStateSyncForRequestedHubs user requested).Only P := by
  refine .bind (.ask (finds user)) fun _ => ?_
  refine .bind (.bind (.collect fun hub _ => ?_) fun _ => trivial) fun authorized => ?_
  · exact .bind ((HubService.getMembershipRole_reads hub user).mono reads) fun _ => trivial
  · refine .bind ((HubService.getHubsByIds_reads _).mono reads) fun hubs => ?_
    exact collectHubInputs_only reads gathers hubs

end StateSync

end Handlers

/-! ## The workers -/

/-- An event a worker takes from the queue. -/
inductive Request where
  | authenticate (conn : GlobalConnId) (token : String) (resumes : Bool)
  | bootstrap (conn : GlobalConnId) (user : UserId)
  | disconnect (conn : GlobalConnId)
  | selectActiveChannel (conn : GlobalConnId) (hub : HubId) (channel : ChannelId)
      (cursor : Option Nat) (latestLimit : Nat)
  | createChannel (conn : GlobalConnId) (hub : HubId) (type : Option ChannelType) (name : String)
  | renameChannel (conn : GlobalConnId) (hub : HubId) (channel : ChannelId) (name : Option String)
  | removeChannel (conn : GlobalConnId) (hub : HubId) (channel : ChannelId)
  | createHub (conn : GlobalConnId) (name : String)
  | updateHub (conn : GlobalConnId) (hub : HubId) (name seed : Option String)
  | deleteHub (conn : GlobalConnId) (hub : HubId)
  | joinHubByInvite (conn : GlobalConnId) (code : String)
  | leaveHub (conn : GlobalConnId) (hub : HubId)
  | kickHubMember (conn : GlobalConnId) (hub : HubId) (target : UserId)
  | updateHubMemberRole (conn : GlobalConnId) (hub : HubId) (target : UserId) (role : HubRole)
  | getHubInvite (conn : GlobalConnId) (hub : HubId)
deriving DecidableEq, Repr

/-- The connection the event came from. -/
def Request.conn : Request → GlobalConnId
  | authenticate conn _ _ | bootstrap conn _ | disconnect conn
  | selectActiveChannel conn _ _ _ _ | createChannel conn _ _ _ | renameChannel conn _ _ _
  | removeChannel conn _ _ | createHub conn _ | updateHub conn _ _ _ | deleteHub conn _
  | joinHubByInvite conn _ | leaveHub conn _ | kickHubMember conn _ _
  | updateHubMemberRole conn _ _ _ | getHubInvite conn _ => conn

def Request.prog : Request → HubProg Reply
  | authenticate conn token resumes => Handlers.authenticate conn token resumes
  | bootstrap conn user => Handlers.bootstrap conn user
  | disconnect conn => Handlers.disconnect conn
  | selectActiveChannel conn hub channel cursor latestLimit =>
    Handlers.selectActiveChannel conn hub channel cursor latestLimit
  | createChannel conn hub type name => Handlers.createChannel conn hub type name
  | renameChannel conn hub channel name => Handlers.renameChannel conn hub channel name
  | removeChannel conn hub channel => Handlers.removeChannel conn hub channel
  | createHub conn name => Handlers.createHub conn name
  | updateHub conn hub name seed => Handlers.updateHub conn hub name seed
  | deleteHub conn hub => Handlers.deleteHub conn hub
  | joinHubByInvite conn code => Handlers.joinHubByInvite conn code
  | leaveHub conn hub => Handlers.leaveHub conn hub
  | kickHubMember conn hub target => Handlers.kickHubMember conn hub target
  | updateHubMemberRole conn hub target role => Handlers.updateHubMemberRole conn hub target role
  | getHubInvite conn hub => Handlers.getHubInvite conn hub

-- `WorkerPool::worker_loop`: a worker runs one handler after another, and an
-- exception ends a handler only.
def workers : Machine HubCall HubCall.Answer Thrown Request Reply World CallEnv where
  exec := World.exec
  prog := Request.prog

abbrev WorkerScene := Scene HubCall HubCall.Answer Thrown Request Reply World

abbrev WorkerEvent := Event HubCall HubCall.Answer Thrown Request Reply

abbrev WorkerPool := Pool HubCall HubCall.Answer Thrown Request Reply World

end Kergit
