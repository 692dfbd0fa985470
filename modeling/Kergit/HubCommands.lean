import Kergit.HubRepository
import Kergit.VoiceSystem

/-!
The commands that take hub access away, next to the voice service.

`HubState` is the hub tables and the voice service of one deployment.  Every hub
command checks the caller against the tables and then writes; two of them also ask
LiveKit to remove somebody.  The voice actions are the ones of `VoiceSystem`, with
the hub lookups answered from the tables.  Commands run one at a time, so the
snapshots `HubService` caches are the tables themselves here.

What a successful command tells its subscribers is left out; its refusals are not.
-/

namespace Kergit

open Lib

/-- What the database makes of a write: done, a `std::exception`, or anything else
thrown. -/
inductive Write where
  | committed
  | failed
  | crashed
deriving DecidableEq, Repr

/-- What a hub command finds outside. -/
structure HubEnv where
  voice : Env
  write : Write := .committed
  /-- Whether the invites of a deleted hub can be revoked. -/
  revokesInvites : Bool := true

/-- The hub lookups answered from the tables. -/
def Env.within (env : Env) (hubs : HubRepository) : Env :=
  { env with getChannel := hubs.getChannel, isHubMember := hubs.isHubMember }

def Action.within (hubs : HubRepository) : Action → Action
  | .authenticate env conn user resume => .authenticate (env.within hubs) conn user resume
  | .disconnect conn => .disconnect conn
  | .voiceJoin env request => .voiceJoin (env.within hubs) request
  | .webhook env event => .webhook (env.within hubs) event
  | .reconcile env userEnv channel reason =>
    .reconcile (env.within hubs) (fun user => (userEnv user).within hubs) channel reason
  | .restart env => .restart (env.within hubs)

structure HubState where
  hubs : HubRepository
  voice : VoiceState

/-- One thing that happens to hubs or voice. -/
inductive HubAction where
  | voice (action : Action)
  | leaveHub (env : HubEnv) (conn : GlobalConnId) (hub : HubId)
  | kickHubMember (env : HubEnv) (conn : GlobalConnId) (hub : HubId) (target : UserId)
  | deleteHub (env : HubEnv) (conn : GlobalConnId) (hub : HubId)
  | removeChannel (env : HubEnv) (conn : GlobalConnId) (hub : HubId) (channel : ChannelId)
  | kickVoiceParticipant (env : HubEnv) (conn : GlobalConnId) (hub : HubId) (channel : ChannelId)
      (target : UserId)
  /-- The writes of the commands that give access: `CreateHub`, `CreateChannel`,
  `JoinHubByInvite` and `UpdateHubMemberRole`. -/
  | createHub (hub : HubId) (owner : UserId)
  | createChannel (channel : Channel)
  | addMember (hub : HubId) (user : UserId) (role : Role)

namespace HubState

open VoiceState (Refusal)

variable (s : HubState) (env : HubEnv) (conn : GlobalConnId) (hub : HubId)

/-- The command's answer is a refusal. -/
def refuse (refusal : Refusal) : HubState := { s with voice := s.voice.emit (refusal.effect conn) }

def authorizeLeave : Except Refusal UserId :=
  match s.voice.sessionManager.sessionOfConnection conn with
  | .error _ => .error (.error .unauthorized "Authenticate first")
  | .ok user =>
    match s.hubs.getMembershipRole hub user with
    | none => .error (.error .forbidden "Join the hub before leaving it")
    | some .owner => .error (.error .forbidden "Owners must transfer ownership before leaving")
    | some .admin | some .user => .ok user

def leaveHub : HubState :=
  match s.authorizeLeave conn hub with
  | .error refusal => s.refuse conn refusal
  | .ok user =>
    match env.write with
    | .failed => s.refuse conn (.error .internalError "Unable to leave hub at this time")
    | .crashed => s.refuse conn (.error .internalError "Failed to leave hub")
    | .committed => { s with hubs := s.hubs.removeMember hub user }

section

variable (target : UserId)

def authorizeKick : Except Refusal Unit :=
  match s.voice.sessionManager.sessionOfConnection conn with
  | .error _ => .error (.error .unauthorized "Authenticate first")
  | .ok actor =>
    if hub.value = "" ∨ target.value = "" then
      .error (.error .invalidArgument "hub_id and user_id are required")
    else
      match s.hubs.getMembershipRole hub actor with
      | none => .error (.error .forbidden "Join the hub before moderating members")
      | some actorRole =>
        match s.hubs.getMembershipRole hub target with
        | none => .error (.error .notFound "Target user is not a member")
        | some targetRole =>
          if canKickHubMember actorRole targetRole actor target then .ok ()
          else .error (.error .forbidden "You are not allowed to kick this member")

/-- The voice channel of the hub the target is tracked in. -/
def seatInHub : Option ChannelId :=
  (s.voice.sessions.userChannel target).filter fun channel =>
    (s.hubs.getChannel channel).any fun info => decide (info.hubId = hub)

def kickFromVoice : Bool × HubState :=
  match s.seatInHub hub target with
  | none => (true, s)
  | some channel =>
    let (kicked, voice) := s.voice.verifiedKickUser env.voice channel target
    (kicked, { s with voice })

-- `KickHubMemberCommand::execute`.  The revocation of the invites that
-- follows is best effort and changes nothing here.
def kickHubMember : HubState :=
  match s.authorizeKick conn hub target with
  | .error refusal => s.refuse conn refusal
  | .ok () =>
    match s.kickFromVoice env hub target with
    | (false, s) =>
      s.refuse conn (.error .internalError "Failed to remove user from voice channel")
    | (true, s) =>
      match env.write with
      | .failed | .crashed => s.refuse conn (.error .internalError "Failed to kick member")
      | .committed => { s with hubs := s.hubs.removeMember hub target }

end

def authorizeDelete : Except Refusal UserId :=
  match s.voice.sessionManager.sessionOfConnection conn with
  | .error _ => .error (.drop .forbidden "Authenticate first")
  | .ok user =>
    match s.hubs.getMembershipRole hub user with
    | none => .error (.error .forbidden "Join the hub before removing it")
    | some .owner => .ok user
    | some .admin | some .user => .error (.error .forbidden "Only owners can remove hubs")

-- `DeleteHubCommand::execute`.  Invites that cannot be revoked are reported
-- as a failure of the whole, though the hub is gone; what is not a `std::exception`
-- ends in the worker.
def deleteHub : HubState :=
  match s.authorizeDelete conn hub with
  | .error refusal => s.refuse conn refusal
  | .ok user =>
    match env.write with
    | .crashed => s
    | .failed => s.refuse conn (.error .internalError "Unable to delete hub at this time")
    | .committed =>
      match s.hubs.deleteHub hub user with
      | (false, _) => s.refuse conn (.error .internalError "Unable to remove hub at this time")
      | (true, hubs) =>
        let s := { s with hubs }
        if env.revokesInvites then s
        else s.refuse conn (.error .internalError "Unable to delete hub at this time")

variable (channel : ChannelId)

def authorizeRemove : Except Refusal Unit :=
  match s.voice.sessionManager.sessionOfConnection conn with
  | .error _ => .error (.error .unauthorized "Authenticate first")
  | .ok user =>
    if hub.value = "" ∨ channel.value = "" then
      .error (.error .invalidArgument "channel.hub_id and channel.channel_id are required")
    else
      match s.hubs.getChannel channel with
      | none => .error (.error .notFound "Channel not found")
      | some info =>
        if info.hubId ≠ hub then .error (.error .notFound "Channel not found")
        else
          match s.hubs.getMembershipRole hub user with
          | none => .error (.error .forbidden "Join the hub before removing channels")
          | some .owner => .ok ()
          | some .admin | some .user =>
            .error (.error .forbidden "Only owners can delete channels")

-- `RemoveChannelCommand::execute`; nothing is caught, a failed write ends in
-- the worker.
def removeChannel : HubState :=
  match s.authorizeRemove conn hub channel with
  | .error refusal => s.refuse conn refusal
  | .ok () =>
    match env.write with
    | .failed | .crashed => s
    | .committed =>
      match s.hubs.deleteChannel hub channel with
      | (false, _) => s.refuse conn (.error .internalError "Unable to delete channel at this time")
      | (true, hubs) => { s with hubs }

def authorizeVoiceKick (target : UserId) : Except Refusal Unit :=
  if hub.value = "" ∨ channel.value = "" then
    .error (.error .invalidArgument "channel.hub_id and channel.channel_id are required")
  else if target.value = "" then .error (.error .invalidArgument "user_id is required")
  else
    match s.voice.sessionManager.sessionOfConnection conn with
    | .error _ => .error (.drop .unauthorized "Authenticate first")
    | .ok actor =>
      match s.hubs.getChannel channel with
      | none => .error (.error .notFound "Channel not found")
      | some info =>
        if info.hubId ≠ hub then .error (.error .notFound "Channel not found")
        else if info.type ≠ .voice then
          .error (.error .invalidArgument "Channel is not a voice channel")
        else
          match s.hubs.getMembershipRole hub actor with
          | none => .error (.error .forbidden "Join the hub before moderating voice")
          | some actorRole =>
            match s.hubs.getMembershipRole hub target with
            | none => .error (.error .notFound "Target user is not a member")
            | some targetRole =>
              if !canKickVoiceParticipant actorRole targetRole actor target then
                .error (.error .forbidden "You are not allowed to kick this participant")
              else if s.voice.sessions.userChannel target ≠ some channel then
                .error (.error .invalidArgument
                  "Target user is not connected to this voice channel")
              else .ok ()

def kickVoiceParticipant (target : UserId) : HubState :=
  match s.authorizeVoiceKick conn hub channel target with
  | .error refusal => s.refuse conn refusal
  | .ok () =>
    match s.voice.verifiedKickUser env.voice channel target with
    | (false, voice) =>
      { s with voice }.refuse conn
        (.error .internalError "Failed to remove user from voice channel")
    | (true, voice) => { s with voice }

/-- The deployment's reaction to one action. -/
def step (cfg : Config) (s : HubState) : HubAction → HubState
  | .voice action => { s with voice := s.voice.step cfg (action.within s.hubs) }
  | .leaveHub env conn hub => s.leaveHub env conn hub
  | .kickHubMember env conn hub target => s.kickHubMember env conn hub target
  | .deleteHub env conn hub => s.deleteHub env conn hub
  | .removeChannel env conn hub channel => s.removeChannel env conn hub channel
  | .kickVoiceParticipant env conn hub channel target =>
    s.kickVoiceParticipant env conn hub channel target
  | .createHub hub owner => { s with hubs := (s.hubs.createHub hub owner).getD s.hubs }
  | .createChannel channel => { s with hubs := (s.hubs.createChannel channel).getD s.hubs }
  | .addMember hub user role => { s with hubs := (s.hubs.addMember hub user role).getD s.hubs }

/-- A fresh process over the hubs there are. -/
def initial (hubs : HubRepository) (maxSessionsPerUser missingTtl : Nat)
    (nodes : List LivekitNode) : HubState where
  hubs
  voice := .initial maxSessionsPerUser missingTtl nodes

end HubState

end Kergit
