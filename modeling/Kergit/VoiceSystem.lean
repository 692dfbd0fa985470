import Kergit.VoiceCommands
import Kergit.Lib.Staged

/-!
The voice service as a transition system.

Everything that happens to the service is an `Action`, handled one at a time and
to the end, with the outside world it finds (`Env`) as part of it.  A run is a
list of actions from a fresh process; results about the service are results
about every run, and a condition on a run is a stage predicate over
(`Lib.Staged`) — a condition on one action in the state that action finds.
-/

namespace Kergit

open Lib

/-- One thing that happens to the voice service. -/
inductive Action where
  /-- A verified `AUTH` on a connection. -/
  | authenticate (env : Env) (conn : GlobalConnId) (user : UserId)
      (resume : Option VoiceState.VoiceResume)
  /-- A connection closes. -/
  | disconnect (conn : GlobalConnId)
  | voiceJoin (env : Env) (request : VoiceState.JoinVoiceChannelRequest)
  | webhook (env : Env) (event : LiveKitEvent)
  | reconcile (env : Env) (userEnv : UserId → Env) (channel : ChannelId) (reason : String)
  /-- The process is replaced and recovers. -/
  | restart (env : Env)

namespace VoiceState

variable (cfg : Config)

/-- The service's reaction to one action. -/
def step (s : VoiceState) : Action → VoiceState
  | .authenticate env conn user resume => s.authenticate cfg env conn user resume
  | .disconnect conn => s.disconnect conn
  | .voiceJoin env request => s.voiceJoin cfg env request
  | .webhook env event => s.onLivekitEvent cfg env event
  | .reconcile env userEnv channel reason =>
    s.reconcileChannelState cfg env channel userEnv reason
  | .restart env => s.restart.recoverFromRestart cfg env

end VoiceState

/-! ## A small deployment

One LiveKit node, one hub and a handful of users, to run the model on. -/

namespace Sample

/-- Draws that never repeat. -/
def drawn (letter : Char) (n : Nat) : String := String.ofList (List.replicate (n + 1) letter)

def cfg : Config where
  generateKey := fun n => some (drawn 'k' n)
  generateNonceHex := drawn 'n'

def hub : HubId := ⟨"hub"⟩

/-- Everything answers, LiveKit lists nobody, and `seconds` have passed. -/
def env (seconds : Nat) : Env where
  steadyNow := 100 + seconds
  unixNow := 1000 + seconds
  redis := ⟨1000 + seconds, fun _ _ => true⟩
  getChannel := fun channel => some { id := channel, hubId := hub, type := .voice }
  isHubMember := fun _ _ => true
  getSubscribers := fun _ => []
  listParticipants := fun _ _ => some []
  listRooms := fun _ => some []
  removeParticipant := fun _ _ _ => true

def nodes : List LivekitNode := [{ nodeId := "node", privateHost := "livekit" }]

def start : VoiceState := .initial 0 30 nodes

def ada : UserId := ⟨"ada"⟩
def bob : UserId := ⟨"bob"⟩
def eve : UserId := ⟨"eve"⟩

/-- The connection a user talks over. -/
def connOf (user : UserId) : GlobalConnId := ⟨⟨"net"⟩, ⟨user.value⟩⟩

def lounge : ChannelId := ⟨"lounge"⟩
def studio : ChannelId := ⟨"studio"⟩

def signIn (user : UserId) : Action := .authenticate (env 0) (connOf user) user none

def ask (env : Env) (user : UserId) (channel : ChannelId) : Action :=
  .voiceJoin env { conn := connOf user, hub, channel }

/-- LiveKit's events for a user who holds the token with this session and nonce. -/
def landed (env : Env) (user : UserId) (channel : ChannelId) (appSessionId : Nat)
    (intentNonce : String) : Action :=
  .webhook env
    { type := .participantJoined
      channelId := channel
      userId := user
      appSessionId
      intentNonce }

def gone (env : Env) (user : UserId) (channel : ChannelId) (appSessionId : Nat)
    (intentNonce : String) : Action :=
  .webhook env
    { type := .participantLeft
      channelId := channel
      userId := user
      appSessionId
      intentNonce }

/-- Ada lands in the lounge. -/
def adaIn : List Action :=
  [signIn ada, ask (env 0) ada lounge, landed (env 1) ada lounge 1 "n"]

/-- Ada lands in the lounge, and Bob has signed in. -/
def adaAhead : List Action :=
  [signIn ada, signIn bob, ask (env 0) ada lounge, landed (env 1) ada lounge 1 "n"]

/-- Ada and Bob land in the lounge. -/
def together : List Action :=
  adaAhead ++ [ask (env 2) bob lounge, landed (env 3) bob lounge 2 "nnn"]

end Sample

end Kergit
