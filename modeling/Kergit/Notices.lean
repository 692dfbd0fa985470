import Kergit.HubRepository
import Kergit.MessageRepository
import Kergit.OutboundMessages
import Kergit.VoiceCommands

/-!
What handlers send: the notices of `proto/event`, each with its targets.

A handler returns a list of them, and its worker pushes them to the outgoing queue one
by one when the handler has returned.  A `StateDelta` is about one hub here, as every
delta of a handler is; its operations stand in one list.
-/

namespace Kergit

open VoiceState (Refusal)

-- `proto/event/state.proto`, the operations of a `HubDelta` and its
-- `ChannelDelta`s; users are left out.
inductive DeltaOp where
  | hubUpsert (profile : HubProfile)
  | hubRemove
  | joinCodeSet (code : String)
  | memberUpsert (user : UserId) (role : Role)
  | memberRemove (user : UserId)
  | channelUpsert (channel : Channel)
  | channelRemove (channel : ChannelId)
  | messageAppend (channel : ChannelId) (state : Message)
  | messageBatch (channel : ChannelId) (states : List Message)
  | voiceUpsert (channel : ChannelId) (user : UserId) (muted deafened : Bool)
deriving DecidableEq, Repr

structure StateDelta where
  hubId : HubId
  ops : List DeltaOp
deriving DecidableEq, Repr

-- `proto/event/state.proto`, `HubSync`; a channel of the snapshot whose record is
-- missing is sent as its bare id.  Presence, users and voice are left out.
structure HubSync where
  hubId : HubId
  profile : HubProfile
  members : List (UserId × Role)
  channels : List (ChannelId × Option Channel)
deriving DecidableEq, Repr

inductive Notice where
  | stateSync (hubs : List HubSync)
  | stateDelta (delta : StateDelta)
  | presence (hub : HubId) (user : UserId) (isOnline : Bool)
  | voiceSelfStatus (channel : Option ChannelId) (hub : Option HubId)
  | authUpdate (update : UpdateAuthState)
  | authOk
  | refused (refusal : Refusal)
deriving DecidableEq, Repr

-- `make_outgoing_message`; a notice for one or for many.
structure Outgoing where
  targets : List GlobalConnId
  notice : Notice
deriving DecidableEq, Repr

namespace Outgoing

def one (conn : GlobalConnId) (notice : Notice) : Outgoing := ⟨[conn], notice⟩

/-- A notice for subscribers; nothing if there are none. -/
def toAny (conns : List GlobalConnId) (notice : Notice) : List Outgoing :=
  if conns.isEmpty then [] else [⟨conns, notice⟩]

/-- A delta for a hub's subscribers. -/
def delta (conns : List GlobalConnId) (hub : HubId) (ops : List DeltaOp) : List Outgoing :=
  toAny conns (.stateDelta ⟨hub, ops⟩)

theorem mem_toAny {notice : Notice} :
    out ∈ toAny conns notice ↔ conns ≠ [] ∧ out = ⟨conns, notice⟩ := by
  unfold toAny
  cases conns with
  | nil | cons conn rest => simp

end Outgoing

/-- What a handler answers: a success with what it sends, or a refusal. -/
inductive Reply where
  | done (out : List Outgoing := [])
  | refused (refusal : Refusal)
  | authFailed
deriving DecidableEq, Repr

/-- What the worker pushes for a handler of a connection. -/
def Reply.outgoing (conn : GlobalConnId) : Reply → List Outgoing
  | done out => out
  | refused refusal => [.one conn (.refused refusal)]
  | authFailed => [.one conn (.authUpdate { state := .authFailed })]

end Kergit
