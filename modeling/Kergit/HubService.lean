import Kergit.HubCalls

/-!
`app::services::HubService`: the hub tables behind two caches.

Every answer about membership and channels comes from a snapshot of the hub, taken
from the cache or built from three reads and put there.  A write goes to the database
first; then the member writes drop the snapshot and the channel writes put an edited
copy of it back.  Nothing locks a hub across the steps, so the steps of concurrent
calls interleave in any order.
-/

namespace Kergit

open Lib

open HubProg (cache database)

namespace HubService

def toHub (snapshot : HubSnapshot) : Hub where
  id := snapshot.hubId
  owner := snapshot.ownerId
  profile := snapshot.profile

/-! ## Snapshots -/

section

variable (hub : HubId)

def buildSnapshot : HubProg (Option HubSnapshot) := do
  match ← database (.getHub hub) with
  | none => return none
  | some row =>
    let channelIds ← database (.getHubChannelIds hub)
    let members ← database (.getHubMemberRoles hub)
    let snapshot : HubSnapshot :=
      { hubId := row.id, ownerId := row.owner, profile := row.profile, channelIds,
        memberRoles := Map.gather members }
    cache (.put snapshot)
    return some snapshot

def loadSnapshot : HubProg (Option HubSnapshot) := do
  match ← cache (.get hub) with
  | some snapshot => return some snapshot
  | none => buildSnapshot hub

def getMembershipRole (user : UserId) : HubProg (Option Role) := do
  match ← loadSnapshot hub with
  | none => return none
  | some snapshot => return snapshot.memberRoles.lookup user

def isHubMember (user : UserId) : HubProg Bool := do
  return (← getMembershipRole hub user).isSome

structure HubTopology where
  members : List (UserId × Role) := []
  channelIds : List ChannelId := []

-- `HubService::getHubTopology`; the members are not sorted.
def getHubTopology : HubProg HubTopology := do
  match ← loadSnapshot hub with
  | none => return {}
  | some snapshot =>
    return { members := snapshot.memberRoles.entries.map fun entry => (entry.1, entry.2)
             channelIds := snapshot.channelIds }

def getHubMembersWithRoles : HubProg (List (UserId × Role)) := do
  return (← getHubTopology hub).members

def getHubChannelIds : HubProg (List ChannelId) := do
  return (← getHubTopology hub).channelIds

def getHub : HubProg (Option Hub) := do
  match ← cache (.get hub) with
  | some snapshot => return some (toHub snapshot)
  | none => database (.getHub hub)

end

/-! ## Many hubs at once -/

variable (hubs : List HubId)

-- `HubRepository::getHubChannelsByHubIds`; no id, no query.
def channelsByHubIds : HubProg (List Channel) :=
  if hubs.isEmpty then return [] else database (.getHubChannelsByHubIds hubs)

-- `HubRepository::getHubMemberRolesByHubIds`; no id, no query.
def memberRolesByHubIds : HubProg (List (HubId × UserId × Role)) :=
  if hubs.isEmpty then return [] else database (.getHubMemberRolesByHubIds hubs)

/-- The snapshot of a hub out of the rows of several. -/
def snapshotOf (hub : Hub) (channels : List Channel) (roles : List (HubId × UserId × Role)) :
    HubSnapshot where
  hubId := hub.id
  ownerId := hub.owner
  profile := hub.profile
  channelIds := (channels.filter fun channel => channel.hubId = hub.id).map fun c => c.id
  memberRoles := Map.gather ((roles.filter fun row => row.1 = hub.id).map fun row => row.2)

def storeSnapshot (channels : List Channel) (roles : List (HubId × UserId × Role)) (hub : Hub) :
    HubProg Unit := do
  Prog.forEach (fun channel => cache (.putChannel channel))
    (channels.filter fun channel => channel.hubId = hub.id)
  cache (.put (snapshotOf hub channels roles))

/-- Each of the ids with the snapshot the cache has of it. -/
def lookupSnapshots : HubProg (List (HubId × Option HubSnapshot)) :=
  Prog.collect (fun hub => do return (hub, ← cache (.get hub))) hubs

/-- The keys a cache had nothing for. -/
def misses {K V : Type} (found : List (K × Option V)) : List K :=
  found.filterMap fun entry => if entry.2.isNone then some entry.1 else none

def getHubsByIds : HubProg (List Hub) := do
  let found ← lookupSnapshots (hubs.filter fun hub => hub.value ≠ "").dedup
  if (misses found).isEmpty then return found.filterMap fun entry => entry.2.map toHub
  else
    let fetched ← database (.getHubsByIds (misses found))
    let channels ← channelsByHubIds (fetched.map fun hub => hub.id)
    let roles ← memberRolesByHubIds (fetched.map fun hub => hub.id)
    Prog.forEach (storeSnapshot channels roles) fetched
    return (found.filterMap fun entry => entry.2.map toHub) ++ fetched

def warmSnapshotsForHubs (hubs : List Hub) : HubProg Unit := do
  let hubs := (hubs.filter fun hub => hub.id.value ≠ "").pwFilter fun a b => a.id ≠ b.id
  let found ← lookupSnapshots (hubs.map fun hub => hub.id)
  if found.all fun entry => entry.2.isSome then return ()
  else
    let channels ← channelsByHubIds (hubs.map fun hub => hub.id)
    let roles ← memberRolesByHubIds (hubs.map fun hub => hub.id)
    Prog.forEach (storeSnapshot channels roles) hubs

def getUserHubs (user : UserId) : HubProg (List Hub) := database (.getUserHubs user)

/-! ## Channels by id -/

def getChannel (channel : ChannelId) : HubProg (Option Channel) := do
  match ← cache (.getChannel channel) with
  | some info => return some info
  | none =>
    match ← database (.getChannel channel) with
    | none => return none
    | some info =>
      cache (.putChannel info)
      return some info

def getChannelsByIds (channels : List ChannelId) : HubProg (List Channel) := do
  let found ← Prog.collect (fun id => do return (id, ← cache (.getChannel id)))
    (channels.filter fun id => id.value ≠ "").dedup
  if (misses found).isEmpty then return found.filterMap fun entry => entry.2
  else
    let fetched ← database (.getChannelsByIds (misses found))
    Prog.forEach (fun channel => cache (.putChannel channel)) fetched
    return (found.filterMap fun entry => entry.2) ++ fetched

/-! ## Writes -/

def createHub (owner : UserId) (name : String) : HubProg Hub := do
  let hub ← database (.createHub owner name)
  cache (.invalidate hub.id)
  return hub

def createChannel (hub : HubId) (type : ChannelType) (name : String) : HubProg ChannelId := do
  let id ← database (.createChannel hub type name)
  cache (.putChannel { id, hubId := hub, type, name })
  match ← cache (.get hub) with
  | none => return id
  | some snapshot =>
    if id ∈ snapshot.channelIds then return id
    else
      cache (.put { snapshot with channelIds := snapshot.channelIds ++ [id] })
      return id

def renameChannel (channel : ChannelId) (name : String) : HubProg Bool := do
  if ← database (.renameChannel channel name) then
    match ← cache (.getChannel channel) with
    | some info =>
      cache (.putChannel { info with name })
      return true
    | none =>
      cache (.invalidateChannel channel)
      return true
  else return false

def deleteChannel (channel : ChannelId) (hub : HubId) : HubProg Bool := do
  if ← database (.deleteChannel channel hub) then
    cache (.invalidateChannel channel)
    match ← cache (.get hub) with
    | none => return true
    | some snapshot =>
      cache (.put { snapshot with
        channelIds := snapshot.channelIds.filter fun id => id ≠ channel })
      return true
  else return false

def renameHub (hub : HubId) (name : String) : HubProg Bool := do
  if ← database (.renameHub hub name) then
    cache (.invalidate hub)
    return true
  else return false

def updateHubAvatarSeed (hub : HubId) (avatarSeed : String) : HubProg Bool := do
  if ← database (.updateHubAvatarSeed hub avatarSeed) then
    cache (.invalidate hub)
    return true
  else return false

def deleteHub (hub : HubId) (owner : UserId) : HubProg Bool := do
  let channelIds ← getHubChannelIds hub
  if ← database (.deleteHub hub owner) then
    cache (.invalidate hub)
    Prog.forEach (fun channel => cache (.invalidateChannel channel)) channelIds
    return true
  else return false

def addMember (hub : HubId) (user : UserId) (role : Role) : HubProg Unit := do
  database (.addMember hub user role)
  cache (.invalidate hub)

def removeMember (hub : HubId) (user : UserId) : HubProg Unit := do
  database (.removeMember hub user)
  cache (.invalidate hub)

/-! ## What the calls are on -/

section Storage

variable (hub : HubId) (user : UserId) (role : Role) (channel : ChannelId) (type : ChannelType)
  (name : String)

theorem cache_reads (c : CacheCall) : (cache c).Only HubCall.Reads := .ask trivial

theorem database_reads (reads : c.Reads) : (database c).Only HubCall.Reads :=
  .ask reads

theorem cache_plain (plain : HubCall.Plain (.cache c)) : (cache c).Only HubCall.Plain :=
  .ask plain

theorem database_plain (plain : HubCall.Plain (.database c)) : (database c).Only HubCall.Plain :=
  .ask plain

theorem plain_reads {α : Type} {p : HubProg α} (plain : p.Only HubCall.Plain) :
    p.Only HubCall.Reads := plain.mono fun _ plain => plain.reads

theorem buildSnapshot_reads : (buildSnapshot hub).Only HubCall.Reads := by
  refine .bind (database_reads trivial) fun found => ?_
  cases found with
  | none => trivial
  | some row =>
    refine .bind (database_reads trivial) fun channelIds => ?_
    refine .bind (database_reads trivial) fun members => ?_
    exact .bind (cache_reads _) fun _ => trivial

theorem loadSnapshot_reads : (loadSnapshot hub).Only HubCall.Reads := by
  refine .bind (cache_reads _) fun found => ?_
  cases found with
  | none => exact buildSnapshot_reads hub
  | some snapshot => trivial

theorem getMembershipRole_reads : (getMembershipRole hub user).Only HubCall.Reads := by
  refine .bind (loadSnapshot_reads hub) fun found => ?_
  cases found <;> trivial

theorem isHubMember_reads : (isHubMember hub user).Only HubCall.Reads :=
  .bind (getMembershipRole_reads hub user) fun _ => trivial

theorem getHubTopology_reads : (getHubTopology hub).Only HubCall.Reads := by
  refine .bind (loadSnapshot_reads hub) fun found => ?_
  cases found <;> trivial

theorem getHubChannelIds_reads : (getHubChannelIds hub).Only HubCall.Reads :=
  .bind (getHubTopology_reads hub) fun _ => trivial

theorem getHub_plain : (getHub hub).Only HubCall.Plain := by
  refine .bind (cache_plain trivial) fun found => ?_
  cases found with
  | none => exact database_plain ⟨trivial, rfl⟩
  | some snapshot => trivial

variable (hubs : List HubId)

theorem channelsByHubIds_reads : (channelsByHubIds hubs).Only HubCall.Reads := by
  unfold channelsByHubIds
  split
  · trivial
  · exact database_reads trivial

theorem memberRolesByHubIds_reads : (memberRolesByHubIds hubs).Only HubCall.Reads := by
  unfold memberRolesByHubIds
  split
  · trivial
  · exact database_reads trivial

theorem storeSnapshot_reads (channels : List Channel) (roles : List (HubId × UserId × Role))
    (hub : Hub) : (storeSnapshot channels roles hub).Only HubCall.Reads :=
  .bind (.forEach fun _ _ => cache_reads _) fun _ => cache_reads _

theorem lookupSnapshots_plain : (lookupSnapshots hubs).Only HubCall.Plain :=
  .collect fun _ _ => .bind (cache_plain trivial) fun _ => trivial

theorem lookupSnapshots_reads : (lookupSnapshots hubs).Only HubCall.Reads :=
  plain_reads (lookupSnapshots_plain hubs)

theorem getHubsByIds_reads : (getHubsByIds hubs).Only HubCall.Reads := by
  refine .bind (lookupSnapshots_reads _) fun found => ?_
  split
  · trivial
  · refine .bind (database_reads trivial) fun fetched => ?_
    refine .bind (channelsByHubIds_reads _) fun channels => ?_
    refine .bind (memberRolesByHubIds_reads _) fun roles => ?_
    exact .bind (.forEach fun _ _ => storeSnapshot_reads _ _ _) fun _ => trivial

theorem warmSnapshotsForHubs_reads (hubs : List Hub) :
    (warmSnapshotsForHubs hubs).Only HubCall.Reads := by
  refine .bind (lookupSnapshots_reads _) fun found => ?_
  split
  · trivial
  · refine .bind (channelsByHubIds_reads _) fun channels => ?_
    refine .bind (memberRolesByHubIds_reads _) fun roles => ?_
    exact .forEach fun _ _ => storeSnapshot_reads _ _ _

theorem getChannel_plain : (getChannel channel).Only HubCall.Plain := by
  refine .bind (cache_plain trivial) fun found => ?_
  cases found with
  | some info => trivial
  | none =>
    refine .bind (database_plain ⟨trivial, rfl⟩) fun found => ?_
    cases found with
    | none => trivial
    | some info => exact .bind (cache_plain trivial) fun _ => trivial

theorem getChannel_reads : (getChannel channel).Only HubCall.Reads :=
  plain_reads (getChannel_plain channel)

theorem getChannelsByIds_plain (channels : List ChannelId) :
    (getChannelsByIds channels).Only HubCall.Plain := by
  refine .bind (.collect fun _ _ => .bind (cache_plain trivial) fun _ => trivial) fun found => ?_
  split
  · trivial
  · refine .bind (database_plain ⟨trivial, rfl⟩) fun fetched => ?_
    exact .bind (.forEach fun _ _ => cache_plain trivial) fun _ => trivial

theorem getChannelsByIds_reads (channels : List ChannelId) :
    (getChannelsByIds channels).Only HubCall.Reads :=
  plain_reads (getChannelsByIds_plain channels)

end Storage

end HubService

end Kergit
