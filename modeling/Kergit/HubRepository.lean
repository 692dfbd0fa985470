import Kergit.Lib.Maps
import Kergit.Ids

/-!
The hub tables, what the database makes of a write, and who may do what.

Three tables: hubs with their owner, channels with their hub, memberships with
their role.  The foreign keys and the owner trigger of `002_hubs.sql` and
`003_channels.sql` are the invariant of the bundled `HubRepository`; a write that
violates them, a unique key or one of the two limits throws.  `HubService` answers
membership and channel questions from these tables.
-/

namespace Kergit

open Lib

inductive Role where
  | user
  | admin
  | owner
deriving DecidableEq, Repr

/-- What a hub shows of itself. -/
structure HubProfile where
  name : String := ""
  avatarSeed : String := ""
deriving DecidableEq, Repr

-- `domains/Hub.h`, without the cached members.
structure Hub where
  id : HubId
  owner : UserId
  profile : HubProfile := {}
deriving DecidableEq, Repr

def canInvite (actorRole : Role) : Bool := decide (actorRole = .owner ∨ actorRole = .admin)

def canChangeMemberRole (actorRole targetRole desiredRole : Role) (actorId targetId : UserId) :
    Bool :=
  if actorRole ≠ .owner then false
  else if actorId = targetId then false
  else if targetRole = .owner then false
  else if desiredRole = .owner then false
  else if desiredRole ≠ .admin ∧ desiredRole ≠ .user then false
  else if targetRole ≠ .admin ∧ targetRole ≠ .user then false
  else decide (targetRole ≠ desiredRole)

def canKickHubMember (actorRole targetRole : Role) (actorId targetId : UserId) : Bool :=
  if actorId = targetId then false
  else if targetRole = .owner then false
  else
    match actorRole with
    | .owner => decide (targetRole = .admin ∨ targetRole = .user)
    | .admin => decide (targetRole = .user)
    | .user => false

def canKickVoiceParticipant (actorRole targetRole : Role) (actorId targetId : UserId) : Bool :=
  canKickHubMember actorRole targetRole actorId targetId

-- `kergit_app.hubs`, `kergit_app.channels`, `kergit_app.hub_members`; the texts of
-- a hub's row stand apart from its owner.
structure HubTables where
  hubs : Map HubId UserId := ∅
  profiles : Map HubId HubProfile := ∅
  channels : Map ChannelId Channel := ∅
  members : Map (HubId × UserId) Role := ∅

/-- Channels and members belong to hubs, and only a hub's owner has the owner role. -/
structure HubTables.Consistent (t : HubTables) : Prop where
  channels : ∀ id channel, t.channels.lookup id = some channel →
    channel.id = id ∧ ∃ owner, t.hubs.lookup channel.hubId = some owner
  members : ∀ hub user role, t.members.lookup (hub, user) = some role →
    ∃ owner, t.hubs.lookup hub = some owner ∧ (role = .owner → user = owner)

structure HubRepository where
  tables : HubTables
  consistent : tables.Consistent

namespace HubTables

variable {t : HubTables} {hub : HubId} {user owner : UserId} {role : Role}

theorem consistent_empty : Consistent {} :=
  ⟨fun _ _ found => absurd found (by simp), fun _ _ _ found => absurd found (by simp)⟩

/-- The row of a new hub, and its owner's membership by `ensure_owner_membership`. -/
def withHub (t : HubTables) (hub : HubId) (owner : UserId) (name : String) : HubTables :=
  { t with
    hubs := t.hubs.insert hub owner
    profiles := t.profiles.insert hub { name }
    members := t.members.insert (hub, owner) .owner }

theorem withHub_consistent (consistent : t.Consistent)
    (unused : t.hubs.lookup hub = none) : (t.withHub hub owner name).Consistent where
  channels := by
    intro id channel found
    obtain ⟨is, o, exists'⟩ := consistent.channels id channel found
    refine ⟨is, o, ?_⟩
    have other : channel.hubId ≠ hub := by
      rintro rfl
      rw [unused] at exists'
      nomatch exists'
    rw [withHub, Map.lookup_insert_if, if_neg other]
    exact exists'
  members := by
    intro h u r found
    rw [withHub, Map.lookup_insert_if] at found
    simp only [withHub, Map.lookup_insert_if]
    by_cases same : h = hub
    · subst same
      refine ⟨owner, if_pos rfl, fun isOwner => ?_⟩
      split at found
      · rename_i key
        exact (Prod.mk.inj key).2
      · obtain ⟨o, exists', -⟩ := consistent.members h u r found
        rw [unused] at exists'
        nomatch exists'
    · rw [if_neg fun key => same (Prod.mk.inj key).1] at found
      rw [if_neg same]
      exact consistent.members h u r found

theorem withMember_consistent (consistent : t.Consistent)
    (existing : t.hubs.lookup hub = some owner) (allowed : role = .owner → user = owner) :
    HubTables.Consistent { t with members := t.members.insert (hub, user) role } where
  channels := consistent.channels
  members := by
    intro h u r found
    rw [Map.lookup_insert_if] at found
    split at found
    · grind
    · exact consistent.members h u r found

theorem withoutMember_consistent (consistent : t.Consistent) :
    HubTables.Consistent { t with members := t.members.erase (hub, user) } where
  channels := consistent.channels
  members := by
    intro h u r found
    rw [Map.lookup_erase_if] at found
    split at found
    · nomatch found
    · exact consistent.members h u r found

/-- A hub's row gone, and with it, by cascade, its channels and members. -/
def withoutHub (t : HubTables) (hub : HubId) : HubTables where
  hubs := t.hubs.erase hub
  profiles := t.profiles.erase hub
  channels := Map.filter t.channels fun _ channel => decide (channel.hubId ≠ hub)
  members := Map.filter t.members fun key _ => decide (key.1 ≠ hub)

section

variable (consistent : t.Consistent)

include consistent

theorem withoutHub_consistent : (t.withoutHub hub).Consistent where
  channels := by
    intro id channel found
    rw [withoutHub, Map.lookup_filter, Option.filter_eq_some_iff, decide_eq_true_eq] at found
    obtain ⟨is, owner, existing⟩ := consistent.channels id channel found.1
    refine ⟨is, owner, ?_⟩
    rw [withoutHub, Map.lookup_erase_if, if_neg found.2]
    exact existing
  members := by
    intro h u r found
    rw [withoutHub, Map.lookup_filter, Option.filter_eq_some_iff, decide_eq_true_eq] at found
    obtain ⟨owner, existing, rank⟩ := consistent.members h u r found.1
    refine ⟨owner, ?_, rank⟩
    rw [withoutHub, Map.lookup_erase_if, if_neg found.2]
    exact existing

theorem withChannel_consistent (existing : t.hubs.lookup channel.hubId = some owner) :
    HubTables.Consistent { t with channels := t.channels.insert channel.id channel } where
  channels := by
    intro id found lookup
    rw [Map.lookup_insert_if] at lookup
    split at lookup
    · grind
    · exact consistent.channels id found lookup
  members := consistent.members

theorem withName_consistent {id : ChannelId} (found : t.channels.lookup id = some channel) :
    HubTables.Consistent { t with channels := t.channels.insert id { channel with name } } := by
  obtain ⟨rfl, owner, existing⟩ := consistent.channels id channel found
  have existing' : t.hubs.lookup ({ channel with name } : Channel).hubId = some owner := existing
  exact withChannel_consistent consistent existing'

theorem withoutChannel_consistent {id : ChannelId} :
    HubTables.Consistent { t with channels := t.channels.erase id } where
  channels := by
    intro other channel found
    rw [Map.lookup_erase_if] at found
    split at found
    · nomatch found
    · exact consistent.channels other channel found
  members := consistent.members

end

end HubTables

namespace HubRepository

def empty : HubRepository := ⟨{}, HubTables.consistent_empty⟩

variable (r : HubRepository) (hub : HubId) (user : UserId)

/-! ## Writes; `none` when the statement throws -/

-- `createHub` with `enforce_max_hubs_per_owner`, given the id the database
-- draws.
def createHub (owner : UserId) (name : String := "") : Option HubRepository :=
  match existing : r.tables.hubs.lookup hub with
  | some _ => none
  | none =>
    if 2 ≤ r.tables.hubs.entries.countP (fun row => row.2 = owner) then none
    else
      some ⟨r.tables.withHub hub owner (textParam name),
        HubTables.withHub_consistent r.consistent existing⟩

-- `addMember`, an upsert, with `prevent_invalid_owner_role`.
def addMember (role : Role) : Option HubRepository :=
  match existing : r.tables.hubs.lookup hub with
  | none => none
  | some owner =>
    if allowed : role = .owner → user = owner then
      some ⟨{ r.tables with members := r.tables.members.insert (hub, user) role },
        HubTables.withMember_consistent r.consistent existing allowed⟩
    else none

def removeMember : HubRepository :=
  ⟨{ r.tables with members := r.tables.members.erase (hub, user) },
    HubTables.withoutMember_consistent r.consistent⟩

-- `deleteHub`; says whether a row was deleted.
def deleteHub (owner : UserId) : Bool × HubRepository :=
  if r.tables.hubs.lookup hub = some owner then
    (true, ⟨r.tables.withoutHub hub, HubTables.withoutHub_consistent r.consistent⟩)
  else (false, r)

-- `createChannel` with `enforce_max_channels_per_hub`, given the id the
-- database draws.
def createChannel (channel : Channel) : Option HubRepository :=
  match existing : r.tables.hubs.lookup channel.hubId with
  | none => none
  | some _ =>
    if channel.id ∈ r.tables.channels ∨
        3 ≤ r.tables.channels.entries.countP (fun row => row.2.hubId = channel.hubId) then none
    else
      some ⟨{ r.tables with channels := r.tables.channels.insert channel.id channel },
        HubTables.withChannel_consistent r.consistent existing⟩

-- `deleteChannel`; says whether a row was deleted.
def deleteChannel (id : ChannelId) : Bool × HubRepository :=
  if (r.tables.channels.lookup id).any (fun channel => channel.hubId = hub) then
    (true, ⟨{ r.tables with channels := r.tables.channels.erase id },
      HubTables.withoutChannel_consistent r.consistent⟩)
  else (false, r)

-- `renameChannel`; says whether there is such a row.
def renameChannel (id : ChannelId) (name : String) : Bool × HubRepository :=
  match found : r.tables.channels.lookup id with
  | none => (false, r)
  | some channel =>
    (true, ⟨{ r.tables with
      channels := r.tables.channels.insert id { channel with name := textParam name } },
      HubTables.withName_consistent r.consistent found⟩)

/-- The texts of a hub's row, changed; says whether there is such a row. -/
def updateProfile (change : HubProfile → HubProfile) : Bool × HubRepository :=
  if hub ∈ r.tables.hubs then
    (true, ⟨{ r.tables with profiles :=
      r.tables.profiles.insert hub (change ((r.tables.profiles.lookup hub).getD {})) },
      ⟨r.consistent.channels, r.consistent.members⟩⟩)
  else (false, r)

def renameHub (name : String) : Bool × HubRepository :=
  r.updateProfile hub fun profile => { profile with name := textParam name }

def updateHubAvatarSeed (avatarSeed : String) : Bool × HubRepository :=
  r.updateProfile hub fun profile => { profile with avatarSeed := textParam avatarSeed }

/-! ## Reads -/

/-- The texts of a hub's row. -/
def profile : HubProfile := (r.tables.profiles.lookup hub).getD {}

def getHub : Option Hub :=
  (r.tables.hubs.lookup hub).map fun owner => { id := hub, owner, profile := r.profile hub }

def getHubsByIds (ids : List HubId) : List Hub := ids.filterMap r.getHub

def getUserHubs : List Hub :=
  (r.tables.hubs.keys.filter fun hub => decide ((hub, user) ∈ r.tables.members)).filterMap r.getHub

def getHubChannels : List Channel :=
  (r.tables.channels.entries.map fun row => row.2).filter fun channel => channel.hubId = hub

def getHubChannelIds : List ChannelId := (r.getHubChannels hub).map fun channel => channel.id

def getHubMemberRoles : List (UserId × Role) :=
  (r.tables.members.entries.filter fun row => row.1.1 = hub).map fun row => (row.1.2, row.2)

theorem mem_getHubChannels : channel ∈ r.getHubChannels hub ↔
      r.tables.channels.lookup channel.id = some channel ∧ channel.hubId = hub := by
  simp only [getHubChannels, List.mem_filter, List.mem_map, decide_eq_true_eq]
  refine and_congr_left fun _ => ?_
  rw [← Option.mem_def, AList.mem_lookup_iff]
  constructor
  · rintro ⟨⟨id, found⟩, listed, rfl⟩
    have is := (r.consistent.channels id found (AList.mem_lookup_iff.mpr listed)).1
    subst is
    exact listed
  · exact fun listed => ⟨_, listed, rfl⟩

theorem mem_getHubChannelIds {id : ChannelId} :
    id ∈ r.getHubChannelIds hub ↔
      ∃ channel, r.tables.channels.lookup id = some channel ∧ channel.hubId = hub := by
  simp [getHubChannelIds, mem_getHubChannels]
  constructor
  · grind
  · rintro ⟨channel, found, inside⟩
    have is := (r.consistent.channels id channel found).1
    subst is
    exact ⟨channel, ⟨found, inside⟩, rfl⟩

theorem mem_getHubMemberRoles :
    (user, role) ∈ r.getHubMemberRoles hub ↔ r.tables.members.lookup (hub, user) = some role := by
  simp only [getHubMemberRoles, List.mem_map, List.mem_filter]
  rw [← Option.mem_def, AList.mem_lookup_iff]
  grind

/-! ## What `HubService` answers -/

def getChannel (id : ChannelId) : Option Channel := r.tables.channels.lookup id

-- `HubService::resolveMembershipRole`: a hub that is gone has no snapshot.
def getMembershipRole : Option Role :=
  (r.tables.hubs.lookup hub).bind fun _ => r.tables.members.lookup (hub, user)

def isHubMember : Bool := (r.getMembershipRole hub user).isSome

/-- A membership implies its hub. -/
@[grind =] theorem getMembershipRole_eq :
    r.getMembershipRole hub user = r.tables.members.lookup (hub, user) := by
  unfold getMembershipRole
  cases found : r.tables.members.lookup (hub, user) with
  | none => cases r.tables.hubs.lookup hub <;> rfl
  | some role =>
    obtain ⟨owner, existing, -⟩ := r.consistent.members hub user role found
    rw [existing]
    rfl

/-- The user may be in the voice channel: it exists, and the user is a member of its
hub. -/
def access (channel : ChannelId) : Bool :=
  (r.getChannel channel).any fun info => decide (info.type = .voice) && r.isHubMember info.hubId user

variable {r hub user} {v : UserId} {channel : ChannelId}

theorem access_eq_true : r.access user channel = true ↔
    ∃ info, r.getChannel channel = some info ∧ info.type = .voice ∧
      r.isHubMember info.hubId user = true := by
  unfold access
  cases r.getChannel channel <;> simp

theorem isHubMember_removeMember : (r.removeMember hub user).isHubMember h v =
    (r.isHubMember h v && decide ((h, v) ≠ (hub, user))) := by
  rw [isHubMember, isHubMember, getMembershipRole_eq, getMembershipRole_eq, removeMember,
    Map.lookup_erase_if]
  split
  · rename_i same
    simp [same]
  · rename_i other
    simp [other]

/-- Removing a member takes access away from nobody else. -/
theorem access_removeMember_of_ne (other : v ≠ user) :
    (r.removeMember hub user).access v channel = r.access v channel := by
  have member : ∀ h, (r.removeMember hub user).isHubMember h v = r.isHubMember h v := by
    intro h
    have key : (h, v) ≠ (hub, user) := fun same => other (Prod.mk.inj same).2
    rw [isHubMember_removeMember, decide_eq_true key, Bool.and_true]
  simp only [access, member]
  rfl

end HubRepository

end Kergit
