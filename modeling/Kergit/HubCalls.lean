import Kergit.Lib.Programs
import Kergit.SessionManager
import Kergit.SubscriptionManager
import Kergit.HubRepository
import Kergit.MessageRepository

/-!
What the workers share, and the atomic calls they make on it.

A handler of the worker pool runs concurrently with every other handler.  It works on
five things, each behind its own lock or in its own database transaction: the session
manager, the subscription manager, the two caches of `HubService`, the hub tables,
and what lies outside (tokens, invites, voice, messages).  A call on one of them is
atomic; a handler is a program of such calls.

`World.exec` is what a call does.  The managers and the caches never throw; the
database and the outside may throw at any call, without effect.  A `CallEnv` is what
the outside answers and which ids the database draws.
-/

namespace Kergit

open Lib

structure HubSnapshot where
  hubId : HubId
  ownerId : UserId
  profile : HubProfile := {}
  channelIds : List ChannelId
  memberRoles : Map UserId Role

/-- An exception, as a handler can tell it. -/
inductive Thrown where
  | exception (what : String)
  | unknown
deriving DecidableEq, Repr

/-- What a call finds outside. -/
structure CallEnv where
  /-- The exception the database or the outside throws. -/
  thrown : Option Thrown := none
  /-- The user a token belongs to, if it is valid. -/
  claims : Option UserId := none
  /-- The ids the database draws. -/
  hubId : HubId := {}
  channelId : ChannelId := {}
  /-- A new invite's token, and whether the invite asked for has expired. -/
  inviteToken : String := ""
  inviteExpired : Bool := false
  /-- The voice channel of the user asked about, and whether a voice kick succeeds. -/
  voiceChannel : Option ChannelId := none
  kicked : Bool := true
  /-- The messages asked for, if they can be fetched. -/
  fetched : Option (List Message) := some []

/-! ## The session manager -/

inductive SessionCall where
  | sessionOfConnection (conn : GlobalConnId)
  | sessionIdOfConnection (conn : GlobalConnId)
  | attachConnection (conn : GlobalConnId) (user : UserId)
  | removeConnection (conn : GlobalConnId)
  | getSessionConnections (user : UserId)
  | hasSession (user : UserId)
  | joinTextChannel (user : UserId) (hub : HubId) (channel : ChannelId)

namespace SessionCall

@[reducible] def Answer : SessionCall → Type
  | sessionOfConnection _ => Except String UserId
  | sessionIdOfConnection _ => Except String Nat
  | attachConnection _ _ => Except AttachError Nat
  | removeConnection _ => Unit
  | getSessionConnections _ => List GlobalConnId
  | hasSession _ => Bool
  | joinTextChannel _ _ _ => Unit

def exec (m : SessionManager) : (c : SessionCall) → c.Answer × SessionManager
  | sessionOfConnection conn => (m.sessionOfConnection conn, m)
  | sessionIdOfConnection conn => (m.sessionIdOfConnection conn, m)
  | attachConnection conn user => m.attachConnection conn user
  | removeConnection conn => ((), m.removeConnection conn)
  | getSessionConnections user => (m.getSessionConnections user, m)
  | hasSession user => (m.hasSession user, m)
  | joinTextChannel user hub channel => ((), m.joinTextChannel user hub channel)

end SessionCall

/-! ## The subscription manager -/

inductive SubscriptionCall where
  | subscribeConnection (conn : GlobalConnId) (topic : Topic)
  | unsubscribeConnection (conn : GlobalConnId) (topic : Topic)
  | getSubscribers (topic : Topic)
  | getSubscriptionsForConnection (conn : GlobalConnId)
  | removeAllForConnection (conn : GlobalConnId)
  | removeAllForTopic (topic : Topic)

namespace SubscriptionCall

@[reducible] def Answer : SubscriptionCall → Type
  | subscribeConnection _ _ => Bool
  | unsubscribeConnection _ _ => Bool
  | getSubscribers _ => List GlobalConnId
  | getSubscriptionsForConnection _ => Except String (List Topic)
  | removeAllForConnection _ => Unit
  | removeAllForTopic _ => Unit

def exec (m : SubscriptionManager) : (c : SubscriptionCall) → c.Answer × SubscriptionManager
  | subscribeConnection conn topic => m.subscribeConnection conn topic
  | unsubscribeConnection conn topic => m.unsubscribeConnection conn topic
  | getSubscribers topic => (m.getSubscribers topic, m)
  | getSubscriptionsForConnection conn => (m.getSubscriptionsForConnection conn, m)
  | removeAllForConnection conn => ((), m.removeAllForConnection conn)
  | removeAllForTopic topic => ((), m.removeAllForTopic topic)

end SubscriptionCall

/-! ## The caches of `HubService` -/

-- `HubCache.h`, `ChannelCache.h`; a snapshot is kept under its own hub.
structure HubCaches where
  snapshots : Map HubId HubSnapshot := ∅
  channels : Map ChannelId Channel := ∅
  keyed : ∀ hub snapshot, snapshots.lookup hub = some snapshot → snapshot.hubId = hub := by simp

namespace HubCaches

def empty : HubCaches := {}

variable (caches : HubCaches)

def put (snapshot : HubSnapshot) : HubCaches :=
  { caches with
    snapshots := caches.snapshots.insert snapshot.hubId snapshot
    keyed := by
      intro hub found is
      rw [Map.lookup_insert_if] at is
      split at is
      · rename_i same
        rw [← Option.some.inj is, same]
      · exact caches.keyed hub found is }

def invalidate (hub : HubId) : HubCaches :=
  { caches with
    snapshots := caches.snapshots.erase hub
    keyed := by
      intro other found is
      rw [Map.lookup_erase_if] at is
      split at is
      · nomatch is
      · exact caches.keyed other found is }

end HubCaches

inductive CacheCall where
  | get (hub : HubId)
  | put (snapshot : HubSnapshot)
  | invalidate (hub : HubId)
  | getChannel (channel : ChannelId)
  | putChannel (channel : Channel)
  | invalidateChannel (channel : ChannelId)

namespace CacheCall

@[reducible] def Answer : CacheCall → Type
  | get _ => Option HubSnapshot
  | put _ => Unit
  | invalidate _ => Unit
  | getChannel _ => Option Channel
  | putChannel _ => Unit
  | invalidateChannel _ => Unit

def exec (caches : HubCaches) : (c : CacheCall) → c.Answer × HubCaches
  | get hub => (caches.snapshots.lookup hub, caches)
  | put snapshot => ((), caches.put snapshot)
  | invalidate hub => ((), caches.invalidate hub)
  | getChannel channel => (caches.channels.lookup channel, caches)
  | putChannel channel => ((), { caches with channels := caches.channels.insert channel.id channel })
  | invalidateChannel channel => ((), { caches with channels := caches.channels.erase channel })

end CacheCall

/-! ## The database -/

inductive DatabaseCall where
  | getHub (hub : HubId)
  | getHubsByIds (hubs : List HubId)
  | getUserHubs (user : UserId)
  | getHubChannelIds (hub : HubId)
  | getHubMemberRoles (hub : HubId)
  | getHubChannelsByHubIds (hubs : List HubId)
  | getHubMemberRolesByHubIds (hubs : List HubId)
  | getChannel (channel : ChannelId)
  | getChannelsByIds (channels : List ChannelId)
  | createHub (owner : UserId) (name : String)
  | createChannel (hub : HubId) (type : ChannelType) (name : String)
  | renameChannel (channel : ChannelId) (name : String)
  | deleteChannel (channel : ChannelId) (hub : HubId)
  | renameHub (hub : HubId) (name : String)
  | updateHubAvatarSeed (hub : HubId) (avatarSeed : String)
  | deleteHub (hub : HubId) (owner : UserId)
  | addMember (hub : HubId) (user : UserId) (role : Role)
  | removeMember (hub : HubId) (user : UserId)

namespace DatabaseCall

/-- The call changes no table. -/
def Reads : DatabaseCall → Prop
  | getHub _ | getHubsByIds _ | getUserHubs _ | getHubChannelIds _ | getHubMemberRoles _
  | getHubChannelsByHubIds _ | getHubMemberRolesByHubIds _ | getChannel _ | getChannelsByIds _ => True
  | createHub _ _ | createChannel _ _ _ | renameChannel _ _ | deleteChannel _ _ | renameHub _ _
  | updateHubAvatarSeed _ _ | deleteHub _ _ | addMember _ _ _ | removeMember _ _ => False

/-- The hubs whose members the call asks for, if it is such a call. -/
def membersAsked : DatabaseCall → Option (List HubId)
  | getHubMemberRoles hub => some [hub]
  | getHubMemberRolesByHubIds hubs => some hubs
  | _ => none

/-- The maps by hub id come as their rows, each with its hub. -/
@[reducible] def Answer : DatabaseCall → Type
  | getHub _ => Option Hub
  | getHubsByIds _ => List Hub
  | getUserHubs _ => List Hub
  | getHubChannelIds _ => List ChannelId
  | getHubMemberRoles _ => List (UserId × Role)
  | getHubChannelsByHubIds _ => List Channel
  | getHubMemberRolesByHubIds _ => List (HubId × UserId × Role)
  | getChannel _ => Option Channel
  | getChannelsByIds _ => List Channel
  | createHub _ _ => Hub
  | createChannel _ _ _ => ChannelId
  | renameChannel _ _ => Bool
  | deleteChannel _ _ => Bool
  | renameHub _ _ => Bool
  | updateHubAvatarSeed _ _ => Bool
  | deleteHub _ _ => Bool
  | addMember _ _ _ => Unit
  | removeMember _ _ => Unit

/-- A write that the tables refuse throws and leaves them as they are. -/
def write {α : Type} (r : HubRepository) (error : String) (answer : α) :
    Option HubRepository → Except Thrown α × HubRepository
  | some written => (.ok answer, written)
  | none => (.error (.exception error), r)

-- `HubRepository.cpp`; a new row takes the id that is drawn.
def exec (env : CallEnv) (r : HubRepository) :
    (c : DatabaseCall) → Except Thrown c.Answer × HubRepository
  | getHub hub => (.ok (r.getHub hub), r)
  | getHubsByIds hubs => (.ok (r.getHubsByIds hubs), r)
  | getUserHubs user => (.ok (r.getUserHubs user), r)
  | getHubChannelIds hub => (.ok (r.getHubChannelIds hub), r)
  | getHubMemberRoles hub => (.ok (r.getHubMemberRoles hub), r)
  | getHubChannelsByHubIds hubs => (.ok (hubs.flatMap r.getHubChannels), r)
  | getHubMemberRolesByHubIds hubs =>
    (.ok (hubs.flatMap fun hub => (r.getHubMemberRoles hub).map fun row => (hub, row)), r)
  | getChannel channel => (.ok (r.getChannel channel), r)
  | getChannelsByIds channels => (.ok (channels.filterMap r.getChannel), r)
  | createHub owner name =>
    write r "Hub ownership limit reached: max 2 hubs per owner"
      { id := env.hubId, owner, profile := { name := textParam name } }
      (r.createHub env.hubId owner name)
  | createChannel hub type name =>
    write r "Channel limit reached: max 3 channels per hub" env.channelId
      (r.createChannel { id := env.channelId, hubId := hub, type, name := textParam name })
  | renameChannel channel name =>
    (.ok (r.renameChannel channel name).1, (r.renameChannel channel name).2)
  | deleteChannel channel hub =>
    (.ok (r.deleteChannel hub channel).1, (r.deleteChannel hub channel).2)
  | renameHub hub name => (.ok (r.renameHub hub name).1, (r.renameHub hub name).2)
  | updateHubAvatarSeed hub avatarSeed =>
    (.ok (r.updateHubAvatarSeed hub avatarSeed).1, (r.updateHubAvatarSeed hub avatarSeed).2)
  | deleteHub hub owner => (.ok (r.deleteHub hub owner).1, (r.deleteHub hub owner).2)
  | addMember hub user role =>
    write r "Only hub owner can have owner role" () (r.addMember hub user role)
  | removeMember hub user => (.ok (), r.removeMember hub user)

end DatabaseCall

/-! ## What lies outside -/

inductive OutsideCall where
  | authenticate (token : String)
  | tryResumeVoiceOwnership (user : UserId)
  | onSessionDestroyed (user : UserId)
  | userChannel (user : UserId)
  | verifiedKickUser (channel : ChannelId) (user : UserId)
  | getUser (user : UserId)
  | getUsersByIds (users : List UserId)
  | fetchMessages (channel : ChannelId) (after : Option Nat) (limit : Int)
  | pushConnectionEvent (conn : GlobalConnId) (user : UserId)
  | createInvite (hub : HubId)
  | resolveInvite (token : String)
  | revokeInvitesForHub (hub : HubId)

namespace OutsideCall

@[reducible] def Answer : OutsideCall → Type
  | authenticate _ => Option UserId
  | tryResumeVoiceOwnership _ => Unit
  | onSessionDestroyed _ => Unit
  | userChannel _ => Option ChannelId
  | verifiedKickUser _ _ => Bool
  | getUser _ => Unit
  | getUsersByIds _ => Unit
  | fetchMessages _ _ _ => Option (List Message)
  | pushConnectionEvent _ _ => Unit
  | createInvite _ => String
  | resolveInvite _ => Option HubId
  | revokeInvitesForHub _ => Unit

/-- Only invites are state here; every other answer is the environment's. -/
def exec (env : CallEnv) (invites : Map String HubId) :
    (c : OutsideCall) → c.Answer × Map String HubId
  | authenticate _ => (env.claims, invites)
  | tryResumeVoiceOwnership _ => ((), invites)
  | onSessionDestroyed _ => ((), invites)
  | userChannel _ => (env.voiceChannel, invites)
  | verifiedKickUser _ _ => (env.kicked, invites)
  | getUser _ => ((), invites)
  | getUsersByIds _ => ((), invites)
  | fetchMessages _ _ _ => (env.fetched, invites)
  | pushConnectionEvent _ _ => ((), invites)
  | createInvite hub => (env.inviteToken, invites.insert env.inviteToken hub)
  | resolveInvite token => (if env.inviteExpired then none else invites.lookup token, invites)
  | revokeInvitesForHub hub => ((), Map.filter invites fun _ h => decide (h ≠ hub))

end OutsideCall

/-! ## All of it -/

structure World where
  sessions : SessionManager
  subscriptions : SubscriptionManager := .empty
  caches : HubCaches := .empty
  database : HubRepository
  invites : Map String HubId := ∅

inductive HubCall where
  | session (c : SessionCall)
  | subscription (c : SubscriptionCall)
  | cache (c : CacheCall)
  | database (c : DatabaseCall)
  | outside (c : OutsideCall)

@[reducible] def HubCall.Answer : HubCall → Type
  | session c => c.Answer
  | subscription c => c.Answer
  | cache c => c.Answer
  | database c => c.Answer
  | outside c => c.Answer

/-- The call is on a cache, or reads the database. -/
def HubCall.Reads : HubCall → Prop
  | cache _ => True
  | database c => c.Reads
  | session _ | subscription _ | outside _ => False

/-- A read that puts no snapshot and asks for no members. -/
def HubCall.Plain : HubCall → Prop
  | cache (.put _) => False
  | cache _ => True
  | database d => d.Reads ∧ d.membersAsked = none
  | session _ | subscription _ | outside _ => False

/-- The call is on neither manager. -/
def HubCall.Apart : HubCall → Prop
  | cache _ | database _ | outside _ => True
  | session _ | subscription _ => False

theorem HubCall.Plain.reads {c : HubCall} (plain : c.Plain) : c.Reads := by
  cases c with
  | cache c => trivial
  | database d => exact plain.1
  | session c | subscription c | outside c => exact plain

theorem HubCall.Reads.apart {c : HubCall} (reads : c.Reads) : c.Apart := by
  cases c with
  | cache c | database d => trivial
  | session c | subscription c | outside c => exact reads.elim

/-- One call. -/
def World.exec (env : CallEnv) : (c : HubCall) → World → Except Thrown c.Answer × World
  | .session c, w => (.ok (c.exec w.sessions).1, { w with sessions := (c.exec w.sessions).2 })
  | .subscription c, w =>
    (.ok (c.exec w.subscriptions).1, { w with subscriptions := (c.exec w.subscriptions).2 })
  | .cache c, w => (.ok (c.exec w.caches).1, { w with caches := (c.exec w.caches).2 })
  | .database c, w =>
    match env.thrown with
    | some e => (.error e, w)
    | none => ((c.exec env w.database).1, { w with database := (c.exec env w.database).2 })
  | .outside c, w =>
    match env.thrown with
    | some e => (.error e, w)
    | none => (.ok (c.exec env w.invites).1, { w with invites := (c.exec env w.invites).2 })

/-! ## What a call changes -/

/-- What a call can do to the tables, and what it answers when it does. -/
inductive TableStep (env : CallEnv) (t : HubTables) :
    (c : HubCall) → Except Thrown c.Answer → HubTables → Prop
  | same (c : HubCall) (answer : Except Thrown c.Answer) : TableStep env t c answer t
  | createHub (owner : UserId) (name : String) (unused : t.hubs.lookup env.hubId = none) :
    TableStep env t (.database (.createHub owner name))
      (.ok { id := env.hubId, owner, profile := { name := textParam name } })
      (t.withHub env.hubId owner (textParam name))
  | deleteHub (hub : HubId) (owner : UserId) (owned : t.hubs.lookup hub = some owner) :
    TableStep env t (.database (.deleteHub hub owner)) (.ok true) (t.withoutHub hub)
  | addMember (hub : HubId) (user owner : UserId) (role : Role)
    (existing : t.hubs.lookup hub = some owner) (allowed : role = .owner → user = owner) :
    TableStep env t (.database (.addMember hub user role)) (.ok ())
      { t with members := t.members.insert (hub, user) role }
  | removeMember (hub : HubId) (user : UserId) :
    TableStep env t (.database (.removeMember hub user)) (.ok ())
      { t with members := t.members.erase (hub, user) }
  | createChannel (hub : HubId) (type : ChannelType) (name : String)
    (unused : t.channels.lookup env.channelId = none) :
    TableStep env t (.database (.createChannel hub type name)) (.ok env.channelId)
      { t with channels :=
        t.channels.insert env.channelId ⟨env.channelId, hub, type, textParam name⟩ }
  | renameChannel (id : ChannelId) (name : String) (channel : Channel)
    (was : t.channels.lookup id = some channel) :
    TableStep env t (.database (.renameChannel id name)) (.ok true)
      { t with channels := t.channels.insert id { channel with name := textParam name } }
  | profiles (c : HubCall) (answer : Except Thrown c.Answer) (profiles : Map HubId HubProfile) :
    TableStep env t c answer { t with profiles }
  | deleteChannel (id : ChannelId) (channel : Channel) (was : t.channels.lookup id = some channel) :
    TableStep env t (.database (.deleteChannel id channel.hubId)) (.ok true)
      { t with channels := t.channels.erase id }

theorem DatabaseCall.exec_tables (env : CallEnv) (d : DatabaseCall) (r : HubRepository) :
    TableStep env r.tables (.database d) (d.exec env r).1 (d.exec env r).2.tables := by
  cases d with
  | createHub owner name =>
    simp only [exec, HubRepository.createHub]
    split
    · exact .same _ _
    · rename_i unused
      split
      · exact .same _ _
      · exact .createHub owner name unused
  | deleteHub hub owner =>
    simp only [exec, HubRepository.deleteHub]
    split
    · rename_i owned
      exact .deleteHub hub owner owned
    · exact .same _ _
  | addMember hub user role =>
    simp only [exec, HubRepository.addMember]
    split
    · exact .same _ _
    · rename_i owner existing
      split
      · rename_i allowed
        exact .addMember hub user owner role existing allowed
      · exact .same _ _
  | removeMember hub user => exact .removeMember hub user
  | createChannel hub type name =>
    simp only [exec, HubRepository.createChannel]
    split
    · exact .same _ _
    · split
      · exact .same _ _
      · rename_i free
        exact .createChannel hub type name (AList.lookup_eq_none.mpr (not_or.mp free).1)
  | renameChannel id name =>
    simp only [exec, HubRepository.renameChannel]
    split
    · exact .same _ _
    · rename_i channel was
      exact .renameChannel id name channel was
  | renameHub hub name =>
    simp only [exec, HubRepository.renameHub, HubRepository.updateProfile]
    split
    · exact .profiles _ _ _
    · exact .same _ _
  | updateHubAvatarSeed hub avatarSeed =>
    simp only [exec, HubRepository.updateHubAvatarSeed, HubRepository.updateProfile]
    split
    · exact .profiles _ _ _
    · exact .same _ _
  | deleteChannel id hub =>
    simp only [exec, HubRepository.deleteChannel]
    split
    · rename_i found
      obtain ⟨channel, was, here⟩ := (Option.any_eq_true _ _).mp found
      obtain rfl := of_decide_eq_true here
      exact .deleteChannel id channel was
    · exact .same _ _
  | _ => exact .same _ _

/-- What any call does to the tables. -/
theorem World.exec_tables (env : CallEnv) (c : HubCall) (w : World) :
    TableStep env w.database.tables c (World.exec env c w).1
      (World.exec env c w).2.database.tables := by
  cases c with
  | database d =>
    cases threw : env.thrown with
    | some e =>
      simp only [World.exec, threw]
      exact .same _ _
    | none =>
      simp only [World.exec, threw]
      exact DatabaseCall.exec_tables env d w.database
  | outside c =>
    cases threw : env.thrown with
    | some e | none =>
      simp only [World.exec, threw]
      exact .same _ _
  | session c | subscription c | cache c => exact .same _ _

namespace World

variable (env : CallEnv) (c : HubCall) (w : World) (conn : GlobalConnId) (topic : Topic)

/-- The user behind a connection. -/
def userOf : Option UserId := w.sessions.tables.connToSession.lookup conn

/-- The session manager knows the connection. -/
def Attached : Prop := ∃ user, w.userOf conn = some user

instance : Decidable (w.Attached conn) :=
  decidable_of_iff ((w.userOf conn).isSome = true) Option.isSome_iff_exists

def Subscribed : Prop := w.subscriptions.Subscribed conn topic
deriving Decidable

variable {env c w conn topic}

theorem exec_database_eq (c : DatabaseCall) :
    (exec env (.database c) w).2 = w ∨
      env.thrown = none ∧
        exec env (.database c) w =
          ((c.exec env w.database).1, { w with database := (c.exec env w.database).2 }) := by
  cases threw : env.thrown with
  | none => exact .inr ⟨rfl, by simp only [exec, threw]⟩
  | some e => exact .inl (by simp only [exec, threw])

theorem exec_database_ok {d : DatabaseCall} {a : d.Answer}
    (answered : (exec env (.database d) w).1 = .ok a) :
    (d.exec env w.database).1 = .ok a := by
  cases threw : env.thrown with
  | none => simpa only [exec, threw] using answered
  | some e => simp [exec, threw] at answered

theorem exec_outside_ok {c : OutsideCall} {a : c.Answer}
    (answered : (exec env (.outside c) w).1 = .ok a) :
    (c.exec env w.invites).1 = a := by
  cases threw : env.thrown with
  | none => simpa only [exec, threw, Except.ok.injEq] using answered
  | some e => simp [exec, threw] at answered

theorem exec_outside_eq (c : OutsideCall) :
    ∃ invites, (exec env (.outside c) w).2 = { w with invites } := by
  cases threw : env.thrown with
  | none => exact ⟨_, by simp only [exec, threw]; rfl⟩
  | some e => exact ⟨w.invites, by simp only [exec, threw]⟩

/-- Only calls on the managers change them. -/
theorem exec_apart (apart : c.Apart) : (exec env c w).2.sessions = w.sessions ∧
    (exec env c w).2.subscriptions = w.subscriptions := by
  cases c with
  | session c | subscription c => exact apart.elim
  | cache c => exact ⟨rfl, rfl⟩
  | database c =>
    rcases exec_database_eq c with same | ⟨-, same⟩ <;> exact same ▸ ⟨rfl, rfl⟩
  | outside c =>
    obtain ⟨invites, same⟩ := exec_outside_eq c
    exact same ▸ ⟨rfl, rfl⟩

/-- The user behind a connection changes by an attachment or by the removal. -/
theorem userOf_exec : (exec env c w).2.userOf conn = w.userOf conn ∨
    (∃ user, c = .session (.attachConnection conn user) ∧ w.userOf conn = none ∧
      (exec env c w).2.userOf conn = some user) ∨
    c = .session (.removeConnection conn) ∧ (exec env c w).2.userOf conn = none := by
  cases c with
  | session c =>
    cases c with
    | sessionOfConnection k | sessionIdOfConnection k | getSessionConnections user
    | hasSession user => exact .inl rfl
    | joinTextChannel user hub channel =>
      refine .inl ?_
      change (w.sessions.joinTextChannel user hub channel).tables.connToSession.lookup conn = _
      rw [SessionManager.connToSession_joinTextChannel]
      rfl
    | attachConnection k user =>
      rcases SessionManager.connToSession_attachConnection k conn user with
        same | ⟨rfl, unknown, attached⟩
      · exact .inl same
      · exact .inr (.inl ⟨user, rfl, unknown, attached⟩)
    | removeConnection k =>
      have removed : (exec env (.session (.removeConnection k)) w).2.userOf conn =
          if conn = k then none else w.userOf conn :=
        SessionManager.connToSession_removeConnection k conn
      grind
  | subscription c => exact .inl rfl
  | cache c | database c | outside c =>
    refine .inl ?_
    rw [userOf, (exec_apart ?_).1]
    · rfl
    · trivial

/-- A connection hears a new topic by being subscribed to it. -/
theorem subscribed_exec (heard : (exec env c w).2.Subscribed conn topic) :
    w.Subscribed conn topic ∨ c = .subscription (.subscribeConnection conn topic) := by
  cases c with
  | subscription c =>
    cases c with
    | subscribeConnection k t =>
      rcases SubscriptionManager.subscribed_subscribe.mp heard with ⟨rfl, rfl⟩ | before
      · exact .inr rfl
      · exact .inl before
    | unsubscribeConnection k t => exact .inl (SubscriptionManager.subscribed_unsubscribe.mp heard).1
    | getSubscribers t | getSubscriptionsForConnection k => exact .inl heard
    | removeAllForConnection k =>
      exact .inl (SubscriptionManager.subscribed_removeAllForConnection.mp heard).1
    | removeAllForTopic t =>
      exact .inl (SubscriptionManager.subscribed_removeAllForTopic.mp heard).1
  | session c => exact .inl heard
  | cache c | database c | outside c =>
    rw [Subscribed, (exec_apart ?_).2] at heard
    · exact .inl heard
    · trivial

theorem attached_exec_of_ne (still : c ≠ .session (.removeConnection conn))
    (attached : w.Attached conn) : (exec env c w).2.Attached conn := by
  rcases userOf_exec with same | ⟨user, -, unknown, -⟩ | ⟨removed, -⟩
  · rw [Attached, same]
    exact attached
  · obtain ⟨user, known⟩ := attached
    rw [unknown] at known
    nomatch known
  · exact absurd removed still

theorem attached_exec (attached : (exec env c w).2.Attached conn) :
    w.Attached conn ∨ ∃ user, c = .session (.attachConnection conn user) := by
  rcases @userOf_exec env c w conn with
    same | ⟨user, attaches, -, -⟩ | ⟨-, gone⟩
  · rw [Attached, same] at attached
    exact .inl attached
  · exact .inr ⟨user, attaches⟩
  · obtain ⟨user, known⟩ := attached
    rw [gone] at known
    nomatch known

/-- The scene after a call. -/
abbrev after (s : Scene HubCall HubCall.Answer Thrown Cmd Reply World) (i : Nat) (env : CallEnv)
    (c : HubCall) :=
  s.log (.called i c (exec env c s.shared).1) (exec env c s.shared).2

end World

/-- A handler, or a part of one. -/
abbrev HubProg := Prog HubCall HubCall.Answer Thrown

/-! Calls as one-step programs, by what they are on. -/

namespace HubProg

def session (c : SessionCall) : HubProg c.Answer := Prog.ask (HubCall.session c)

def subscription (c : SubscriptionCall) : HubProg c.Answer := Prog.ask (HubCall.subscription c)

def cache (c : CacheCall) : HubProg c.Answer := Prog.ask (HubCall.cache c)

def database (c : DatabaseCall) : HubProg c.Answer := Prog.ask (HubCall.database c)

def outside (c : OutsideCall) : HubProg c.Answer := Prog.ask (HubCall.outside c)

end HubProg

/-! ## A hub with two members -/

namespace Lobby

def alice : UserId := ⟨"alice"⟩

def bob : UserId := ⟨"bob"⟩

def home : HubId := ⟨"hub"⟩

def general : ChannelId := ⟨"general"⟩

def desk : GlobalConnId := ⟨⟨"net"⟩, ⟨"desk"⟩⟩

def phone : GlobalConnId := ⟨⟨"net"⟩, ⟨"phone"⟩⟩

/-- Alice owns a hub with one text channel, bob is a member; both are connected. -/
def world : World where
  sessions := (((SessionManager.empty 5).attachConnection desk alice).2.attachConnection phone bob).2
  database :=
    ((((HubRepository.empty.createHub home alice).getD .empty).addMember home bob .user).bind
      fun r => r.createChannel { id := general, hubId := home, type := .chat }).getD .empty

/-- Task `i` takes `n` turns. -/
def turns {Cmd : Type} (i n : Nat) (env : CallEnv := {}) : List (Move Cmd CallEnv) :=
  List.replicate n (.turn i env)

end Lobby

end Kergit
