import Kergit.Lib.Maps
import Kergit.Ids

/-!
`app::SessionManager`: which connection belongs to which user, and which logical
session.

The class keeps six maps that say overlapping things and are updated by hand
with early returns.  `SessionTables` is that record with `attachConnection` and
`removeConnection` as the source writes them.  `SessionTables.Consistent` is
what the maps say together, and `SessionManager` is a record of tables with the
proof that they are consistent, so that everything downstream reads one fact —
a session id names exactly one live connection of one user — and never looks at
six maps again.

- `attachConnection_consistent`, `removeConnection_consistent`: the two updates
  keep the tables consistent.
- `SessionManager.conn_user`: a connection filed under a session id is a
  connection of that session's user.
-/

namespace Kergit

open Lib

structure SessionInfo where
  currentHub : Option HubId := none
  currentChannel : Option ChannelId := none
deriving DecidableEq, Repr

-- `SessionManager.h`, the private members.  `activeUsers` is the
-- `active_users` gauge, which this class alone moves.
structure SessionTables where
  maxSessionsPerUser : Nat := 0
  nextSessionId : Nat := 0
  sessions : Map UserId SessionInfo := ∅
  connToSession : Map GlobalConnId UserId := ∅
  connToSessionId : Map GlobalConnId Nat := ∅
  sessionIdToUser : Map Nat UserId := ∅
  sessionIdToConns : Map Nat (List GlobalConnId) := ∅
  userToSessionIds : Map UserId (List Nat) := ∅
  activeUsers : Int := 0

/-- The one way `attachConnection` refuses a connection. -/
inductive AttachError where
  | sessionLimitExceeded
deriving DecidableEq, Repr

namespace SessionTables

section

variable (t : SessionTables)

def getUserSessionIds (user : UserId) : List Nat :=
  (t.userToSessionIds.lookup user).getD []

def getSessionIdConnections (sessionId : Nat) : List GlobalConnId :=
  (t.sessionIdToConns.lookup sessionId).getD []

def userHasActiveSessions (user : UserId) : Bool :=
  !(t.getUserSessionIds user).isEmpty

def openSession (conn : GlobalConnId) (user : UserId) : SessionTables :=
  let sessionId := t.nextSessionId + 1
  { t with
    nextSessionId := sessionId
    -- `try_emplace` keeps a present entry.
    sessions := if user ∈ t.sessions then t.sessions else t.sessions.insert user {}
    connToSession := t.connToSession.insert conn user
    connToSessionId := t.connToSessionId.insert conn sessionId
    sessionIdToUser := t.sessionIdToUser.insert sessionId user
    sessionIdToConns :=
      t.sessionIdToConns.insert sessionId ((t.getSessionIdConnections sessionId).insert conn)
    userToSessionIds := t.userToSessionIds.insert user ((t.getUserSessionIds user).insert sessionId)
    activeUsers := if t.userHasActiveSessions user then t.activeUsers else t.activeUsers + 1 }

def attachConnection (conn : GlobalConnId) (user : UserId) :
    Except AttachError Nat × SessionTables :=
  match t.connToSessionId.lookup conn with
  | some existing => (.ok existing, t)
  | none =>
    if 0 < t.maxSessionsPerUser ∧ user ∈ t.userToSessionIds ∧
        t.maxSessionsPerUser ≤ (t.getUserSessionIds user).length then
      (.error .sessionLimitExceeded, t)
    else (.ok (t.nextSessionId + 1), t.openSession conn user)

-- `removeConnection`, the erases of `session_id_to_user_` and
-- `user_to_session_ids_`, reached when the session's last connection has gone.
def dropSessionId (user : UserId) (sessionId : Nat) : SessionTables :=
  let remaining := (t.getUserSessionIds user).erase sessionId
  { t with
    sessionIdToUser := t.sessionIdToUser.erase sessionId
    userToSessionIds :=
      if user ∈ t.userToSessionIds then
        if remaining.isEmpty then t.userToSessionIds.erase user
        else t.userToSessionIds.insert user remaining
      else t.userToSessionIds }

def retireUser (user : UserId) : SessionTables :=
  if t.userHasActiveSessions user then t
  else { t with sessions := t.sessions.erase user, activeUsers := t.activeUsers - 1 }

def destroySession (user : UserId) (sessionId : Nat) : SessionTables :=
  (t.dropSessionId user sessionId).retireUser user

def removeConnection (conn : GlobalConnId) : SessionTables :=
  match t.connToSession.lookup conn with
  | none => { t with connToSessionId := t.connToSessionId.erase conn }
  | some user =>
    let t := { t with connToSession := t.connToSession.erase conn }
    match t.connToSessionId.lookup conn with
    | none => t
    | some sessionId =>
      let t := { t with connToSessionId := t.connToSessionId.erase conn }
      match t.sessionIdToConns.lookup sessionId with
      | none => t.destroySession user sessionId
      | some conns =>
        let remaining := conns.erase conn
        if remaining.isEmpty then
          { t with sessionIdToConns := t.sessionIdToConns.erase sessionId }.destroySession
            user sessionId
        else { t with sessionIdToConns := t.sessionIdToConns.insert sessionId remaining }

end

/-- What the six maps say together.  A session id belongs to one connection,
because `attachConnection` mints one per connection and nothing moves it. -/
structure Consistent (t : SessionTables) : Prop where
  minted : ∀ sid user, t.sessionIdToUser.lookup sid = some user → 0 < sid ∧ sid ≤ t.nextSessionId
  conn_iff : ∀ conn user, t.connToSession.lookup conn = some user ↔
    ∃ sid, t.connToSessionId.lookup conn = some sid ∧ t.sessionIdToUser.lookup sid = some user
  known : ∀ conn sid, t.connToSessionId.lookup conn = some sid →
    ∃ user, t.sessionIdToUser.lookup sid = some user
  conns_iff : ∀ sid conns, t.sessionIdToConns.lookup sid = some conns ↔
    ∃ conn, conns = [conn] ∧ t.connToSessionId.lookup conn = some sid
  live : ∀ sid user, t.sessionIdToUser.lookup sid = some user →
    ∃ conn, t.connToSessionId.lookup conn = some sid
  sessions_iff : ∀ user sid,
    sid ∈ t.getUserSessionIds user ↔ t.sessionIdToUser.lookup sid = some user
  distinct : ∀ user, (t.getUserSessionIds user).Nodup
  nonempty : ∀ user sids, t.userToSessionIds.lookup user = some sids → sids ≠ []
  info_iff : ∀ user, user ∈ t.sessions ↔ user ∈ t.userToSessionIds

variable {t : SessionTables} {conn : GlobalConnId} {user : UserId} {sid : Nat}

theorem consistent_empty (limit : Nat) : Consistent { maxSessionsPerUser := limit } := by
  constructor <;> simp [getUserSessionIds]

section

variable (ok : t.Consistent)

include ok

private theorem next_unused : t.sessionIdToUser.lookup (t.nextSessionId + 1) = none := by
  cases found : t.sessionIdToUser.lookup (t.nextSessionId + 1) with
  | none => rfl
  | some user =>
    have := ok.minted _ _ found
    omega

private theorem filed_earlier (filed : t.connToSessionId.lookup conn = some sid) :
    sid ≠ t.nextSessionId + 1 := by
  rintro rfl
  obtain ⟨user, owned⟩ := ok.known _ _ filed
  nomatch (next_unused ok).symm.trans owned

private theorem next_no_conns : t.getSessionIdConnections (t.nextSessionId + 1) = [] := by
  rw [getSessionIdConnections]
  cases found : t.sessionIdToConns.lookup (t.nextSessionId + 1) with
  | none => rfl
  | some conns =>
    obtain ⟨conn, -, filed⟩ := (ok.conns_iff _ _).mp found
    exact absurd rfl (filed_earlier ok filed)

private theorem next_not_listed (user : UserId) :
    t.nextSessionId + 1 ∉ t.getUserSessionIds user := by
  rw [ok.sessions_iff, next_unused ok]
  simp

theorem getUserSessionIds_openSession (other : UserId) :
    (t.openSession conn user).getUserSessionIds other =
      if other = user then (t.nextSessionId + 1) :: t.getUserSessionIds user
      else t.getUserSessionIds other := by
  simp only [getUserSessionIds, openSession, Map.lookup_insert_if]
  split
  · exact List.insert_of_not_mem (next_not_listed ok user)
  · rfl

theorem openSession_consistent (unknown : t.connToSessionId.lookup conn = none) :
    (t.openSession conn user).Consistent := by
  have sids := @getUserSessionIds_openSession t conn user ok
  have earlier := @filed_earlier t
  have unlisted := next_not_listed ok
  have unfiled := next_no_conns ok
  obtain ⟨minted, conn_iff, known, conns_iff, live, sessions_iff, distinct, nonempty, info_iff⟩ := ok
  constructor
  case minted => grind [openSession]
  case conn_iff => grind [openSession]
  case known => grind [openSession]
  case conns_iff =>
    simp only [openSession, unfiled]
    grind
  case live =>
    intro sid owner owned
    by_cases minted : sid = t.nextSessionId + 1
    · exact ⟨conn, by simp [openSession, minted]⟩
    · obtain ⟨k, filed⟩ := live sid owner (by grind [openSession])
      exact ⟨k, by grind [openSession]⟩
  case sessions_iff =>
    intro other sid
    grind [openSession]
  case distinct =>
    grind
  case nonempty =>
    simp [openSession]
    grind [List.mem_insert_self]
  case info_iff => grind [openSession, AList.mem_insert]

end

theorem attachConnection_cases (t : SessionTables) (conn : GlobalConnId) (user : UserId) :
    ((t.attachConnection conn user).2 = t ∧
        ∀ sid, (t.attachConnection conn user).1 = .ok sid → t.connToSessionId.lookup conn = some sid) ∨
      (t.connToSessionId.lookup conn = none ∧
        (t.attachConnection conn user).1 = .ok (t.nextSessionId + 1) ∧
        (t.attachConnection conn user).2 = t.openSession conn user) := by
  unfold attachConnection
  grind

section

variable (ok : t.Consistent)

include ok

theorem attachConnection_consistent : (t.attachConnection conn user).2.Consistent := by
  rcases t.attachConnection_cases conn user with ⟨same, -⟩ | ⟨unknown, -, opened⟩
  · rw [same]
    exact ok
  · rw [opened]
    exact openSession_consistent ok unknown

/-- A connection with a session id belongs to somebody. -/
theorem Consistent.user_of_filed (filed : t.connToSessionId.lookup conn = some sid) :
    ∃ user, t.connToSession.lookup conn = some user := by
  obtain ⟨user, owned⟩ := ok.known _ _ filed
  exact ⟨user, (ok.conn_iff _ _).mpr ⟨sid, filed, owned⟩⟩

/-- A connection that has no session id belongs to nobody. -/
theorem Consistent.stray (unknown : t.connToSessionId.lookup conn = none) :
    t.connToSession.lookup conn = none := by
  cases found : t.connToSession.lookup conn with
  | none => rfl
  | some user =>
    obtain ⟨sid, filed, -⟩ := (ok.conn_iff _ _).mp found
    nomatch unknown.symm.trans filed

theorem removeConnection_unknown (unknown : t.connToSessionId.lookup conn = none) :
    t.removeConnection conn = t := by
  simp only [removeConnection, ok.stray unknown, Map.erase_absent _ _ unknown]

end

theorem listed_present (listed : sid ∈ t.getUserSessionIds user) :
    user ∈ t.userToSessionIds := by
  rw [Map.mem_iff_lookup]
  cases found : t.userToSessionIds.lookup user with
  | none => simp [getUserSessionIds, found] at listed
  | some sids => exact ⟨sids, rfl⟩

theorem retireUser_fields (user : UserId) :
    ∃ infos count, t.retireUser user = { t with sessions := infos, activeUsers := count } := by
  unfold retireUser
  split
  · exact ⟨t.sessions, t.activeUsers, rfl⟩
  · exact ⟨_, _, rfl⟩

private theorem retireUser_sessions (user other : UserId) :
    other ∈ (t.retireUser user).sessions ↔
      other ∈ t.sessions ∧ (other = user → t.getUserSessionIds user ≠ []) := by
  unfold retireUser userHasActiveSessions
  split
  · grind
  · rename_i idle
    simp at idle
    simp
    tauto

theorem Consistent.conn_unique (ok : t.Consistent) (filed : t.connToSessionId.lookup k = some sid)
    (filed' : t.connToSessionId.lookup k' = some sid) : k = k' := by
  have first := (ok.conns_iff sid [k]).mpr ⟨k, rfl, filed⟩
  have second := (ok.conns_iff sid [k']).mpr ⟨k', rfl, filed'⟩
  rw [first] at second
  simpa using second

/-- The tables after a known connection has gone, before the user's own record
is looked at. -/
def closed (t : SessionTables) (conn : GlobalConnId) (user : UserId) (sid : Nat) :
    SessionTables :=
  { t with
    connToSession := t.connToSession.erase conn
    connToSessionId := t.connToSessionId.erase conn
    sessionIdToConns := t.sessionIdToConns.erase sid }.dropSessionId user sid

/-- The session of a known connection ends with it: the connection was the only
one filed under the id. -/
theorem removeConnection_closed (ok : t.Consistent)
    (filed : t.connToSessionId.lookup conn = some sid)
    (owned : t.sessionIdToUser.lookup sid = some user) :
    t.removeConnection conn = (t.closed conn user sid).retireUser user := by
  have known : t.connToSession.lookup conn = some user := (ok.conn_iff _ _).mpr ⟨sid, filed, owned⟩
  have sole : t.sessionIdToConns.lookup sid = some [conn] := (ok.conns_iff _ _).mpr ⟨conn, rfl, filed⟩
  simp [removeConnection, known, filed, sole, destroySession, closed]

section Closed

variable (conn) (ok : t.Consistent) (owned : t.sessionIdToUser.lookup sid = some user)

include ok owned

theorem closed_userToSessionIds : (t.closed conn user sid).userToSessionIds =
    if (t.getUserSessionIds user).erase sid = [] then t.userToSessionIds.erase user
    else t.userToSessionIds.insert user ((t.getUserSessionIds user).erase sid) := by
  have present : user ∈ t.userToSessionIds := listed_present ((ok.sessions_iff _ _).mpr owned)
  simp only [← List.isEmpty_iff]
  exact if_pos present

private theorem lookup_closed (other : UserId) :
    (t.closed conn user sid).userToSessionIds.lookup other =
      if other = user then
        if (t.getUserSessionIds user).erase sid = [] then none
        else some ((t.getUserSessionIds user).erase sid)
      else t.userToSessionIds.lookup other := by
  rw [closed_userToSessionIds conn ok owned]
  split
  · rw [Map.lookup_erase_if]
  · rw [Map.lookup_insert_if]

theorem closed_sessionIds (other : UserId) :
    (t.closed conn user sid).getUserSessionIds other = (t.getUserSessionIds other).erase sid := by
  rw [getUserSessionIds, lookup_closed conn ok owned]
  split
  · grind
  · rename_i differ
    have : sid ∉ t.getUserSessionIds other := by
      rw [ok.sessions_iff, owned]
      simpa using Ne.symm differ
    exact (List.erase_of_not_mem this).symm

end Closed

theorem removeConnection_consistent (ok : t.Consistent) : (t.removeConnection conn).Consistent := by
  cases filed : t.connToSessionId.lookup conn with
  | none =>
    rw [removeConnection_unknown ok filed]
    exact ok
  | some sid =>
    obtain ⟨user, owned⟩ := ok.known _ _ filed
    have infos := retireUser_sessions (t := t.closed conn user sid) user
    obtain ⟨kept, count, fields⟩ := retireUser_fields (t := t.closed conn user sid) user
    rw [fields] at infos
    rw [removeConnection_closed ok filed owned, fields]
    have sids := closed_sessionIds conn ok owned
    have listed := closed_userToSessionIds conn ok owned
    have present : user ∈ t.userToSessionIds := listed_present ((ok.sessions_iff _ _).mpr owned)
    -- No other connection shares the id, so erasing the id loses no other row.
    have alone : ∀ k other, k ≠ conn → t.connToSessionId.lookup k = some other → other ≠ sid :=
      fun k other differ found eq => differ (ok.conn_unique (eq ▸ found) filed)
    obtain ⟨minted, conn_iff, known, conns_iff, live, sessions_iff, distinct, nonempty, info_iff⟩ :=
      ok
    constructor
    case minted => grind [closed, dropSessionId]
    case conn_iff => grind [closed, dropSessionId]
    case known => grind [closed, dropSessionId]
    case conns_iff => grind [closed, dropSessionId]
    case live =>
      intro other owner found
      obtain ⟨k, row⟩ := live other owner (by grind [closed, dropSessionId])
      exact ⟨k, by grind [closed, dropSessionId]⟩
    case sessions_iff =>
      intro owner other
      change other ∈ (t.closed conn user sid).getUserSessionIds owner ↔
        (t.sessionIdToUser.erase sid).lookup other = some owner
      grind
    case distinct =>
      intro owner
      change ((t.closed conn user sid).getUserSessionIds owner).Nodup
      grind
    case nonempty => grind
    case info_iff =>
      intro owner
      rw [infos]
      change owner ∈ t.sessions ∧ _ ↔ _
      grind [AList.mem_insert, AList.mem_erase]

/-- What a removal does to the connections, and what it leaves: no user gains a session. -/
theorem removeConnection_fields (ok : t.Consistent) (conn : GlobalConnId) :
    (t.removeConnection conn).connToSessionId = t.connToSessionId.erase conn ∧
      (t.removeConnection conn).connToSession = t.connToSession.erase conn ∧
      (t.removeConnection conn).nextSessionId = t.nextSessionId ∧
      (t.removeConnection conn).maxSessionsPerUser = t.maxSessionsPerUser ∧
      ∀ other, ((t.removeConnection conn).getUserSessionIds other).Sublist
        (t.getUserSessionIds other) := by
  cases filed : t.connToSessionId.lookup conn with
  | none =>
    rw [removeConnection_unknown ok filed, Map.erase_absent _ _ filed,
      Map.erase_absent _ _ (ok.stray filed)]
    exact ⟨rfl, rfl, rfl, rfl, fun _ => .refl _⟩
  | some sid =>
    obtain ⟨user, owned⟩ := ok.known _ _ filed
    obtain ⟨infos, count, fields⟩ := retireUser_fields (t := t.closed conn user sid) user
    rw [removeConnection_closed ok filed owned, fields]
    refine ⟨rfl, rfl, rfl, rfl, fun other => ?_⟩
    change ((t.closed conn user sid).getUserSessionIds other).Sublist _
    rw [closed_sessionIds conn ok owned]
    exact List.erase_sublist

def joinTextChannel (t : SessionTables) (user : UserId) (hub : HubId) (channel : ChannelId) :
    SessionTables :=
  if user ∈ t.sessions then
    { t with sessions := t.sessions.insert user ⟨some hub, some channel⟩ }
  else t

theorem joinTextChannel_consistent (ok : t.Consistent) :
    (t.joinTextChannel user hub channel).Consistent := by
  unfold joinTextChannel
  split
  · rename_i present
    have infos : ∀ other, other ∈ t.sessions.insert user ⟨some hub, some channel⟩ ↔
        other ∈ t.userToSessionIds := by
      intro other
      rw [AList.mem_insert, ← ok.info_iff]
      exact ⟨fun listed => listed.elim (fun same => same ▸ present) id, .inr⟩
    exact { ok with info_iff := infos }
  · exact ok

end SessionTables

/-- The manager: tables, with the proof that they agree. -/
@[ext] structure SessionManager where
  tables : SessionTables
  consistent : tables.Consistent

namespace SessionManager

def empty (maxSessionsPerUser : Nat) : SessionManager :=
  ⟨{ maxSessionsPerUser }, SessionTables.consistent_empty _⟩

section

variable (m : SessionManager) (conn : GlobalConnId) (user : UserId)

def attachConnection : Except AttachError Nat × SessionManager :=
  ((m.tables.attachConnection conn user).1,
    ⟨(m.tables.attachConnection conn user).2, SessionTables.attachConnection_consistent m.consistent⟩)

def removeConnection : SessionManager :=
  ⟨m.tables.removeConnection conn, SessionTables.removeConnection_consistent m.consistent⟩

def getUserSessionIds : List Nat :=
  m.tables.getUserSessionIds user

def getSessionIdConnections (sessionId : Nat) : List GlobalConnId :=
  m.tables.getSessionIdConnections sessionId

-- `getSessionConnections`, every connection of the user.
def getSessionConnections : List GlobalConnId :=
  (m.getUserSessionIds user).flatMap m.getSessionIdConnections

def hasSession : Bool := m.tables.userHasActiveSessions user

def joinTextChannel (hub : HubId) (channel : ChannelId) : SessionManager :=
  ⟨m.tables.joinTextChannel user hub channel,
    SessionTables.joinTextChannel_consistent m.consistent⟩

def sessionIdHasConnections (sessionId : Nat) : Bool :=
  !(m.getSessionIdConnections sessionId).isEmpty

-- `sessionOfConnection`, the user behind a connection.
def sessionOfConnection : Except String UserId :=
  match m.tables.connToSession.lookup conn with
  | some user => .ok user
  | none => .error "Connection not found"

def sessionIdOfConnection : Except String Nat :=
  match m.tables.connToSessionId.lookup conn with
  | some sessionId => .ok sessionId
  | none => .error "Session id not found for connection"

end

variable {m : SessionManager} {conn k : GlobalConnId} {user : UserId} {sid : Nat}

theorem sessionOfConnection_ok :
    m.sessionOfConnection conn = .ok user ↔ m.tables.connToSession.lookup conn = some user := by
  unfold sessionOfConnection
  split <;> rename_i found <;> simp [found]

theorem sessionIdOfConnection_ok :
    m.sessionIdOfConnection conn = .ok sid ↔ m.tables.connToSessionId.lookup conn = some sid := by
  unfold sessionIdOfConnection
  split <;> rename_i found <;> simp [found]

theorem mem_getSessionIdConnections :
    k ∈ m.getSessionIdConnections sid ↔ m.tables.connToSessionId.lookup k = some sid := by
  simp only [getSessionIdConnections, SessionTables.getSessionIdConnections]
  constructor
  · intro listed
    cases found : m.tables.sessionIdToConns.lookup sid with
    | none => simp [found] at listed
    | some conns =>
      obtain ⟨conn, rfl, filed⟩ := (m.consistent.conns_iff _ _).mp found
      grind
  · intro filed
    rw [(m.consistent.conns_iff sid [k]).mpr ⟨k, rfl, filed⟩]
    simp

theorem sessionIdHasConnections_iff :
    m.sessionIdHasConnections sid = true ↔ ∃ conn, m.tables.connToSessionId.lookup conn = some sid := by
  rw [sessionIdHasConnections, Bool.not_eq_true', List.isEmpty_eq_false_iff_exists_mem]
  exact exists_congr fun conn => mem_getSessionIdConnections

/-- A live session of a user has a connection. -/
theorem sessionIdHasConnections_of_mem (live : sid ∈ m.getUserSessionIds user) :
    m.sessionIdHasConnections sid = true := by
  rw [sessionIdHasConnections_iff]
  exact m.consistent.live sid user ((m.consistent.sessions_iff _ _).mp live)

/-- **One owner per session.**  A connection filed under a session id belongs to
the user that session id is listed for. -/
theorem conn_user (live : sid ∈ m.getUserSessionIds user)
    (filed : k ∈ m.getSessionIdConnections sid) : m.sessionOfConnection k = .ok user := by
  rw [sessionOfConnection_ok, m.consistent.conn_iff]
  exact ⟨sid, mem_getSessionIdConnections.mp filed, (m.consistent.sessions_iff _ _).mp live⟩

theorem mem_getSessionConnections :
    k ∈ m.getSessionConnections user ↔ m.sessionOfConnection k = .ok user := by
  rw [getSessionConnections, List.mem_flatMap]
  constructor
  · exact fun ⟨sid, listed, filed⟩ => conn_user listed filed
  · intro known
    rw [sessionOfConnection_ok, m.consistent.conn_iff] at known
    obtain ⟨sid, filed, owned⟩ := known
    exact ⟨sid, (m.consistent.sessions_iff _ _).mpr owned, mem_getSessionIdConnections.mpr filed⟩

@[simp] theorem connToSession_joinTextChannel (hub : HubId) (channel : ChannelId) :
    (m.joinTextChannel user hub channel).tables.connToSession = m.tables.connToSession := by
  change (m.tables.joinTextChannel user hub channel).connToSession = _
  unfold SessionTables.joinTextChannel
  split <;> rfl

/-- The connection occurs in one of the maps. -/
def Mentions (m : SessionManager) (conn : GlobalConnId) : Prop :=
  conn ∈ m.tables.connToSession ∨ conn ∈ m.tables.connToSessionId ∨
    ∃ sid, conn ∈ m.getSessionIdConnections sid

/-- The maps mention the connections that have a session. -/
theorem mentions_iff : m.Mentions conn ↔ ∃ user, m.tables.connToSession.lookup conn = some user := by
  have filed : (∃ sid, m.tables.connToSessionId.lookup conn = some sid) ↔
      ∃ user, m.tables.connToSession.lookup conn = some user := by
    constructor
    · exact fun ⟨sid, filed⟩ => m.consistent.user_of_filed filed
    · rintro ⟨user, known⟩
      obtain ⟨sid, filed, -⟩ := (m.consistent.conn_iff conn user).mp known
      exact ⟨sid, filed⟩
  simp only [Mentions, Map.mem_iff_lookup, mem_getSessionIdConnections, filed, or_self]

/-- Attaching either changes nothing or files the connection under the next id. -/
theorem attachConnection_cases (conn : GlobalConnId) (user : UserId) :
    ((m.attachConnection conn user).2 = m ∧
        ∀ sid, (m.attachConnection conn user).1 = .ok sid →
          m.tables.connToSessionId.lookup conn = some sid) ∨
      (m.tables.connToSessionId.lookup conn = none ∧
        (m.attachConnection conn user).1 = .ok (m.tables.nextSessionId + 1) ∧
        (m.attachConnection conn user).2.tables = m.tables.openSession conn user) := by
  rcases m.tables.attachConnection_cases conn user with ⟨same, filed⟩ | opened
  · exact .inl ⟨SessionManager.ext same, filed⟩
  · exact .inr opened

/-- Attaching a connection says nothing about the others, and names the given user. -/
theorem connToSession_attachConnection (conn k : GlobalConnId) (user : UserId) :
    (m.attachConnection conn user).2.tables.connToSession.lookup k =
        m.tables.connToSession.lookup k ∨
      k = conn ∧ m.tables.connToSession.lookup k = none ∧
        (m.attachConnection conn user).2.tables.connToSession.lookup k = some user := by
  rcases m.attachConnection_cases conn user with ⟨same, -⟩ | ⟨unknown, -, opened⟩
  · exact .inl (by rw [same])
  · rw [opened, SessionTables.openSession, Map.lookup_insert_if]
    by_cases here : k = conn
    · subst here
      exact .inr ⟨rfl, m.consistent.stray unknown, if_pos rfl⟩
    · exact .inl (if_neg here)

theorem connToSessionId_removeConnection (conn k : GlobalConnId) :
    (m.removeConnection conn).tables.connToSessionId.lookup k =
      if k = conn then none else m.tables.connToSessionId.lookup k := by
  change (m.tables.removeConnection conn).connToSessionId.lookup k = _
  rw [(SessionTables.removeConnection_fields m.consistent conn).1, Map.lookup_erase_if]

theorem connToSession_removeConnection (conn k : GlobalConnId) :
    (m.removeConnection conn).tables.connToSession.lookup k =
      if k = conn then none else m.tables.connToSession.lookup k := by
  change (m.tables.removeConnection conn).connToSession.lookup k = _
  rw [(SessionTables.removeConnection_fields m.consistent conn).2.1, Map.lookup_erase_if]

theorem nextSessionId_removeConnection (conn : GlobalConnId) :
    (m.removeConnection conn).tables.nextSessionId = m.tables.nextSessionId :=
  (SessionTables.removeConnection_fields m.consistent conn).2.2.1

end SessionManager

end Kergit
