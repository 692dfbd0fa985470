import Kergit.Lib.Staged
import Kergit.SessionManager

/-!
The session index over a whole life of `SessionManager`.

`SessionManager` carries what its maps say together; here the same facts are put in the
words of the maps (`Indexed`), with what a single state cannot say: the ids handed out so
far (`SessionLedger.opened`), the number of sessions of a user, and the `active_users` gauge,
which is moved by ones from two places and never counted.

- `counted_openSession`, `counted_removeConnection`: the gauge counts the users with a
  session.
- `index_consistent`: all of it after every sequence of calls.
-/

namespace Kergit

open Lib

namespace SessionTables

variable {t : SessionTables} {conn : GlobalConnId} {user : UserId} {sid : Nat}

/-- In consistent tables a user has an entry exactly when one of their sessions lives. -/
theorem Consistent.mem_userToSessionIds (ok : t.Consistent) :
    user ∈ t.userToSessionIds ↔ t.userHasActiveSessions user = true := by
  rw [userHasActiveSessions, Bool.not_eq_true', getUserSessionIds, Map.mem_iff_lookup]
  cases found : t.userToSessionIds.lookup user with
  | none => simp
  | some sids => simpa using ok.nonempty user sids found

/-- The gauge counts the users that have an entry. -/
def Counted (t : SessionTables) : Prop := t.activeUsers = t.userToSessionIds.keys.length

theorem counted_openSession (ok : t.Consistent) (counted : t.Counted) :
    (t.openSession conn user).Counted := by
  change (if t.userHasActiveSessions user = true then t.activeUsers else t.activeUsers + 1) =
    ((t.userToSessionIds.insert user _).keys.length : Int)
  rw [AList.keys_insert, List.length_cons, counted]
  by_cases active : t.userHasActiveSessions user = true
  · have listed : user ∈ t.userToSessionIds.keys :=
      AList.mem_keys.mp (ok.mem_userToSessionIds.mpr active)
    have shorter := List.length_erase_add_one listed
    rw [if_pos active]
    omega
  · have absent : user ∉ t.userToSessionIds.keys := fun listed =>
      active (ok.mem_userToSessionIds.mp (AList.mem_keys.mpr listed))
    rw [if_neg active, List.erase_of_not_mem absent]
    omega

/-- Where dropping a session leaves the user's entry, and the gauge with it. -/
theorem counted_retireUser {rows : Map UserId (List Nat)} (present : user ∈ rows)
    (counted : t.activeUsers = rows.keys.length)
    (left : t.userToSessionIds = rows.erase user ∨
      ∃ sids, sids ≠ [] ∧ t.userToSessionIds = rows.insert user sids) :
    (t.retireUser user).Counted := by
  have listed : user ∈ rows.keys := AList.mem_keys.mp present
  have shorter := List.length_erase_add_one listed
  unfold retireUser
  rcases left with dropped | ⟨sids, nonempty, kept⟩
  · have idle : ¬ t.userHasActiveSessions user = true := by
      simp [userHasActiveSessions, getUserSessionIds, dropped]
    rw [if_neg idle]
    change t.activeUsers - 1 = (t.userToSessionIds.keys.length : Int)
    rw [dropped, AList.keys_erase]
    omega
  · have active : t.userHasActiveSessions user = true := by
      simpa [userHasActiveSessions, getUserSessionIds, kept] using nonempty
    rw [if_pos active, Counted, kept, AList.keys_insert, List.length_cons]
    omega

theorem counted_removeConnection (ok : t.Consistent) (counted : t.Counted) :
    (t.removeConnection conn).Counted := by
  cases filed : t.connToSessionId.lookup conn with
  | none =>
    rw [removeConnection_unknown ok filed]
    exact counted
  | some sid =>
    obtain ⟨user, owned⟩ := ok.known _ _ filed
    have present : user ∈ t.userToSessionIds := listed_present ((ok.sessions_iff _ _).mpr owned)
    rw [removeConnection_closed ok filed owned]
    apply counted_retireUser (t := t.closed conn user sid) present counted
    rw [closed_userToSessionIds conn ok owned]
    grind

/-- Past its two guards `attachConnection` has found room for one more session. -/
theorem room_of_attachConnection (unknown : t.connToSessionId.lookup conn = none)
    (attached : (t.attachConnection conn user).1 = .ok sid) (limited : 0 < t.maxSessionsPerUser) :
    (t.getUserSessionIds user).length < t.maxSessionsPerUser := by
  unfold attachConnection at attached
  rw [unknown] at attached
  dsimp only at attached
  split at attached
  · nomatch attached
  · rename_i room
    by_contra full
    apply room
    have some_left : 0 < (t.getUserSessionIds user).length := by omega
    obtain ⟨sid, listed⟩ := List.exists_mem_of_length_pos some_left
    exact ⟨limited, listed_present listed, by omega⟩

end SessionTables

namespace SessionManager

variable {m : SessionManager} {conn : GlobalConnId} {user : UserId} {sid : Nat}

def activeUsers (m : SessionManager) : List UserId := m.tables.userToSessionIds.keys.filter m.hasSession

theorem mem_activeUsers : user ∈ m.activeUsers ↔ m.hasSession user = true := by
  rw [activeUsers, List.mem_filter, ← AList.mem_keys, m.consistent.mem_userToSessionIds]
  exact and_self_iff

/-- No entry is empty, so all keys are active users. -/
theorem activeUsers_eq_keys : m.activeUsers = m.tables.userToSessionIds.keys := by
  apply List.filter_eq_self.mpr
  intro user listed
  exact m.consistent.mem_userToSessionIds.mp (AList.mem_keys.mpr listed)

/-- The five maps and the infos, each in terms of another. -/
structure Indexed (m : SessionManager) : Prop where
  user_of_conn : ∀ conn user, m.tables.connToSession.lookup conn = some user ↔
    ∃ sid, m.tables.connToSessionId.lookup conn = some sid ∧
      m.tables.sessionIdToUser.lookup sid = some user
  conns_of_id : ∀ sid conn, m.tables.connToSessionId.lookup conn = some sid ↔
    ∃ conns, m.tables.sessionIdToConns.lookup sid = some conns ∧ conn ∈ conns
  ids_of_user : ∀ sid user, m.tables.sessionIdToUser.lookup sid = some user ↔
    ∃ sids, m.tables.userToSessionIds.lookup user = some sids ∧ sid ∈ sids
  same_ids : ∀ sid, sid ∈ m.tables.sessionIdToUser ↔ sid ∈ m.tables.sessionIdToConns
  conns_nonempty : ∀ sid conns, m.tables.sessionIdToConns.lookup sid = some conns →
    conns ≠ [] ∧ conns.Nodup
  ids_nonempty : ∀ user sids, m.tables.userToSessionIds.lookup user = some sids →
    sids ≠ [] ∧ sids.Nodup
  infos : ∀ user, user ∈ m.tables.sessions ↔ m.hasSession user = true

theorem indexed (m : SessionManager) : m.Indexed where
  user_of_conn := m.consistent.conn_iff
  conns_of_id sid conn := by
    constructor
    · intro filed
      exact ⟨[conn], (m.consistent.conns_iff sid [conn]).mpr ⟨conn, rfl, filed⟩, by simp⟩
    · rintro ⟨conns, found, listed⟩
      obtain ⟨k, rfl, filed⟩ := (m.consistent.conns_iff sid conns).mp found
      rw [List.mem_singleton.mp listed]
      exact filed
  ids_of_user sid user := by
    rw [← m.consistent.sessions_iff, SessionTables.getUserSessionIds]
    cases found : m.tables.userToSessionIds.lookup user with
    | none | some sids => simp
  same_ids sid := by
    rw [Map.mem_iff_lookup, Map.mem_iff_lookup]
    constructor
    · rintro ⟨user, owned⟩
      obtain ⟨conn, filed⟩ := m.consistent.live sid user owned
      exact ⟨[conn], (m.consistent.conns_iff sid [conn]).mpr ⟨conn, rfl, filed⟩⟩
    · rintro ⟨conns, found⟩
      obtain ⟨conn, -, filed⟩ := (m.consistent.conns_iff sid conns).mp found
      exact m.consistent.known conn sid filed
  conns_nonempty sid conns found := by
    obtain ⟨conn, rfl, -⟩ := (m.consistent.conns_iff sid conns).mp found
    simp
  ids_nonempty user sids found := by
    have distinct := m.consistent.distinct user
    rw [SessionTables.getUserSessionIds, found] at distinct
    exact ⟨m.consistent.nonempty user sids found, distinct⟩
  infos user := by
    rw [m.consistent.info_iff, m.consistent.mem_userToSessionIds]
    rfl

end SessionManager

/-! ## Whole lives -/

/-- The calls that open and close sessions. -/
inductive SessionOp where
  | attach (conn : GlobalConnId) (user : UserId)
  | remove (conn : GlobalConnId)

/-- The manager with the ids of the sessions it has opened, latest first. -/
structure SessionLedger where
  manager : SessionManager
  opened : List Nat := []

namespace SessionLedger

open SessionManager

/-- A call; an `attach` of a connection without session that succeeds opens one. -/
def play (l : SessionLedger) : SessionOp → SessionLedger
  | .attach conn user =>
    { manager := (l.manager.attachConnection conn user).2
      opened :=
        match l.manager.sessionIdOfConnection conn, (l.manager.attachConnection conn user).1 with
        | .error _, .ok sid => sid :: l.opened
        | _, _ => l.opened }
  | .remove conn => { l with manager := l.manager.removeConnection conn }

/-- What the calls keep besides the maps. -/
structure Kept (limit : Nat) (l : SessionLedger) : Prop where
  bound : l.manager.tables.maxSessionsPerUser = limit
  limited : 0 < limit → ∀ user, (l.manager.getUserSessionIds user).length ≤ limit
  counted : l.manager.tables.Counted
  minted : ∀ sid ∈ l.opened, sid ≤ l.manager.tables.nextSessionId
  fresh : l.opened.Pairwise (· > ·)

variable {limit : Nat} {l : SessionLedger}

theorem Kept.attach (kept : l.Kept limit) (conn : GlobalConnId) (user : UserId) :
    (l.play (.attach conn user)).Kept limit := by
  rcases l.manager.attachConnection_cases conn user with ⟨same, filed⟩ | ⟨unknown, answer, opens⟩
  · have none_opened : l.play (.attach conn user) = l := by
      simp only [play, same]
      split
      · rename_i stray attached
        nomatch stray.symm.trans (sessionIdOfConnection_ok.mpr (filed _ attached))
      · rfl
    rw [none_opened]
    exact kept
  · obtain ⟨e, stray⟩ : ∃ e, l.manager.sessionIdOfConnection conn = .error e := by
      simp [sessionIdOfConnection, unknown]
    have opened : (l.play (.attach conn user)).opened =
        (l.manager.tables.nextSessionId + 1) :: l.opened := by
      simp only [play, stray, answer]
    have tables : (l.play (.attach conn user)).manager.tables =
        l.manager.tables.openSession conn user := opens
    constructor
    case bound => rw [tables]; exact kept.bound
    case limited =>
      intro positive other
      rw [getUserSessionIds, tables,
        SessionTables.getUserSessionIds_openSession l.manager.consistent]
      split
      · have room := SessionTables.room_of_attachConnection unknown answer
          (by rw [kept.bound]; exact positive)
        rw [kept.bound] at room
        exact room
      · exact kept.limited positive other
    case counted =>
      rw [tables]
      exact SessionTables.counted_openSession l.manager.consistent kept.counted
    case minted =>
      rw [tables, opened]
      intro sid listed
      change sid ≤ l.manager.tables.nextSessionId + 1
      rcases List.mem_cons.mp listed with rfl | before
      · exact le_rfl
      · have := kept.minted sid before
        omega
    case fresh =>
      rw [opened]
      exact kept.fresh.cons fun sid before => Nat.lt_succ_of_le (kept.minted sid before)

theorem Kept.remove (kept : l.Kept limit) (conn : GlobalConnId) :
    (l.play (.remove conn)).Kept limit where
  bound := (SessionTables.removeConnection_fields l.manager.consistent conn).2.2.2.1.trans kept.bound
  limited positive user := by
    have fewer := (SessionTables.removeConnection_fields l.manager.consistent conn).2.2.2.2 user
    exact le_trans fewer.length_le (kept.limited positive user)
  counted := SessionTables.counted_removeConnection l.manager.consistent kept.counted
  minted sid listed := by
    have same : (l.play (.remove conn)).manager.tables.nextSessionId =
        l.manager.tables.nextSessionId := nextSessionId_removeConnection conn
    rw [same]
    exact kept.minted sid listed
  fresh := kept.fresh

theorem Kept.run (ops : List SessionOp) : (run play ⟨empty limit, []⟩ ops).Kept limit := by
  apply run_invariant
  · intro l op kept
    cases op with
    | attach conn user => exact kept.attach conn user
    | remove conn => exact kept.remove conn
  · constructor
    case bound => rfl
    case limited => exact fun _ _ => Nat.zero_le _
    case counted => rfl
    case minted => exact nofun
    case fresh => exact .nil

end SessionLedger

open SessionLedger SessionManager in
/-- **Session index.**  After every sequence of calls, from an empty manager of any limit:
the maps are inverse to one another, the ids handed out so far are all different (each
larger than those before), no user has more sessions than a positive limit allows, the
gauge is the number of users with a session, and an `attachConnection` that fails changes
nothing. -/
theorem index_consistent (limit : Nat) (ops : List SessionOp) :
    let l := run play ⟨empty limit, []⟩ ops
    l.manager.Indexed ∧ l.opened.Pairwise (· > ·) ∧
      (0 < limit → ∀ user, (l.manager.getUserSessionIds user).length ≤ limit) ∧
      (l.manager.activeUsers.Nodup ∧
        (∀ user, user ∈ l.manager.activeUsers ↔ l.manager.hasSession user = true) ∧
        l.manager.tables.activeUsers = l.manager.activeUsers.length) ∧
      ∀ conn user e, (l.manager.attachConnection conn user).1 = .error e →
        (l.manager.attachConnection conn user).2 = l.manager := by
  intro l
  have kept : l.Kept limit := Kept.run ops
  refine ⟨l.manager.indexed, kept.fresh, kept.limited, ⟨?_, ?_, ?_⟩, ?_⟩
  · rw [activeUsers_eq_keys]
    exact l.manager.tables.userToSessionIds.keys_nodup
  · exact fun user => mem_activeUsers
  · rw [activeUsers_eq_keys]
    exact kept.counted
  · intro conn user e failed
    rcases l.manager.attachConnection_cases conn user with ⟨same, -⟩ | ⟨-, answer, -⟩
    · exact same
    · nomatch failed.symm.trans answer

end Kergit
