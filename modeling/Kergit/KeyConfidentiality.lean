import Kergit.SeatOwnership

/-!
Whose connections a channel key reaches.

A `VOICE_KEY_UPDATE` for a user is sent to the connections of the session id on
record as the owner of the user's seat; the publisher does not check that the
session is the user's.  Within one process it is, because ids are minted once.
Across a restart it need not be: the ids of the old process come back in
LiveKit's metadata and in the stored intents, and the new session manager mints
from 1 again.

- `OwnersHonest`: every session id on record for a user, in a seat or a pending
  join, has only connections of that user.
- `step_honest`: a step keeps it, unless the step mints an id that is on record
  for somebody else (`MintsUnrecorded`).
- `keys_reach_their_user`: in every run whose steps mint only unrecorded ids, every
  key handed out goes to connections of the user it is for.
- `Restarted`: a run with a restart in which a key goes to somebody else.
-/

namespace Kergit

open Lib

/-- Every connection of the session belongs to the user. -/
def SessionOf (m : SessionManager) (user : UserId) (sessionId : Nat) : Prop :=
  ∀ conn ∈ m.getSessionIdConnections sessionId, m.sessionOfConnection conn = .ok user

/-- Every session id on record for a user is one of the user's. -/
abbrev OwnersHonest (r : Roster) : Prop := r.Recorded SessionOf

/-- The key goes to connections of the user it is for. -/
def Delivery.ReachesUser (given : Delivery) (m : SessionManager) : Prop :=
  ∀ conn ∈ given.targets, m.sessionOfConnection conn = .ok given.user
deriving Decidable

theorem sessionOf_iff :
    SessionOf m user sid ↔ ∀ conn, m.tables.connToSessionId.lookup conn = some sid →
      m.tables.connToSession.lookup conn = some user := by
  simp only [SessionOf, SessionManager.mem_getSessionIdConnections,
    SessionManager.sessionOfConnection_ok]

theorem OwnersHonest.reaches (honest : OwnersHonest r)
    (addressed : r.Addressed given) : given.ReachesUser r.sessionManager := by
  obtain ⟨owner, seated, targets⟩ := addressed
  intro conn target
  rw [targets] at target
  exact honest.seats _ _ seated conn target

theorem SessionOf.remove
    (owned : SessionOf m user sid) : SessionOf (m.removeConnection conn) user sid := by
  rw [sessionOf_iff] at owned ⊢
  intro k filed
  rw [SessionManager.connToSessionId_removeConnection] at filed
  rw [SessionManager.connToSession_removeConnection]
  grind

/-- A session opened for `user` leaves every other id's connections alone. -/
theorem SessionOf.open
    (owned : SessionOf m v sid) (tables : m'.tables = m.tables.openSession conn user)
    (unminted : v ≠ user → sid ≠ m.tables.nextSessionId + 1) : SessionOf m' v sid := by
  rw [sessionOf_iff] at owned ⊢
  intro k filed
  rw [tables] at filed ⊢
  simp [SessionTables.openSession] at filed ⊢
  grind

namespace VoiceState

variable {cfg : Config} {env : Env} {s s' : VoiceState} {action : Action} {user : UserId}

/-- The id the next session gets is on record for nobody but the user it is
minted for. -/
def nextIdUnrecorded (s : VoiceState) (user : UserId) : Prop :=
  (∀ seat ∈ s.sessions.tables.userToChannel.entries, seat.1 ≠ user →
      seat.2.ownerSession ≠ s.sessionManager.tables.nextSessionId + 1) ∧
    ∀ intent ∈ s.pendingIntents.entries, intent.1 ≠ user →
      intent.2.value.sessionId ≠ s.sessionManager.tables.nextSessionId + 1
deriving Decidable

/-- An `AUTH` that opens a session mints an id that is on record for nobody else. -/
def MintsUnrecorded (s : VoiceState) : Action → Prop
  | .authenticate _ conn user _ => s.opensSession conn user = true → s.nextIdUnrecorded user
  | _ => True

instance (s : VoiceState) : (action : Action) → Decidable (s.MintsUnrecorded action)
  | .authenticate .. | .disconnect _ | .voiceJoin .. | .webhook .. | .reconcile .. | .restart _ => by
    unfold MintsUnrecorded
    infer_instance

/-- The keys handed out between two states. -/
def newDeliveries (s s' : VoiceState) : List Delivery :=
  s'.deliveries.take (s'.deliveries.length - s.deliveries.length)

/-- Honest owners, and whatever was handed out on the way reached its user. -/
structure Discreet (s s' : VoiceState) : Prop where
  honest : OwnersHonest s'.roster
  reached : ∃ new, s'.deliveries = new ++ s.deliveries ∧
    ∀ given ∈ new, given.ReachesUser s'.sessionManager

theorem Discreet.newDeliveries (discreet : Discreet s s') :
    ∀ given ∈ newDeliveries s s', given.ReachesUser s'.sessionManager := by
  obtain ⟨new, added, reached⟩ := discreet.reached
  have exactly : VoiceState.newDeliveries s s' = new := by
    rw [VoiceState.newDeliveries, added]
    simp
  rw [exactly]
  exact reached

theorem Becomes.discreet (becomes : Becomes s s' r joins)
    (honest : OwnersHonest s'.roster) : Discreet s s' := by
  obtain ⟨new, added, addressed⟩ := becomes.deliveries
  rw [← becomes.roster] at addressed
  exact ⟨honest, new, added, fun given listed => honest.reaches (addressed given listed)⟩

/-- Discreet stretches of one process, one after the other. -/
theorem Discreet.trans (first : Discreet s t) (second : Discreet t s')
    (same : s'.sessionManager = t.sessionManager) : Discreet s s' := by
  obtain ⟨earlier, before, reached⟩ := first.reached
  obtain ⟨later, after, reached'⟩ := second.reached
  refine ⟨second.honest, later ++ earlier, by rw [after, before, List.append_assoc], ?_⟩
  grind

theorem Quiet.discreet (quiet : Quiet s s') (honest : OwnersHonest s.roster) : Discreet s s' :=
  quiet.steady.becomes.discreet (quiet.roster ▸ honest)

/-! ## One step -/

theorem report_discreet (report : action.isReport = true) (honest : OwnersHonest s.roster) :
    Discreet s (s.step cfg action) := by
  have turns : Turns cfg (fun _ _ => True) s (s.step cfg action) :=
    step_turns report fun _ _ => trivial
  refine turns.invariant (fun t => Discreet s t) ?_ ?_ ((Quiet.refl s).discreet honest)
  · intro t t' quiet kept
    exact kept.trans (quiet.discreet kept.honest) quiet.sessionManager
  · intro t m _ kept
    have inherits : Inherits t.roster (t.move cfg m).roster := move_inherits m
    obtain ⟨joins, becomes⟩ : ∃ joins, Becomes t (t.move cfg m) (t.move cfg m).roster joins :=
      move_becomes m
    have honest := kept.honest.inherited inherits fun _ _ live _ => SessionManager.conn_user live
    exact kept.trans (becomes.discreet honest) inherits.sessionManager

theorem authenticate_discreet (honest : OwnersHonest s.roster)
    (fresh : s.opensSession conn user = true → s.nextIdUnrecorded user) :
    Discreet s (s.authenticate cfg env conn user resume) := by
  rcases authenticate_cases cfg env s conn user resume with quiet | ⟨opens, m', sessions, opened⟩
  · exact quiet.discreet honest
  obtain ⟨seatsFree, intentsFree⟩ := fresh opens
  refine opened.becomes.discreet (opened.recorded ?_ ?_ ?_)
  · intro v seat seated
    refine (honest.seats v seat seated).open opened.tables fun other => ?_
    exact seatsFree ⟨v, seat⟩ (AList.mem_lookup_iff.mp seated) other
  · intro v entry stored
    refine (honest.intents v entry stored).open opened.tables fun other => ?_
    exact intentsFree ⟨v, entry⟩ (AList.mem_lookup_iff.mp stored) other
  · rw [sessionOf_iff]
    intro k filed
    rw [opened.tables] at filed ⊢
    simp only [SessionTables.openSession, Map.lookup_insert_if] at filed ⊢
    by_cases same : k = conn
    · simp [same]
    · simp [same] at filed
      obtain ⟨owner, owned⟩ := s.sessionManager.consistent.known _ _ filed
      have := (s.sessionManager.consistent.minted _ _ owned).2
      omega

theorem disconnect_discreet (honest : OwnersHonest s.roster) : Discreet s (s.disconnect conn) := by
  refine ⟨disconnect_recorded honest fun _ _ owned => owned.remove, [], ?_, by simp⟩
  rcases disconnect_cases s conn with same | quiet
  · rw [same]
    rfl
  · exact quiet.deliveries

theorem voiceJoin_discreet (honest : OwnersHonest s.roster) :
    Discreet s (s.voiceJoin cfg env request) := by
  have honest' : OwnersHonest (s.voiceJoin cfg env request).roster := by
    refine voiceJoin_recorded honest fun user sid known filed => ?_
    rw [SessionManager.sessionIdOfConnection_ok] at filed
    rw [SessionManager.sessionOfConnection_ok] at known
    rw [sessionOf_iff]
    intro k filed'
    rw [s.sessionManager.consistent.conn_unique filed' filed]
    exact known
  rcases voiceJoin_cases cfg env s request with
    quiet | ⟨user, sessionId, t, allowed, quiet, acquired | ⟨key, -, issued⟩⟩
  · exact quiet.discreet honest
  · have steady : Steady s (s.voiceJoin cfg env request) :=
      quiet.steady.trans (acquiredKey_steady.trans acquired.steady)
    exact steady.becomes.discreet honest'
  · have steady : Steady s (t.acquiredKey cfg env request.channel user).2 :=
      quiet.steady.trans acquiredKey_steady
    obtain ⟨new, added, addressed⟩ := steady.deliveries
    have manager : (s.voiceJoin cfg env request).sessionManager = s.sessionManager :=
      congrArg Roster.sessionManager issued.roster
    refine ⟨honest', ⟨user, request.channel, key, [request.conn], true⟩ :: new, ?_, ?_⟩
    · rw [issued.deliveries, added]
      rfl
    · intro given listed
      rw [manager]
      rcases List.mem_cons.mp listed with rfl | earlier
      · intro conn target
        rw [List.mem_singleton.mp target]
        exact (authorizeJoin_ok allowed).1
      · exact honest.reaches (addressed given earlier)

theorem restart_discreet : Discreet s (s.restart.recoverFromRestart cfg env) := by
  have silent := restart_silent cfg env s
  have nobody : ∀ user sid,
      SessionOf (s.restart.recoverFromRestart cfg env).sessionManager user sid := by
    intro user sid
    rw [silent.sessionManager, sessionOf_iff]
    intro conn filed
    exact absurd filed (by simp [restart, initial, SessionManager.empty])
  exact ⟨⟨fun user _ _ => nobody user _, fun user _ _ => nobody user _⟩, [], silent.deliveries, by simp⟩

/-- One step hands keys to their users only, and leaves the owners honest, unless
it mints a session id that is on record for somebody else. -/
theorem step_discreet (honest : OwnersHonest s.roster) (fresh : s.MintsUnrecorded action) :
    Discreet s (s.step cfg action) := by
  cases action with
  | authenticate env conn user resume => exact authenticate_discreet honest fresh
  | disconnect conn => exact disconnect_discreet honest
  | voiceJoin env request => exact voiceJoin_discreet honest
  | webhook | reconcile => exact report_discreet rfl honest
  | restart env => exact restart_discreet

/-! ## Every run -/

/-- **A channel key reaches only its user.**  In every run, restarts included, whose
steps never mint a session id that is on record for another user, each key handed
out by a step goes to connections of the user it is for. -/
theorem keys_reach_their_user (cfg : Config) (limit missingTtl : Nat) (nodes : List LivekitNode)
    (actions : List Action)
    (fresh : Staged (step cfg) MintsUnrecorded (initial limit missingTtl nodes) actions)
    (before : List Action) (action : Action) (reached : before ++ [action] <+: actions) :
    ∀ given ∈ newDeliveries (run (step cfg) (initial limit missingTtl nodes) before)
        (run (step cfg) (initial limit missingTtl nodes) (before ++ [action])),
      given.ReachesUser
        (run (step cfg) (initial limit missingTtl nodes) (before ++ [action])).sessionManager := by
  obtain ⟨rest, rfl⟩ := reached
  obtain ⟨staged, allowed⟩ := staged_concat.mp (staged_append.mp fresh).1
  have honest : OwnersHonest (run (step cfg) (initial limit missingTtl nodes) before).roster :=
    staged.invariant (fun s => OwnersHonest s.roster)
      (fun s action honest fresh => (step_discreet honest fresh).honest)
      (initial_recorded limit missingTtl nodes)
  rw [run_append]
  exact (step_discreet honest allowed).newDeliveries

end VoiceState

/-! ## A restart in which the ids meet

Ada talks in the lounge on session 1.  The process is replaced; LiveKit still
lists her with session 1, and so does her recovered seat. -/

namespace Restarted

open VoiceState Sample

/-- LiveKit as the new process finds it: Ada in the lounge, on her old token. -/
def recoveryEnv : Env :=
  { env 5 with
    listRooms := fun _ => some [⟨lounge, 1⟩]
    listParticipants := fun _ _ => some [⟨ada, ⟨"node", 1, "n"⟩⟩] }

/-- Ada in the lounge, then the restart. -/
def interrupted : List Action := adaIn ++ [.restart recoveryEnv]

/-- Ada is the first to come back, so session 1 is hers again, and the key that
Bob's join rotates reaches her. -/
theorem keys_reach_their_user_reconnected :
    (newDeliveries (run (step cfg) start (interrupted ++ [signIn ada, signIn bob]))
        (run (step cfg) start
          (interrupted ++ [signIn ada, signIn bob] ++ [ask (env 6) bob lounge]))).length = 2 ∧
      ∀ given ∈ newDeliveries (run (step cfg) start (interrupted ++ [signIn ada, signIn bob]))
          (run (step cfg) start
            (interrupted ++ [signIn ada, signIn bob] ++ [ask (env 6) bob lounge])),
        given.ReachesUser (run (step cfg) start
          (interrupted ++ [signIn ada, signIn bob] ++ [ask (env 6) bob lounge])).sessionManager :=
  ⟨by decide,
    keys_reach_their_user cfg 0 30 nodes
      (interrupted ++ [signIn ada, signIn bob] ++ [ask (env 6) bob lounge]) (by decide)
      (interrupted ++ [signIn ada, signIn bob]) (ask (env 6) bob lounge) (List.prefix_refl _)⟩

/-- **A recycled session id leaks a key.**  Eve, who is in no voice channel, is the
first to sign in after the restart and gets session 1.  Bob's join rotates the
lounge's key, and Ada's update goes to Eve's connection. -/
theorem recycled_session_id_leaks_key :
    ¬ ∀ (actions before : List Action) (action : Action), before ++ [action] <+: actions →
      ∀ given ∈ newDeliveries (run (step cfg) start before) (run (step cfg) start (before ++ [action])),
        given.inToken = false →
          given.ReachesUser (run (step cfg) start (before ++ [action])).sessionManager := by
  intro always
  have reached := always _ (interrupted ++ [signIn eve, signIn bob]) (ask (env 6) bob lounge)
    (List.prefix_refl _)
  nomatch reached

end Restarted

end Kergit
