import Kergit.VoiceMoves

/-!
Where the owner of a seat comes from.

A seat and a pending join each name a session id.  `Inherits` says, for the steps
LiveKit and reconcile cause, that no such id appears out of nowhere: a seat's
owner was the owner before, or a pending join's session, or a live session of
that user.  `Minted` follows for one process: every id on record is one its
session manager has handed out.
-/

namespace Kergit

open Lib

/-- The seats and intents after a step name sessions that were there before it. -/
structure Inherits (r r' : Roster) : Prop where
  sessionManager : r'.sessionManager = r.sessionManager
  intents : IntentsFrom r.pendingIntents r'.pendingIntents
  seats : ∀ user seat, r'.sessions.voiceState user = some seat →
    r.sessions.voiceState user = some seat ∨
      (∃ entry, r.pendingIntents.lookup user = some entry ∧
        entry.value.sessionId = seat.ownerSession) ∨
      seat.ownerSession ∈ r.sessionManager.getUserSessionIds user

theorem Inherits.refl (r : Roster) : Inherits r r := ⟨rfl, .refl _, fun _ _ seated => Or.inl seated⟩

theorem Inherits.trans (first : Inherits r t) (second : Inherits t r') : Inherits r r' where
  sessionManager := second.sessionManager.trans first.sessionManager
  intents := first.intents.trans second.intents
  seats := by
    intro user seat seated
    rcases second.seats user seat seated with before | ⟨entry, stored, owner⟩ | live
    · exact first.seats user seat before
    · obtain ⟨origin, stored', same⟩ := first.intents user entry stored
      exact .inr (.inl ⟨origin, stored', same.sessionId.symm.trans owner⟩)
    · exact .inr (.inr (first.sessionManager ▸ live))

namespace VoiceState

variable {cfg : Config} {env : Env} {s s' : VoiceState} {event : LiveKitEvent}
  {intent pending : PendingJoinIntent} {channel : ChannelId} {user : UserId}

section

variable (correlated : s.correlatedIntent env event = some intent)

include correlated

/-- A join that finds a pending intent is admitted under that very intent. -/
theorem correlatedIntent_read
    (found : s.pendingIntents.read env.redis event.userId = some pending) :
    intent = pending := by
  simp only [correlatedIntent] at correlated
  grind

/-- The session a join is admitted for was recorded in the user's intent, or is
the only live session the user has. -/
theorem correlatedIntent_origin :
    (∃ entry, s.pendingIntents.lookup event.userId = some entry ∧
        entry.value.sessionId = intent.sessionId) ∨
      intent.sessionId ∈ s.sessionManager.getUserSessionIds event.userId := by
  cases found : s.pendingIntents.read env.redis event.userId with
  | some pending =>
    left
    obtain rfl := correlatedIntent_read correlated found
    obtain ⟨entry, stored, -, rfl⟩ := PendingJoinIntentStore.read_eq_some found
    exact ⟨entry, stored, PendingJoinIntentStore.ofDoc_sessionId.symm⟩
  | none =>
    simp only [correlatedIntent] at correlated
    grind

theorem settleJoin_intentsFrom
    (found : s.pendingIntents.read env.redis event.userId = some pending) :
    IntentsFrom s.pendingIntents (settleJoin env s.pendingIntents event.userId intent) := by
  obtain rfl := correlatedIntent_read correlated found
  unfold settleJoin
  split
  · exact PendingJoinIntentStore.intentsFrom_update found ⟨rfl, rfl, rfl, fun _ => rfl⟩
  · exact PendingJoinIntentStore.intentsFrom_clear _ _ _

end

theorem settleOldLeave_intentsFrom :
    IntentsFrom s.pendingIntents
      (settleOldLeave env s.pendingIntents event.userId (s.switchOf env event)) := by
  unfold settleOldLeave
  split
  · exact .refl _
  · rename_i intent switching
    obtain ⟨found, -⟩ := Option.filter_eq_some_iff.mp switching
    split
    · exact PendingJoinIntentStore.intentsFrom_clear _ _ _
    · exact PendingJoinIntentStore.intentsFrom_update found ⟨rfl, rfl, rfl, id⟩

theorem joined_inherits : Inherits s.roster (s.handleParticipantJoined cfg env event).roster := by
  cases correlated : s.correlatedIntent env event with
  | none =>
    rw [(handleParticipantJoined_rejected correlated).roster]
    exact .refl _
  | some intent =>
    rw [(handleParticipantJoined_admitted correlated).roster]
    refine ⟨rfl, ?_, ?_⟩
    · change IntentsFrom _ (if _ then _ else _)
      cases found : s.pendingIntents.read env.redis event.userId with
      | none => exact .refl _
      | some pending => exact settleJoin_intentsFrom correlated found
    · intro user seat seated
      change (s.seat event intent).2.voiceState user = some seat at seated
      rw [voiceState_seat] at seated
      split at seated
      · rename_i same
        subst same
        obtain rfl := Option.some.inj seated
        exact .inr (correlatedIntent_origin correlated)
      · exact .inl seated

/-! A departure takes seats away and gives none. -/

variable {seat : UserVoiceState}

theorem leave_seats {m : VoiceSessionManager}
    (seated : (m.leave channel user).2.voiceState v = some seat) : m.voiceState v = some seat := by
  rw [VoiceSessionManager.voiceState_leave] at seated
  split at seated
  · nomatch seated
  · exact seated

theorem left_seats
    (seated : (s.handleParticipantLeft cfg env event).sessions.voiceState v = some seat) :
    s.sessions.voiceState v = some seat := by
  rcases handleParticipantLeft_sessions cfg env s event with ⟨-, left⟩ | ⟨-, same⟩
  · exact leave_seats (left ▸ seated)
  · exact same ▸ seated

theorem forced_seats
    (seated : (s.forceLocalLeave cfg env user channel).sessions.voiceState v = some seat) :
    s.sessions.voiceState v = some seat := by
  have roster : (s.forceLocalLeave cfg env user channel).sessions =
      (s.sessions.leave channel user).2 := forceLocalLeave_spec.sessions
  rw [roster] at seated
  exact leave_seats seated

theorem finished_seats
    (seated : (s.onChannelFinish env channel).sessions.voiceState v = some seat) :
    s.sessions.voiceState v = some seat := by
  have roster : (s.onChannelFinish env channel).sessions = (s.sessions.clearChannel channel).2 :=
    onChannelFinish_spec.sessions
  rw [roster, VoiceSessionManager.voiceState_clearChannel] at seated
  split at seated
  · nomatch seated
  · exact seated

theorem left_inherits : Inherits s.roster (s.handleParticipantLeft cfg env event).roster := by
  by_cases fits : s.LeaveFits env event
  · refine ⟨?_, ?_, fun _ _ seated => .inl (left_seats seated)⟩
    · rw [(handleParticipantLeft_applied fits).roster]
      rfl
    · rw [(handleParticipantLeft_applied fits).roster]
      exact settleOldLeave_intentsFrom
  · rw [handleParticipantLeft_unfit fits]
    exact .refl _

theorem move_inherits (m : Move) : Inherits s.roster (s.move cfg m).roster := by
  cases m with
  | joined env event => exact joined_inherits
  | left env event => exact left_inherits
  | forced env user channel =>
    refine ⟨?_, ?_, fun _ _ seated => .inl (forced_seats seated)⟩
    · rw [move, forceLocalLeave_spec.roster]
    · rw [move, forceLocalLeave_spec.roster]
      exact .refl _
  | finished env channel =>
    refine ⟨?_, ?_, fun _ _ seated => .inl (finished_seats seated)⟩
    · rw [move, onChannelFinish_spec.roster]
    · rw [move, onChannelFinish_spec.roster]
      exact .refl _

theorem Turns.inherits (turns : Turns cfg Guard s s') : Inherits s.roster s'.roster :=
  turns.invariant (fun t => Inherits s.roster t.roster) (fun _ _ quiet kept => quiet.roster ▸ kept)
    (fun _ m _ kept => kept.trans (move_inherits m)) (.refl _)

theorem step_inherits (report : action.isReport = true) :
    Inherits s.roster (s.step cfg action).roster := by
  have turns : Turns cfg (fun _ _ => True) s (s.step cfg action) :=
    step_turns report fun _ _ => trivial
  exact turns.inherits

end VoiceState

/-! ## Session ids on record -/

/-- Every session id on record for a user, in a seat or a pending join, is as `P` says. -/
structure Roster.Recorded (P : SessionManager → UserId → Nat → Prop) (r : Roster) : Prop where
  seats : ∀ user seat, r.sessions.voiceState user = some seat →
    P r.sessionManager user seat.ownerSession
  intents : ∀ user entry, r.pendingIntents.lookup user = some entry →
    P r.sessionManager user entry.value.sessionId

variable {P : SessionManager → UserId → Nat → Prop}

theorem Roster.Recorded.inherited (recorded : r.Recorded P) (step : Inherits r r')
    (live : ∀ user, ∀ sid ∈ r.sessionManager.getUserSessionIds user, P r.sessionManager user sid) :
    r'.Recorded P := by
  constructor
  · intro user seat seated
    rw [step.sessionManager]
    rcases step.seats user seat seated with before | ⟨entry, stored, owner⟩ | listed
    · exact recorded.seats user seat before
    · exact owner ▸ recorded.intents user entry stored
    · exact live user _ listed
  · intro user entry' stored
    obtain ⟨entry, before, same⟩ := step.intents user entry' stored
    rw [step.sessionManager, same.sessionId]
    exact recorded.intents user entry before

namespace VoiceState

variable {cfg : Config} {env : Env} {s s' : VoiceState} {conn : GlobalConnId} {user : UserId}

/-- The intent a join stages is for the session the command came in on. -/
theorem voiceJoin_recorded (recorded : s.roster.Recorded P)
    (filed : ∀ user sid, s.sessionManager.sessionOfConnection request.conn = .ok user →
      s.sessionManager.sessionIdOfConnection request.conn = .ok sid → P s.sessionManager user sid) :
    (s.voiceJoin cfg env request).roster.Recorded P := by
  rcases voiceJoin_roster cfg env s request with same | ⟨user, sid, _, _, _, allowed, issued⟩
  · rw [same]
    exact recorded
  · rw [issued.roster]
    refine ⟨recorded.seats, fun v entry stored => ?_⟩
    rw [← issued.roster] at stored
    rcases issued.lookup stored with kept | ⟨rfl, _, _, rfl⟩
    · exact recorded.intents v entry kept
    · exact filed v sid (authorizeJoin_ok allowed).1 (authorizeJoin_ok allowed).2.1

/-- A seat that is handed over goes to the session just opened. -/
theorem Opened.recorded {sessions : VoiceSessionManager} (opened : Opened s s' conn user m sessions)
    (seats : ∀ v seat, s.sessions.voiceState v = some seat → P m v seat.ownerSession)
    (intents : ∀ v entry, s.pendingIntents.lookup v = some entry → P m v entry.value.sessionId)
    (mine : P m user (s.sessionManager.tables.nextSessionId + 1)) : s'.roster.Recorded P := by
  rw [opened.becomes.roster]
  refine ⟨fun v seat seated => ?_, intents⟩
  rcases opened.handed v with same | ⟨rfl, before, -, after⟩
  · exact seats v seat (same.symm.trans seated)
  · rw [after, Option.some.injEq] at seated
    subst seated
    exact mine

theorem disconnect_recorded (recorded : s.roster.Recorded P)
    (kept : ∀ v sid, P s.sessionManager v sid → P (s.sessionManager.removeConnection conn) v sid) :
    (s.disconnect conn).roster.Recorded P := by
  rcases disconnect_cases s conn with same | quiet
  · rw [same]
    exact recorded
  · rw [quiet.roster]
    exact ⟨fun v seat seated => kept v _ (recorded.seats v seat seated),
      fun v entry stored => kept v _ (recorded.intents v entry stored)⟩

theorem initial_recorded (limit missingTtl : Nat) (nodes : List LivekitNode) :
    (initial limit missingTtl nodes).roster.Recorded P :=
  ⟨fun _ _ seated => absurd seated (by simp [roster, initial]),
    fun _ _ stored => absurd stored (by simp [roster, initial])⟩

/-! ## One process -/

end VoiceState

/-- Every session on record is one the session manager has handed out. -/
abbrev Minted (r : Roster) : Prop := r.Recorded fun m _ sid => sid ≤ m.tables.nextSessionId

namespace SessionManager

variable {m : SessionManager} {user : UserId} {sid : Nat}

theorem minted_of_mem (live : sid ∈ m.getUserSessionIds user) : sid ≤ m.tables.nextSessionId :=
  (m.consistent.minted sid user ((m.consistent.sessions_iff user sid).mp live)).2

end SessionManager

namespace VoiceState

variable {cfg : Config} {env : Env} {s : VoiceState}

/-- **Within one process no session comes out of nowhere.**  Every step but a restart
leaves only sessions on record that the session manager has handed out. -/
theorem step_minted (stays : ∀ env, action ≠ .restart env)
    (minted : Minted s.roster) : Minted (s.step cfg action).roster := by
  cases action with
  | authenticate env conn user resume =>
    rcases authenticate_cases cfg env s conn user resume with quiet | ⟨-, m, sessions, opened⟩
    · rw [step, quiet.roster]
      exact minted
    · have next : m.tables.nextSessionId = s.sessionManager.tables.nextSessionId + 1 := by
        rw [opened.tables]
        rfl
      refine opened.recorded (fun v seat seated => ?_) (fun v entry stored => ?_)
        (Nat.le_of_eq next.symm)
      · exact next ▸ Nat.le_succ_of_le (minted.seats v seat seated)
      · exact next ▸ Nat.le_succ_of_le (minted.intents v entry stored)
  | disconnect conn =>
    refine disconnect_recorded minted fun _ _ handed => ?_
    rwa [SessionManager.nextSessionId_removeConnection]
  | voiceJoin env request =>
    exact voiceJoin_recorded minted fun _ sid _ filed => by
      obtain ⟨owner, owned⟩ :=
        s.sessionManager.consistent.known _ sid (SessionManager.sessionIdOfConnection_ok.mp filed)
      exact (s.sessionManager.consistent.minted sid owner owned).2
  | webhook | reconcile =>
    exact minted.inherited (step_inherits rfl) fun _ _ live => SessionManager.minted_of_mem live
  | restart env => exact absurd rfl (stays env)

end VoiceState

end Kergit
