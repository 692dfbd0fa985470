import Kergit.VoiceEffects

/-!
What each handler of the voice service does, said once.

For every handler: what becomes of the roster, of the joins applied, and of the
stored intents.  Later results cite these and never unfold a handler.

- `handleParticipantJoined_rejected`, `handleParticipantJoined_admitted`: a join
  without a correlated intent is quiet; one with it seats the user, settles the
  intent and is recorded.
- `handleParticipantLeft_ignored`, `handleParticipantLeft_applied`: a leave that
  fits neither the tracked seat nor a switch is ignored, one that fits is applied.
- `forceLocalLeave_spec`, `onChannelFinish_spec`: what reconcile removes.
- `voiceJoin_cases`, `authenticate_cases`, `disconnect_cases`: the commands.
- `restart_silent`: a new process.
-/

namespace Kergit

open Lib

/-- Two documents for the same join: what was asked, on which session.  The later one
does not forget that the join was seen. -/
structure SameJoin (doc doc' : PendingJoinIntent) : Prop where
  sessionId : doc'.sessionId = doc.sessionId
  intentNonce : doc'.intentNonce = doc.intentNonce
  toChannel : doc'.toChannel = doc.toChannel
  newJoinSeen : doc.newJoinSeen = true → doc'.newJoinSeen = true

theorem SameJoin.refl (doc : PendingJoinIntent) : SameJoin doc doc := ⟨rfl, rfl, rfl, id⟩

theorem SameJoin.trans {doc doc' doc'' : PendingJoinIntent} (first : SameJoin doc doc')
    (second : SameJoin doc' doc'') : SameJoin doc doc'' where
  sessionId := second.sessionId.trans first.sessionId
  intentNonce := second.intentNonce.trans first.intentNonce
  toChannel := second.toChannel.trans first.toChannel
  newJoinSeen := second.newJoinSeen ∘ first.newJoinSeen

/-- The same of two entries; the later one expires if the earlier one does. -/
structure SameEntry (entry entry' : Entry PendingJoinIntent) : Prop
    extends SameJoin entry.value entry'.value where
  timed : entry.deadline ≠ none → entry'.deadline ≠ none

/-- Every stored intent was stored before, perhaps with other flags. -/
def IntentsFrom (before after : PendingJoinIntentStore) : Prop :=
  ∀ user entry', after.lookup user = some entry' →
    ∃ entry, before.lookup user = some entry ∧ SameEntry entry entry'

theorem IntentsFrom.refl (store : PendingJoinIntentStore) : IntentsFrom store store :=
  fun _ entry found => ⟨entry, found, .refl _, id⟩

theorem IntentsFrom.trans {before between after : PendingJoinIntentStore}
    (first : IntentsFrom before between) (second : IntentsFrom between after) :
    IntentsFrom before after := by
  intro user entry' found
  obtain ⟨entry, kept, same⟩ := second user entry' found
  obtain ⟨origin, stored, same'⟩ := first user entry kept
  exact ⟨origin, stored, same'.toSameJoin.trans same.toSameJoin, same.timed ∘ same'.timed⟩

namespace PendingJoinIntentStore

variable (link : Link) (store : PendingJoinIntentStore) (user v : UserId)
  {intent doc : PendingJoinIntent}

@[simp] theorem ofDoc_sessionId : doc.ofDoc.sessionId = doc.sessionId := by
  unfold PendingJoinIntent.ofDoc; split <;> rfl

@[simp] theorem ofDoc_intentNonce : doc.ofDoc.intentNonce = doc.intentNonce := by
  unfold PendingJoinIntent.ofDoc; split <;> rfl

@[simp] theorem ofDoc_toChannel : doc.ofDoc.toChannel = doc.toChannel := by
  unfold PendingJoinIntent.ofDoc; split <;> rfl

@[simp] theorem ofDoc_newJoinSeen : doc.ofDoc.newJoinSeen = doc.newJoinSeen := by
  unfold PendingJoinIntent.ofDoc; split <;> rfl

variable {link store user} in
/-- What a read returns is stored, up to the `has_from_channel` repair. -/
theorem read_eq_some (found : store.read link user = some intent) :
    ∃ entry, store.lookup user = some entry ∧ entry.alive link.now = true ∧
      entry.value.ofDoc = intent := by
  unfold read Link.get at found
  split at found
  · obtain ⟨doc, live, rfl⟩ := Option.map_eq_some_iff.mp found
    obtain ⟨entry, stored, alive, rfl⟩ := Store.live_eq_some.mp live
    exact ⟨entry, stored, alive, rfl⟩
  · cases found

theorem lookup_clear :
    (store.clear link user).lookup v = store.lookup v ∨
      (v = user ∧ (store.clear link user).lookup v = none) := by
  unfold clear Link.del
  grind

theorem lookup_update (intent : PendingJoinIntent) :
    (store.update link user intent).2.lookup v = store.lookup v ∨
      (v = user ∧ ∃ deadline,
        (store.update link user intent).2.lookup v = some ⟨intent.toDoc, some deadline⟩) := by
  unfold update
  split
  · exact .inl rfl
  · split
    · exact .inl rfl
    · unfold Link.setex
      split
      · rw [Store.put]
        grind
      · exact .inl rfl

theorem lookup_stage (intent : PendingJoinIntent) (unixNow lifetime : Nat) :
    (store.stage link user unixNow intent lifetime).2.lookup v = store.lookup v ∨
      (v = user ∧ ∃ deadline,
        (store.stage link user unixNow intent lifetime).2.lookup v =
          some ⟨{ intent.toDoc with expiresAtUnix := unixNow + (lifetime + 10) }, some deadline⟩) := by
  unfold stage Link.setex
  dsimp only
  split
  · rw [Store.put]
    grind
  · exact .inl rfl

theorem intentsFrom_clear : IntentsFrom store (store.clear link user) := by
  intro v entry' found
  rcases lookup_clear link store user v with same | gone
  · exact ⟨entry', same ▸ found, .refl _, id⟩
  · rw [gone.2] at found
    nomatch found

variable {link store user} in
/-- Rewriting the document that was read, flags aside, stores the same join. -/
theorem intentsFrom_update (stored : store.read link user = some doc)
    (same : SameJoin doc intent) : IntentsFrom store (store.update link user intent).2 := by
  intro v entry' found
  rcases lookup_update link store user v intent with kept | ⟨rfl, deadline, written⟩
  · exact ⟨entry', kept ▸ found, .refl _, id⟩
  · rw [written, Option.some.injEq] at found
    subst found
    obtain ⟨entry, listed, -, rfl⟩ := read_eq_some stored
    refine ⟨entry, listed, ⟨?_, ?_, ?_, fun seen => ?_⟩, fun _ => Option.some_ne_none _⟩
    · exact same.sessionId.trans ofDoc_sessionId
    · exact same.intentNonce.trans ofDoc_intentNonce
    · exact same.toChannel.trans ofDoc_toChannel
    · exact same.newJoinSeen (ofDoc_newJoinSeen.trans seen)

end PendingJoinIntentStore

namespace VoiceState

variable {cfg : Config} {env : Env} {s : VoiceState} {event : LiveKitEvent}
  {intent : PendingJoinIntent} {channel : ChannelId} {user v : UserId}

/-! ## Joining -/

@[grind =] theorem voiceState_seat : (s.seat event intent).2.voiceState v =
    if v = event.userId then some ⟨event.channelId, intent.sessionId⟩
    else s.sessions.voiceState v := by
  simp only [seat]
  split <;> simp [VoiceSessionManager.voiceState_join]

/-- The record a join leaves. -/
def admissionOf (s : VoiceState) (event : LiveKitEvent) : Admission :=
  ⟨event.userId, event.channelId, s.sessions.userChannel event.userId, event.intentNonce⟩

theorem greet_quiet : Quiet s (s.greet cfg env event intent first) := by
  exact (ensureResumeId_quiet.trans announceJoin_quiet).trans (emitAll_quiet selfStatus_plain)

theorem applyJoin_steady :
    Steady (s.seated env event intent) (s.applyJoin cfg env event intent) :=
  greet_quiet.steady.trans resyncToUser_rekeys.steady

/-- The state a join is judged in: what was suspected of the channel and the user
is withdrawn. -/
def heard (s : VoiceState) (event : LiveKitEvent) : VoiceState :=
  s.onReconciler fun r =>
    (r.clearChannelMissing event.channelId).clearParticipantMissing event.channelId event.userId

/-- A join without a correlated intent: it is a duplicate, or the user is asked to be removed. -/
theorem handleParticipantJoined_none (cfg : Config)
    (uncorrelated : s.correlatedIntent env event = none) :
    s.handleParticipantJoined cfg env event = s.heard event ∨
      s.handleParticipantJoined cfg env event =
        (((s.heard event).onReconciler (·.request event.channelId)).kickUser env event.channelId
          event.userId).2 := by
  have uncorrelated' : (s.heard event).correlatedIntent env event = none := uncorrelated
  simp only [handleParticipantJoined]
  rw [show s.onReconciler _ = s.heard event from rfl, uncorrelated']
  exact ite_eq_or_eq ..

/-- It changes nobody's place. -/
theorem handleParticipantJoined_rejected (uncorrelated : s.correlatedIntent env event = none) :
    Quiet s (s.handleParticipantJoined cfg env event) := by
  have heard : Quiet s (s.heard event) := onReconciler_quiet _
  rcases handleParticipantJoined_none cfg uncorrelated with is | is <;> rw [is]
  · exact heard
  · exact heard.trans ((onReconciler_quiet _).trans kickUser_quiet)

/-- The roster after an admitted join. -/
def rosterAfterJoin (env : Env) (s : VoiceState) (event : LiveKitEvent) (intent : PendingJoinIntent) :
    Roster where
  sessionManager := s.sessionManager
  sessions := (s.seat event intent).2
  pendingIntents :=
    if (s.pendingIntents.read env.redis event.userId).isSome then
      settleJoin env s.pendingIntents event.userId intent
    else s.pendingIntents

theorem applyJoin_pendingIntents :
    (s.applyJoin cfg env event intent).pendingIntents = s.pendingIntents := by
  have steady : Steady (s.seated env event intent) (s.applyJoin cfg env event intent) :=
    applyJoin_steady
  exact steady.pendingIntents

/-- A correlated join, as one update of the state it finds. -/
theorem handleParticipantJoined_eq (correlated : s.correlatedIntent env event = some intent) :
    s.handleParticipantJoined cfg env event =
      { (s.heard event).applyJoin cfg env event intent with
        pendingIntents := (rosterAfterJoin env s event intent).pendingIntents } := by
  have correlated' : (s.heard event).correlatedIntent env event = some intent := correlated
  have pending : ((s.heard event).applyJoin cfg env event intent).pendingIntents =
      s.pendingIntents := applyJoin_pendingIntents
  simp only [handleParticipantJoined]
  rw [show s.onReconciler _ = s.heard event from rfl, correlated']
  have same : (s.heard event).pendingIntents = s.pendingIntents := rfl
  simp only [rosterAfterJoin, same]
  split
  · rfl
  · rw [← pending]

/-- **A correlated join is applied.**  The user takes the seat of the intent's
session, the intent is settled, and the join is on record. -/
theorem handleParticipantJoined_admitted (correlated : s.correlatedIntent env event = some intent) :
    Becomes s (s.handleParticipantJoined cfg env event) (rosterAfterJoin env s event intent)
      [s.admissionOf event] := by
  have joined : Becomes s ((s.heard event).applyJoin cfg env event intent)
      ((s.heard event).seated env event intent).roster [s.admissionOf event] :=
    applyJoin_steady.after rfl rfl (Nat.le_refl _)
  rw [handleParticipantJoined_eq correlated]
  refine ⟨?_, joined.admissions, joined.nonceDraws, joined.deliveries⟩
  rfl

theorem applyJoin_keys : (s.applyJoin cfg env event intent).keys = s.keys := by
  have quiet : Quiet (s.seated env event intent)
      ((s.seated env event intent).greet cfg env event intent (s.seat event intent).1) := greet_quiet
  exact quiet.keys

/-- A join never touches the key tables. -/
theorem handleParticipantJoined_keys : (s.handleParticipantJoined cfg env event).keys = s.keys := by
  cases correlated : s.correlatedIntent env event with
  | none => exact (handleParticipantJoined_rejected correlated).keys
  | some intent =>
    have keys : ((s.heard event).applyJoin cfg env event intent).keys = s.keys := applyJoin_keys
    rw [handleParticipantJoined_eq correlated]
    exact keys

/-! ## Leaving -/

theorem closeOrRotate_steady : Steady s (s.closeOrRotate cfg env channel emptied) := by
  unfold closeOrRotate
  split
  · exact ⟨rfl, rfl, Nat.le_refl _, [], rfl, by simp⟩
  · exact rotateAndBroadcast_rekeys.steady

theorem farewell_quiet : Quiet s (s.farewell env event switch) := by
  have told : Quiet s ((s.emit (.voiceLeave event.userId event.channelId)).announceRemove env
      event.channelId event.userId) :=
    (emit_quiet ⟨rfl, rfl⟩).trans announceRemove_quiet
  exact told.trans ((emitAll_quiet selfStatus_plain).trans (resumeRegistry_quiet _))

/-- The roster after a leave that was applied, or taken as half of a switch. -/
def rosterAfterLeave (env : Env) (s : VoiceState) (event : LiveKitEvent)
    (switch : Option PendingJoinIntent) : Roster where
  sessionManager := s.sessionManager
  sessions := (s.sessions.leave event.channelId event.userId).2
  pendingIntents := settleOldLeave env s.pendingIntents event.userId switch

private theorem noteOldLeave_spec (steady : Steady (s.unseated event.channelId event.userId) t) :
    Becomes s (t.noteOldLeave env event.userId switch) (rosterAfterLeave env s event switch) [] := by
  refine ⟨?_, steady.admissions, steady.nonceDraws, steady.deliveries⟩
  simp only [roster, noteOldLeave, steady.pendingIntents, steady.sessionManager, steady.sessions]
  rfl

/-- The two decisions of a leave, with the intent it reads. -/
def appliesLeave (env : Env) (s : VoiceState) (event : LiveKitEvent) : Bool :=
  s.leavingCurrentVoice event (s.pendingIntents.read env.redis event.userId)

def switchOf (env : Env) (s : VoiceState) (event : LiveKitEvent) : Option PendingJoinIntent :=
  oldLeaveForSwitch event (s.pendingIntents.read env.redis event.userId)

/-- The leave fits the tracked seat or a switch. -/
abbrev LeaveFits (env : Env) (s : VoiceState) (event : LiveKitEvent) : Prop :=
  s.appliesLeave env event = true ∨ (s.switchOf env event).isSome = true

/-- A leave that fits neither the tracked seat nor a switch is ignored. -/
theorem handleParticipantLeft_ignored (misfit : s.appliesLeave env event = false)
    (noSwitch : s.switchOf env event = none) :
    s.handleParticipantLeft cfg env event = s.onReconciler (·.request event.channelId) := by
  rw [appliesLeave] at misfit
  rw [switchOf] at noSwitch
  simp [handleParticipantLeft, misfit, noSwitch]

/-- The same, where the fit was asked about as a whole. -/
theorem handleParticipantLeft_unfit (unfit : ¬ s.LeaveFits env event) :
    s.handleParticipantLeft cfg env event = s.onReconciler (·.request event.channelId) := by
  simp at unfit
  exact handleParticipantLeft_ignored unfit.1 unfit.2

/-- `leave` of a member answers whether the channel is empty now. -/
theorem leave_emptied_eq (member : s.sessions.userChannel user = some channel) :
    (s.sessions.leave channel user).1 = (s.sessions.leave channel user).2.isEmpty channel := by
  rw [Bool.eq_iff_iff, VoiceSessionManager.leave_emptied_iff, VoiceSessionManager.isEmpty_iff]
  simp [VoiceSessionManager.userChannel_leave]
  grind

/-- **A leave that fits is a departure.**  Whichever way it fits, the user is untracked, that is
announced, the room is closed or rekeyed, and the stored intent takes note. -/
theorem handleParticipantLeft_departs (cfg : Config) (fits : s.LeaveFits env event) :
    ∃ t, Quiet (s.unseated event.channelId event.userId) t ∧
      s.handleParticipantLeft cfg env event =
        (t.closeOrRotate cfg env event.channelId
          (t.sessions.isEmpty event.channelId)).noteOldLeave env event.userId
            (s.switchOf env event) := by
  simp only [handleParticipantLeft]
  split
  · rename_i current
    simp [leavingCurrentVoice] at current
    have quiet : Quiet (s.unseated event.channelId event.userId)
        ((s.unseated event.channelId event.userId).farewell env event (s.switchOf env event)) :=
      farewell_quiet
    refine ⟨_, quiet, ?_⟩
    rw [leaveCurrentVoice, leave_emptied_eq current.1.1]
    rfl
  · rename_i misfit
    exact ⟨_, announceRemove_quiet, if_pos (fits.resolve_left misfit)⟩

theorem handleParticipantLeft_applied (fits : s.LeaveFits env event) :
    Becomes s (s.handleParticipantLeft cfg env event)
      (rosterAfterLeave env s event (s.switchOf env event)) [] := by
  obtain ⟨t, quiet, is⟩ := handleParticipantLeft_departs cfg fits
  rw [is]
  exact noteOldLeave_spec (quiet.steady.trans closeOrRotate_steady)

theorem handleParticipantLeft_sessions (cfg : Config) (env : Env) (s : VoiceState)
    (event : LiveKitEvent) : s.LeaveFits env event ∧ (s.handleParticipantLeft cfg env event).sessions =
        (s.sessions.leave event.channelId event.userId).2 ∨
      ¬ s.LeaveFits env event ∧ (s.handleParticipantLeft cfg env event).sessions = s.sessions := by
  by_cases fits : s.LeaveFits env event
  · exact .inl ⟨fits, (handleParticipantLeft_applied fits).sessions⟩
  · rw [handleParticipantLeft_unfit fits]
    exact .inr ⟨fits, rfl⟩

theorem forceLocalLeave_spec :
    Becomes s (s.forceLocalLeave cfg env user channel)
      { s.roster with sessions := (s.sessions.leave channel user).2 } [] :=
  ((announceRemove_quiet.trans dismiss_quiet).steady.trans closeOrRotate_steady).after
    (t := s.unseated channel user) rfl rfl (Nat.le_refl _)

theorem dismissFrom_all_quiet (env : Env) (s : VoiceState) (channel : ChannelId)
    (users : List UserId) : Quiet s (users.foldl (fun s user => s.dismissFrom env channel user) s) :=
  run_invariant (fun _ _ quiet => quiet.trans (announceRemove_quiet.trans dismiss_quiet)) (.refl s)

theorem onChannelFinish_quiet (env : Env) (s : VoiceState) (channel : ChannelId) :
    Quiet (s.disbanded channel)
      { s.onChannelFinish env channel with keys := (s.disbanded channel).keys } := by
  have quiet := dismissFrom_all_quiet env (s.disbanded channel) channel
    (s.sessions.clearChannel channel).1
  exact ⟨quiet.roster, rfl, quiet.keyDraws, quiet.nonceDraws, quiet.deliveries, quiet.admissions⟩

theorem onChannelFinish_keys :
    (s.onChannelFinish env channel).keys = s.keys.clearChannel env channel := by
  have keys := (dismissFrom_all_quiet env (s.disbanded channel) channel
    (s.sessions.clearChannel channel).1).keys
  simp only [onChannelFinish, keys]
  rfl

theorem onChannelFinish_spec :
    Becomes s (s.onChannelFinish env channel)
      { s.roster with sessions := (s.sessions.clearChannel channel).2 } [] :=
  have quiet : Quiet (s.disbanded channel) _ := onChannelFinish_quiet env s channel
  ⟨quiet.roster, quiet.admissions, quiet.nonceDraws, [], quiet.deliveries, by simp⟩

/-! ## Commands -/

section Commands

variable {request : JoinVoiceChannelRequest} {sessionId : Nat}

/-- A join that gets past its checks comes from a connection of the user, on that
connection's session, to a voice channel of a hub the user is a member of. -/
theorem authorizeJoin_ok (allowed : s.authorizeJoin env request = .ok (user, sessionId)) :
    s.sessionManager.sessionOfConnection request.conn = .ok user ∧
      s.sessionManager.sessionIdOfConnection request.conn = .ok sessionId ∧
      ∃ info, env.getChannel request.channel = some info ∧ info.type = .voice ∧
        env.isHubMember info.hubId user = true := by
  simp only [authorizeJoin] at allowed
  grind

theorem revokePreviousSeat_quiet :
    Quiet s (s.revokePreviousSeat cfg env request user sessionId).2 := by
  simp only [revokePreviousSeat]
  split
  · exact Quiet.refl s
  · rename_i seat found
    have guarded : Quiet s { s with channelTakeoverGuard :=
        if seat.ownerSession ≠ sessionId ∧ seat.channel = request.channel ∧
            (s.sessions.participantsInChannel seat.channel).length = 1 then
          s.channelTakeoverGuard.insert seat.channel (env.steadyNow + cfg.takeoverGuardTtl)
        else s.channelTakeoverGuard } := ⟨rfl, rfl, rfl, Nat.le_refl _, rfl, rfl⟩
    have kicked := guarded.trans (verifiedKickUser_quiet env _ seat.channel user)
    grind

/-- The intent a token is issued with, as it is stored. -/
def stagedStore (env : Env) (s : VoiceState) (request : JoinVoiceChannelRequest) (user : UserId)
    (sessionId : Nat) (nonce : String) : PendingJoinIntentStore :=
  (s.pendingIntents.stage env.redis user env.unixNow
    (s.stagedIntent request user sessionId nonce) tokenLifetime).2

/-- A token goes out: the intent is stored, the key tables are as the acquisition
left them, and `given` is what has been handed to the user for it. -/
structure Issued (env : Env) (s acquired s' : VoiceState) (request : JoinVoiceChannelRequest)
    (user : UserId) (sessionId : Nat) (nonce : String) (given : List Delivery) : Prop where
  roster : s'.roster =
    { s.roster with pendingIntents := stagedStore env s request user sessionId nonce }
  keys : s'.keys = acquired.keys
  keyDraws : s'.keyDraws = acquired.keyDraws
  nonceDraws : acquired.nonceDraws ≤ s'.nonceDraws
  deliveries : s'.deliveries = given ++ acquired.deliveries
  admissions : s'.admissions = s.admissions

/-- An intent found after a token went out was stored before, or is the one staged. -/
theorem Issued.lookup (issued : Issued env s acquired s' request user sessionId nonce given)
    (stored : s'.pendingIntents.lookup v = some entry) : s.pendingIntents.lookup v = some entry ∨
      (v = user ∧ ∃ expiresAtUnix deadline,
        entry = ⟨{ (s.stagedIntent request user sessionId nonce).toDoc with expiresAtUnix },
          some deadline⟩) := by
  rw [show s'.pendingIntents = _ from congrArg Roster.pendingIntents issued.roster] at stored
  rcases PendingJoinIntentStore.lookup_stage env.redis s.pendingIntents user v
      (s.stagedIntent request user sessionId nonce) env.unixNow tokenLifetime with
    kept | ⟨same, deadline, staged⟩
  · exact .inl (kept.symm.trans stored)
  · exact .inr ⟨same, _, deadline, Option.some.inj (stored.symm.trans staged)⟩

theorem revokeMessages_plain {seat : UserVoiceState} :
    ∀ effect ∈ s.revokeMessages sessionId seat, effect.Plain := by
  unfold revokeMessages
  split <;> dsimp only <;> split <;> simp [Effect.Plain, Effect.delivery?, Effect.admission?]

theorem revokePreviousSeat_plain {messages : List Effect}
    (revoked : s.revokePreviousSeat cfg env request user sessionId = (.ok messages, t)) :
    ∀ effect ∈ messages, effect.Plain := by
  simp only [revokePreviousSeat] at revoked
  grind [revokeMessages_plain]

theorem refusal_plain {refusal : Refusal} : (refusal.effect conn).Plain := by
  cases refusal <;> exact ⟨rfl, rfl⟩

/-- The state a join acquires its key in: the nonce drawn and a node found. -/
def acquireStart (s : VoiceState) (channel : ChannelId) : VoiceState :=
  { s with nonceDraws := s.nonceDraws + 1 }.anyNode.2.onReconciler (·.clearChannelMissing channel)

theorem acquireStart_quiet : Quiet s (s.acquireStart channel) :=
  ⟨rfl, rfl, rfl, Nat.le_succ _, rfl, rfl⟩

/-- The key a join acquires. -/
def acquiredKey (cfg : Config) (env : Env) (s : VoiceState) (channel : ChannelId) (user : UserId) :
    Except String ChannelKey × VoiceState :=
  (s.acquireStart channel).acquireForJoin cfg env channel user

theorem acquiredKey_steady : Steady s (s.acquiredKey cfg env channel user).2 :=
  acquireStart_quiet.steady.trans acquireForJoin_rekeys.steady

/-- How the token stage of a join ends: refused with nothing done, refused with
the key acquired, or with a token. -/
theorem issueToken_cases (cfg : Config) (env : Env) (s : VoiceState)
    (request : JoinVoiceChannelRequest) (user : UserId) (sessionId : Nat) :
    (∃ refusal, (s.issueToken cfg env request user sessionId).1 = .error refusal ∧
        (Quiet s (s.issueToken cfg env request user sessionId).2 ∨
          Quiet (s.acquiredKey cfg env request.channel user).2
            (s.issueToken cfg env request user sessionId).2)) ∨
      ∃ key token, (s.issueToken cfg env request user sessionId).1 = .ok token ∧
        token.delivery? = some ⟨user, request.channel, key, [request.conn], true⟩ ∧
        token.admission? = none ∧
        (s.acquiredKey cfg env request.channel user).1 = .ok key ∧
        Issued env s (s.acquiredKey cfg env request.channel user).2
          (s.issueToken cfg env request user sessionId).2 request user sessionId
          (cfg.generateNonceHex s.nonceDraws) [] := by
  have steady : Steady s (s.acquiredKey cfg env request.channel user).2 := acquiredKey_steady
  simp only [issueToken, joinVoice]
  cases found : ({ s with nonceDraws := s.nonceDraws + 1 } : VoiceState).anyNode.1 with
  | none =>
    left
    exact ⟨_, rfl, .inl ⟨rfl, rfl, rfl, Nat.le_succ _, rfl, rfl⟩⟩
  | some node =>
    have acquired : ({ s with nonceDraws := s.nonceDraws + 1 }.anyNode.2.onReconciler
        (·.clearChannelMissing request.channel)).acquireForJoin cfg env request.channel user =
        s.acquiredKey cfg env request.channel user := rfl
    rw [acquired]
    generalize s.acquiredKey cfg env request.channel user = outcome at steady
    obtain ⟨answer, t⟩ := outcome
    cases answer with
    | error reason => exact .inl ⟨_, rfl, .inr (Quiet.refl t)⟩
    | ok key =>
      by_cases blank : cfg.livekitClusterUrl = ""
      · left
        simp only [concludeJoin, blank]
        exact ⟨_, rfl, .inr ⟨rfl, rfl, rfl, Nat.le_succ _, rfl, rfl⟩⟩
      · right
        simp only [concludeJoin, blank, if_false]
        refine ⟨key, _, rfl, rfl, rfl, rfl, ?_, rfl, rfl, Nat.le_succ _, rfl, ?_⟩
        · have steady : Steady s t := steady
          simp only [roster, steady.sessionManager, steady.sessions, steady.pendingIntents, stagedStore]
        · exact steady.admissions

/-- **What a `VOICE_JOIN` does.**  It is quiet when refused early.  Otherwise, for a
connection of the user and its session, a key is acquired, and either that is all
or a token goes out. -/
theorem voiceJoin_cases (cfg : Config) (env : Env) (s : VoiceState)
    (request : JoinVoiceChannelRequest) :
    Quiet s (s.voiceJoin cfg env request) ∨
      ∃ user sessionId start, s.authorizeJoin env request = .ok (user, sessionId) ∧
        Quiet s start ∧
        (Quiet (start.acquiredKey cfg env request.channel user).2 (s.voiceJoin cfg env request) ∨
          ∃ key, (start.acquiredKey cfg env request.channel user).1 = .ok key ∧
            Issued env s (start.acquiredKey cfg env request.channel user).2
              (s.voiceJoin cfg env request) request user sessionId
              (cfg.generateNonceHex start.nonceDraws)
              [⟨user, request.channel, key, [request.conn], true⟩]) := by
  simp only [voiceJoin, executeJoin]
  split
  · exact .inl (emitAll_quiet (by simpa using refusal_plain))
  · rename_i user sessionId allowed
    have revoking : Quiet s (s.revokePreviousSeat cfg env request user sessionId).2 :=
      revokePreviousSeat_quiet
    split
    · rename_i refusal t refused
      rw [refused] at revoking
      exact .inl (revoking.trans (emitAll_quiet (by simpa using refusal_plain)))
    · rename_i messages t revoked
      have plain := revokePreviousSeat_plain revoked
      rw [revoked] at revoking
      replace revoking : Quiet s t := revoking
      have refusedPlain : ∀ refusal : Refusal, ∀ effect ∈ messages ++ [refusal.effect request.conn],
          effect.Plain := by
        grind [refusal_plain]
      have cases := issueToken_cases cfg env t request user sessionId
      obtain ⟨answer, t', shape⟩ : ∃ answer t', t.issueToken cfg env request user sessionId =
        (answer, t') := ⟨_, _, rfl⟩
      rw [shape] at cases ⊢
      rcases cases with ⟨refusal, rfl, unchanged | acquired⟩ |
        ⟨key, token, rfl, gives, joins, got, issued⟩
      · exact .inl (revoking.trans (unchanged.trans (emitAll_quiet (refusedPlain refusal))))
      · exact .inr ⟨user, sessionId, t, allowed, revoking,
          .inl (acquired.trans (emitAll_quiet (refusedPlain refusal)))⟩
      · refine .inr ⟨user, sessionId, t, allowed, revoking, .inr ⟨key, got, ?_⟩⟩
        have silent : messages.filterMap Effect.delivery? = [] :=
          List.filterMap_eq_nil_iff.mpr fun effect listed => (plain effect listed).1
        have unjoined : messages.filterMap Effect.admission? = [] :=
          List.filterMap_eq_nil_iff.mpr fun effect listed => (plain effect listed).2
        constructor
        case roster =>
          refine issued.roster.trans ?_
          simp only [revoking.roster, stagedStore, stagedIntent, revoking.sessions,
            revoking.pendingIntents]
        case keys => exact issued.keys
        case keyDraws => exact issued.keyDraws
        case nonceDraws => exact issued.nonceDraws
        case deliveries =>
          rw [deliveries_emitAll, List.filterMap_append, silent, issued.deliveries]
          simp [gives]
        case admissions =>
          rw [admissions_emitAll, List.filterMap_append, unjoined, issued.admissions,
            revoking.admissions]
          simp [joins]

/-- The roster is as it was, or a token went out. -/
theorem voiceJoin_roster (cfg : Config) (env : Env) (s : VoiceState)
    (request : JoinVoiceChannelRequest) :
    (s.voiceJoin cfg env request).roster = s.roster ∨
      ∃ user sessionId acquired nonce given, s.authorizeJoin env request = .ok (user, sessionId) ∧
        Issued env s acquired (s.voiceJoin cfg env request) request user sessionId nonce given := by
  rcases voiceJoin_cases cfg env s request with
    quiet | ⟨user, sessionId, start, allowed, quiet, acquired | ⟨key, -, issued⟩⟩
  · exact .inl quiet.roster
  · left
    rw [acquired.roster, acquiredKey_steady.roster, quiet.roster]
  · exact .inr ⟨user, sessionId, _, _, _, allowed, issued⟩

/-- A `VOICE_JOIN` moves nobody: seats and connections are as they were. -/
theorem voiceJoin_seats : (s.voiceJoin cfg env request).sessions = s.sessions ∧
    (s.voiceJoin cfg env request).sessionManager = s.sessionManager := by
  rcases voiceJoin_roster cfg env s request with same | ⟨_, _, _, _, _, -, issued⟩
  · exact ⟨congrArg Roster.sessions same, congrArg Roster.sessionManager same⟩
  · exact ⟨congrArg Roster.sessions issued.roster, congrArg Roster.sessionManager issued.roster⟩

end Commands

/-! ## Sessions -/

section Sessions

variable {conn : GlobalConnId} {sessionId : Nat} {resume : Option VoiceResume}

/-- The seats are the same, but the user's may have got a new owner session. -/
def HandsOver (before after : VoiceSessionManager) (user : UserId) (sessionId : Nat) : Prop :=
  ∀ v, after.voiceState v = before.voiceState v ∨
    (v = user ∧ ∃ seat, before.voiceState user = some seat ∧
      after.voiceState user = some { seat with ownerSession := sessionId })

theorem HandsOver.refl (sessions : VoiceSessionManager) : HandsOver sessions sessions user sessionId :=
  fun _ => .inl rfl

theorem HandsOver.userChannel (handed : HandsOver before after user sessionId) (v : UserId) :
    after.userChannel v = before.userChannel v := by
  unfold VoiceSessionManager.userChannel
  rcases handed v with same | ⟨rfl, seat, was, is⟩
  · rw [same]
  · rw [was, is]
    rfl

theorem handsOver_transfer (previous : Nat) :
    HandsOver s.sessions (s.sessions.transferOwnerSession user previous sessionId).2 user
      sessionId := by
  intro v
  rw [VoiceSessionManager.voiceState_transferOwnerSession]
  by_cases moves : v = user ∧ s.sessions.userSession user = some previous
  · right
    obtain ⟨rfl, owned⟩ := moves
    cases found : s.sessions.voiceState v with
    | none => simp [VoiceSessionManager.userSession, found] at owned
    | some seat =>
      refine ⟨rfl, seat, rfl, ?_⟩
      rw [VoiceSessionManager.voiceState_transferOwnerSession, if_pos ⟨rfl, owned⟩, found]
      rfl
  · left
    rw [if_neg moves]

/-- A voice resume hands the seat to the new session, or does nothing; the key
tables stay. -/
theorem tryResume_spec (cfg : Config) (env : Env) (s : VoiceState) (user : UserId) (sessionId : Nat)
    (resume : VoiceResume) :
    (∀ effect ∈ (s.tryResume cfg env user sessionId resume).1, effect.Plain) ∧
      (s.tryResume cfg env user sessionId resume).2.keys = s.keys ∧
      (s.tryResume cfg env user sessionId resume).2.keyDraws = s.keyDraws ∧
      Resynced s (s.tryResume cfg env user sessionId resume).2 user ∧
      ∃ sessions, HandsOver s.sessions sessions user sessionId ∧
        Becomes s (s.tryResume cfg env user sessionId resume).2 { s.roster with sessions } [] := by
  unfold tryResume
  split
  · exact ⟨nofun, rfl, rfl, ⟨[], rfl, by simp⟩, s.sessions,
      .refl _, (Steady.refl s).becomes⟩
  · split
    · exact ⟨nofun, rfl, rfl, ⟨[], rfl, by simp⟩, s.sessions,
        .refl _, (Steady.refl s).becomes⟩
    · rename_i seat _
      have handed : HandsOver s.sessions
          (s.resumeOwnership cfg env user sessionId seat.ownerSession).sessions user sessionId :=
        handsOver_transfer seat.ownerSession
      refine ⟨?_, rfl, rfl, ?_, _, handed, resyncToUser_rekeys.steady.after rfl rfl (Nat.le_succ _)⟩
      · dsimp only
        split <;> simp [Effect.Plain, Effect.delivery?, Effect.admission?]
      · obtain ⟨new, added, current⟩ :=
          resyncToUser_resynced (s := s.resumeOwnership cfg env user sessionId seat.ownerSession)
        exact ⟨new, added, fun given listed => handed.userChannel user ▸ current given listed⟩

/-- An `AUTH` on this connection opens a session. -/
def opensSession (s : VoiceState) (conn : GlobalConnId) (user : UserId) : Bool :=
  (s.sessionManager.sessionOfConnection conn).toOption.isNone &&
    (s.sessionManager.attachConnection conn user).1.toOption.isSome

/-- A session opened for the user on a connection: the next id is minted for it,
and a resume may have handed it the user's seat. -/
structure Opened (s s' : VoiceState) (conn : GlobalConnId) (user : UserId)
    (sessionManager : SessionManager) (sessions : VoiceSessionManager) : Prop where
  unfiled : s.sessionManager.tables.connToSessionId.lookup conn = none
  tables : sessionManager.tables = s.sessionManager.tables.openSession conn user
  handed : HandsOver s.sessions sessions user (s.sessionManager.tables.nextSessionId + 1)
  keys : s'.keys = s.keys
  keyDraws : s'.keyDraws = s.keyDraws
  resynced : Resynced s s' user
  becomes : Becomes s s' { s.roster with sessionManager, sessions } []

/-- **What an `AUTH` does.**  It is quiet, or it opens a session. -/
theorem authenticate_cases (cfg : Config) (env : Env) (s : VoiceState) (conn : GlobalConnId)
    (user : UserId) (resume : Option VoiceResume) :
    Quiet s (s.authenticate cfg env conn user resume) ∨
      (s.opensSession conn user = true ∧
        ∃ sessionManager sessions,
          Opened s (s.authenticate cfg env conn user resume) conn user sessionManager sessions) := by
  simp only [authenticate, executeAuth]
  cases known : s.sessionManager.sessionOfConnection conn with
  | ok existing =>
    left
    exact emitAll_quiet (by simp [Effect.Plain, Effect.delivery?, Effect.admission?])
  | error text =>
    have unfiled : s.sessionManager.tables.connToSessionId.lookup conn = none := by
      cases filed : s.sessionManager.tables.connToSessionId.lookup conn with
      | none => rfl
      | some sid =>
        obtain ⟨owner, owned⟩ := s.sessionManager.consistent.user_of_filed filed
        cases known.symm.trans (SessionManager.sessionOfConnection_ok.mpr owned)
    cases attached : s.sessionManager.attachConnection conn user with
    | mk answer sessionManager =>
    have cases := s.sessionManager.attachConnection_cases conn user
    rw [attached] at cases
    cases answer with
    | error refused =>
      left
      rcases cases with ⟨same, -⟩ | ⟨-, minted, -⟩
      · subst same
        exact emitAll_quiet (by simp [Effect.Plain, Effect.delivery?, Effect.admission?])
      · cases minted
    | ok sid =>
      right
      have opened : sid = s.sessionManager.tables.nextSessionId + 1 ∧
          sessionManager.tables = s.sessionManager.tables.openSession conn user := by
        grind
      obtain ⟨rfl, tables⟩ := opened
      refine ⟨by simp [opensSession, known, attached, Except.toOption], sessionManager, ?_⟩
      set t : VoiceState := { s with sessionManager }
      cases resume with
      | none =>
        have told : Quiet t (t.emitAll ([] ++ [.authUpdate conn true])) :=
          emitAll_quiet (by simp [Effect.Plain, Effect.delivery?, Effect.admission?])
        exact ⟨s.sessions, unfiled, tables, .refl _, told.keys, told.keyDraws,
          ⟨[], told.deliveries, by simp⟩, told.steady.after rfl rfl (Nat.le_refl _)⟩
      | some resume =>
        obtain ⟨plain, keys, keyDraws, resynced, sessions, handed, becomes⟩ :=
          tryResume_spec cfg env t user (s.sessionManager.tables.nextSessionId + 1) resume
        set resumed := t.tryResume cfg env user (s.sessionManager.tables.nextSessionId + 1) resume
        have told : Quiet resumed.2 (resumed.2.emitAll (resumed.1 ++ [.authUpdate conn true])) := by
          refine emitAll_quiet fun effect listed => ?_
          rcases List.mem_append.mp listed with earlier | last
          · exact plain effect earlier
          · rw [List.mem_singleton.mp last]
            exact ⟨rfl, rfl⟩
        refine ⟨sessions, unfiled, tables, handed, told.keys.trans keys, told.keyDraws.trans keyDraws,
          ?_, told.roster.trans becomes.roster, told.admissions.trans becomes.admissions,
          Nat.le_trans becomes.nonceDraws told.nonceDraws, ?_⟩
        · obtain ⟨new, added, current⟩ := resynced
          exact ⟨new, told.deliveries.trans added, current⟩
        · obtain ⟨new, added, addressed⟩ := becomes.deliveries
          exact ⟨new, told.deliveries.trans added, addressed⟩

/-- A closed connection that had a session leaves the tables without it, and
nothing else that matters changes. -/
theorem disconnect_cases (s : VoiceState) (conn : GlobalConnId) :
    s.disconnect conn = s ∨
      Quiet { s with sessionManager := s.sessionManager.removeConnection conn } (s.disconnect conn) := by
  unfold disconnect
  split
  · exact .inl rfl
  · right
    dsimp only
    split
    · exact onReconciler_quiet _
    · exact Quiet.refl _

end Sessions

/-! ## Restart -/

/-- Seats may have changed, but nobody was told, and neither a connection nor a
pending join was touched. -/
structure Silent (s s' : VoiceState) : Prop where
  sessionManager : s'.sessionManager = s.sessionManager
  pendingIntents : s'.pendingIntents = s.pendingIntents
  nonceDraws : s.nonceDraws ≤ s'.nonceDraws
  deliveries : s'.deliveries = s.deliveries
  admissions : s'.admissions = s.admissions

section Restart

variable {s' t : VoiceState}

theorem Quiet.silent (quiet : Quiet s s') : Silent s s' :=
  ⟨quiet.sessionManager, quiet.pendingIntents, quiet.nonceDraws, quiet.deliveries,
    quiet.admissions⟩

theorem Silent.refl (s : VoiceState) : Silent s s := (Quiet.refl s).silent

theorem Silent.trans (first : Silent s t) (second : Silent t s') : Silent s s' where
  sessionManager := second.sessionManager.trans first.sessionManager
  pendingIntents := second.pendingIntents.trans first.pendingIntents
  nonceDraws := Nat.le_trans first.nonceDraws second.nonceDraws
  deliveries := second.deliveries.trans first.deliveries
  admissions := second.admissions.trans first.admissions

/-- A fold of silent steps is silent, whatever it accumulates besides. -/
theorem Silent.foldl {ι α : Type} (view : α → VoiceState) {next : α → ι → α}
    (each : ∀ a i, Silent (view a) (view (next a i))) (inputs : List ι) (a : α) :
    Silent (view a) (view (inputs.foldl next a)) := by
  induction inputs generalizing a with
  | nil => exact .refl _
  | cons i rest ih => exact (each a i).trans (ih _)

theorem recoverResumeId_quiet : Quiet s (s.recoverResumeId cfg env user) := by
  unfold recoverResumeId
  split
  · exact Quiet.refl s
  · split
    · exact resumeRegistry_quiet _
    · exact ensureResumeId_quiet

theorem adoptRoom_silent (room : ChannelId) (participants : List RemoteParticipant) :
    Silent s (s.adoptRoom cfg env room participants) := by
  simp only [adoptRoom, restoreKeyForRecovery]
  split <;> split
  any_goals exact ⟨rfl, rfl, Nat.le_refl _, rfl, rfl⟩
  all_goals split <;> exact ⟨rfl, rfl, Nat.le_refl _, rfl, rfl⟩

theorem recoverRoom_silent (node : LivekitNode) (r : Recovery) (info : RoomInfo) :
    Silent r.state (recoverRoom cfg env node r info).state := by
  have listed : ∀ (r : Recovery) (participant : RemoteParticipant),
      Silent r.state (recoverListed cfg env node.nodeId info.room r participant).state := by
    intro r participant
    unfold recoverListed
    split
    · exact .refl _
    · refine Silent.trans ?_ recoverResumeId_quiet.silent
      exact ⟨rfl, rfl, Nat.le_refl _, rfl, rfl⟩
  simp only [recoverRoom]
  have opened : ∀ fresh : Recovery,
      fresh = (if info.room ∈ r.recoveredRooms then r
        else { r with
          state := r.state.openRecoveredRoom env node.nodeId info.room
          recoveredRooms := info.room :: r.recoveredRooms }) → Silent r.state fresh.state := by
    rintro _ rfl
    split
    · exact .refl _
    · exact ⟨rfl, rfl, Nat.le_refl _, rfl, rfl⟩
  split
  · exact opened _ rfl
  · refine (opened _ rfl).trans (Silent.trans ?_ (Silent.foldl Recovery.state listed _ _))
    exact adoptRoom_silent _ _

theorem clearForRecovery_silent : Silent s s.clearForRecovery := by
  have forgotten : ∀ (s : VoiceState) (channel : ChannelId), Silent s (s.forgetChannel channel) :=
    fun _ _ => ⟨rfl, rfl, Nat.le_refl _, rfl, rfl⟩
  have cleared : Silent s (s.sessions.activeChannels.foldl forgetChannel s) :=
    Silent.foldl id forgotten _ s
  exact ⟨cleared.sessionManager, cleared.pendingIntents, cleared.nonceDraws, cleared.deliveries,
    cleared.admissions⟩

/-- **What a restart leaves.**  The new process knows no connection; the stored
intents are those of the old one; and recovery sends no key. -/
theorem restart_silent (cfg : Config) (env : Env) (s : VoiceState) :
    Silent s.restart (s.restart.recoverFromRestart cfg env) :=
  clearForRecovery_silent.trans <| Silent.foldl Recovery.state
    (fun r node => Silent.foldl Recovery.state (recoverRoom_silent node) _ r) _
    { state := s.restart.clearForRecovery }

end Restart

end VoiceState

end Kergit
