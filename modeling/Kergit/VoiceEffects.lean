import Kergit.VoiceSystem

/-!
What the helpers of the voice service leave alone.

Three views of a state carry every result that follows.  `roster` is who is
connected, who is tracked where, and what joins are pending.  `keys` with
`keyDraws` is the key material.  `deliveries` and `admissions` are the journal
cut down to the keys handed out and the joins applied.  Most of what a handler
does — roster messages, self status, resume ids, bookkeeping of rooms — touches
none of them; `Quiet` says so once, and a handler's proof then steps over its
quiet parts.
-/

namespace Kergit

open Lib

/-- Who is connected, who is tracked where, and which joins are pending. -/
structure Roster where
  sessionManager : SessionManager
  sessions : VoiceSessionManager
  pendingIntents : PendingJoinIntentStore

/-- A key handed to a user for a channel, in a token or an update, and the
connections it went to. -/
structure Delivery where
  user : UserId
  channel : ChannelId
  key : ChannelKey
  targets : List GlobalConnId
  inToken : Bool
deriving DecidableEq, Repr

/-- An update to a tracked user, sent to the session on record as its owner. -/
def Roster.Addressed (r : Roster) (given : Delivery) : Prop :=
  ∃ owner, r.sessions.voiceState given.user = some ⟨given.channel, owner⟩ ∧
    given.targets = r.sessionManager.getSessionIdConnections owner

/-- A join applied: where the user was before, and the nonce it came with. -/
structure Admission where
  user : UserId
  channel : ChannelId
  before : Option ChannelId
  nonce : String
deriving DecidableEq, Repr

namespace Effect

def delivery? : Effect → Option Delivery
  | .keyUpdate targets _ channel user key => some ⟨user, channel, key, targets, false⟩
  | .tokenIssued target token key _ _ => some ⟨token.identity, token.room, key, [target], true⟩
  | _ => none

def admission? : Effect → Option Admission
  | .voiceJoin user channel before nonce => some ⟨user, channel, before, nonce⟩
  | _ => none

/-- Neither hands out a key nor applies a join. -/
def Plain (effect : Effect) : Prop := effect.delivery? = none ∧ effect.admission? = none

end Effect

namespace VoiceState

section

variable (s : VoiceState)

def roster : Roster := ⟨s.sessionManager, s.sessions, s.pendingIntents⟩

/-- The keys handed out so far, newest first. -/
def deliveries : List Delivery := s.journal.filterMap Effect.delivery?

/-- The joins applied so far, newest first. -/
def admissions : List Admission := s.journal.filterMap Effect.admission?

/-- The key a user was last handed for a channel. -/
def lastKey (user : UserId) (channel : ChannelId) : Option ChannelKey :=
  (s.deliveries.find? fun given => given.user = user ∧ given.channel = channel).map (·.key)

end

/-- Nothing but messages and bookkeeping happened. -/
structure Quiet (s s' : VoiceState) : Prop where
  roster : s'.roster = s.roster
  keys : s'.keys = s.keys
  keyDraws : s'.keyDraws = s.keyDraws
  nonceDraws : s.nonceDraws ≤ s'.nonceDraws
  deliveries : s'.deliveries = s.deliveries
  admissions : s'.admissions = s.admissions

variable {cfg : Config} {env : Env} {s s' t : VoiceState} {effects : List Effect}
  {channel : ChannelId} {user : UserId}

theorem Quiet.refl (s : VoiceState) : Quiet s s := ⟨rfl, rfl, rfl, Nat.le_refl _, rfl, rfl⟩

theorem Quiet.trans (first : Quiet s t) (second : Quiet t s') : Quiet s s' where
  roster := second.roster.trans first.roster
  keys := second.keys.trans first.keys
  keyDraws := second.keyDraws.trans first.keyDraws
  nonceDraws := Nat.le_trans first.nonceDraws second.nonceDraws
  deliveries := second.deliveries.trans first.deliveries
  admissions := second.admissions.trans first.admissions

theorem Quiet.sessions (quiet : Quiet s s') : s'.sessions = s.sessions :=
  congrArg Roster.sessions quiet.roster

theorem Quiet.sessionManager (quiet : Quiet s s') : s'.sessionManager = s.sessionManager :=
  congrArg Roster.sessionManager quiet.roster

theorem Quiet.pendingIntents (quiet : Quiet s s') : s'.pendingIntents = s.pendingIntents :=
  congrArg Roster.pendingIntents quiet.roster

theorem deliveries_emitAll :
    (s.emitAll effects).deliveries = (effects.filterMap Effect.delivery?).reverse ++ s.deliveries := by
  simp [deliveries, emitAll]

theorem admissions_emitAll :
    (s.emitAll effects).admissions = (effects.filterMap Effect.admission?).reverse ++ s.admissions := by
  simp [admissions, emitAll]

theorem emitAll_quiet (plain : ∀ effect ∈ effects, effect.Plain) : Quiet s (s.emitAll effects) where
  roster := rfl
  keys := rfl
  keyDraws := rfl
  nonceDraws := Nat.le_refl _
  deliveries := by
    rw [deliveries_emitAll, List.filterMap_eq_nil_iff.mpr fun e listed => (plain e listed).1]
    rfl
  admissions := by
    rw [admissions_emitAll, List.filterMap_eq_nil_iff.mpr fun e listed => (plain e listed).2]
    rfl

theorem emit_quiet (plain : effect.Plain) : Quiet s (s.emit effect) := by
  change Quiet s (s.emitAll [effect])
  exact emitAll_quiet (by simpa using plain)

theorem onReconciler_quiet (change : VoiceReconciler → VoiceReconciler) :
    Quiet s (s.onReconciler change) := ⟨rfl, rfl, rfl, Nat.le_refl _, rfl, rfl⟩

theorem anyNode_quiet : Quiet s s.anyNode.2 := ⟨rfl, rfl, rfl, Nat.le_refl _, rfl, rfl⟩

theorem nodes_quiet (nodes : LivekitNodeRegistry) : Quiet s { s with nodes } :=
  ⟨rfl, rfl, rfl, Nat.le_refl _, rfl, rfl⟩

theorem resumeRegistry_quiet (resumeRegistry : VoiceResumeRegistry) :
    Quiet s { s with resumeRegistry } := ⟨rfl, rfl, rfl, Nat.le_refl _, rfl, rfl⟩

/-! ## The publisher's messages -/

theorem voiceParticipantRemove_plain :
    ∀ effect ∈ voiceParticipantRemove env hub channel user, effect.Plain := by
  unfold voiceParticipantRemove
  dsimp only
  split <;> simp [Effect.Plain, Effect.delivery?, Effect.admission?]

theorem selfStatus_plain :
    ∀ effect ∈ s.selfStatus env user connected owner place, effect.Plain := by
  intro effect listed
  simp only [selfStatus, List.mem_flatMap] at listed
  obtain ⟨sessionId, -, sent⟩ := listed
  split at sent
  · nomatch sent
  · split at sent <;> simp only [List.mem_singleton] at sent <;> subst sent <;> exact ⟨rfl, rfl⟩

theorem announceRemove_quiet : Quiet s (s.announceRemove env channel user) := by
  refine emitAll_quiet fun effect listed => ?_
  split at listed
  · exact voiceParticipantRemove_plain effect listed
  · nomatch listed

theorem dismiss_quiet : Quiet s (s.dismiss env user) :=
  (emitAll_quiet selfStatus_plain).trans (resumeRegistry_quiet _)

theorem ensureResumeId_quiet : Quiet s (s.ensureResumeId cfg env user) := by
  refine ⟨rfl, rfl, rfl, ?_, rfl, rfl⟩
  simp only [ensureResumeId]
  split <;> omega

theorem announceJoin_quiet : Quiet s (s.announceJoin env event first) := by
  refine emitAll_quiet fun effect listed => ?_
  grind [voiceSnapshot, voiceParticipantUpsert, Effect.Plain, Effect.delivery?, Effect.admission?]

theorem kickUser_quiet : Quiet s (s.kickUser env channel user).2 := by
  unfold kickUser
  split
  · exact anyNode_quiet
  · exact anyNode_quiet.trans (emit_quiet ⟨rfl, rfl⟩)

theorem verifiedKickUser_quiet (env : Env) (s : VoiceState) (channel : ChannelId) (user : UserId) :
    Quiet s (s.verifiedKickUser env channel user).2 := by
  unfold verifiedKickUser
  split
  · exact anyNode_quiet
  · exact anyNode_quiet.trans (emit_quiet ⟨rfl, rfl⟩)

/-! ## The key service and the roster -/

/-- Keys may have changed hands, but nobody came, went or was expected. -/
structure Steady (s s' : VoiceState) : Prop where
  roster : s'.roster = s.roster
  admissions : s'.admissions = s.admissions
  nonceDraws : s.nonceDraws ≤ s'.nonceDraws
  deliveries : ∃ new, s'.deliveries = new ++ s.deliveries ∧ ∀ given ∈ new, s.roster.Addressed given

theorem Quiet.steady (quiet : Quiet s s') : Steady s s' :=
  ⟨quiet.roster, quiet.admissions, quiet.nonceDraws, [], quiet.deliveries, by simp⟩

theorem Steady.refl (s : VoiceState) : Steady s s := (Quiet.refl s).steady

theorem Steady.sessions (steady : Steady s s') : s'.sessions = s.sessions :=
  congrArg Roster.sessions steady.roster

theorem Steady.sessionManager (steady : Steady s s') : s'.sessionManager = s.sessionManager :=
  congrArg Roster.sessionManager steady.roster

theorem Steady.pendingIntents (steady : Steady s s') : s'.pendingIntents = s.pendingIntents :=
  congrArg Roster.pendingIntents steady.roster

theorem Steady.trans (first : Steady s t) (second : Steady t s') : Steady s s' where
  roster := second.roster.trans first.roster
  admissions := second.admissions.trans first.admissions
  nonceDraws := Nat.le_trans first.nonceDraws second.nonceDraws
  deliveries := by
    obtain ⟨earlier, before, addressed⟩ := first.deliveries
    obtain ⟨later, after, addressed'⟩ := second.deliveries
    refine ⟨later ++ earlier, by rw [after, before, List.append_assoc], fun given listed => ?_⟩
    rcases List.mem_append.mp listed with new | old
    · exact first.roster ▸ addressed' given new
    · exact addressed given old

/-- A message of the key service: an update addressed to a tracked user. -/
def KeyMessage (s : VoiceState) (effect : Effect) : Prop :=
  effect.admission? = none ∧ ∀ given, effect.delivery? = some given → s.roster.Addressed given

/-- The key service was at work and nothing else: keys were drawn or stored, and told to those
they are for. -/
def Rekeys (s s' : VoiceState) : Prop :=
  ∃ keys keyDraws effects, s' = { s with keys, keyDraws, journal := effects ++ s.journal } ∧
    ∀ effect ∈ effects, s.KeyMessage effect

theorem Rekeys.trans (first : Rekeys s t) (second : Rekeys t s') : Rekeys s s' := by
  obtain ⟨_, _, earlier, rfl, addressed⟩ := first
  obtain ⟨keys, keyDraws, later, rfl, addressed'⟩ := second
  refine ⟨keys, keyDraws, later ++ earlier, by rw [List.append_assoc], fun effect listed => ?_⟩
  rcases List.mem_append.mp listed with new | old
  · exact addressed' effect new
  · exact addressed effect old

theorem Rekeys.steady (rekeys : Rekeys s s') : Steady s s' := by
  obtain ⟨keys, keyDraws, effects, rfl, updates⟩ := rekeys
  refine ⟨rfl, ?_, Nat.le_refl _, effects.filterMap Effect.delivery?, List.filterMap_append, ?_⟩
  · rw [admissions, List.filterMap_append,
      List.filterMap_eq_nil_iff.mpr fun effect listed => (updates effect listed).1]
    rfl
  · intro given listed
    obtain ⟨effect, sent, gives⟩ := List.mem_filterMap.mp listed
    exact (updates effect sent).2 given gives

theorem Rekeys.reconciler (rekeys : Rekeys s s') : s'.reconciler = s.reconciler := by
  obtain ⟨_, _, _, rfl, -⟩ := rekeys
  rfl

theorem onKeys_rekeys (change : KeyTables → KeyTables) : Rekeys s (s.onKeys change) :=
  ⟨_, _, [], rfl, by simp⟩

theorem drawKey_rekeys : Rekeys s (s.drawKey cfg channel keyIndex).2 :=
  ⟨_, _, [], rfl, by simp⟩

theorem emitAll_rekeys (updates : ∀ effect ∈ effects, s.KeyMessage effect) :
    Rekeys s (s.emitAll effects) :=
  ⟨_, _, effects.reverse, rfl, fun effect listed => updates effect (List.mem_reverse.mp listed)⟩

theorem voiceKeyUpdateToUser_keyMessage (tracked : s.sessions.userChannel user = some channel) :
    ∀ effect ∈ s.voiceKeyUpdateToUser hub channel user key, s.KeyMessage effect := by
  obtain ⟨owner, seat⟩ := VoiceSessionManager.userChannel_eq_some.mp tracked
  have session : s.sessions.userSession user = some owner := by
    rw [VoiceSessionManager.userSession, seat]
    rfl
  intro effect listed
  simp only [voiceKeyUpdateToUser, session] at listed
  split at listed
  · cases listed
  · rw [List.mem_singleton.mp listed]
    refine ⟨rfl, fun given gives => ?_⟩
    obtain rfl := Option.some.inj gives
    exact ⟨owner, seat, rfl⟩

theorem broadcastKey_rekeys : Rekeys s (s.broadcastKey env channel key) := by
  refine emitAll_rekeys fun effect listed => ?_
  split at listed
  · obtain ⟨participant, present, sent⟩ := List.mem_flatMap.mp listed
    exact voiceKeyUpdateToUser_keyMessage
      (VoiceSessionManager.mem_participantsInChannel.mp ⟨participant, present, rfl⟩) effect sent
  · nomatch listed

theorem resyncToUser_rekeys : Rekeys s (s.resyncToUser env user) := by
  refine emitAll_rekeys fun effect listed => ?_
  grind [voiceKeyUpdateToUser_keyMessage]

/-- From `s` to `s'` nobody but the user was handed a key, and that only the current
key of the channel the user is tracked in. -/
def Resynced (s s' : VoiceState) (user : UserId) : Prop :=
  ∃ new, s'.deliveries = new ++ s.deliveries ∧ ∀ given ∈ new, given.user = user ∧
    s.sessions.userChannel user = some given.channel ∧ s.keys.getKey given.channel = some given.key

theorem resyncToUser_resynced : Resynced s (s.resyncToUser env user) user := by
  refine ⟨_, deliveries_emitAll, fun given listed => ?_⟩
  obtain ⟨effect, pushed, gives⟩ := List.mem_filterMap.mp (List.mem_reverse.mp listed)
  split at pushed
  · nomatch pushed
  · rename_i channel tracked
    split at pushed
    · rename_i key info current found
      unfold voiceKeyUpdateToUser at pushed
      split at pushed
      · nomatch pushed
      · dsimp only at pushed
        split at pushed
        · nomatch pushed
        · rw [List.mem_singleton.mp pushed] at gives
          obtain rfl := Option.some.inj gives
          exact ⟨rfl, tracked, current⟩
    · nomatch pushed

theorem rotateAndBroadcast_rekeys : Rekeys s (s.rotateAndBroadcast cfg env channel).2 := by
  have drawn : Rekeys s (s.rotateKey cfg channel).2 := drawKey_rekeys
  unfold rotateAndBroadcast
  split
  · rename_i t failed
    rw [failed] at drawn
    exact drawn
  · rename_i key t rotated
    rw [rotated] at drawn
    exact drawn.trans ((onKeys_rekeys _).trans broadcastKey_rekeys)

theorem getOrCreateKey_rekeys : Rekeys s (s.getOrCreateKey cfg channel).2 := by
  unfold getOrCreateKey
  split
  · exact ⟨_, _, [], rfl, by simp⟩
  · exact drawKey_rekeys

theorem acquireShared_rekeys : Rekeys s (s.acquireShared cfg env channel user).2 := by
  simp only [acquireShared]
  split
  · dsimp only
    exact onKeys_rekeys _
  · exact (onKeys_rekeys _).trans rotateAndBroadcast_rekeys

theorem acquireFresh_rekeys : Rekeys s (s.acquireFresh cfg env channel).2 := by
  have drawn : Rekeys s (s.getOrCreateKey cfg channel).2 := getOrCreateKey_rekeys
  unfold acquireFresh
  split
  · rename_i t failed
    rw [failed] at drawn
    exact drawn
  · rename_i key t created
    rw [created] at drawn
    dsimp only at drawn ⊢
    exact drawn.trans (onKeys_rekeys _)

theorem acquireRecovered_rekeys : Rekeys s (s.acquireRecovered cfg env channel).2 := by
  unfold acquireRecovered
  split
  · exact onKeys_rekeys fun _ => _
  · rename_i keys missing
    have loaded : Rekeys s { s with keys } := onKeys_rekeys fun _ => keys
    have drawn : Rekeys { s with keys } ({ s with keys }.getOrCreateKey cfg channel).2 :=
      getOrCreateKey_rekeys
    split
    · rename_i t failed
      rw [failed] at drawn
      exact loaded.trans drawn
    · rename_i key t created
      rw [created] at drawn
      exact loaded.trans (drawn.trans ((onKeys_rekeys _).trans broadcastKey_rekeys))

theorem acquireAlone_rekeys : Rekeys s (s.acquireAlone cfg env channel).2 := by
  unfold acquireAlone
  split
  · dsimp only
    exact onKeys_rekeys _
  · split
    · exact acquireFresh_rekeys
    · exact acquireRecovered_rekeys

theorem acquireForJoin_rekeys : Rekeys s (s.acquireForJoin cfg env channel user).2 := by
  simp only [acquireForJoin]
  split <;> split <;> first | exact acquireShared_rekeys | exact acquireAlone_rekeys

/-- A step of the service: the roster it ends in, the joins it applied, and that
every key update it sent is addressed by that roster. -/
structure Becomes (s s' : VoiceState) (r : Roster) (joins : List Admission) : Prop where
  roster : s'.roster = r
  admissions : s'.admissions = joins ++ s.admissions
  nonceDraws : s.nonceDraws ≤ s'.nonceDraws
  deliveries : ∃ new, s'.deliveries = new ++ s.deliveries ∧ ∀ given ∈ new, r.Addressed given

theorem Becomes.sessions (becomes : Becomes s s' r joins) : s'.sessions = r.sessions :=
  congrArg Roster.sessions becomes.roster

theorem Becomes.pendingIntents (becomes : Becomes s s' r joins) :
    s'.pendingIntents = r.pendingIntents := congrArg Roster.pendingIntents becomes.roster

theorem Steady.becomes (steady : Steady s s') : Becomes s s' s.roster [] :=
  ⟨steady.roster, steady.admissions, steady.nonceDraws, steady.deliveries⟩

/-- A change of the roster that says nothing yet, then the messages about it. -/
theorem Steady.after (steady : Steady t s')
    (silent : t.deliveries = s.deliveries) (joined : t.admissions = joins ++ s.admissions)
    (drawn : s.nonceDraws ≤ t.nonceDraws) : Becomes s s' t.roster joins where
  roster := steady.roster
  admissions := steady.admissions.trans joined
  nonceDraws := Nat.le_trans drawn steady.nonceDraws
  deliveries := silent ▸ steady.deliveries

end VoiceState

end Kergit
