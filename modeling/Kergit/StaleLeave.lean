import Kergit.IntentNonces
import Kergit.WebhookFilters

/-!
What a leave of an earlier LiveKit connection does to a user who has landed again.

The seat of a tracked user does not say which token it was taken with; a leave is
held against the owner session and the pending intent instead.  `AdmittedBy` reads
the token's nonce off the joins on record.  A leave that names an older nonce
spares the seat exactly if it is not `Exposed`: in time, of the channel the user is
tracked in, and either from the session that owns the seat with no join of the
channel pending, or taken for the first half of a switch.

- `appliesLeave_of_stale`: an older nonce never fits the pending intent, so the
  handler's comparison of nonces comes down to whether an intent is there.
- `stale_leave_spares_seat_iff`: a stale leave after any run.
-/

namespace Kergit

open Lib

namespace VoiceState

variable {cfg : Config} {env : Env} {s : VoiceState} {event : LiveKitEvent} {channel : ChannelId}
  {user : UserId} {nonce : String}

/-- The user is tracked in the channel, and the last join applied of the user was of
that channel and named this nonce. -/
def AdmittedBy (s : VoiceState) (user : UserId) (channel : ChannelId) (nonce : String) : Prop :=
  s.sessions.userChannel user = some channel ∧
    ∃ join, s.admissions.find? (fun join => join.user = user) = some join ∧
      join.channel = channel ∧ join.nonce = nonce

theorem AdmittedBy.on_record (admitted : s.AdmittedBy user channel nonce) :
    ∃ join ∈ s.admissions, join.user = user ∧ join.nonce = nonce := by
  obtain ⟨-, join, found, -, is⟩ := admitted
  have mine := List.find?_some found
  exact ⟨join, List.mem_of_find?_eq_some found, of_decide_eq_true mine, is⟩

/-- The event's session owns the user's seat; an event without a session does too. -/
def FromOwner (s : VoiceState) (event : LiveKitEvent) : Prop :=
  event.appSessionId = 0 ∨ s.sessions.userSession event.userId = some event.appSessionId
deriving Decidable

/-- A join of the event's user into the event's channel is pending. -/
def ExpectedHere (env : Env) (s : VoiceState) (event : LiveKitEvent) : Prop :=
  ∃ intent, s.pendingIntents.read env.redis event.userId = some intent ∧
    intent.toChannel = event.channelId

/-- A switch of the event's user out of the event's channel is pending. -/
def SwitchingAway (env : Env) (s : VoiceState) (event : LiveKitEvent) : Prop :=
  ∃ intent, s.pendingIntents.read env.redis event.userId = some intent ∧
    intent.isSwitch = true ∧ intent.fromChannel = event.channelId

/-- The leave passes the filters and is of the channel the user is tracked in, and it
comes from the owner session with nothing pending there, or a switch is pending. -/
def Exposed (env : Env) (s : VoiceState) (event : LiveKitEvent) : Prop :=
  ¬ Redelivered env s event ∧
    InTime event.userId (s.lastEventTs event.userId) event.timestampMs ∧
    s.sessions.userChannel event.userId = some event.channelId ∧
    ((s.FromOwner event ∧ ¬ ExpectedHere env s event) ∨ SwitchingAway env s event)

theorem switchOf_isSome : (s.switchOf env event).isSome = true ↔ SwitchingAway env s event := by
  unfold switchOf oldLeaveForSwitch SwitchingAway
  cases s.pendingIntents.read env.redis event.userId with
  | none | some intent => simp

/-- An older nonce than that of a join on record is not the pending intent's. -/
theorem nonce_ne_of_stale (draws : cfg.DrawsNonces) (numbered : Numbered cfg s)
    (older : earlier < later) (listed : join ∈ s.admissions)
    (mine : join.user = user) (newer : join.nonce = cfg.generateNonceHex later)
    (found : s.pendingIntents.read env.redis user = some intent) :
    cfg.generateNonceHex earlier ≠ intent.intentNonce ∧ intent.intentNonce ≠ "" := by
  obtain ⟨entry, stored, -, rfl⟩ := PendingJoinIntentStore.read_eq_some found
  obtain ⟨k, -, is, newest⟩ := numbered.intents user entry stored
  rw [PendingJoinIntentStore.ofDoc_intentNonce, is]
  refine ⟨fun same => ?_, draws.named k⟩
  obtain ⟨i, below, nonce⟩ := newest join listed mine (newer ▸ draws.named later)
  have atLater : later = i := draws.distinct (newer.symm.trans nonce)
  have atEarlier : earlier = k := draws.distinct same
  omega

/-- **A stale leave is held against the session and the presence of an intent.** -/
theorem appliesLeave_of_stale (env : Env) (draws : cfg.DrawsNonces) (numbered : Numbered cfg s)
    (older : earlier < later)
    (admitted : s.AdmittedBy event.userId channel (cfg.generateNonceHex later))
    (stale : event.intentNonce = cfg.generateNonceHex earlier) : s.appliesLeave env event = true ↔
      s.sessions.userChannel event.userId = some event.channelId ∧ s.FromOwner event ∧
        ¬ ExpectedHere env s event := by
  obtain ⟨join, listed, mine, newer⟩ := admitted.on_record
  have pending : nonceMismatchToPending event (s.pendingIntents.read env.redis event.userId) = true ↔
      ExpectedHere env s event := by
    unfold nonceMismatchToPending ExpectedHere
    cases found : s.pendingIntents.read env.redis event.userId with
    | none => simp
    | some intent =>
      obtain ⟨differs, named⟩ := nonce_ne_of_stale draws numbered older listed mine newer found
      simp [stale, differs, named, draws.named earlier]
  rw [← pending]
  simp [appliesLeave, leavingCurrentVoice, matchesOwnerSession, FromOwner, and_assoc]

/-- The handler itself: a stale leave of the tracked channel takes the seat if it
comes from the owner with nothing pending, or for a switch. -/
theorem left_spares_iff (draws : cfg.DrawsNonces) (numbered : Numbered cfg s)
    (older : earlier < later)
    (admitted : s.AdmittedBy event.userId channel (cfg.generateNonceHex later))
    (stale : event.intentNonce = cfg.generateNonceHex earlier) (here : event.channelId = channel) :
    (s.handleParticipantLeft cfg env event).sessions.userChannel event.userId = some channel ↔
      ¬ ((s.FromOwner event ∧ ¬ ExpectedHere env s event) ∨ SwitchingAway env s event) := by
  subst here
  have tracked := admitted.1
  have applies := appliesLeave_of_stale env draws numbered older admitted stale
  rcases handleParticipantLeft_sessions cfg env s event with ⟨fits, sessions⟩ | ⟨fits, same⟩
  · rw [sessions, VoiceSessionManager.userChannel_leave]
    rw [LeaveFits, applies, switchOf_isSome] at fits
    exact ⟨fun kept => absurd kept (by simp), fun shielded => absurd (fits.imp_left And.right) shielded⟩
  · rw [same]
    rw [LeaveFits, applies, switchOf_isSome] at fits
    exact ⟨fun _ exposed => fits (exposed.imp_left fun owner => ⟨tracked, owner⟩), fun _ => tracked⟩

theorem left_elsewhere (away : event.channelId ≠ tracked)
    (seated : s.sessions.userChannel event.userId = some tracked) :
    (s.handleParticipantLeft cfg env event).sessions.userChannel event.userId = some tracked := by
  rcases handleParticipantLeft_sessions cfg env s event with ⟨-, sessions⟩ | ⟨-, same⟩
  · grind
  · rw [same]
    exact seated

/-- **When a stale leave spares the seat.**  After any run, a user is tracked in a
channel since a join that named a nonce, and a leave arrives that names an earlier
one.  The user stays tracked there exactly if the leave is not exposed. -/
theorem stale_leave_spares_seat_iff (cfg : Config) (draws : cfg.DrawsNonces)
    (limit missingTtl : Nat) (nodes : List LivekitNode) (before : List Action) (s : VoiceState)
    (reached : s = run (step cfg) (initial limit missingTtl nodes) before)
    (env : Env) (event : LiveKitEvent)
    (leave : event.type = .participantLeft ∨ event.type = .participantConnectionAborted)
    (channel : ChannelId) (earlier later : Nat) (older : earlier < later)
    (admitted : s.AdmittedBy event.userId channel (cfg.generateNonceHex later))
    (stale : event.intentNonce = cfg.generateNonceHex earlier) :
    (s.step cfg (.webhook env event)).sessions.userChannel event.userId = some channel ↔
      ¬ Exposed env s event := by
  have numbered : Numbered cfg s := reached ▸ run_invariant (fun _ _ => step_numbered)
    (numbered_initial limit missingTtl nodes)
  have tracked := admitted.1
  by_cases redelivered : Redelivered env s event
  · have same : (s.step cfg (.webhook env event)).sessions = s.sessions :=
      congrArg sessions (onLivekitEvent_redelivered redelivered)
    rw [same]
    exact ⟨fun _ exposed => exposed.1 redelivered, fun _ => tracked⟩
  have kind : event.type.isParticipant = true := by
    rcases leave with type | type <;> rw [type] <;> rfl
  by_cases timely : InTime event.userId (s.lastEventTs event.userId) event.timestampMs
  · have handled : (s.step cfg (.webhook env event)).sessions =
        ((s.received cfg env event).handleParticipantLeft cfg env event).sessions := by
      rw [step, onLivekitEvent_participant kind redelivered, if_pos timely, dispatch]
      rcases leave with type | type <;> rw [type] <;> rfl
    rw [handled]
    -- The filters leave alone everything the handler reads.
    have numbered' : Numbered cfg (s.received cfg env event) :=
      ⟨numbered.admissions, numbered.intents⟩
    by_cases here : event.channelId = channel
    · rw [left_spares_iff draws numbered' older admitted stale here, not_iff_not]
      exact ⟨fun exposed => ⟨redelivered, timely, here ▸ tracked, exposed⟩,
        fun exposed => exposed.2.2.2⟩
    · refine ⟨fun _ exposed => here ?_, fun _ => left_elsewhere here tracked⟩
      exact Option.some.inj (exposed.2.2.1.symm.trans tracked)
  · have same : (s.step cfg (.webhook env event)).sessions = s.sessions := by
      rw [step, onLivekitEvent_participant kind redelivered, if_neg timely]
      rfl
    rw [same]
    exact ⟨fun _ exposed => timely exposed.2.1, fun _ => tracked⟩

end VoiceState

/-! ## Ada comes back -/

namespace Returning

open VoiceState Sample

/-- Ada's second window. -/
def window : GlobalConnId := ⟨⟨"net"⟩, ⟨"window"⟩⟩

/-- Ada is in the lounge and takes her seat over from a second session. -/
def takeover : List Action :=
  adaIn ++ [.authenticate (env 2) window ada none,
    .voiceJoin (env 3) { conn := window, hub, channel := lounge }, landed (env 4) ada lounge 2 "nnn"]

/-- The leave of the first session's connection comes last and is not hers any more. -/
theorem stale_leave_spares_seat_iff_takeover :
    ((run (step cfg) start takeover).step cfg (gone (env 5) ada lounge 1 "n")).sessions.userChannel
      ada = some lounge := by
  refine (stale_leave_spares_seat_iff cfg cfg_drawsNonces 0 30 nodes takeover _ rfl
    (env 5) _ (.inl rfl) lounge 0 2 (by decide) ⟨by decide, _, rfl, by decide, by decide⟩
    (by decide)).mpr ?_
  rintro ⟨-, -, -, ⟨owner, -⟩ | ⟨intent, found, -⟩⟩
  · nomatch owner
  · have settled : (run (step cfg) start takeover).pendingIntents.read (env 5).redis ada = none := by
      decide
    nomatch settled.symm.trans found

/-- Ada is in the lounge and asks for it again on the same session. -/
def rejoined : VoiceState :=
  run (step cfg) start
    (adaIn ++ [ask (env 2) ada lounge, landed (env 3) ada lounge 1 "nnn"])

/-- **The leave of her first connection takes the seat of her second.**  Her second
join used up the intent, and both connections belong to one session. -/
theorem earlier_leave_takes_the_seat :
    rejoined.AdmittedBy ada lounge (cfg.generateNonceHex 2) ∧
      (rejoined.step cfg (gone (env 4) ada lounge 1 (cfg.generateNonceHex 0))).sessions.userChannel
        ada = none := by
  refine ⟨⟨by decide, _, rfl, by decide, by decide⟩, by decide⟩

end Returning

end Kergit
