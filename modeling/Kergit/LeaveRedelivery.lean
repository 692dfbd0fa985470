import Kergit.ChannelSwitch

/-!
A leave whose handling throws.

LiveKit is answered 400 and delivers the event again, but its id is recorded before it is
handled, so what the first delivery did not get to stays undone.  `handle_participant_left`
asks the hub service where to announce the departure, with the user untracked and the key
still the old one, and again where to send the new key, with that drawn and stored.
-/

namespace Kergit

open Lib

namespace VoiceState

variable {cfg : Config} {env env' : Env} {s t : VoiceState} {event : LiveKitEvent}
  {channel : ChannelId}

/-- The hub lookups of `handle_participant_left`. -/
inductive HubLookup where
  | announce
  | broadcast

-- `rotate_and_broadcast`, up to the hub lookup; `none` if that is not made.
def rotateUntold (cfg : Config) (env : Env) (s : VoiceState) (channel : ChannelId) :
    Option VoiceState :=
  match s.rotateKey cfg channel with
  | (none, _) => none
  | (some key, s) => some (s.onKeys (·.persistToStorage cfg env channel key))

-- `handle_participant_left`, up to the hub lookup that throws; `none` if that is not
-- made.
def leftUntil (cfg : Config) (env : Env) (s : VoiceState) (event : LiveKitEvent)
    (lookup : HubLookup) : Option VoiceState :=
  let pending := s.pendingIntents.read env.redis event.userId
  let switch := oldLeaveForSwitch event pending
  let emptied := (s.sessions.leave event.channelId event.userId).1
  let gone := s.unseated event.channelId event.userId
  if s.leavingCurrentVoice event pending then
    match lookup with
    | .announce => some (gone.emit (.voiceLeave event.userId event.channelId))
    | .broadcast =>
      if emptied then none
      else (gone.farewell env event switch).rotateUntold cfg env event.channelId
  else if switch.isSome then
    match lookup with
    | .announce => some gone
    | .broadcast =>
      if gone.sessions.isEmpty event.channelId then none
      else (gone.announceRemove env event.channelId event.userId).rotateUntold cfg env event.channelId
  else none

-- `on_livekit_event` of a leave, up to the hub lookup that throws: the webhook server
-- catches it and answers 400.
def failedDelivery (cfg : Config) (env : Env) (s : VoiceState) (event : LiveKitEvent)
    (lookup : HubLookup) : Option VoiceState :=
  match s.markWebhookEventSeen cfg env event.eventId with
  | (false, _) => none
  | (true, s) =>
    match s.isStaleEvent event with
    | (true, _) => none
    | (false, s) => s.leftUntil cfg env event lookup

/-- The departed user is untracked, and the channel closed or rekeyed since. -/
structure Departed (cfg : Config) (s t : VoiceState) (event : LiveKitEvent) : Prop where
  untracked : t.sessions.userChannel event.userId ≠ some event.channelId
  relocked : Relocked cfg s.keyDraws t event.channelId

theorem left_untracked {m : VoiceSessionManager} :
    (m.leave channel user).2.userChannel user ≠ some channel := by
  grind

theorem rotateUntold_relocks (rng : cfg.DrawsKeys) (occupied : s.sessions.isEmpty channel = false)
    (rotated : s.rotateUntold cfg env channel = some t) :
    t.sessions = s.sessions ∧ t.keyDraws = s.keyDraws + 1 ∧ Relocked cfg s.keyDraws t channel := by
  obtain ⟨key, t, drawn, drew, roster, -⟩ : Draws cfg s channel _ := rotateKey_draws rng
  simp only [rotateUntold, drawn] at rotated
  obtain rfl := Option.some.inj rotated
  have sessions : t.sessions = s.sessions := congrArg Roster.sessions roster
  refine ⟨sessions, drew.keyDraws, fun empty => ?_, fun _ => ?_⟩
  · exact absurd ((sessions ▸ occupied).symm.trans empty) (by simp)
  · exact ⟨key, s.keyDraws, drew.persisted.here, Nat.le_refl _, drew.drawn⟩

theorem Relocked.since (locked : Relocked cfg draws' s channel)
    (earlier : draws ≤ draws') : Relocked cfg draws s channel := by
  refine ⟨locked.1, fun occupied => ?_⟩
  obtain ⟨key, n, is, later, drawn⟩ := locked.2 occupied
  exact ⟨key, n, is, earlier.trans later, drawn⟩

/-- The first delivery got as far as the new key. -/
theorem leftUntil_departed (rng : cfg.DrawsKeys)
    (failed : s.leftUntil cfg env event .broadcast = some t) :
    Departed cfg s t event ∧ s.keyDraws ≤ t.keyDraws := by
  have told : ∀ u, Quiet (s.unseated event.channelId event.userId) u →
      u.sessions.isEmpty event.channelId = false →
      u.rotateUntold cfg env event.channelId = some t →
      Departed cfg s t event ∧ s.keyDraws ≤ t.keyDraws := by
    intro u quiet occupied rotated
    obtain ⟨sessions, draws, relocked⟩ := rotateUntold_relocks rng occupied rotated
    rw [show u.keyDraws = s.keyDraws from quiet.keyDraws] at draws relocked
    refine ⟨⟨?_, relocked⟩, by omega⟩
    rw [sessions, quiet.sessions]
    exact left_untracked
  simp only [leftUntil] at failed
  split at failed
  · rename_i current
    have member : s.sessions.userChannel event.userId = some event.channelId := by
      simp [leavingCurrentVoice] at current
      exact current.1.1
    split at failed
    · simp at failed
    · rename_i occupied
      refine told _ farewell_quiet ?_ failed
      rw [leave_emptied_eq member, Bool.not_eq_true] at occupied
      exact occupied
  · split at failed
    · split at failed
      · simp at failed
      · rename_i occupied
        refine told _ announceRemove_quiet ?_ failed
        exact Bool.not_eq_true _ ▸ occupied
    · simp at failed

/-- A delivery that throws was the first, and in time. -/
theorem failedDelivery_left (left : event.type = .participantLeft)
    (failed : s.failedDelivery cfg env event lookup = some t) :
    InTime event.userId (s.lastEventTs event.userId) event.timestampMs ∧
      (s.received cfg env event).leftUntil cfg env event lookup = some t := by
  unfold failedDelivery at failed
  by_cases seen : Redelivered env s event
  · rw [markWebhookEventSeen_redelivered seen] at failed
    cases failed
  · rw [markWebhookEventSeen_fresh seen] at failed
    dsimp only at failed
    rw [isStaleEvent_participant (by rw [left]; rfl)] at failed
    by_cases timely : InTime event.userId (s.lastEventTs event.userId) event.timestampMs
    · simp only [timely, not_true, decide_false] at failed
      exact ⟨timely, failed⟩
    · simp [timely] at failed

/-- The first delivery got no further than the tracked members. -/
theorem leftUntil_announce (failed : s.leftUntil cfg env event .announce = some t) :
    t.sessions = (s.sessions.leave event.channelId event.userId).2 ∧ t.keyDraws = s.keyDraws ∧
      (∀ c, t.room c = s.room c) ∧ t.filters = s.filters := by
  simp only [leftUntil] at failed
  split at failed
  · cases failed
    exact ⟨rfl, rfl, fun _ => rfl, rfl⟩
  · split at failed
    · cases failed
      exact ⟨rfl, rfl, fun _ => rfl, rfl⟩
    · cases failed

/-- Where the user is untracked, what is left of the departure is the key. -/
theorem departed_iff_relocked {u : VoiceState}
    (untracked : t.sessions.userChannel event.userId ≠ some event.channelId)
    (sessions : u.sessions = t.sessions) (same : u.room event.channelId = t.room event.channelId) :
    Departed cfg s u event ↔ Relocked cfg s.keyDraws t event.channelId := by
  constructor
  · intro departed
    exact departed.relocked.congr (by rw [sessions]) same.symm
  · intro relocked
    exact ⟨sessions ▸ untracked, relocked.congr (by rw [sessions]) same⟩

/-- The second delivery is dropped, is ignored, or leaves the old channel of a switch. -/
theorem onLivekitEvent_departed (rng : cfg.DrawsKeys) (left : event.type = .participantLeft)
    (untracked : t.sessions.userChannel event.userId ≠ some event.channelId)
    (draws : s.keyDraws ≤ t.keyDraws) :
    Departed cfg s (t.onLivekitEvent cfg env event) event ↔
      (¬ Redelivered env t event ∧ (t.switchOf env event).isSome = true) ∧
          InTime event.userId (t.lastEventTs event.userId) event.timestampMs ∨
        Relocked cfg s.keyDraws t event.channelId := by
  by_cases seen : Redelivered env t event
  · rw [onLivekitEvent_redelivered seen]
    simpa [seen] using departed_iff_relocked untracked rfl rfl
  rw [onLivekitEvent_participant (by rw [left]; rfl) seen]
  by_cases timely : InTime event.userId (t.lastEventTs event.userId) event.timestampMs
  · rw [if_pos timely, show dispatch cfg env _ event = onParticipantLeft cfg env _ event by
      rw [dispatch, left]]
    by_cases switch : ((t.received cfg env event).switchOf env event).isSome = true
    · have sessions : ((t.received cfg env event).handleParticipantLeft cfg env event).sessions =
          (t.sessions.leave event.channelId event.userId).2 :=
        (handleParticipantLeft_applied (.inr switch)).sessions
      have relocked := handleParticipantLeft_relocks rng switch
      refine iff_of_true ⟨?_, ?_⟩ (.inl ⟨⟨seen, switch⟩, timely⟩)
      · change ((t.received cfg env event).handleParticipantLeft cfg env
          event).sessions.userChannel event.userId ≠ _
        rw [sessions]
        exact left_untracked
      · exact (relocked.since draws).congr rfl room_onParticipantLeft
    · have out : (t.received cfg env event).appliesLeave env event = false := by
        simp [appliesLeave, leavingCurrentVoice, received, untracked]
      have ignored : (t.received cfg env event).handleParticipantLeft cfg env event = _ :=
        handleParticipantLeft_ignored out (by simpa using switch)
      have none : ¬ (t.switchOf env event).isSome = true := switch
      rw [departed_iff_relocked untracked, or_iff_right fun handled => none handled.1.2]
      · change ((t.received cfg env event).handleParticipantLeft cfg env event).sessions = _
        rw [ignored]
        rfl
      · rw [room_onParticipantLeft, ignored]
        rfl
  · rw [if_neg timely, or_iff_right fun handled => timely handled.2]
    exact departed_iff_relocked untracked rfl rfl

/-- **What redelivery is good for.**  After the second delivery the departure is complete exactly
when it was the key's broadcast that failed; or Redis does not know of the first and a switch out of
the channel is pending; or the first left nothing to rekey, which it does to no channel with a
key. -/
theorem redelivery_departs (rng : cfg.DrawsKeys) (left : event.type = .participantLeft)
    (failed : s.failedDelivery cfg env event lookup = some t) :
    (Departed cfg s (t.onLivekitEvent cfg env' event) event ↔
      lookup = .broadcast ∨ (¬ Redelivered env' t event ∧ (t.switchOf env' event).isSome = true) ∨
        Relocked cfg s.keyDraws t event.channelId) ∧
    (KeyedBefore cfg s event.channelId → lookup = .announce →
      ¬ Relocked cfg s.keyDraws t event.channelId) := by
  obtain ⟨timely, failed⟩ := failedDelivery_left left failed
  cases lookup with
  | broadcast =>
    obtain ⟨⟨untracked, relocked⟩, draws⟩ := leftUntil_departed rng failed
    have second : Departed cfg s (t.onLivekitEvent cfg env' event) event :=
      (onLivekitEvent_departed (s := s) rng left untracked draws).mpr (.inr relocked)
    exact ⟨iff_of_true second (.inl rfl), by simp⟩
  | announce =>
    obtain ⟨sessions, draws, room, filters⟩ := leftUntil_announce failed
    have untracked : t.sessions.userChannel event.userId ≠ some event.channelId :=
      sessions ▸ left_untracked
    have again : InTime event.userId (t.lastEventTs event.userId) event.timestampMs := by
      rw [lastEventTs_of_filters filters, inTime_received]
      exact timely.imp_right fun later => later.imp_right fun newest => max_le newest le_rfl
    refine ⟨?_, fun keyed _ => keyed.not_relocked (room event.channelId)⟩
    rw [onLivekitEvent_departed (s := s) rng left untracked draws.ge]
    simp [again]

end VoiceState

/-! ## Ada leaves Bob in the lounge -/

namespace Unannounced

open VoiceState Sample

def talking : VoiceState := run (step cfg) start together

def left : LiveKitEvent where
  type := .participantLeft
  eventId := "event"
  channelId := lounge
  userId := ada
  appSessionId := 1
  intentNonce := "n"

/-- **The announcement fails**, and the second delivery is dropped: Bob talks on under the key
that Ada holds. -/
theorem departed_key_stays :
    ∃ t, talking.failedDelivery cfg (env 4) left .announce = some t ∧
      (t.onLivekitEvent cfg (env 5) left).sessions.userChannel bob = some lounge ∧
      (t.onLivekitEvent cfg (env 5) left).keys.getKey lounge = talking.keys.getKey lounge ∧
      (talking.keys.getKey lounge).isSome = true :=
  ⟨_, rfl, by decide, by decide, by decide⟩

theorem redelivery_departs_ada :
    ∃ t, talking.failedDelivery cfg (env 4) left .broadcast = some t ∧
      Departed cfg talking (t.onLivekitEvent cfg (env 5) left) left := by
  obtain ⟨t, failed⟩ : ∃ t, talking.failedDelivery cfg (env 4) left .broadcast = some t := ⟨_, rfl⟩
  exact ⟨t, failed, (redelivery_departs cfg_drawsKeys rfl failed).1.mpr (.inl rfl)⟩

end Unannounced

end Kergit
