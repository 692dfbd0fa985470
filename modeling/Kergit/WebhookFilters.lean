import Kergit.VoiceHandlers

/-!
The two filters a webhook passes before a handler sees it.

Redis remembers the ids of the events delivered, and the service remembers, for
each user, the newest timestamp heard.  `onLivekitEvent_participant` says what
they let through, and the `filters_*` lemmas that no handler touches them.
-/

namespace Kergit

open Lib

/-- The event is about a participant. -/
def LiveKitEventType.isParticipant : LiveKitEventType → Bool
  | .participantJoined | .participantLeft | .participantConnectionAborted => true
  | .roomStarted | .roomFinished | .telemetry | .unknown => false

namespace VoiceState

variable {cfg : Config} {env : Env} {s : VoiceState} {event : LiveKitEvent} {channel : ChannelId}
  {user : UserId}

/-- Redis knows of no earlier delivery of the event. -/
def NotSeen (env : Env) (s : VoiceState) (event : LiveKitEvent) : Prop :=
  event.eventId = "" ∨ s.webhookSeen.live env.redis.now event.eventId = none

/-- The newest event heard of a user; zero if none. -/
def lastEventTs (s : VoiceState) (user : UserId) : Nat := (s.userLastEventTsMs.lookup user).getD 0

/-- An event of the user with this timestamp is not stale after `last`.  One without
a timestamp is never stale. -/
def InTime (user : UserId) (last timestampMs : Nat) : Prop :=
  user.value = "" ∨ timestampMs = 0 ∨ last ≤ timestampMs
deriving Decidable

/-- The state in which a participant event is dispatched or dropped. -/
def received (cfg : Config) (env : Env) (s : VoiceState) (event : LiveKitEvent) : VoiceState :=
  { s with
    webhookSeen := (s.markWebhookEventSeen cfg env event.eventId).2.webhookSeen
    userLastEventTsMs := (s.isStaleParticipantEvent event).2.userLastEventTsMs }

/-- Redis vouches for an earlier delivery of the event. -/
def Redelivered (env : Env) (s : VoiceState) (event : LiveKitEvent) : Prop :=
  event.eventId ≠ "" ∧ env.redis.up .setnx (webhookSeenKey event.eventId) = true ∧
    (s.webhookSeen.live env.redis.now event.eventId).isSome = true
deriving Decidable

theorem NotSeen.not_redelivered (fresh : NotSeen env s event) : ¬ Redelivered env s event := by
  rintro ⟨named, -, seen⟩
  rw [fresh.resolve_left named] at seen
  nomatch seen

theorem markWebhookEventSeen_fresh (fresh : ¬ Redelivered env s event) :
    s.markWebhookEventSeen cfg env event.eventId =
      (true, { s with
        webhookSeen := (s.markWebhookEventSeen cfg env event.eventId).2.webhookSeen }) := by
  unfold markWebhookEventSeen
  split
  · rfl
  · rename_i named
    simp only [Link.setnxex]
    split
    · rename_i up
      have unseen : s.webhookSeen.live env.redis.now event.eventId = none := by
        rw [← Option.not_isSome_iff_eq_none]
        exact fun seen => fresh ⟨named, up, seen⟩
      rw [unseen]
      dsimp only
      split <;> rfl
    · rfl

theorem markWebhookEventSeen_redelivered (redelivered : Redelivered env s event) :
    s.markWebhookEventSeen cfg env event.eventId = (false, s) := by
  obtain ⟨named, up, seen⟩ := redelivered
  obtain ⟨_, found⟩ := Option.isSome_iff_exists.mp seen
  simp [markWebhookEventSeen, named, Link.setnxex, up, found]

/-- A redelivery goes no further. -/
theorem onLivekitEvent_redelivered (redelivered : Redelivered env s event) :
    s.onLivekitEvent cfg env event = s := by
  rw [onLivekitEvent, markWebhookEventSeen_redelivered redelivered]

theorem isStaleParticipantEvent_eq :
    s.isStaleParticipantEvent event =
      (decide (¬ InTime event.userId (s.lastEventTs event.userId) event.timestampMs),
        { s with
          userLastEventTsMs := (s.isStaleParticipantEvent event).2.userLastEventTsMs }) := by
  unfold isStaleParticipantEvent
  split
  · rename_i unfiltered
    rcases unfiltered with zero | anonymous
    · simp [InTime, zero]
    · simp [InTime, anonymous]
  · rename_i filtered
    obtain ⟨timed, named⟩ := not_or.mp filtered
    refine Prod.ext ?_ rfl
    simp only [isStale, InTime, named, timed, false_or, Nat.not_le, decide_eq_decide]
    exact ⟨fun stale => stale.2, fun older => ⟨Nat.ne_of_gt (Nat.zero_lt_of_lt older), older⟩⟩

/-- A participant event is judged by the newest one heard of its user. -/
theorem isStaleEvent_participant (kind : event.type.isParticipant = true) :
    VoiceState.isStaleEvent { s with
      webhookSeen := (s.markWebhookEventSeen cfg env event.eventId).2.webhookSeen } event =
      (decide (¬ InTime event.userId (s.lastEventTs event.userId) event.timestampMs),
        s.received cfg env event) := by
  have filter : ∀ t : VoiceState, t.isStaleEvent event = t.isStaleParticipantEvent event := by
    intro t
    unfold isStaleEvent
    cases type : event.type with
    | participantJoined | participantLeft | participantConnectionAborted => rfl
    | roomStarted | roomFinished | telemetry | unknown =>
      rw [type] at kind
      exact absurd kind (by simp [LiveKitEventType.isParticipant])
  rw [filter, isStaleParticipantEvent_eq]
  simp only [received, isStaleParticipantEvent]
  split <;> rfl

/-- **What the filters let through.**  An event that was not delivered before is
dispatched unless it is older than the newest one heard of its user, and then it
only asks for a reconcile. -/
theorem onLivekitEvent_participant (kind : event.type.isParticipant = true)
    (fresh : ¬ Redelivered env s event) :
    s.onLivekitEvent cfg env event =
      if InTime event.userId (s.lastEventTs event.userId) event.timestampMs then
        (s.received cfg env event).dispatch cfg env event
      else (s.received cfg env event).onReconciler (·.request event.channelId) := by
  have judged : _ = (_, s.received cfg env event) := isStaleEvent_participant kind
  unfold onLivekitEvent
  rw [markWebhookEventSeen_fresh fresh]
  grind

/-- The second of two events is judged by the first. -/
theorem inTime_received :
    InTime event.userId ((s.received cfg env event).lastEventTs event.userId) timestampMs ↔
      InTime event.userId (max (s.lastEventTs event.userId) event.timestampMs) timestampMs := by
  by_cases anonymous : event.userId.value = ""
  · exact ⟨fun _ => .inl anonymous, fun _ => .inl anonymous⟩
  · have newest : (s.received cfg env event).lastEventTs event.userId =
        max (s.lastEventTs event.userId) event.timestampMs := by
      simp only [received, lastEventTs, isStaleParticipantEvent]
      grind
    rw [newest]

theorem notSeen_received (distinct : other.eventId ≠ event.eventId)
    (fresh : NotSeen env' s other) : NotSeen env' (s.received cfg env event) other := by
  refine fresh.imp_right fun unseen => ?_
  change (s.markWebhookEventSeen cfg env event.eventId).2.webhookSeen.live _ _ = none
  unfold markWebhookEventSeen
  split
  · exact unseen
  · simp only [Link.setnxex]
    split
    · split
      · exact unseen
      · split <;> rw [Store.live_put, if_neg distinct] <;> exact unseen
    · exact unseen

/-- What the two filters read. -/
def filters (s : VoiceState) : Store String Unit × Map UserId Nat :=
  (s.webhookSeen, s.userLastEventTsMs)

theorem filters_closeOrRotate : (s.closeOrRotate cfg env channel emptied).filters = s.filters := by
  unfold closeOrRotate
  split
  · rfl
  · have rekeys : Rekeys s (s.rotateAndBroadcast cfg env channel).2 := rotateAndBroadcast_rekeys
    obtain ⟨_, _, _, is, -⟩ := rekeys
    rw [is]
    rfl

theorem filters_handleParticipantLeft :
    (s.handleParticipantLeft cfg env event).filters = s.filters := by
  simp only [handleParticipantLeft]
  split
  · exact filters_closeOrRotate.trans rfl
  · split
    · exact filters_closeOrRotate.trans rfl
    · rfl

theorem filters_handleParticipantJoined :
    (s.handleParticipantJoined cfg env event).filters = s.filters := by
  cases correlated : s.correlatedIntent env event with
  | some intent =>
    rw [handleParticipantJoined_eq correlated]
    rfl
  | none =>
    rcases handleParticipantJoined_none cfg correlated with is | is <;> rw [is]
    · rfl
    · unfold kickUser
      split <;> rfl

end VoiceState

end Kergit
