import Kergit.HubCommands
import Kergit.StaleLeave

/-!
What losing hub access does to a user's voice access.

The voice handlers never ask about membership: `VOICE_JOIN` does, once, and from
then on the stored intent speaks for the user, and after that the seat.  So a
command that takes access away has to take the intent and the seat with it.
`Barred` is what every step keeps of a user who has neither: no join is admitted
and no key is sent.  `Watched` adds to the deployment the removals that were asked
for and not yet reported, which is when the seat may outlive the access.

- `step_barred`: a step of the voice service, for a user and a channel no join is
  stored for.
- `revoked_access_ends_voice`: in every run in which access is taken only from users
  without an intent for the channel and without a seat LiveKit was not asked to take,
  a user without access is out of voice.
-/

namespace Kergit

open Lib

open VoiceSessionManager (userChannel_eq_some)

namespace VoiceState

variable {cfg : Config} {env : Env} {s s' t : VoiceState} {event : LiveKitEvent}
  {user : UserId} {channel : ChannelId}

/-- No join of the user into the channel is stored. -/
def Unexpected (s : VoiceState) (user : UserId) (channel : ChannelId) : Prop :=
  ∀ entry, s.pendingIntents.lookup user = some entry → entry.value.toChannel ≠ channel

theorem Unexpected.inherited (unexpected : s.Unexpected user channel)
    (intents : IntentsFrom s.pendingIntents s'.pendingIntents) : s'.Unexpected user channel := by
  intro entry' stored
  obtain ⟨entry, before, same⟩ := intents user entry' stored
  rw [same.toChannel]
  exact unexpected entry before

/-- From `s` to `s'` the user was not let into the channel, and was sent its key only
if tracked there all the while. -/
structure Barred (user : UserId) (channel : ChannelId) (s s' : VoiceState) : Prop where
  unexpected : s'.Unexpected user channel
  seat : s'.sessions.userChannel user = some channel → s.sessions.userChannel user = some channel
  admissions : ∃ new, s'.admissions = new ++ s.admissions ∧
    ∀ join ∈ new, ¬ (join.user = user ∧ join.channel = channel)
  deliveries : ∃ new, s'.deliveries = new ++ s.deliveries ∧
    ∀ given ∈ new, given.user = user ∧ given.channel = channel →
      s.sessions.userChannel user = some channel

theorem Barred.trans (first : Barred user channel s t) (second : Barred user channel t s') :
    Barred user channel s s' where
  unexpected := second.unexpected
  seat := first.seat ∘ second.seat
  admissions := by
    obtain ⟨earlier, before, none'⟩ := first.admissions
    obtain ⟨later, after, none''⟩ := second.admissions
    grind
  deliveries := by
    obtain ⟨earlier, before, sent⟩ := first.deliveries
    obtain ⟨later, after, sent'⟩ := second.deliveries
    refine ⟨later ++ earlier, by rw [after, before, List.append_assoc], fun given listed mine => ?_⟩
    rcases List.mem_append.mp listed with new | old
    · exact first.seat (sent' given new mine)
    · exact sent given old mine

/-- A step whose updates are addressed by the roster it ends in. -/
theorem Becomes.barred (becomes : Becomes s s' r joins) (unexpected : s'.Unexpected user channel)
    (seat : s'.sessions.userChannel user = some channel →
      s.sessions.userChannel user = some channel)
    (refused : ∀ join ∈ joins, ¬ (join.user = user ∧ join.channel = channel)) :
    Barred user channel s s' := by
  obtain ⟨new, added, addressed⟩ := becomes.deliveries
  refine ⟨unexpected, seat, ⟨joins, becomes.admissions, refused⟩, new, added, ?_⟩
  rintro given listed ⟨rfl, rfl⟩
  obtain ⟨owner, seated, -⟩ := addressed given listed
  apply seat
  rw [becomes.sessions]
  exact userChannel_eq_some.mpr ⟨owner, seated⟩

/-- A step that keeps the seats of everybody and every stored intent. -/
theorem Becomes.barred_of_seats (becomes : Becomes s s' r [])
    (intents : s'.pendingIntents = s.pendingIntents)
    (seats : s'.sessions.userChannel user = s.sessions.userChannel user)
    (unexpected : s.Unexpected user channel) : Barred user channel s s' :=
  becomes.barred (unexpected.inherited (intents ▸ .refl _)) (fun tracked => seats ▸ tracked)
    nofun

theorem Steady.barred (steady : Steady s s') (unexpected : s.Unexpected user channel) :
    Barred user channel s s' :=
  steady.becomes.barred_of_seats steady.pendingIntents
    (congrArg (fun r : Roster => r.sessions.userChannel user) steady.roster) unexpected

theorem Quiet.barred (quiet : Quiet s s') (unexpected : s.Unexpected user channel) :
    Barred user channel s s' := quiet.steady.barred unexpected

/-! ## Moves -/

/-- A join into the channel carries the claims of a token: a session or a nonce. -/
def Claimed (event : LiveKitEvent) : Prop := event.appSessionId ≠ 0 ∨ event.intentNonce ≠ ""
deriving Decidable

/-- A join with claims is admitted only where one is expected. -/
theorem correlatedIntent_unexpected (env : Env)
    (unexpected : s.Unexpected event.userId event.channelId) (claimed : Claimed event) :
    s.correlatedIntent env event = none := by
  cases found : s.pendingIntents.read env.redis event.userId with
  | some intent =>
    obtain ⟨entry, stored, -, rfl⟩ := PendingJoinIntentStore.read_eq_some found
    have elsewhere : event.channelId ≠ entry.value.ofDoc.toChannel := by
      rw [PendingJoinIntentStore.ofDoc_toChannel]
      exact (unexpected entry stored).symm
    simp only [correlatedIntent, found]
    exact if_pos elsewhere
  | none =>
    simp only [correlatedIntent, found]
    apply if_neg
    rintro ⟨noSession, noNonce⟩
    exact claimed.elim (fun named => named noSession) fun named => named noNonce

/-- What the joins of a step are required to be for the user and the channel. -/
def ClaimedJoin (user : UserId) (channel : ChannelId) : Move → Prop
  | .joined _ event => event.userId = user ∧ event.channelId = channel → Claimed event
  | .left .. | .forced .. | .finished .. => True

theorem joined_barred (unexpected : s.Unexpected user channel)
    (claims : event.userId = user ∧ event.channelId = channel → Claimed event) :
    Barred user channel s (s.handleParticipantJoined cfg env event) := by
  cases correlated : s.correlatedIntent env event with
  | none => exact (handleParticipantJoined_rejected correlated).barred unexpected
  | some intent =>
    have admitted : Becomes s (s.handleParticipantJoined cfg env event) _ _ :=
      handleParticipantJoined_admitted correlated
    have other : ¬ (event.userId = user ∧ event.channelId = channel) := by
      rintro ⟨rfl, rfl⟩
      rw [correlatedIntent_unexpected env unexpected (claims ⟨rfl, rfl⟩)] at correlated
      nomatch correlated
    apply admitted.barred (unexpected.inherited joined_inherits.intents)
    · intro tracked
      obtain ⟨owner, seated⟩ := userChannel_eq_some.mp tracked
      rw [show (s.handleParticipantJoined cfg env event).sessions = (s.seat event intent).2 from
        admitted.sessions, voiceState_seat] at seated
      split at seated
      · rename_i mine
        obtain ⟨here, -⟩ := UserVoiceState.mk.inj (Option.some.inj seated)
        exact absurd ⟨mine.symm, here⟩ other
      · exact userChannel_eq_some.mpr ⟨owner, seated⟩
    · intro join listed
      obtain rfl := List.mem_singleton.mp listed
      exact other

/-- A departure gives nobody a seat. -/
theorem departure_barred (departs : ∀ env event, m ≠ .joined env event)
    (unexpected : s.Unexpected user channel) : Barred user channel s (s.move cfg m) := by
  apply (departure_becomes departs).barred (unexpected.inherited (move_inherits m).intents)
  · intro tracked
    obtain ⟨owner, seated⟩ := userChannel_eq_some.mp tracked
    apply userChannel_eq_some.mpr
    refine ⟨owner, ?_⟩
    cases m with
    | joined env event => exact absurd rfl (departs env event)
    | left => exact left_seats seated
    | forced => exact forced_seats seated
    | finished => exact finished_seats seated
  · exact nofun

theorem move_barred (unexpected : s.Unexpected user channel)
    (claims : ClaimedJoin user channel m) : Barred user channel s (s.move cfg m) := by
  cases m with
  | joined env event => exact joined_barred unexpected claims
  | left | forced | finished => exact departure_barred (by simp) unexpected

theorem Turns.barred (turns : Turns cfg (fun _ m => ClaimedJoin user channel m) s s')
    (unexpected : s.Unexpected user channel) : Barred user channel s s' :=
  turns.invariant (Barred user channel s)
    (fun _ _ quiet kept => kept.trans (quiet.barred kept.unexpected))
    (fun _ _ claims kept => kept.trans (move_barred kept.unexpected claims))
    ((Quiet.refl s).barred unexpected)

/-! ## Steps -/

theorem voiceJoin_barred (unexpected : s.Unexpected user channel)
    (refused : ∀ sessionId, s.authorizeJoin env request = .ok (user, sessionId) →
      request.channel ≠ channel) : Barred user channel s (s.voiceJoin cfg env request) := by
  rcases voiceJoin_cases cfg env s request with quiet | ⟨asker, sid, start, allowed, quiet, outcome⟩
  · exact quiet.barred unexpected
  have acquired : Steady s (start.acquiredKey cfg env request.channel asker).2 :=
    quiet.steady.trans acquiredKey_steady
  rcases outcome with refusal | ⟨key, -, issued⟩
  · exact (acquired.trans refusal.steady).barred unexpected
  · have other : ¬ (asker = user ∧ request.channel = channel) := by
      rintro ⟨rfl, here⟩
      exact refused sid allowed here
    have kept := acquired.barred unexpected
    refine ⟨?_, ?_, ⟨[], issued.admissions, nofun⟩, ?_⟩
    · intro entry stored
      rcases issued.lookup stored with before | ⟨rfl, _, _, rfl⟩
      · exact unexpected entry before
      · exact fun here => other ⟨rfl, here⟩
    · rw [voiceJoin_seats.1]
      exact id
    · obtain ⟨new, added, sent⟩ := kept.deliveries
      refine ⟨_ :: new, by rw [issued.deliveries, added]; rfl, fun given listed mine => ?_⟩
      grind

/-- **A step of the voice service bars who is not expected.**  It is not a restart, it
authorises no `VOICE_JOIN` of the user into the channel, and every join of the two
carries the claims of a token. -/
theorem step_barred (stays : ∀ env, action ≠ .restart env)
    (refused : ∀ env request sessionId, action = .voiceJoin env request →
      s.authorizeJoin env request = .ok (user, sessionId) → request.channel ≠ channel)
    (claims : ∀ found ∈ s.movesOf cfg action, ClaimedJoin user channel found.2)
    (unexpected : s.Unexpected user channel) : Barred user channel s (s.step cfg action) := by
  cases action with
  | authenticate env conn who resume =>
    rcases authenticate_cases cfg env s conn who resume with quiet | ⟨-, _, _, opened⟩
    · exact quiet.barred unexpected
    · apply opened.becomes.barred_of_seats _ _ unexpected
      · exact opened.becomes.pendingIntents
      · have sessions : (s.authenticate cfg env conn who resume).sessions = _ :=
          opened.becomes.sessions
        rw [sessions]
        exact opened.handed.userChannel user
  | disconnect conn =>
    rcases disconnect_cases s conn with same | quiet
    · rw [step, same]
      exact (Quiet.refl s).barred unexpected
    · have kept := quiet.barred unexpected
      exact ⟨kept.unexpected, kept.seat, kept.admissions, kept.deliveries⟩
  | voiceJoin env request => exact voiceJoin_barred unexpected fun sid => refused env request sid rfl
  | webhook env event => exact Turns.barred (webhook_turns claims) unexpected
  | reconcile env userEnv where' reason => exact Turns.barred (reconcile_turns claims) unexpected
  | restart env => exact absurd rfl (stays env)

/-- **The leave of somebody no join is expected of is applied**, if it is in time and
comes from the session that owns the seat. -/
theorem leave_unseats (unexpected : s.Unexpected event.userId event.channelId)
    (leave : event.type = .participantLeft ∨ event.type = .participantConnectionAborted)
    (fresh : ¬ Redelivered env s event)
    (timely : InTime event.userId (s.lastEventTs event.userId) event.timestampMs)
    (owner : s.FromOwner event) :
    (s.step cfg (.webhook env event)).sessions.userChannel event.userId ≠ some event.channelId := by
  have kind : event.type.isParticipant = true := by
    rcases leave with type | type <;> rw [type] <;> rfl
  have handled : (s.step cfg (.webhook env event)).sessions =
      ((s.received cfg env event).handleParticipantLeft cfg env event).sessions := by
    rw [step, onLivekitEvent_participant kind fresh, if_pos timely, dispatch]
    rcases leave with type | type <;> rw [type] <;> rfl
  rw [handled]
  intro tracked
  obtain ⟨session, seated⟩ := userChannel_eq_some.mp tracked
  have before : (s.received cfg env event).sessions.userChannel event.userId = some event.channelId :=
    userChannel_eq_some.mpr ⟨session, left_seats seated⟩
  -- No join of this channel is pending, so the nonce is not held against the leave.
  have matching : nonceMismatchToPending event
      (s.pendingIntents.read env.redis event.userId) = false := by
    cases found : s.pendingIntents.read env.redis event.userId with
    | none => rfl
    | some intent =>
      obtain ⟨entry, stored, -, rfl⟩ := PendingJoinIntentStore.read_eq_some found
      apply decide_eq_false
      rintro ⟨here, -⟩
      exact unexpected entry stored (PendingJoinIntentStore.ofDoc_toChannel.symm.trans here)
  have applies : (s.received cfg env event).appliesLeave env event = true := by
    simp [appliesLeave, leavingCurrentVoice]
    exact ⟨⟨before, decide_eq_true owner⟩, matching⟩
  have left : ((s.received cfg env event).handleParticipantLeft cfg env event).sessions =
      ((s.received cfg env event).sessions.leave event.channelId event.userId).2 :=
    (handleParticipantLeft_applied (.inl applies)).sessions
  rw [left, VoiceSessionManager.userChannel_leave, if_pos ⟨rfl, before⟩] at tracked
  cases tracked

end VoiceState

/-! ## The deployment, watched -/

/-- A deployment, and the removals a hub kick had LiveKit make whose leave is still to
be processed. -/
structure Watched where
  state : HubState
  expelled : List (UserId × ChannelId) := []

/-- A join that carries no claims is of a user with access. -/
def HubRepository.Admissible (hubs : HubRepository) : Move → Prop
  | .joined _ event =>
    VoiceState.Claimed event ∨ hubs.access event.userId event.channelId = true
  | .left .. | .forced .. | .finished .. => True

instance (hubs : HubRepository) : (m : Move) → Decidable (hubs.Admissible m)
  | .joined .. | .left .. | .forced .. | .finished .. => by
    unfold HubRepository.Admissible
    infer_instance

/-- The process is replaced. -/
def HubAction.restarts : HubAction → Bool
  | .voice (.restart _) => true
  | _ => false

namespace HubState

/-- The removal a hub kick has LiveKit make: the target is tracked in the hub, a node
is there to ask, and LiveKit does it. -/
def expels (s : HubState) : HubAction → Option (UserId × ChannelId)
  | .kickHubMember env conn hub target =>
    match s.authorizeKick conn hub target, s.seatInHub hub target, s.voice.anyNode.1 with
    | .ok (), some channel, some node =>
      if env.voice.removeParticipant node.privateHost channel target then some (target, channel)
      else none
    | _, _, _ => none
  | _ => none

/-- The leave an action brings, unless it is a redelivery. -/
def leaveOf (s : HubState) : HubAction → Option LiveKitEvent
  | .voice (.webhook env event) =>
    if (event.type = .participantLeft ∨ event.type = .participantConnectionAborted) ∧
        ¬ VoiceState.Redelivered env s.voice event then some event
    else none
  | _ => none

/-- The moves an action makes in the voice service. -/
def movesOf (cfg : Config) (s : HubState) : HubAction → List (VoiceState × Move)
  | .voice action => s.voice.movesOf cfg (action.within s.hubs)
  | _ => []

/-- The action takes the user's access to the channel away. -/
def Revokes (cfg : Config) (s : HubState) (action : HubAction) (user : UserId)
    (channel : ChannelId) : Prop :=
  s.hubs.access user channel = true ∧ (s.step cfg action).hubs.access user channel = false

variable {cfg : Config} {s : HubState} {env : HubEnv} {conn : GlobalConnId} {hub : HubId}
  {user target : UserId} {channel : ChannelId}

theorem refuse_quiet : VoiceState.Quiet s.voice (s.refuse conn refusal).voice :=
  VoiceState.emit_quiet VoiceState.refusal_plain

theorem leaveHub_quiet : VoiceState.Quiet s.voice (s.leaveHub env conn hub).voice := by
  unfold leaveHub
  split
  · exact refuse_quiet
  · split
    · exact refuse_quiet
    · exact refuse_quiet
    · exact .refl _

/-- A kick removes the target, or nobody. -/
theorem kickHubMember_spec :
    VoiceState.Quiet s.voice (s.kickHubMember env conn hub target).voice ∧
      ((s.kickHubMember env conn hub target).hubs = s.hubs ∨
        (s.kickHubMember env conn hub target).hubs = s.hubs.removeMember hub target) := by
  have kicked : VoiceState.Quiet s.voice (s.kickFromVoice env hub target).2.voice ∧
      (s.kickFromVoice env hub target).2.hubs = s.hubs := by
    unfold kickFromVoice
    split
    · exact ⟨.refl _, rfl⟩
    · exact ⟨VoiceState.verifiedKickUser_quiet _ _ _ _, rfl⟩
  unfold kickHubMember
  split
  · exact ⟨refuse_quiet, .inl rfl⟩
  · rcases result : s.kickFromVoice env hub target with ⟨removed, t⟩
    rw [result] at kicked
    obtain ⟨quiet, kept⟩ := kicked
    cases removed with
    | false => exact ⟨quiet.trans refuse_quiet, .inl kept⟩
    | true =>
      dsimp only at kept ⊢
      split
      · exact ⟨quiet.trans refuse_quiet, .inl kept⟩
      · exact ⟨quiet.trans refuse_quiet, .inl kept⟩
      · exact ⟨quiet, .inr (by rw [kept])⟩

theorem deleteHub_quiet : VoiceState.Quiet s.voice (s.deleteHub env conn hub).voice := by
  unfold deleteHub
  split
  · exact refuse_quiet
  · split
    · exact .refl _
    · exact refuse_quiet
    · split
      · exact refuse_quiet
      · split
        · exact .refl _
        · exact refuse_quiet

theorem removeChannel_quiet :
    VoiceState.Quiet s.voice (s.removeChannel env conn hub channel).voice := by
  unfold removeChannel
  split
  · exact refuse_quiet
  · split
    · exact .refl _
    · exact .refl _
    · split
      · exact refuse_quiet
      · exact .refl _

theorem kickVoiceParticipant_quiet :
    VoiceState.Quiet s.voice (s.kickVoiceParticipant env conn hub channel target).voice := by
  have kicked : VoiceState.Quiet s.voice (s.voice.verifiedKickUser env.voice channel target).2 :=
    VoiceState.verifiedKickUser_quiet _ _ _ _
  unfold kickVoiceParticipant
  split
  · exact refuse_quiet
  · split
    · rename_i voice failed
      rw [failed] at kicked
      exact kicked.trans (refuse_quiet (s := { s with voice }))
    · rename_i voice done
      rw [done] at kicked
      exact kicked

/-- **No hub command touches voice**: not the seats, not the stored joins. -/
theorem command_quiet (command : ∀ voice, action ≠ .voice voice) :
    VoiceState.Quiet s.voice (s.step cfg action).voice := by
  cases action with
  | voice action => exact absurd rfl (command action)
  | leaveHub => exact leaveHub_quiet
  | kickHubMember => exact kickHubMember_spec.1
  | deleteHub => exact deleteHub_quiet
  | removeChannel => exact removeChannel_quiet
  | kickVoiceParticipant => exact kickVoiceParticipant_quiet
  | createHub | createChannel | addMember => exact .refl _

end HubState

namespace Watched

/-- The deployment's step; a kick adds the removal it causes, and a leave of the user
from the channel answers it. -/
def step (cfg : Config) (w : Watched) (action : HubAction) : Watched where
  state := w.state.step cfg action
  expelled :=
    (w.state.expels action).toList ++ w.expelled.filter fun removal =>
      decide ((w.state.leaveOf action).map (fun event => (event.userId, event.channelId)) ≠
        some removal)

/-- A fresh process over the hubs there are. -/
def initial (hubs : HubRepository) (limit missingTtl : Nat) (nodes : List LivekitNode) : Watched where
  state := .initial hubs limit missingTtl nodes

/-- What keeps voice in line with hub access, action by action. -/
structure CleanlyRevokes (cfg : Config) (w : Watched) (action : HubAction) : Prop where
  /-- The process stays. -/
  stays : action.restarts = false
  /-- Access is taken only from users without a stored join, and from tracked ones only
  if LiveKit is removing them. -/
  revokes : ∀ user channel, w.state.Revokes cfg action user channel →
    w.state.voice.Unexpected user channel ∧
      (w.state.voice.sessions.userChannel user = some channel →
        (user, channel) ∈ w.expelled ∨ w.state.expels action = some (user, channel))
  /-- A join without claims is of a user with access. -/
  claims : ∀ found ∈ w.state.movesOf cfg action, w.state.hubs.Admissible found.2
  /-- The leave that answers a removal is in time and of the session that owns the seat. -/
  leaves : ∀ event ∈ w.state.leaveOf action, (event.userId, event.channelId) ∈ w.expelled →
      VoiceState.InTime event.userId (w.state.voice.lastEventTs event.userId) event.timestampMs ∧
        w.state.voice.FromOwner event

/-- Whoever has no access has no stored join, and a seat only while LiveKit is
removing them. -/
def Shut (w : Watched) : Prop :=
  ∀ user channel, w.state.hubs.access user channel = false →
    w.state.voice.Unexpected user channel ∧
      (w.state.voice.sessions.userChannel user = some channel → (user, channel) ∈ w.expelled)

variable {cfg : Config} {w : Watched} {action : HubAction} {user : UserId} {channel : ChannelId}

section

variable (clean : CleanlyRevokes cfg w action)

include clean

/-- A step bars whoever has no access and no stored join. -/
theorem step_barred (denied : w.state.hubs.access user channel = false)
    (unexpected : w.state.voice.Unexpected user channel) :
    VoiceState.Barred user channel w.state.voice (w.step cfg action).state.voice := by
  cases action with
  | voice action =>
    apply VoiceState.step_barred _ _ _ unexpected
    · intro env restarts
      cases action with
      | restart env => exact absurd clean.stays (by simp [HubAction.restarts])
      | authenticate | disconnect | voiceJoin | webhook | reconcile =>
        exact absurd restarts (by simp [Action.within])
    · intro env request sessionId asks allowed here
      cases action with
      | voiceJoin outside request' =>
        obtain ⟨rfl, rfl⟩ := Action.voiceJoin.inj asks
        have granted := HubRepository.access_eq_true.mpr (VoiceState.authorizeJoin_ok allowed).2.2
        rw [here, denied] at granted
        nomatch granted
      | authenticate | disconnect | webhook | reconcile | restart =>
        exact absurd asks (by simp [Action.within])
    · intro found listed
      cases joined : found.2 with
      | joined env event =>
        rintro ⟨rfl, rfl⟩
        have admissible : w.state.hubs.Admissible (.joined env event) :=
          joined ▸ clean.claims found listed
        exact admissible.resolve_right fun granted => nomatch (denied.symm.trans granted)
      | left | forced | finished => trivial
  | leaveHub | kickHubMember | deleteHub | removeChannel | kickVoiceParticipant | createHub
  | createChannel | addMember => exact (HubState.command_quiet (by simp)).barred unexpected

/-- A leave that answers a removal takes the seat. -/
theorem answered_unseats (unexpected : w.state.voice.Unexpected user channel)
    (leave : w.state.leaveOf action = some event)
    (answers : (event.userId, event.channelId) = (user, channel))
    (removing : (user, channel) ∈ w.expelled) :
    (w.step cfg action).state.voice.sessions.userChannel user ≠ some channel := by
  obtain ⟨rfl, rfl⟩ := Prod.mk.inj answers
  obtain ⟨timely, owner⟩ := clean.leaves event leave removing
  unfold HubState.leaveOf at leave
  split at leave
  · split at leave
    · rename_i applies
      obtain rfl := Option.some.inj leave
      exact VoiceState.leave_unseats unexpected applies.1 applies.2 timely owner
    · nomatch leave
  · nomatch leave

theorem step_shut (shut : w.Shut) : (w.step cfg action).Shut := by
  intro user channel denied'
  cases denied : w.state.hubs.access user channel with
  | false =>
    obtain ⟨unexpected, tracked⟩ := shut user channel denied
    have barred := step_barred clean denied unexpected
    refine ⟨barred.unexpected, fun tracked' => List.mem_append_right _ ?_⟩
    have removing := tracked (barred.seat tracked')
    apply List.mem_filter.mpr
    refine ⟨removing, decide_eq_true fun answered => ?_⟩
    obtain ⟨event, leave, answers⟩ := Option.map_eq_some_iff.mp answered
    exact answered_unseats clean unexpected leave answers removing tracked'
  | true =>
    -- Access is taken by this action, so it is a command and leaves voice alone.
    obtain ⟨unexpected, tracked⟩ := clean.revokes user channel ⟨denied, denied'⟩
    have command : ∀ voice, action ≠ .voice voice := by
      rintro voice rfl
      nomatch denied.symm.trans denied'
    have quiet : VoiceState.Quiet w.state.voice (w.step cfg action).state.voice :=
      HubState.command_quiet command
    have barred := quiet.barred unexpected
    refine ⟨barred.unexpected, fun tracked' => ?_⟩
    rcases tracked (barred.seat tracked') with removing | removed
    · apply List.mem_append_right
      apply List.mem_filter.mpr
      refine ⟨removing, decide_eq_true fun answered => ?_⟩
      obtain ⟨event, leave, -⟩ := Option.map_eq_some_iff.mp answered
      cases action with
      | voice action => exact command action rfl
      | leaveHub | kickHubMember | deleteHub | removeChannel | kickVoiceParticipant | createHub
      | createChannel | addMember => exact absurd leave (by simp [HubState.leaveOf])
    · apply List.mem_append_left
      rw [removed]
      exact List.mem_singleton_self _

end

theorem shut_initial (hubs : HubRepository) (limit missingTtl : Nat) (nodes : List LivekitNode) :
    (initial hubs limit missingTtl nodes).Shut :=
  fun _ _ _ =>
    ⟨fun _ stored => absurd stored (by simp [initial, HubState.initial, VoiceState.initial]),
      fun tracked => absurd tracked (by
        simp [initial, HubState.initial, VoiceState.initial, VoiceSessionManager.userChannel])⟩

/-- **Losing hub access ends voice access.**  In every run whose actions revoke cleanly,
a user who has no access to a channel, with every removal reported, is not tracked in
the channel, and the next action neither admits the user nor sends the user its key. -/
theorem revoked_access_ends_voice (cfg : Config) (hubs : HubRepository) (limit missingTtl : Nat)
    (nodes : List LivekitNode) (actions : List HubAction) (next : HubAction) (w : Watched)
    (reached : w = run (step cfg) (initial hubs limit missingTtl nodes) actions)
    (clean : Staged (step cfg) (CleanlyRevokes cfg) (initial hubs limit missingTtl nodes)
      (actions ++ [next]))
    (user : UserId) (channel : ChannelId) (denied : w.state.hubs.access user channel = false)
    (settled : (user, channel) ∉ w.expelled) :
    w.state.voice.sessions.userChannel user ≠ some channel ∧
      (∃ new, (w.state.step cfg next).voice.admissions = new ++ w.state.voice.admissions ∧
        ∀ join ∈ new, ¬ (join.user = user ∧ join.channel = channel)) ∧
      ∃ new, (w.state.step cfg next).voice.deliveries = new ++ w.state.voice.deliveries ∧
        ∀ given ∈ new, ¬ (given.user = user ∧ given.channel = channel) := by
  obtain ⟨before, last⟩ := staged_concat.mp clean
  have shut : (run (step cfg) (initial hubs limit missingTtl nodes) actions).Shut :=
    before.invariant Shut (fun _ _ shut clean => step_shut clean shut)
      (shut_initial hubs limit missingTtl nodes)
  rw [← reached] at shut last
  obtain ⟨unexpected, tracked⟩ := shut user channel denied
  have away : w.state.voice.sessions.userChannel user ≠ some channel :=
    fun here => settled (tracked here)
  have barred := step_barred last denied unexpected
  refine ⟨away, barred.admissions, ?_⟩
  obtain ⟨new, added, sent⟩ := barred.deliveries
  exact ⟨new, added, fun given listed mine => away (sent given listed mine)⟩

/-- A voice action takes access from nobody. -/
theorem CleanlyRevokes.of_voice {action : Action} (stays : HubAction.restarts (.voice action) = false)
    (claims : ∀ found ∈ w.state.movesOf cfg (.voice action), w.state.hubs.Admissible found.2)
    (leaves : ∀ event ∈ w.state.leaveOf (.voice action),
      (event.userId, event.channelId) ∈ w.expelled →
        VoiceState.InTime event.userId (w.state.voice.lastEventTs event.userId) event.timestampMs ∧
          w.state.voice.FromOwner event) :
    CleanlyRevokes cfg w (.voice action) where
  stays := stays
  revokes := fun _ _ taken => nomatch (taken.1.symm.trans taken.2)
  claims := claims
  leaves := leaves

end Watched

/-! ## Ada is kicked, or leaves -/

namespace ShutOut

open Sample

/-- Bob's hub with the lounge, and Ada a member. -/
def hubs : HubRepository :=
  ((((HubRepository.empty.createHub hub bob).bind (·.addMember hub ada .user)).bind
    (·.createChannel { id := lounge, hubId := hub, type := .voice }))).getD .empty

/-- Ada lands in the lounge; Bob is signed in. -/
def adaInTheLounge : List HubAction := adaAhead.map .voice

def seated : Watched := run (Watched.step cfg) (Watched.initial hubs 0 30 nodes) adaInTheLounge

/-- Bob kicks her from the hub. -/
def kick : HubAction := .kickHubMember { voice := env 2 } (connOf bob) hub ada

/-- LiveKit reports her leave, and then her token is shown again. -/
def leaves : HubAction := .voice (gone (env 3) ada lounge 1 "n")
def returns : HubAction := .voice (landed (env 4) ada lounge 1 "n")

/-- Her join is settled, and LiveKit takes her out of the only channel she is in. -/
theorem kick_cleanly : Watched.CleanlyRevokes cfg seated kick := by
  refine ⟨rfl, fun user channel taken => ?_, by decide, by decide⟩
  have target : user = ada := by
    by_contra other
    have same : (seated.state.step cfg kick).hubs.access user channel =
        seated.state.hubs.access user channel := by
      rcases (HubState.kickHubMember_spec (s := seated.state)).2 with kept | removed
      · exact congrArg (fun hubs => HubRepository.access hubs user channel) kept
      · exact (congrArg (fun hubs => HubRepository.access hubs user channel) removed).trans
          (HubRepository.access_removeMember_of_ne other)
    nomatch taken.1.symm.trans (same.symm.trans taken.2)
  subst target
  have unasked : seated.state.voice.pendingIntents.lookup ada = none := by decide
  refine ⟨fun entry stored => absurd (unasked.symm.trans stored) (by simp), fun tracked => ?_⟩
  have here : seated.state.voice.sessions.userChannel ada = some lounge := by decide
  obtain rfl := Option.some.inj (here.symm.trans tracked)
  exact .inr (by decide)

theorem kicked_cleanly :
    Staged (Watched.step cfg) (Watched.CleanlyRevokes cfg) (Watched.initial hubs 0 30 nodes)
      (adaInTheLounge ++ [kick, leaves] ++ [returns]) :=
  ⟨.of_voice rfl (by decide) (by decide), .of_voice rfl (by decide) (by decide),
    .of_voice rfl (by decide) (by decide), .of_voice rfl (by decide) (by decide), kick_cleanly,
    .of_voice rfl (by decide) (by decide), .of_voice rfl (by decide) (by decide), trivial⟩

/-- Kicked and reported gone, Ada is out, and her old token does not let her in. -/
theorem revoked_access_ends_voice_kicked :
    (run (Watched.step cfg) (Watched.initial hubs 0 30 nodes)
      (adaInTheLounge ++ [kick, leaves])).state.voice.sessions.userChannel ada ≠ some lounge :=
  (Watched.revoked_access_ends_voice cfg hubs 0 30 nodes (adaInTheLounge ++ [kick, leaves]) returns _
    rfl kicked_cleanly ada lounge (by decide) (by decide)).1

/-- Ada leaves the hub herself, and Bob asks for the lounge. -/
def leavesHub : HubAction := .leaveHub { voice := env 2 } (connOf ada) hub
def bobAsks : HubAction := .voice (ask (env 3) bob lounge)

/-- **Ada has left the hub and gets the lounge's next key.**  `HUB_LEAVE` does not look
at voice: she stays tracked, and the rotation for Bob sends her an update. -/
theorem left_member_gets_the_key :
    seated.state.hubs.access ada lounge = true ∧
      (run (HubState.step cfg) seated.state [leavesHub]).hubs.access ada lounge = false ∧
      (run (HubState.step cfg) seated.state [leavesHub]).voice.sessions.userChannel ada =
        some lounge ∧
      ∃ given ∈ (run (HubState.step cfg) seated.state [leavesHub, bobAsks]).voice.deliveries,
        given ∉ (run (HubState.step cfg) seated.state [leavesHub]).voice.deliveries ∧
          given.user = ada ∧ given.channel = lounge ∧ given.inToken = false := by
  decide

end ShutOut

end Kergit
