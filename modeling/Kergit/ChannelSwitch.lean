import Kergit.ChannelKeyLedger
import Kergit.WebhookFilters

/-!
A switch between two voice channels, as LiveKit's two events bring it about.

A user tracked in one channel who is issued a token for another leaves the first
and lands in the second, and the two webhooks about it arrive in either order.
The stored intent carries a flag for each, so that whichever comes second settles
it.  Of the two filters an event passes first, the second drops whatever is older
than the newest event heard of the same user.

- `left_relocks`, `joined_lands`: each half of a switch, from the state it finds.
- `switch_settles_in_time`: both halves, in either order.
-/

namespace Kergit

open Lib

open VoiceSessionManager (userChannel_eq_some userChannel_leave)

namespace LivekitNodeRegistry

variable {r : LivekitNodeRegistry} {nodeId : String} {room c : ChannelId}

theorem roomToNode_modifyNode (change : LivekitNode → LivekitNode) :
    (r.modifyNode nodeId change).roomToNode = r.roomToNode := by
  unfold modifyNode
  split <;> rfl

theorem roomToNode_nextNode (attempts : Nat) :
    (nextNode attempts r).2.roomToNode = r.roomToNode := by
  induction attempts generalizing r with
  | zero => rfl
  | succ attempts ih =>
    simp only [nextNode]
    split
    · rfl
    · exact ih

theorem lookup_bindRoom (other : c ≠ room) :
    (r.bindRoom room nodeId).roomToNode.lookup c = r.roomToNode.lookup c := by
  simp only [bindRoom]
  split
  · rfl
  · rw [Map.lookup_insert_if, if_neg other]
    split
    · rfl
    · split
      · rfl
      · simp only [roomToNode_modifyNode]

end LivekitNodeRegistry

namespace VoiceState

variable {cfg : Config} {env : Env} {s s' t : VoiceState} {event : LiveKitEvent}
  {intent doc : PendingJoinIntent} {channel c : ChannelId} {user v : UserId} {deadline : Nat}

/-! ## What is kept of a room -/

/-- A room's key, its start and the node it is bound to. -/
structure Room where
  key : Option ChannelKey
  startedAt : Option Nat
  node : Option String
deriving DecidableEq, Repr

def room (s : VoiceState) (channel : ChannelId) : Room where
  key := s.keys.getKey channel
  startedAt := s.channelStartedAtUnix.lookup channel
  node := s.nodes.roomToNode.lookup channel

/-- The room is forgotten if nobody is in it, and has a key drawn no earlier than
`draws` if somebody is. -/
def Relocked (cfg : Config) (draws : Nat) (s : VoiceState) (channel : ChannelId) : Prop :=
  (s.sessions.isEmpty channel = true → s.room channel = ⟨none, none, none⟩) ∧
    (s.sessions.isEmpty channel = false →
      ∃ key n, (s.room channel).key = some key ∧ draws ≤ n ∧ cfg.generateKey n = some key.key)

theorem Relocked.congr {draws : Nat} (locked : Relocked cfg draws s channel)
    (members : s'.sessions.isEmpty channel = s.sessions.isEmpty channel)
    (same : s'.room channel = s.room channel) : Relocked cfg draws s' channel := by
  unfold Relocked
  rw [members, same]
  exact locked

theorem closeOrRotate_relocks (rng : cfg.DrawsKeys) :
    Relocked cfg s.keyDraws (s.closeOrRotate cfg env channel (s.sessions.isEmpty channel)) channel := by
  cases empty : s.sessions.isEmpty channel with
  | true =>
    refine ⟨fun _ => ?_, fun occupied => ?_⟩
    · simp [closeOrRotate, room, onChannelEmpty, LivekitNodeRegistry.clearRoom,
        getKey_clearChannel]
    · have : s.sessions.isEmpty channel = false := occupied
      rw [empty] at this
      nomatch this
  | false =>
    have drew : Drew cfg s (s.rotateAndBroadcast cfg env channel).2 channel
        (s.rotateAndBroadcast cfg env channel).1 := rotateAndBroadcast_drew rng channel
    have steady : Steady s (s.rotateAndBroadcast cfg env channel).2 :=
      rotateAndBroadcast_rekeys.steady
    refine ⟨fun emptied => ?_, fun _ => ?_⟩
    · rw [show s.closeOrRotate cfg env channel false = (s.rotateAndBroadcast cfg env channel).2 from
        rfl, steady.sessions, empty] at emptied
      nomatch emptied
    · exact ⟨_, s.keyDraws, drew.here, Nat.le_refl _, drew.drawn⟩

theorem room_onReconciler (change : VoiceReconciler → VoiceReconciler) :
    (s.onReconciler change).room c = s.room c := rfl

/-- A join leaves the other rooms as they are. -/
theorem room_handleParticipantJoined (other : c ≠ event.channelId) :
    (s.handleParticipantJoined cfg env event).room c = s.room c := by
  cases correlated : s.correlatedIntent env event with
  | some intent =>
    have keys : (s.handleParticipantJoined cfg env event).keys = s.keys := handleParticipantJoined_keys
    have started : (s.handleParticipantJoined cfg env event).channelStartedAtUnix.lookup c =
        s.channelStartedAtUnix.lookup c := by
      rw [handleParticipantJoined_eq correlated]
      change (if _ then _ else _ : Map ChannelId Nat).lookup c = _
      split
      · rw [Map.lookup_insert_if, if_neg other]
        rfl
      · rfl
    have nodes : (s.handleParticipantJoined cfg env event).nodes = s.nodes := by
      rw [handleParticipantJoined_eq correlated]
      rfl
    simp only [room, keys, started, nodes]
  | none =>
    have asked : ∀ t : VoiceState, t.anyNode.2.nodes.roomToNode = t.nodes.roomToNode :=
      fun t => LivekitNodeRegistry.roomToNode_nextNode _
    rcases handleParticipantJoined_none cfg correlated with is | is <;> rw [is]
    · rfl
    · unfold kickUser
      split
      · simp only [room, asked]
        rfl
      · simp only [room, emit, asked]
        rfl

/-! ## The two halves of a switch -/

/-- The stored intent moves its user to another channel until `deadline`. -/
structure Awaits (s : VoiceState) (user : UserId) (doc : PendingJoinIntent) (deadline : Nat) :
    Prop where
  stored : s.pendingIntents.lookup user = some ⟨doc, some deadline⟩
  hasFrom : doc.hasFromChannel = true
  differs : doc.fromChannel ≠ doc.toChannel
  nonce : doc.intentNonce ≠ ""

/-- LiveKit reports that the user left the old channel, by whatever connection. -/
structure IsOldLeave (user : UserId) (doc : PendingJoinIntent) (event : LiveKitEvent) : Prop where
  type : event.type = .participantLeft ∨ event.type = .participantConnectionAborted
  userId : event.userId = user
  channelId : event.channelId = doc.fromChannel

/-- LiveKit reports that the holder of the token landed. -/
structure IsNewJoin (user : UserId) (doc : PendingJoinIntent) (event : LiveKitEvent) : Prop where
  type : event.type = .participantJoined
  userId : event.userId = user
  channelId : event.channelId = doc.toChannel
  appSessionId : event.appSessionId = doc.sessionId
  intentNonce : event.intentNonce = doc.intentNonce

theorem ofDoc_of_hasFrom (hasFrom : doc.hasFromChannel = true) : doc.ofDoc = doc := by
  obtain ⟨sessionId, intentNonce, toChannel, ⟨origin⟩, hasFromChannel⟩ := doc
  unfold PendingJoinIntent.ofDoc
  grind

section

variable (awaits : s.Awaits user doc deadline)

include awaits

theorem Awaits.read (up : env.redis.Up) :
    s.pendingIntents.read env.redis user = if env.redis.now < deadline then some doc else none := by
  simp [PendingJoinIntentStore.read, Link.get_up up, Store.live, awaits.stored, Entry.alive]
  split
  · exact congrArg some (ofDoc_of_hasFrom awaits.hasFrom)
  · rfl

/-- The filters do not touch the intent. -/
theorem Awaits.received (cfg : Config) (env : Env) (event : LiveKitEvent) :
    (s.received cfg env event).Awaits user doc deadline :=
  ⟨awaits.stored, awaits.hasFrom, awaits.differs, awaits.nonce⟩

theorem Awaits.isSwitch : doc.isSwitch = true := by
  simp [PendingJoinIntent.isSwitch, awaits.hasFrom, awaits.differs]

theorem Awaits.apart (landed : t.sessions.userChannel user = some doc.toChannel) :
    t.sessions.userChannel user ≠ some doc.fromChannel := by
  rw [landed]
  exact fun same => awaits.differs (Option.some.inj same).symm

/-- Rewriting the intent keeps its deadline. -/
theorem Awaits.update (up : env.redis.Up) (alive : env.redis.now < deadline)
    {noted : PendingJoinIntent} (hasFrom : noted.hasFromChannel = true) :
    (s.pendingIntents.update env.redis user noted).2 =
      s.pendingIntents.put user noted (some deadline) := by
  have left : env.redis.ttl pendingJoinKey s.pendingIntents user = some (deadline - env.redis.now) := by
    simp [Link.ttl_up up, Store.lifetime, awaits.stored, alive]
  have same : noted.toDoc = noted := by
    simp only [PendingJoinIntent.toDoc, if_pos hasFrom]
  have positive : deadline - env.redis.now ≠ 0 := by omega
  simp [PendingJoinIntentStore.update, left, positive, Link.setex_up up]
  congr 2
  omega

theorem Awaits.switchOf (up : env.redis.Up) (left : IsOldLeave user doc event) :
    s.switchOf env event = if env.redis.now < deadline then some doc else none := by
  simp only [VoiceState.switchOf, oldLeaveForSwitch, left.userId, awaits.read up]
  split
  · simp [awaits.isSwitch, left.channelId]
  · rfl

theorem Awaits.correlatedIntent (up : env.redis.Up) (joined : IsNewJoin user doc event) :
    s.correlatedIntent env event = if env.redis.now < deadline then some doc else none := by
  have named : event.intentNonce ≠ "" := joined.intentNonce ▸ awaits.nonce
  simp only [VoiceState.correlatedIntent, joined.userId, awaits.read up]
  split
  · rename_i found
    split at found
    · obtain rfl := Option.some.inj found
      rename_i alive
      simp [joined.channelId, joined.appSessionId, joined.intentNonce, awaits.nonce, alive]
    · cases found
  · grind

end

theorem isEmpty_congr {m m' : VoiceSessionManager}
    (same : ∀ v, m'.userChannel v = some channel ↔ m.userChannel v = some channel) :
    m'.isEmpty channel = m.isEmpty channel := by
  rw [Bool.eq_iff_iff, VoiceSessionManager.isEmpty_iff, VoiceSessionManager.isEmpty_iff]
  exact forall_congr' fun v => not_congr (same v)

/-- The old leave of a live switch closes or rekeys the channel, whoever is tracked
where. -/
theorem handleParticipantLeft_relocks (rng : cfg.DrawsKeys)
    (switch : (s.switchOf env event).isSome = true) :
    Relocked cfg s.keyDraws (s.handleParticipantLeft cfg env event) event.channelId := by
  obtain ⟨t, quiet, is⟩ := handleParticipantLeft_departs cfg (.inr switch)
  rw [is, show s.keyDraws = _ from quiet.keyDraws.symm]
  exact closeOrRotate_relocks rng

theorem IsOldLeave.isParticipant (left : IsOldLeave user doc event) :
    event.type.isParticipant = true := by
  rcases left.type with type | type <;> rw [type] <;> rfl

theorem IsNewJoin.isParticipant (joined : IsNewJoin user doc event) :
    event.type.isParticipant = true := by
  rw [joined.type]
  rfl

theorem IsOldLeave.dispatch (left : IsOldLeave user doc event) :
    s.dispatch cfg env event = s.onParticipantLeft cfg env event := by
  unfold VoiceState.dispatch
  rcases left.type with type | type <;> rw [type]

theorem IsNewJoin.dispatch (joined : IsNewJoin user doc event) :
    s.dispatch cfg env event = s.onParticipantJoined cfg env event := by
  unfold VoiceState.dispatch
  rw [joined.type]

/-- The gauges of the nodes say nothing about a room. -/
theorem room_counted [Decidable counts] (change : LivekitNode → LivekitNode) :
    VoiceState.room { s with nodes := if counts then s.nodes.modifyNode nodeId change else s.nodes } c =
      s.room c := by
  split
  · simp only [room, LivekitNodeRegistry.roomToNode_modifyNode]
  · rfl

theorem room_onParticipantLeft : (s.onParticipantLeft cfg env event).room c =
    (s.handleParticipantLeft cfg env event).room c := by
  simp only [onParticipantLeft, room_onReconciler]
  exact room_counted LivekitNodeRegistry.decUsers

theorem room_onParticipantJoined (other : c ≠ event.channelId) :
    (s.onParticipantJoined cfg env event).room c = s.room c := by
  have bound : ∀ binds : Bool, VoiceState.room { s with
      nodes := if binds then s.nodes.bindRoom event.channelId event.nodeId else s.nodes } c =
      s.room c := by
    intro binds
    cases binds with
    | false => rfl
    | true => simp [room, LivekitNodeRegistry.lookup_bindRoom other]
  exact (room_counted LivekitNodeRegistry.incUsers).trans
    ((room_handleParticipantJoined other).trans (bound _))

/-- Between the two states the user is handed no key of the channel. -/
def Unhanded (s s' : VoiceState) (user : UserId) (channel : ChannelId) : Prop :=
  ∃ new, s'.deliveries = new ++ s.deliveries ∧
    ∀ given ∈ new, given.user = user → given.channel ≠ channel

theorem Unhanded.trans (first : Unhanded s t user channel) (second : Unhanded t s' user channel) :
    Unhanded s s' user channel := by
  obtain ⟨earlier, before, none⟩ := first
  obtain ⟨later, after, none'⟩ := second
  refine ⟨later ++ earlier, by rw [after, before, List.append_assoc], fun given listed => ?_⟩
  grind

theorem Becomes.unhanded {joins : List Admission} (becomes : Becomes s s' r joins)
    (out : s'.sessions.userChannel user ≠ some channel) : Unhanded s s' user channel := by
  obtain ⟨new, added, addressed⟩ := becomes.deliveries
  refine ⟨new, added, fun given listed mine here => out ?_⟩
  obtain ⟨owner, seated, -⟩ := addressed given listed
  rw [mine, here, ← becomes.roster] at seated
  exact userChannel_eq_some.mpr ⟨owner, seated⟩

/-- **The old leave.**  Heard while the intent is alive, it takes the user out of the
old channel, closes or rekeys that, and is noted in the intent. -/
theorem left_relocks (rng : cfg.DrawsKeys) (awaits : s.Awaits user doc deadline)
    (left : IsOldLeave user doc event) (up : env.redis.Up) (alive : env.redis.now < deadline) :
    Becomes s (s.onParticipantLeft cfg env event) (rosterAfterLeave env s event (some doc)) [] ∧
      Relocked cfg s.keyDraws (s.onParticipantLeft cfg env event) doc.fromChannel := by
  have switch : s.switchOf env event = some doc := by rw [awaits.switchOf up left, if_pos alive]
  have applied : Becomes s (s.handleParticipantLeft cfg env event)
      (rosterAfterLeave env s event (s.switchOf env event)) [] :=
    handleParticipantLeft_applied (.inr (by rw [switch]; rfl))
  rw [switch] at applied
  refine ⟨⟨applied.roster, applied.admissions, applied.nonceDraws, applied.deliveries⟩, ?_⟩
  have relocked : Relocked cfg s.keyDraws (s.handleParticipantLeft cfg env event) event.channelId :=
    handleParticipantLeft_relocks rng (by rw [switch]; rfl)
  rw [← left.channelId]
  exact relocked.congr rfl room_onParticipantLeft

/-- **The new join.**  Heard while the intent is alive, it seats the user in the new
channel and is noted in the intent. -/
theorem joined_lands (cfg : Config) (awaits : s.Awaits user doc deadline)
    (joined : IsNewJoin user doc event) (up : env.redis.Up) (alive : env.redis.now < deadline) :
    ∃ joins, Becomes s (s.onParticipantJoined cfg env event) (rosterAfterJoin env s event doc) joins ∧
      (s.onParticipantJoined cfg env event).keyDraws = s.keyDraws := by
  set bound : VoiceState := { s with
    nodes := if event.nodeId ≠ "" && s.currentNodeId event = "" then
      s.nodes.bindRoom event.channelId event.nodeId else s.nodes }
  have correlated : bound.correlatedIntent env event = some doc := by
    have : s.correlatedIntent env event = some doc := by
      rw [awaits.correlatedIntent up joined, if_pos alive]
    exact this
  have admitted : Becomes bound (bound.handleParticipantJoined cfg env event)
      (rosterAfterJoin env bound event doc) [bound.admissionOf event] :=
    handleParticipantJoined_admitted correlated
  refine ⟨_, ⟨admitted.roster, admitted.admissions, admitted.nonceDraws, admitted.deliveries⟩, ?_⟩
  change (bound.handleParticipantJoined cfg env event).keyDraws = bound.keyDraws
  rw [handleParticipantJoined_eq correlated]
  rfl

/-- A join heard too late, or not at all, leaves the seats alone. -/
theorem joined_expires (cfg : Config) (awaits : s.Awaits user doc deadline)
    (joined : IsNewJoin user doc event) (up : env.redis.Up) (expired : ¬ env.redis.now < deadline) :
    Quiet s (s.onParticipantJoined cfg env event) := by
  set bound : VoiceState := { s with
    nodes := if event.nodeId ≠ "" && s.currentNodeId event = "" then
      s.nodes.bindRoom event.channelId event.nodeId else s.nodes }
  have uncorrelated : bound.correlatedIntent env event = none := by
    have : s.correlatedIntent env event = none := by
      rw [awaits.correlatedIntent up joined, if_neg expired]
    exact this
  have rejected : Quiet bound (bound.handleParticipantJoined cfg env event) :=
    handleParticipantJoined_rejected uncorrelated
  exact ⟨rejected.roster, rejected.keys, rejected.keyDraws, rejected.nonceDraws, rejected.deliveries,
    rejected.admissions⟩

/-! ## Both halves -/

/-- A user tracked in the old channel holds a token for the new one, and neither
event of the switch has been heard. -/
structure Switching (s : VoiceState) (user : UserId) (intent : PendingJoinIntent) (deadline : Nat) :
    Prop extends Awaits s user intent deadline where
  tracked : s.sessions.userChannel user = some intent.fromChannel
  unleft : intent.oldLeaveSeen = false
  unjoined : intent.newJoinSeen = false

/-- The switch is done: the user is in the new channel only, the old one is closed
or has a key drawn since and not handed to the user, and no intent is pending. -/
structure Settled (cfg : Config) (env : Env) (s s' : VoiceState) (user : UserId)
    (intent : PendingJoinIntent) : Prop where
  tracked : ∀ c, user ∈ s'.sessions.usersInChannel c ↔ c = intent.toChannel
  relocked : Relocked cfg s.keyDraws s' intent.fromChannel
  unhanded : Unhanded s s' user intent.fromChannel
  pending : s'.pendingIntents.live env.redis.now user = none

theorem tracked_only {m : VoiceSessionManager} :
    (∀ c, user ∈ m.usersInChannel c ↔ c = channel) ↔ m.userChannel user = some channel := by
  simp only [VoiceSessionManager.mem_usersInChannel]
  grind

theorem pendingIntents_left_of_noSwitch (noSwitch : s.switchOf env event = none) :
    (s.handleParticipantLeft cfg env event).pendingIntents = s.pendingIntents := by
  cases applies : s.appliesLeave env event with
  | true =>
    have applied : Becomes s (s.handleParticipantLeft cfg env event)
        (rosterAfterLeave env s event (s.switchOf env event)) [] :=
      handleParticipantLeft_applied (.inl applies)
    rw [noSwitch] at applied
    exact applied.pendingIntents
  | false =>
    rw [handleParticipantLeft_ignored applies noSwitch]
    rfl

/-- A leave seats nobody. -/
theorem left_seats_nobody (elsewhere : s.sessions.userChannel user ≠ some channel) :
    (s.handleParticipantLeft cfg env event).sessions.userChannel user ≠ some channel := by
  grind [userChannel_eq_some, left_seats]

section FirstEvent

/-- The old leave came first, and was noted or not. -/
structure AfterLeft (cfg : Config) (s t : VoiceState) (user : UserId) (intent : PendingJoinIntent)
    (deadline : Nat) (noted : Bool) : Prop where
  awaits : t.Awaits user { intent with oldLeaveSeen := noted } deadline
  notYet : t.sessions.userChannel user ≠ some intent.toChannel
  out : noted = true → t.sessions.userChannel user ≠ some intent.fromChannel
  relocked : noted = true → Relocked cfg s.keyDraws t intent.fromChannel
  unhanded : noted = true → Unhanded s t user intent.fromChannel

/-- The new join came first, and was noted or not. -/
structure AfterJoined (s t : VoiceState) (user : UserId) (intent : PendingJoinIntent)
    (deadline : Nat) (noted : Bool) : Prop where
  awaits : t.Awaits user { intent with newJoinSeen := noted } deadline
  landed : noted = true → t.sessions.userChannel user = some intent.toChannel
  notYet : noted = false → t.sessions.userChannel user ≠ some intent.toChannel
  room : t.room intent.fromChannel = s.room intent.fromChannel
  keyDraws : t.keyDraws = s.keyDraws
  unhanded : Unhanded s t user intent.fromChannel

variable (rng : cfg.DrawsKeys) (switching : s.Switching user intent deadline) (up : env.redis.Up)

include switching

theorem Switching.elsewhere : s.sessions.userChannel user ≠ some intent.toChannel := by
  rw [switching.tracked]
  exact fun same => switching.differs (Option.some.inj same)

theorem Switching.received (cfg : Config) (env : Env) (event : LiveKitEvent) :
    (s.received cfg env event).Switching user intent deadline :=
  ⟨switching.toAwaits.received cfg env event, switching.tracked, switching.unleft,
    switching.unjoined⟩

include up rng in
theorem left_noted (left : IsOldLeave user intent event) (alive : env.redis.now < deadline) :
    AfterLeft cfg s (s.onParticipantLeft cfg env event) user intent deadline true := by
  obtain ⟨becomes, relocked⟩ := left_relocks rng switching.toAwaits left up alive
  have pending : (s.onParticipantLeft cfg env event).pendingIntents =
      s.pendingIntents.put user { intent with oldLeaveSeen := true } (some deadline) := by
    refine becomes.pendingIntents.trans ?_
    simp only [rosterAfterLeave, settleOldLeave, switching.unjoined, left.userId]
    exact switching.toAwaits.update up alive switching.hasFrom
  have seats : (s.onParticipantLeft cfg env event).sessions =
      (s.sessions.leave event.channelId event.userId).2 := becomes.sessions
  have out : (s.onParticipantLeft cfg env event).sessions.userChannel user = none := by
    rw [seats, userChannel_leave, left.userId, left.channelId,
      if_pos ⟨rfl, switching.tracked⟩]
  have nowhere : ∀ c, (s.onParticipantLeft cfg env event).sessions.userChannel user ≠ some c := by
    simp [out]
  refine ⟨⟨?_, switching.hasFrom, switching.differs, switching.nonce⟩, nowhere _, fun _ => nowhere _,
    fun _ => relocked, fun _ => becomes.unhanded (nowhere _)⟩
  rw [pending, Store.put, Map.lookup_insert_if, if_pos rfl]

omit switching in
theorem AfterLeft.of_unnoted (switching : s.Switching user intent deadline)
    (pending : t.pendingIntents = s.pendingIntents)
    (notYet : t.sessions.userChannel user ≠ some intent.toChannel) :
    AfterLeft cfg s t user intent deadline false := by
  refine ⟨⟨?_, switching.hasFrom, switching.differs, switching.nonce⟩, notYet, ?_, ?_, ?_⟩
  · rw [pending, switching.stored, ← switching.unleft]
  all_goals exact fun noted => nomatch noted

include up in
theorem joined_noted (cfg : Config) (joined : IsNewJoin user intent event)
    (alive : env.redis.now < deadline) :
    AfterJoined s (s.onParticipantJoined cfg env event) user intent deadline true := by
  obtain ⟨joins, becomes, keyDraws⟩ := joined_lands cfg switching.toAwaits joined up alive
  have found : s.pendingIntents.read env.redis user = some intent := by
    rw [switching.toAwaits.read up, if_pos alive]
  have pending : (s.onParticipantJoined cfg env event).pendingIntents =
      s.pendingIntents.put user { intent with newJoinSeen := true } (some deadline) := by
    refine becomes.pendingIntents.trans ?_
    simp only [rosterAfterJoin, joined.userId, found, Option.isSome_some, if_true, settleJoin,
      switching.toAwaits.isSwitch, switching.unleft]
    exact switching.toAwaits.update up alive switching.hasFrom
  have landed : (s.onParticipantJoined cfg env event).sessions.userChannel user =
      some intent.toChannel := by
    rw [becomes.sessions]
    refine userChannel_eq_some.mpr ⟨intent.sessionId, ?_⟩
    refine voiceState_seat.trans ?_
    rw [if_pos joined.userId.symm, joined.channelId]
  refine ⟨⟨?_, switching.hasFrom, switching.differs, switching.nonce⟩, fun _ => landed, ?_, ?_,
    keyDraws, ?_⟩
  · rw [pending, Store.put, Map.lookup_insert_if, if_pos rfl]
  · rintro ⟨⟩
  · exact room_onParticipantJoined (joined.channelId ▸ switching.differs)
  · exact becomes.unhanded (switching.apart landed)

omit switching in
theorem AfterJoined.of_unnoted (switching : s.Switching user intent deadline) (quiet : Quiet s t)
    (room : t.room intent.fromChannel = s.room intent.fromChannel) :
    AfterJoined s t user intent deadline false := by
  refine ⟨⟨?_, switching.hasFrom, switching.differs, switching.nonce⟩, ?_, ?_, room, quiet.keyDraws,
    [], quiet.deliveries, by simp⟩
  · rw [quiet.pendingIntents, switching.stored, ← switching.unjoined]
  · exact fun noted => nomatch noted
  · rw [quiet.sessions]
    exact fun _ => switching.elsewhere

include rng up in
theorem left_first (left : IsOldLeave user intent event) (fresh : NotSeen env s event) :
    ∃ noted : Bool,
      (noted = true ↔
        InTime user (s.lastEventTs user) event.timestampMs ∧ env.redis.now < deadline) ∧
      AfterLeft cfg s (s.onLivekitEvent cfg env event) user intent deadline noted ∧
      (s.onLivekitEvent cfg env event).filters = (s.received cfg env event).filters := by
  have switching' := switching.received cfg env event
  rw [onLivekitEvent_participant left.isParticipant fresh.not_redelivered, left.userId, left.dispatch]
  by_cases timely : InTime user (s.lastEventTs user) event.timestampMs
  · rw [if_pos timely]
    by_cases alive : env.redis.now < deadline
    · obtain ⟨awaits, notYet, out, relocked, unhanded⟩ := left_noted rng switching' up left alive
      exact ⟨true, by simp [timely, alive], ⟨awaits, notYet, out, relocked, unhanded⟩,
        filters_handleParticipantLeft⟩
    · refine ⟨false, by simp [alive], ?_, filters_handleParticipantLeft⟩
      refine AfterLeft.of_unnoted switching ?_ (left_seats_nobody switching'.elsewhere)
      refine (pendingIntents_left_of_noSwitch ?_).trans rfl
      rw [switching'.toAwaits.switchOf up left, if_neg alive]
  · rw [if_neg timely]
    exact ⟨false, by simp [timely], .of_unnoted switching rfl switching.elsewhere, rfl⟩

include up in
theorem joined_first (cfg : Config) (joined : IsNewJoin user intent event)
    (fresh : NotSeen env s event) :
    ∃ noted : Bool,
      (noted = true ↔
        InTime user (s.lastEventTs user) event.timestampMs ∧ env.redis.now < deadline) ∧
      AfterJoined s (s.onLivekitEvent cfg env event) user intent deadline noted ∧
      (s.onLivekitEvent cfg env event).filters = (s.received cfg env event).filters := by
  have switching' := switching.received cfg env event
  rw [onLivekitEvent_participant joined.isParticipant fresh.not_redelivered, joined.userId,
    joined.dispatch]
  by_cases timely : InTime user (s.lastEventTs user) event.timestampMs
  · rw [if_pos timely]
    by_cases alive : env.redis.now < deadline
    · obtain ⟨awaits, landed, notYet, room, keyDraws, unhanded⟩ :=
        joined_noted switching' up cfg joined alive
      exact ⟨true, by simp [timely, alive], ⟨awaits, landed, notYet, room, keyDraws, unhanded⟩,
        filters_handleParticipantJoined⟩
    · refine ⟨false, by simp [alive], ?_, filters_handleParticipantJoined⟩
      have quiet : Quiet (s.received cfg env event) _ :=
        joined_expires cfg switching'.toAwaits joined up alive
      exact .of_unnoted switching
        ⟨quiet.roster, quiet.keys, quiet.keyDraws, quiet.nonceDraws, quiet.deliveries,
          quiet.admissions⟩
        (room_onParticipantJoined (joined.channelId ▸ switching.differs))
  · rw [if_neg timely]
    exact ⟨false, by simp [timely], .of_unnoted switching ⟨rfl, rfl, rfl, Nat.le_refl _, rfl, rfl⟩ rfl,
      rfl⟩

end FirstEvent

section SecondEvent

variable {noted : Bool} (up : env.redis.Up)

include up

theorem live_clear : (s.pendingIntents.clear env.redis user).live env.redis.now user = none := by
  rw [PendingJoinIntentStore.clear, Link.del_up up, Store.live_erase, if_pos rfl]

/-- The new join comes second: it settles the switch exactly if the leave was noted
and the join is heard in time. -/
theorem joined_second (after : AfterLeft cfg s t user intent deadline noted)
    (joined : IsNewJoin user intent event) (fresh : NotSeen env t event) :
    Settled cfg env s (t.onLivekitEvent cfg env event) user intent ↔
      noted = true ∧ InTime user (t.lastEventTs user) event.timestampMs ∧
        env.redis.now < deadline := by
  set doc : PendingJoinIntent := { intent with oldLeaveSeen := noted }
  have heard : AfterLeft cfg s (t.received cfg env event) user intent deadline noted :=
    ⟨after.awaits.received cfg env event, after.notYet, after.out, after.relocked, after.unhanded⟩
  have joined' : IsNewJoin user doc event :=
    ⟨joined.type, joined.userId, joined.channelId, joined.appSessionId, joined.intentNonce⟩
  rw [onLivekitEvent_participant joined.isParticipant fresh.not_redelivered, joined.userId,
    joined.dispatch]
  by_cases timely : InTime user (t.lastEventTs user) event.timestampMs
  · rw [if_pos timely]
    generalize t.received cfg env event = t at heard
    have awaits : t.Awaits user doc deadline := heard.awaits
    by_cases alive : env.redis.now < deadline
    · obtain ⟨joins, becomes, -⟩ := joined_lands cfg awaits joined' up alive
      have pending : (t.onParticipantJoined cfg env event).pendingIntents =
          settleJoin env t.pendingIntents user doc := by
        refine becomes.pendingIntents.trans ?_
        simp [rosterAfterJoin, joined.userId, awaits.read up, alive]
      have seats : ∀ v, (t.onParticipantJoined cfg env event).sessions.userChannel v =
          if v = user then some intent.toChannel else t.sessions.userChannel v := by
        intro v
        rw [becomes.sessions, VoiceSessionManager.userChannel]
        simp only [rosterAfterJoin, voiceState_seat, joined.userId, joined.channelId]
        split <;> rfl
      have landed := (seats user).trans (if_pos rfl)
      cases noted with
      | true =>
        refine ⟨fun _ => ⟨rfl, timely, alive⟩, fun _ => ?_⟩
        refine ⟨tracked_only.mpr landed, ?_, ?_, ?_⟩
        · refine (heard.relocked rfl).congr (isEmpty_congr fun v => ?_)
            (room_onParticipantJoined (joined.channelId ▸ awaits.differs))
          rw [seats]
          split
          · rename_i mine
            subst mine
            simp [heard.out rfl]
            exact fun same => awaits.differs same.symm
          · rfl
        · exact (heard.unhanded rfl).trans (becomes.unhanded (awaits.apart landed))
        · rw [pending, settleJoin, if_neg (by simp)]
          exact live_clear up
      | false =>
        refine ⟨fun settled => ?_, fun all => absurd all.1 (by simp)⟩
        have gone := settled.pending
        rw [pending, settleJoin, if_pos ⟨awaits.isSwitch, by simp⟩,
          awaits.update up alive (show PendingJoinIntent.hasFromChannel { doc with
            newJoinSeen := true } = true from awaits.hasFrom),
          Store.live_put, if_pos rfl, if_pos (by simpa [Entry.alive] using alive)] at gone
        cases gone
    · have quiet : Quiet t _ := joined_expires cfg awaits joined' up alive
      refine ⟨fun settled => ?_, fun all => absurd all.2.2 alive⟩
      have here := tracked_only.mp settled.tracked
      rw [quiet.sessions] at here
      exact absurd here heard.notYet
  · rw [if_neg timely]
    refine ⟨fun settled => ?_, fun all => absurd all.2.1 timely⟩
    exact absurd (tracked_only.mp settled.tracked) after.notYet

/-- The old leave comes second: it settles the switch if the join was noted and the
leave is heard in time.  Otherwise the old channel keeps the key it had. -/
theorem left_second (rng : cfg.DrawsKeys) (after : AfterJoined s t user intent deadline noted)
    (left : IsOldLeave user intent event) (fresh : NotSeen env t event) :
    (noted = true ∧ InTime user (t.lastEventTs user) event.timestampMs ∧ env.redis.now < deadline ∧
        Settled cfg env s (t.onLivekitEvent cfg env event) user intent) ∨
      (¬ (noted = true ∧ InTime user (t.lastEventTs user) event.timestampMs ∧
          env.redis.now < deadline) ∧
        ((t.onLivekitEvent cfg env event).sessions.userChannel user ≠ some intent.toChannel ∨
          (t.onLivekitEvent cfg env event).room intent.fromChannel = s.room intent.fromChannel)) := by
  set doc : PendingJoinIntent := { intent with newJoinSeen := noted }
  have heard : AfterJoined s (t.received cfg env event) user intent deadline noted :=
    ⟨after.awaits.received cfg env event, after.landed, after.notYet, after.room, after.keyDraws,
      after.unhanded⟩
  have left' : IsOldLeave user doc event := ⟨left.type, left.userId, left.channelId⟩
  rw [onLivekitEvent_participant left.isParticipant fresh.not_redelivered, left.userId, left.dispatch]
  by_cases timely : InTime user (t.lastEventTs user) event.timestampMs
  · rw [if_pos timely]
    generalize t.received cfg env event = t at heard
    have awaits : t.Awaits user doc deadline := heard.awaits
    cases noted with
    | false =>
      exact .inr ⟨fun all => absurd all.1 (by simp), .inl (left_seats_nobody (heard.notYet rfl))⟩
    | true =>
      have landed := heard.landed rfl
      by_cases alive : env.redis.now < deadline
      · left
        obtain ⟨becomes, relocked⟩ := left_relocks rng awaits left' up alive
        have stays : (t.onParticipantLeft cfg env event).sessions.userChannel user =
            some intent.toChannel := by
          rw [becomes.sessions]
          simp only [rosterAfterLeave, left.userId, left.channelId]
          rw [userChannel_leave, if_neg, landed]
          exact fun both => awaits.apart landed both.2
        refine ⟨rfl, timely, alive, tracked_only.mpr stays, heard.keyDraws ▸ relocked,
          heard.unhanded.trans (becomes.unhanded (awaits.apart stays)), ?_⟩
        rw [becomes.pendingIntents]
        simp [rosterAfterLeave, left.userId]
        exact live_clear up
      · refine .inr ⟨fun all => alive all.2.2, .inr ?_⟩
        have noSwitch : t.switchOf env event = none := by
          rw [awaits.switchOf up left', if_neg alive]
        have misfit : t.appliesLeave env event = false := by
          simp only [appliesLeave, leavingCurrentVoice, left.userId, left.channelId, landed]
          simp [Ne.symm after.awaits.differs]
        rw [room_onParticipantLeft, handleParticipantLeft_ignored misfit noSwitch]
        exact heard.room
  · rw [if_neg timely]
    exact .inr ⟨fun all => timely all.2.1, .inr after.room⟩

end SecondEvent

theorem NotSeen.of_filters (same : t.filters = s.filters) (fresh : NotSeen env s event) :
    NotSeen env t event := by
  have seen : t.webhookSeen = s.webhookSeen := congrArg Prod.fst same
  unfold NotSeen
  rw [seen]
  exact fresh

theorem lastEventTs_of_filters (same : t.filters = s.filters) (user : UserId) :
    t.lastEventTs user = s.lastEventTs user := by
  have newest : t.userLastEventTsMs = s.userLastEventTsMs := congrArg Prod.snd same
  unfold lastEventTs
  rw [newest]

/-- The channel has a key, and not one that is still to be drawn. -/
def KeyedBefore (cfg : Config) (s : VoiceState) (channel : ChannelId) : Prop :=
  ∃ key, (s.room channel).key = some key ∧ ∀ n, s.keyDraws ≤ n → cfg.generateKey n ≠ some key.key

/-- A channel that keeps the key it had has not been relocked. -/
theorem KeyedBefore.not_relocked (keyed : KeyedBefore cfg s channel)
    (same : s'.room channel = s.room channel) : ¬ Relocked cfg s.keyDraws s' channel := by
  obtain ⟨key, current, old⟩ := keyed
  rintro ⟨closed, rekeyed⟩
  cases empty : s'.sessions.isEmpty channel with
  | true | false =>
    grind

end VoiceState

/-! ## Ada moves from the lounge to the studio -/

namespace Moving

open VoiceState Sample

/-- Ada is tracked in the lounge and holds a token for the studio. -/
def asked : VoiceState := run (step cfg) start (adaIn ++ [ask (env 2) ada studio])

def intent : PendingJoinIntent where
  sessionId := 1
  intentNonce := "nnn"
  toChannel := studio
  fromChannel := lounge
  hasFromChannel := true
  expiresAtUnix := 1612

def leftLounge (timestampMs : Nat) : LiveKitEvent where
  type := .participantLeft
  channelId := lounge
  userId := ada
  appSessionId := 1
  intentNonce := "n"
  timestampMs := timestampMs

def joinedStudio (timestampMs : Nat) : LiveKitEvent where
  type := .participantJoined
  channelId := studio
  userId := ada
  appSessionId := 1
  intentNonce := "nnn"
  timestampMs := timestampMs

end Moving

end Kergit
